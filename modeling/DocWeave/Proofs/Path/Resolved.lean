import DocWeave.Proofs.Path.Literal
import DocWeave.Proofs.Path.Spelling

/-! # What a literal is taken from

A directive and a request take a literal from the same place, unless it is a bare relative one: then a
directive takes it from the directory of its document, and a request from the project root. What
either of them gives is settled: it is absolute, and its spelling stands for it everywhere.
-/

namespace DocWeave.Path

variable {p root current : Path} {rootMark literal : Text}

/-- A literal that means the same in every document: an absolute one, or one behind the root mark. -/
def IsAnchored (rootMark literal : Text) : Prop :=
  (ofText literal).isAbsolute = true ∨ rootMark <+: literal

/-- A path whose spelling, as a literal, stands for the path itself wherever it is resolved. -/
def IsSettled (p : Path) : Prop :=
  ∀ (rootMark : Text) (root current : Path),
    resolveInclude rootMark p.toText root current = p ∧ resolveRequest rootMark p.toText root = p

/-! ## Where a bare literal is taken from -/

theorem resolveRequest_of_bare (bare : ¬ IsAnchored rootMark literal) (root : Path) :
    resolveRequest rootMark literal root = (root.join (ofText literal)).normalize := by
  obtain ⟨relative, unmarked⟩ := not_or.1 bare
  rw [resolveRequest, if_neg relative, afterRootMark?_eq_none_iff.2 unmarked]
  rfl

/-- A bare literal in a document is a request from the directory of the document. -/
theorem resolveInclude_of_bare (bare : ¬ IsAnchored rootMark literal) (root current : Path) :
    resolveInclude rootMark literal root current =
      resolveRequest rootMark literal current.parent := by
  obtain ⟨relative, unmarked⟩ := not_or.1 bare
  rw [resolveRequest_of_bare bare, resolveInclude, if_neg relative,
    afterRootMark?_eq_none_iff.2 unmarked]

/-- The place that a literal in a document is taken from, as a place to request it from. -/
theorem exists_resolveInclude_eq (rootMark literal : Text) (root current : Path) :
    ∃ base, resolveInclude rootMark literal root current = resolveRequest rootMark literal base := by
  by_cases anchored : IsAnchored rootMark literal
  · exact ⟨root, resolveInclude_eq_resolveRequest (anchored.imp_right .inl)⟩
  · exact ⟨current.parent, resolveInclude_of_bare anchored root current⟩

/-! ## What is resolved -/

/-- An absolute literal is read as it stands, and everything else is normalized. -/
theorem resolveRequest_cases (rootMark literal : Text) (root : Path) :
    ((ofText literal).isAbsolute = true ∧ resolveRequest rootMark literal root = ofText literal) ∨
      ∃ path : Path, resolveRequest rootMark literal root = path.normalize := by
  rw [resolveRequest]
  split
  · rename_i absolute
    exact .inl ⟨absolute, rfl⟩
  · exact .inr ⟨_, rfl⟩

theorem isAbsolute_resolveRequest (rootMark literal : Text) (root : Path) :
    (resolveRequest rootMark literal root).isAbsolute = true := by
  rcases resolveRequest_cases rootMark literal root with ⟨absolute, same⟩ | ⟨path, same⟩
  · rwa [same]
  · rw [same]
    exact isAbsolute_normalize path

theorem normalize_resolveRequest (relative : (ofText literal).isAbsolute = false) :
    (resolveRequest rootMark literal root).normalize = resolveRequest rootMark literal root := by
  rcases resolveRequest_cases rootMark literal root with ⟨absolute, -⟩ | ⟨path, same⟩
  · rw [relative] at absolute
    cases absolute
  · rw [same, normalize_normalize]

/-- The absolute paths are the settled ones. -/
theorem isSettled_iff : p.IsSettled ↔ p.isAbsolute = true := by
  constructor
  · intro settled
    rw [← (settled [] p p).2]
    exact isAbsolute_resolveRequest [] p.toText p
  · intro absolute rootMark root current
    rw [resolveInclude, resolveRequest, ofText_toText]
    exact ⟨if_pos absolute, if_pos absolute⟩

/-- Directives and requests differ only in where a bare literal is taken from: for a directive that is
the directory of its document, whichever document it is and whatever the root. What they give is
absolute, normal unless the literal was absolute, and given back by its own spelling everywhere. -/
theorem resolve_base (rootMark literal : Text) (root current : Path) :
    (IsAnchored rootMark literal → ∀ other,
      resolveInclude rootMark literal root other = resolveRequest rootMark literal root) ∧
    (¬ IsAnchored rootMark literal → ∀ other,
      resolveInclude rootMark literal other current =
        resolveRequest rootMark literal current.parent ∧
      ∀ neighbour : Path, neighbour.parent = current.parent →
        resolveInclude rootMark literal other neighbour =
          resolveInclude rootMark literal root current) ∧
    ∀ path ∈ [resolveInclude rootMark literal root current, resolveRequest rootMark literal root],
      path.isAbsolute = true ∧ ((ofText literal).isAbsolute = true ∨ path.normalize = path) ∧
        path.IsSettled := by
  refine ⟨fun anchored _ => resolveInclude_eq_resolveRequest (anchored.imp_right .inl), ?_, ?_⟩
  · intro bare other
    refine ⟨resolveInclude_of_bare bare other current, fun neighbour beside => ?_⟩
    rw [resolveInclude_of_bare bare, resolveInclude_of_bare bare, beside]
  · intro path listed
    -- Both are requests, each from a place of its own.
    obtain ⟨base, rfl⟩ : ∃ base, path = resolveRequest rootMark literal base := by
      rcases List.mem_cons.1 listed with rfl | second
      · exact exists_resolveInclude_eq ..
      · exact ⟨root, List.mem_singleton.1 second⟩
    have absolute := isAbsolute_resolveRequest rootMark literal base
    refine ⟨absolute, ?_, isSettled_iff.2 absolute⟩
    by_cases whole : (ofText literal).isAbsolute = true
    · exact .inl whole
    · exact .inr (normalize_resolveRequest (Bool.eq_false_iff.2 whole))

/-- A bare literal that climbs above the root, in two documents of one directory. -/
theorem resolve_base_climbing :
    let literal : Text := "../../.././b//x.md"
    ¬ IsAnchored "@/" literal ∧
      resolveInclude "@/" literal (.ofText "/proj") (.ofText "/proj/docs/a.md") =
        resolveRequest "@/" literal (.ofText "/proj/docs") ∧
      resolveInclude "@/" literal (.ofText "/other") (.ofText "/proj/docs/c.md") =
        resolveInclude "@/" literal (.ofText "/proj") (.ofText "/proj/docs/a.md") ∧
      resolveRequest "@/" literal (.ofText "/proj/docs") = .ofText "/b/x.md" := by
  intro literal
  have bare : ¬ IsAnchored "@/" literal := by
    unfold IsAnchored
    decide +kernel
  obtain ⟨-, taken, -⟩ := resolve_base "@/" literal (.ofText "/proj") (.ofText "/proj/docs/a.md")
  refine ⟨bare, ?_, (taken bare _).2 _ (by decide +kernel), by decide +kernel⟩
  exact (taken bare _).1.trans (congrArg _ (by decide +kernel))

end DocWeave.Path
