import DocWeave.Path.Resolve
import DocWeave.Proofs.Path.Normal
import DocWeave.Proofs.Text.Pieces

/-! # What path literals stand for

What follows the root mark in a literal is joined to the project root. If it has no parent step, that
extends the root by its segments, except where it begins with a slash: then it is a path from
elsewhere, and the root does not count.
-/

namespace DocWeave.Path

variable {p q root current : Path} {rootMark literal rest text : Text} {more : List Text}

/-! ## Joining below a path -/

/-- A segment is a name unless it is empty or a single dot. -/
theorem filter_isName_splitOn (text : Text) :
    (text.splitOn '/').filter isName = (text.splitOn '/').filter fun s => s ≠ [] ∧ s ≠ ['.'] := by
  apply List.filter_congr
  intro s mem
  rw [Bool.eq_iff_iff]
  simp [isName, Text.not_mem_of_mem_splitOn mem]

/-- Names without parent steps are still there when the path that they extend is collapsed. -/
theorem collapse_extend (stepless : parentStep ∉ more) :
    (p.extend more).collapse = p.collapse.extend more := by
  have kept : parentStep ∉ more.filter isName := fun mem => stepless (List.mem_filter.1 mem).1
  apply ext_names
  · rfl
  · have anchored : (p.extend more).isAbsolute = p.isAbsolute := rfl
    simp only [collapse, names_extend, anchored, List.foldl_append]
    rw [foldl_climb_of_stepless _ kept, List.reverse_append, List.reverse_reverse]

theorem normalize_extend (stepless : parentStep ∉ more) :
    (p.extend more).normalize = p.normalize.extend more := by
  rw [normalize, normalizeFrom, root_join_extend, collapse_extend stepless]
  rfl

/-- Joining a relative path without parent steps extends the normal path by its names. -/
theorem normalize_join_of_relative (relative : q.isAbsolute = false)
    (stepless : parentStep ∉ q.names) : (p.join q).normalize = p.normalize.extend q.names := by
  rw [join, relative, if_neg Bool.false_ne_true, normalize_extend stepless]

/-- An absolute path stays what it is, whatever it is joined to. -/
theorem normalize_join_of_absolute (absolute : q.isAbsolute = true)
    (stepless : parentStep ∉ q.names) : (p.join q).normalize = q := by
  rw [join, if_pos absolute, normalize_of_stepless absolute stepless]

theorem isAbove_extend (p : Path) (more : List Text) : p.isAbove (p.extend more) = true := by
  simp [isAbove, List.isPrefixOf_iff_prefix]

theorem isAbsolute_ofText (text : Text) : (ofText text).isAbsolute = (text.head? == some '/') := by
  show (Anchor.ofText text != .relative) = _
  unfold Anchor.ofText
  split
  · rfl
  · rfl
  · rfl
  · rename_i other
    cases text with
    | nil => rfl
    | cons c text =>
      have plain : c ≠ '/' := by
        rintro rfl
        exact other text rfl
      simp [plain]

/-- A text without parent steps is joined to a path by its segments, unless it begins with a slash. -/
theorem normalize_join_ofText (p : Path) (stepless : parentStep ∉ text.splitOn '/') :
    (p.join (ofText text)).normalize =
      if text.head? = some '/' then ofText text else p.normalize.extend (ofText text).names := by
  have kept : parentStep ∉ (ofText text).names := fun mem => stepless (List.mem_filter.1 mem).1
  split
  · rename_i slashed
    exact normalize_join_of_absolute (by rw [isAbsolute_ofText, slashed]; rfl) kept
  · rename_i plain
    exact normalize_join_of_relative (by rw [isAbsolute_ofText]; exact beq_false_of_ne plain) kept

/-- What a text spells by itself has its segments below its own anchor and below no other path. -/
theorem ofText_eq_extend_iff :
    ofText text = p.extend (ofText text).names ↔ p = ofAnchor (.ofText text) := by
  constructor
  · intro same
    have lengths := congrArg (fun path => path.names.length) same
    simp only [names_extend, filter_isName_names, List.length_append] at lengths
    have nothing : p.names = [] := List.eq_nil_of_length_eq_zero (by omega)
    exact ext_names (congrArg anchor same).symm nothing
  · rintro rfl
    apply ext_names
    · rfl
    · rw [names_extend, filter_isName_names]
      rfl

/-! ## Literals -/

theorem afterRootMark?_eq_none_iff :
    afterRootMark? rootMark literal = none ↔ ¬ rootMark <+: literal := by
  rw [afterRootMark?, ← List.isPrefixOf_iff_prefix]
  split <;> simp_all

/-- A literal that does not depend on where it stands, or stands below the root, is the same for a
directive and for a request. -/
theorem resolveInclude_eq_resolveRequest
    (based : (ofText literal).isAbsolute = true ∨ rootMark <+: literal ∨ current.parent = root) :
    resolveInclude rootMark literal root current = resolveRequest rootMark literal root := by
  rw [resolveInclude, resolveRequest]
  by_cases absolute : (ofText literal).isAbsolute = true
  · rw [if_pos absolute, if_pos absolute]
  · rw [if_neg absolute, if_neg absolute]
    cases marked : afterRootMark? rootMark literal with
    | some rest => rfl
    | none =>
      have unmarked := afterRootMark?_eq_none_iff.1 marked
      rw [(based.resolve_left absolute).resolve_left unmarked]
      rfl

/-- What follows the mark is joined to the root. -/
theorem resolveRequest_marked (rest : Text) (root : Path) :
    resolveRequest "@/" (("@/" : Text) ++ rest) root = (root.join (ofText rest)).normalize := by
  have relative : (ofText (("@/" : Text) ++ rest)).isAbsolute = false := by
    rw [isAbsolute_ofText]
    rfl
  rw [resolveRequest, relative, if_neg Bool.false_ne_true]
  rfl

/-- Behind the root mark, a rest without parent steps means for directives and for requests alike the
path below the root that has its segments, unless the rest begins with a slash: then it means the path
that it spells by itself, and that is the one below the root only for a root without names. -/
theorem resolve_marked (root current : Path) (rest : Text)
    (stepless : parentStep ∉ rest.splitOn '/') :
    let literal := ("@/" : Text) ++ rest
    let segments := (rest.splitOn '/').filter fun s => s ≠ [] ∧ s ≠ ['.']
    let inner := root.normalize.extend segments
    resolveInclude "@/" literal root current = resolveRequest "@/" literal root ∧
    (inner.names = root.normalize.names ++ segments ∧ root.normalize.isAbove inner = true) ∧
    resolveRequest "@/" literal root = (if rest.head? = some '/' then ofText rest else inner) ∧
    (resolveRequest "@/" literal root = inner ↔
      rest.head? ≠ some '/' ∨ root.normalize = ofAnchor (.ofText rest)) := by
  intro literal segments inner
  have named : (ofText rest).names = segments := filter_isName_splitOn rest
  have value : resolveRequest "@/" literal root =
      if rest.head? = some '/' then ofText rest else inner := by
    rw [resolveRequest_marked, normalize_join_ofText root stepless, named]
  refine ⟨resolveInclude_eq_resolveRequest (.inr (.inl (List.prefix_append ..))),
    ⟨?_, isAbove_extend ..⟩, value, ?_⟩
  · rw [names_extend, ← named, filter_isName_names]
  · rw [value]
    by_cases slashed : rest.head? = some '/'
    · rw [if_pos slashed, or_iff_right (not_not_intro slashed), ← ofText_eq_extend_iff, named]
    · rw [if_neg slashed]
      exact ⟨fun _ => .inl slashed, fun _ => rfl⟩

/-- A rest with empty segments and single dots stays below a root that is spelled with a parent
step. -/
theorem resolve_marked_dotted :
    let root : Path := .ofText "/work/../proj"
    let rest : Text := "./a//b.md/"
    parentStep ∉ rest.splitOn '/' ∧
      resolveInclude "@/" "@/./a//b.md/" root (.ofText "/proj/docs/c.md") =
        .ofText "/proj/a/b.md" := by
  intro root rest
  have stepless : parentStep ∉ rest.splitOn '/' := by decide +kernel
  obtain ⟨same, -, value, -⟩ := resolve_marked root (.ofText "/proj/docs/c.md") rest stepless
  refine ⟨stepless, (same.trans value).trans ?_⟩
  decide +kernel

/-- A second slash leads out of the root. -/
theorem resolve_marked_slashed :
    let root : Path := .ofText "/proj"
    resolveInclude "@/" "@//x" root (.ofText "/proj/a.md") = .ofText "/x" ∧
      resolveRequest "@/" "@//x" root = .ofText "/x" ∧
      root.normalize.extend ["x"] = .ofText "/proj/x" ∧
      root.normalize.isAbove (.ofText "/x") = false := by
  decide +kernel

end DocWeave.Path
