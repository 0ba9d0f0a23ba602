import DocWeave.Proofs.Glob.Fixed
import DocWeave.Proofs.Path.Literal
import DocWeave.Proofs.Path.Spelling

/-! # A pattern and its two parts

A pattern is split into the directory that a search starts in and the rest that is matched there. The
directory takes the segments before the first one with a wildcard, never the last segment, and it is
normal. Joining the rest to it leads where the whole pattern leads: the parent steps of the rest cancel
the same names, whether those of the directory have been collapsed before or not.
-/

namespace DocWeave.Glob

variable {pattern segment first : Text} {segments more : List Text}

/-- A segment that holds a character with a meaning of its own. -/
def HoldsWildcard (segment : Text) : Prop := '*' ∈ segment ∨ '?' ∈ segment ∨ '[' ∈ segment

theorem isWild_iff : isWild segment = true ↔ HoldsWildcard segment := by
  simp only [isWild, List.any_eq_true, Bool.or_eq_true, beq_iff_eq, HoldsWildcard]
  constructor
  · rintro ⟨c, mem, (rfl | rfl) | rfl⟩
    · exact .inl mem
    · exact .inr (.inl mem)
    · exact .inr (.inr mem)
  · rintro (mem | mem | mem)
    · exact ⟨_, mem, .inl (.inl rfl)⟩
    · exact ⟨_, mem, .inl (.inr rfl)⟩
    · exact ⟨_, mem, .inr rfl⟩

/-! ## The segments behind the anchor -/

/-- The segments of a pattern behind the slashes of its anchor. -/
def behindAnchor (pattern : Text) : List Text :=
  Text.splitOn '/' (pattern.drop (Anchor.ofText pattern).toText.length)

theorem slash_not_mem_of_mem_behindAnchor (mem : segment ∈ behindAnchor pattern) : '/' ∉ segment :=
  Text.not_mem_of_mem_splitOn mem

/-- Before the segments behind the anchor, a pattern has only empty ones. -/
theorem splitOn_eq_append (pattern : Text) :
    pattern.splitOn '/' =
      List.replicate (Anchor.ofText pattern).toText.length [] ++ behindAnchor pattern := by
  rw [behindAnchor, ← Path.splitOn_toText_append, Anchor.toText_append_drop]

/-- A pattern spells the path of these segments below its anchor. -/
theorem ofText_eq_extend (pattern : Text) :
    Path.ofText pattern = (Path.ofAnchor (.ofText pattern)).extend (behindAnchor pattern) := by
  apply Path.ext_names
  · rfl
  · have cut := Path.filter_splitOn_toText_append (Anchor.ofText pattern)
      (pattern.drop (Anchor.ofText pattern).toText.length)
    rw [Anchor.toText_append_drop] at cut
    exact cut

/-- Where the whole of a pattern leads from a directory. -/
def target (pattern : Text) (base : Path) : Path :=
  if (Path.ofText pattern).isAbsolute then .ofText pattern else base.join (.ofText pattern)

/-- The directory whose segments below are those of the pattern: `base`, or the anchor of an absolute
pattern. -/
def origin (pattern : Text) (base : Path) : Path :=
  if Anchor.ofText pattern = .relative then base else .ofAnchor (.ofText pattern)

theorem target_eq_extend (pattern : Text) (base : Path) :
    target pattern base = (origin pattern base).extend (behindAnchor pattern) := by
  have anchored : (Path.ofText pattern).isAbsolute = (Anchor.ofText pattern != .relative) := rfl
  rw [target, origin, anchored]
  by_cases relative : Anchor.ofText pattern = .relative
  · have bare : (Path.ofText pattern).isAbsolute = false := by rw [anchored, relative]; rfl
    rw [if_pos relative, if_neg (by simp [relative]), Path.join, bare, if_neg Bool.false_ne_true,
      ofText_eq_extend, Path.names_extend]
    exact Path.extend_filter base (behindAnchor pattern)
  · rw [if_neg relative, if_pos (by simpa using relative), ofText_eq_extend]

/-! ## The cut -/

/-- The segments that name the directory, and those that are matched. -/
def cut (pattern : Text) : List Text × List Text := splitSegments (behindAnchor pattern)

theorem fst_split (pattern : Text) (base : Path) :
    (split pattern base).1 = ((origin pattern base).extend (cut pattern).1).normalize := by
  rw [cut, behindAnchor, Text.splitOn_eq]
  rfl

theorem snd_split (pattern : Text) (base : Path) :
    (split pattern base).2 = Text.join "/" (cut pattern).2 := by
  rw [cut, behindAnchor, Text.splitOn_eq]
  rfl

theorem cut_append (pattern : Text) : (cut pattern).1 ++ (cut pattern).2 = behindAnchor pattern :=
  splitSegments_append _

/-- The cut is made at the first segment with a wildcard, or else before the last segment. -/
theorem isWild_or_of_splitSegments (rest : (splitSegments segments).2 = first :: more) :
    isWild first = true ∨ more = [] := by
  fun_induction splitSegments segments with
  | case1 => cases rest
  | case2 last =>
    cases rest
    exact .inr rfl
  | case3 s rest behind magic =>
    cases rest
    exact .inl magic
  | case4 s rest behind plain fixed wild split ih =>
    rw [split] at ih
    exact ih rest

/-- What is left of a pattern: its first segment has a wildcard or is the only one. -/
theorem exists_cut_eq (pattern : Text) :
    ∃ first more, (cut pattern).2 = first :: more ∧ (isWild first = true ∨ more = []) ∧
      ∀ segment ∈ first :: more, '/' ∉ segment := by
  have listed : (cut pattern).2 ≠ [] := splitSegments_snd_ne_nil (Text.splitWhere_ne_nil _ _)
  obtain ⟨first, more, left⟩ := List.exists_cons_of_ne_nil listed
  refine ⟨first, more, left, isWild_or_of_splitSegments left, fun segment mem => ?_⟩
  rw [← left] at mem
  exact slash_not_mem_of_mem_behindAnchor (cut_append pattern ▸ List.mem_append_right _ mem)

theorem splitOn_rest (pattern : Text) (base : Path) :
    (split pattern base).2.splitOn '/' = (cut pattern).2 := by
  obtain ⟨first, more, left, -, free⟩ := exists_cut_eq pattern
  rw [snd_split, left]
  exact Text.splitOn_join_of_free (List.cons_ne_nil _ _) free

/-- What is left of a pattern is a relative path: only a first segment that is the only one is empty. -/
theorem isAbsolute_rest (pattern : Text) (base : Path) :
    (Path.ofText (split pattern base).2).isAbsolute = false := by
  obtain ⟨first, more, left, led, free⟩ := exists_cut_eq pattern
  have begun : first ≠ [] ∨ more = [] := by
    refine led.imp_left ?_
    rintro wild rfl
    cases wild
  rw [Path.isAbsolute_ofText, snd_split, left]
  exact beq_false_of_ne (Path.head?_join_ne (free first List.mem_cons_self) begun)

theorem join_rest (p : Path) (pattern : Text) (base : Path) :
    p.join (.ofText (split pattern base).2) = p.extend (cut pattern).2 := by
  have named : (Path.ofText (split pattern base).2).names = (cut pattern).2.filter isName :=
    congrArg _ (splitOn_rest pattern base)
  rw [Path.join, isAbsolute_rest, if_neg Bool.false_ne_true, named, Path.extend_filter]

/-! ## The two parts -/

/-- The parent steps of the rest cancel what they cancel in the whole pattern. -/
theorem normalize_join_split (pattern : Text) (base : Path) :
    ((split pattern base).1.join (.ofText (split pattern base).2)).normalize =
      (target pattern base).normalize :=
  calc ((split pattern base).1.join (.ofText (split pattern base).2)).normalize
      = ((split pattern base).1.extend (cut pattern).2).normalize := by rw [join_rest]
    _ = (((origin pattern base).extend (cut pattern).1).extend (cut pattern).2).normalize := by
        rw [fst_split, Path.normalize_extend_normalize]
    _ = (target pattern base).normalize := by
        rw [Path.extend_extend, cut_append, target_eq_extend]

theorem rest_led (pattern : Text) (base : Path) :
    '/' ∉ (split pattern base).2 ∨
      ∃ first behind, (split pattern base).2 = first ++ '/' :: behind ∧ '/' ∉ first ∧
        HoldsWildcard first := by
  obtain ⟨first, more, left, led, free⟩ := exists_cut_eq pattern
  have alone := free first List.mem_cons_self
  rw [snd_split, left]
  cases more with
  | nil =>
    left
    simpa [Text.join] using alone
  | cons second others =>
    right
    exact ⟨first, Text.join "/" (second :: others), Text.join_cons_cons '/' first second others,
      alone, isWild_iff.1 (led.resolve_right (List.cons_ne_nil _ _))⟩

/-- The segments of a pattern before its rest have no wildcard: they are empty ones of the anchor, or
they name the directory. -/
theorem exists_before_rest (pattern : Text) (base : Path) :
    ∃ before, pattern.splitOn '/' = before ++ (split pattern base).2.splitOn '/' ∧
      ∀ segment ∈ before, ¬ HoldsWildcard segment := by
  refine ⟨List.replicate (Anchor.ofText pattern).toText.length [] ++ (cut pattern).1, ?_, ?_⟩
  · rw [splitOn_eq_append, ← cut_append, splitOn_rest, List.append_assoc]
  · intro segment mem wild
    rcases List.mem_append.1 mem with empty | inFixed
    · rw [List.eq_of_mem_replicate empty] at wild
      simp [HoldsWildcard] at wild
    · have plain := isWild_of_mem_splitSegments inFixed
      rw [isWild_iff.2 wild] at plain
      cases plain

/-- The two parts of a pattern lead together where the pattern leads. The first part is absolute and
normal and takes no segment with a wildcard; the second is one segment or begins with a segment that
has a wildcard. -/
theorem split_parts (pattern : Text) (base : Path) :
    let walk := (split pattern base).1
    let rest := (split pattern base).2
    (walk.join (.ofText rest)).normalize = (target pattern base).normalize ∧
    (walk.isAbsolute = true ∧ walk.normalize = walk) ∧
    ('/' ∉ rest ∨ ∃ first behind, rest = first ++ '/' :: behind ∧ '/' ∉ first ∧ HoldsWildcard first) ∧
    ∃ before, pattern.splitOn '/' = before ++ rest.splitOn '/' ∧
      ∀ segment ∈ before, ¬ HoldsWildcard segment := by
  intro walk rest
  refine ⟨normalize_join_split pattern base, ?_, rest_led pattern base,
    exists_before_rest pattern base⟩
  rw [show walk = _ from fst_split pattern base]
  exact ⟨Path.isAbsolute_normalize _, Path.normalize_normalize _⟩

/-- A parent step before the cut is collapsed with the directory, and one behind it stays. -/
example : split "src/../docs//*/../x.md" (.ofText "/proj") =
    (Path.ofText "/proj/docs", ("*/../x.md" : Text)) := by
  decide +kernel

end DocWeave.Glob
