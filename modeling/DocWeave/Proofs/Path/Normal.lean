import DocWeave.Path.Basic

/-! # Normal paths

Collapsing leaves an absolute path without parent steps, and a path without parent steps is left as
it is, so normalizing twice is normalizing once. Names are climbed one after another, so a path may be
normalized before more names are joined to it.
-/

namespace DocWeave

theorem slash_not_mem_of_isName {name : Text} (named : isName name = true) : '/' ∉ name := by
  intro slash
  simp [isName, slash] at named

namespace Path

theorem names_extend_of_isName {p : Path} {more : List Text}
    (named : ∀ name ∈ more, isName name = true) : (p.extend more).names = p.names ++ more := by
  rw [names_extend, List.filter_eq_self.2 named]

theorem extend_extend (p : Path) (more further : List Text) :
    (p.extend more).extend further = p.extend (more ++ further) := by
  apply ext_names
  · rfl
  · rw [names_extend, names_extend, names_extend, List.filter_append, List.append_assoc]

theorem extend_filter (p : Path) (more : List Text) :
    p.extend (more.filter isName) = p.extend more := by
  apply ext_names
  · rfl
  · rw [names_extend, names_extend, List.filter_filter]
    simp only [Bool.and_self]

theorem foldl_climb_of_stepless (anchored : Bool) {names : List Text}
    (stepless : parentStep ∉ names) (below : List Text) :
    names.foldl (climb anchored) below = names.reverse ++ below := by
  induction names generalizing below with
  | nil => rfl
  | cons name names ih =>
    have plain : name ≠ parentStep := Ne.symm (List.ne_of_not_mem_cons stepless)
    have pushed : climb anchored below name = name :: below := if_neg plain
    rw [List.foldl_cons, pushed, ih (List.not_mem_of_not_mem_cons stepless)]
    simp

/-- Above the anchor there is only the anchor, so no parent step of an absolute path is left. -/
theorem parentStep_not_mem_foldl_climb {names below : List Text} (stepless : parentStep ∉ below) :
    parentStep ∉ names.foldl (climb true) below := by
  induction names generalizing below with
  | nil => exact stepless
  | cons name names ih =>
    apply ih
    unfold climb
    split
    · split
      · simp
      · rename_i inner outer
        have plain : inner ≠ parentStep := Ne.symm (List.ne_of_not_mem_cons stepless)
        rw [if_neg plain]
        exact List.not_mem_of_not_mem_cons stepless
    · rename_i other
      simp [stepless, Ne.symm other]

theorem names_collapse {p : Path} (absolute : p.isAbsolute = true) :
    p.collapse.names = (p.names.foldl (climb true) []).reverse := by
  simp only [collapse, absolute]

theorem parentStep_not_mem_collapse {p : Path} (absolute : p.isAbsolute = true) :
    parentStep ∉ p.collapse.names := by
  rw [names_collapse absolute, List.mem_reverse]
  exact parentStep_not_mem_foldl_climb List.not_mem_nil

theorem collapse_of_stepless {p : Path} (stepless : parentStep ∉ p.names) : p.collapse = p := by
  apply ext_names
  · rfl
  · simp [collapse, foldl_climb_of_stepless _ stepless]

theorem parentStep_not_mem_normalize (p : Path) : parentStep ∉ p.normalize.names :=
  parentStep_not_mem_collapse (isAbsolute_normalize p)

theorem normalize_of_isAbsolute {p : Path} (absolute : p.isAbsolute = true) :
    p.normalize = p.collapse := by
  rw [normalize, normalizeFrom, join, if_pos absolute]

theorem normalize_of_stepless {p : Path} (absolute : p.isAbsolute = true)
    (stepless : parentStep ∉ p.names) : p.normalize = p :=
  (normalize_of_isAbsolute absolute).trans (collapse_of_stepless stepless)

@[simp] theorem normalize_normalize (p : Path) : p.normalize.normalize = p.normalize :=
  normalize_of_stepless (isAbsolute_normalize p) (parentStep_not_mem_normalize p)

/-- A relative path is taken from the root directory, whatever names are joined to it. -/
theorem root_join_extend (p : Path) (more : List Text) :
    root.join (p.extend more) = (root.join p).extend more := by
  have anchored : (p.extend more).isAbsolute = p.isAbsolute := rfl
  rw [join, join, anchored]
  split
  · rfl
  · rw [extend_extend, names_extend]
    apply ext_names
    · rfl
    · simp

/-- Names joined to a path cancel the same part of it, whether it has been collapsed or not. -/
theorem collapse_extend_collapse {p : Path} (absolute : p.isAbsolute = true) (more : List Text) :
    (p.collapse.extend more).collapse = (p.extend more).collapse := by
  have climbed : p.collapse.names.foldl (climb true) [] = p.names.foldl (climb true) [] := by
    rw [foldl_climb_of_stepless _ (parentStep_not_mem_collapse absolute), List.append_nil,
      names_collapse absolute, List.reverse_reverse]
  apply ext_names
  · rfl
  · rw [names_collapse (p := p.collapse.extend more) absolute,
      names_collapse (p := p.extend more) absolute, names_extend, names_extend, List.foldl_append,
      climbed, List.foldl_append]

theorem normalize_extend_normalize (p : Path) (more : List Text) :
    (p.normalize.extend more).normalize = (p.extend more).normalize := by
  have absolute : (root.join p).isAbsolute = true := isAbsolute_normalize p
  calc (p.normalize.extend more).normalize
      = (p.normalize.extend more).collapse := normalize_of_isAbsolute absolute
    _ = ((root.join p).extend more).collapse := collapse_extend_collapse absolute more
    _ = (p.extend more).normalize := congrArg collapse (root_join_extend p more).symm

end Path

end DocWeave
