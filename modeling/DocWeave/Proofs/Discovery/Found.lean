import DocWeave.FileTree.Documents
import DocWeave.Proofs.Discovery
import DocWeave.Proofs.FileTree.Step
import DocWeave.Proofs.Path.Normal

/-! # What a search finds

A search for a pattern starts at one directory and finds the files below it that the rest of the
pattern matches, as far as it goes down. It goes down through directories that are not ignored, and
no deeper than the limit; the directory where it starts is searched at any depth.
-/

namespace DocWeave

namespace FileTree

variable {tree : FileTree} {directory below : Location} {path : Path}

theorem mem_filesBelow_iff : below ∈ tree.filesBelow directory ↔ directory ++ below ∈ tree.files := by
  simp only [filesBelow, List.mem_filterMap, Option.ite_none_right_eq_some, Option.some.injEq,
    List.isPrefixOf_iff_prefix]
  constructor
  · rintro ⟨location, listed, ⟨rest, rfl⟩, rfl⟩
    rwa [List.drop_left]
  · intro listed
    exact ⟨_, listed, List.prefix_append .., List.drop_left⟩

/-- A path without parent steps leads to a directory if one stands at its names. -/
theorem Regular.isDirectory_iff (regular : tree.Regular) (stepless : parentStep ∉ path.names) :
    tree.isDirectory path = true ↔ tree.node? path.names = some .directory := by
  rw [isDirectory, beq_iff_eq, find?, locate]
  constructor
  · intro stands
    cases walked : tree.walk [] path.names with
    | error cause =>
      rw [walked] at stands
      cases stands
    | ok location =>
      rw [walked] at stands
      have arrived := eq_foldl_climb_of_walk List.not_mem_nil walked
      rw [List.reverse_nil, Path.foldl_climb_of_stepless true stepless, List.append_nil,
        List.reverse_reverse] at arrived
      rw [← arrived]
      exact stands
  · intro stands
    have walked : tree.walk [] path.names = .ok ([] ++ path.names) := regular.walk_of_node? stands
    rw [walked]
    exact stands

end FileTree

namespace Scope

variable {scope : Scope}

/-- A search goes on down as far as no directory on the way is ignored, and only within the limit
unless it need not go down at all. -/
theorem descends_iff {above below : List Text} : scope.descends above below = true ↔
    (below = [] ∨ ((above.length + below.length : Nat) : Int) ≤ scope.maxDepth) ∧
      ∀ way, way ≠ [] → way <+: below →
        Ignore.covers scope.ignore (slashed (above ++ way)) = false := by
  induction below generalizing above with
  | nil =>
    simp only [descends, true_or, true_and, true_iff]
    intro way descended begins
    exact absurd (List.prefix_nil.1 begins) descended
  | cons name rest ih =>
    simp only [descends, Bool.and_eq_true, decide_eq_true_eq, Bool.not_eq_true', ih,
      reduceCtorEq, false_or, List.length_append, List.length_cons, List.length_nil]
    constructor
    · rintro ⟨⟨within, entered⟩, further, onward⟩
      constructor
      · rcases further with rfl | further
        · rw [List.length_nil]
          omega
        · omega
      · intro way descended begins
        obtain ⟨first, way, rfl⟩ := List.exists_cons_of_ne_nil descended
        obtain ⟨rfl, behind⟩ := List.cons_prefix_cons.1 begins
        by_cases last : way = []
        · subst last
          exact entered
        · have clear := onward way last behind
          rwa [List.append_assoc] at clear
    · rintro ⟨within, clear⟩
      refine ⟨⟨by omega, ?_⟩, .inr (by omega), ?_⟩
      · exact clear [name] (by simp) (List.cons_prefix_cons.2 ⟨rfl, List.nil_prefix⟩)
      · intro way _ begins
        rw [List.append_assoc]
        exact clear (name :: way) (by simp) (List.cons_prefix_cons.2 ⟨rfl, begins⟩)

end Scope

namespace Discovery

variable {tree : FileTree} {scope : Scope} {pattern : Text} {found : List Path}

/-- The directory where the search for a pattern starts. -/
def start (scope : Scope) (pattern : Text) : Path := (Glob.split pattern scope.root.normalize).1

/-- What of a pattern is matched below the directory where the search starts. -/
def rest (scope : Scope) (pattern : Text) : Text := (Glob.split pattern scope.root.normalize).2

theorem isAbsolute_start (scope : Scope) (pattern : Text) :
    (start scope pattern).isAbsolute = true :=
  Path.isAbsolute_normalize _

theorem parentStep_not_mem_start (scope : Scope) (pattern : Text) :
    parentStep ∉ (start scope pattern).names :=
  Path.parentStep_not_mem_normalize _

/-- What a search comes to when it goes well. -/
theorem search_eq_ok_iff : search tree scope pattern = .ok found ↔
    ∃ pieces, Glob.compile (rest scope pattern) = .ok pieces ∧ ¬ StartsAtNull scope pattern ∧
      found = if tree.isDirectory (start scope pattern) then
        ((tree.filesBelow (start scope pattern).names).filter
          (scope.finds pieces (scope.above (start scope pattern)))).map (start scope pattern).extend
        else [] := by
  unfold search StartsAtNull start rest
  generalize Glob.split pattern scope.root.normalize = parts
  obtain ⟨start, rest⟩ := parts
  dsimp only
  cases compiled : Glob.compile rest with
  | error fault => simp [Except.mapError, bind, Except.bind]
  | ok pieces =>
    cases null : FileTree.hasNull start with
    | true => simp [Except.mapError, bind, Except.bind, throw, throwThe, MonadExceptOf.throw]
    | false =>
      cases directory : tree.isDirectory start <;>
        simp [Except.mapError, bind, Except.bind, pure, Except.pure, eq_comm]

/-- A search finds the files below the directory where it starts that it goes down to and that the
rest of the pattern matches. -/
theorem mem_search_iff {path : Path} (regular : tree.Regular)
    (ended : search tree scope pattern = .ok found) : path ∈ found ↔
      ∃ pieces below, Glob.compile (rest scope pattern) = .ok pieces ∧ below ≠ [] ∧
        (start scope pattern).names ++ below ∈ tree.files ∧
        scope.finds pieces (scope.above (start scope pattern)) below = true ∧
        path = (start scope pattern).extend below := by
  obtain ⟨pieces, compiled, -, rfl⟩ := search_eq_ok_iff.1 ended
  have directory_iff := regular.isDirectory_iff (parentStep_not_mem_start scope pattern)
  constructor
  · intro mem
    split at mem
    · rename_i directory
      obtain ⟨below, kept, rfl⟩ := List.mem_map.1 mem
      obtain ⟨listed, finds⟩ := List.mem_filter.1 kept
      rw [FileTree.mem_filesBelow_iff] at listed
      refine ⟨pieces, below, compiled, ?_, listed, finds, rfl⟩
      -- The start is a directory, so it is none of the files that are listed at or below it.
      rintro rfl
      rw [List.append_nil] at listed
      obtain ⟨bytes, stands⟩ := regular.exists_of_mem_files listed
      cases (directory_iff.1 directory).symm.trans stands
    · cases mem
  · rintro ⟨others, below, same, descended, listed, finds, rfl⟩
    obtain rfl := Except.ok.inj (same.symm.trans compiled)
    -- Something lies below the start, so it is a directory.
    have directory : tree.isDirectory (start scope pattern) = true := by
      obtain ⟨name, further, rfl⟩ := List.exists_cons_of_ne_nil descended
      obtain ⟨bytes, stands⟩ := regular.exists_of_mem_files listed
      exact directory_iff.2 (regular.directory_above stands)
    rw [if_pos directory]
    exact List.mem_map_of_mem (List.mem_filter.2 ⟨FileTree.mem_filesBelow_iff.2 listed, finds⟩)

/-- What discovery finds is a file, and its path is absolute. -/
theorem hasFile_of_mem_find {patterns : List Text} {path : Path} (regular : tree.Regular)
    (ended : find tree scope patterns = .ok found) (mem : path ∈ found) :
    tree.HasFile path.names ∧ path.isAbsolute = true := by
  obtain ⟨pattern, _, paths, searched, within⟩ := exists_of_mem_find ended mem
  obtain ⟨_, below, _, _, listed, _, rfl⟩ := (mem_search_iff regular searched).1 within
  obtain ⟨bytes, stands⟩ := regular.exists_of_mem_files listed
  have kept : below.filter isName = below := List.filter_eq_self.2 fun name mem =>
    (regular.named _ _ stands name (List.mem_append_right _ mem)).isName
  refine ⟨⟨bytes, ?_⟩, isAbsolute_start scope pattern⟩
  rw [Path.names_extend, kept, stands]

end Discovery

end DocWeave
