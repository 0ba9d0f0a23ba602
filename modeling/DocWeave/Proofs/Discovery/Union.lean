import DocWeave.Proofs.Discovery.Prefix

/-! # Discovery as a union

Discovery for several patterns is the union of the discoveries for each of them, in the order of paths.
So neither the order of the patterns nor their number counts, only which patterns there are; and the
order in which a tree lists its entries does not count either.
-/

namespace DocWeave

namespace FileTree

variable {tree other : FileTree} {location : Location} {node : Node}

/-- Where no location is listed twice, what stands at one is what the tree lists for it. -/
theorem node?_eq_some_iff (distinct : (tree.nodes.map Prod.fst).Nodup) (placed : location ≠ []) :
    tree.node? location = some node ↔ (location, node) ∈ tree.nodes :=
  ⟨fun stands => mem_of_node? stands placed, fun listed =>
    (node?_eq_lookup placed).trans (lookup_of_mem distinct listed)⟩

/-- The order of the entries does not count. -/
theorem Regular.node?_of_perm (regular : tree.Regular) (perm : other.nodes.Perm tree.nodes) :
    other.node? location = tree.node? location := by
  by_cases placed : location = []
  · subst placed
    rfl
  · have distinct : (other.nodes.map Prod.fst).Nodup :=
      ((perm.map Prod.fst).nodup_iff).2 regular.distinct
    apply Option.ext
    intro node
    rw [node?_eq_some_iff distinct placed, node?_eq_some_iff regular.distinct placed, perm.mem_iff]

theorem Regular.of_perm (regular : tree.Regular) (perm : other.nodes.Perm tree.nodes) :
    other.Regular where
  distinct := ((perm.map Prod.fst).nodup_iff).2 regular.distinct
  rooted mem := regular.rooted ((perm.map Prod.fst).subset mem)
  inDirectory location node stands placed := by
    rw [regular.node?_of_perm perm] at stands ⊢
    exact regular.inDirectory location node stands placed
  named location node stands := by
    rw [regular.node?_of_perm perm] at stands
    exact regular.named location node stands

theorem mem_files_of_perm (perm : other.nodes.Perm tree.nodes) :
    location ∈ other.files ↔ location ∈ tree.files :=
  (perm.filterMap _).mem_iff

end FileTree

namespace Discovery

variable {tree other : FileTree} {scope : Scope} {pattern : Text} {ps qs patterns : List Text}
  {found : List Path} {path : Path}

/-- Discovery for patterns of two lists is the union of the discoveries for each list. -/
theorem find_append_eq (tree : FileTree) (scope : Scope) (ps qs : List Text) :
    find tree scope (ps ++ qs) = do
      return Ascending.ofList ((← find tree scope ps) ++ (← find tree scope qs)) := by
  unfold find
  rw [List.mapM_append]
  cases ps.mapM (search tree scope) with
  | error failure => rfl
  | ok left =>
    cases qs.mapM (search tree scope) with
    | error failure => rfl
    | ok right =>
      show Except.ok (Ascending.ofList (left ++ right).flatten) = Except.ok (Ascending.ofList
        (Ascending.ofList left.flatten ++ Ascending.ofList right.flatten))
      congr 1
      rw [Ascending.ofList_eq_ofList_iff]
      simp [Ascending.mem_ofList, List.flatten_append]

/-- Discovery is settled by the discoveries for the single patterns. -/
theorem find_congr {scope' : Scope}
    (each : ∀ pattern ∈ patterns, find other scope' [pattern] = find tree scope [pattern]) :
    find other scope' patterns = find tree scope patterns := by
  induction patterns with
  | nil => rfl
  | cons pattern patterns ih =>
    obtain ⟨first, further⟩ := List.forall_mem_cons.1 each
    rw [← List.singleton_append, find_append_eq, find_append_eq, first, ih further]

theorem pairwise_of_find (ended : find tree scope patterns = .ok found) :
    found.Pairwise (· < ·) := by
  obtain ⟨all, -, rfl⟩ := find_eq_ok_iff.1 ended
  exact Ascending.pairwise_ofList _

/-- Discovery ends well exactly if every pattern compiles and none starts at the null character. -/
theorem exists_find_iff (tree : FileTree) : (∃ found, find tree scope patterns = .ok found) ↔
    ∀ pattern ∈ patterns, Compiles scope pattern ∧ ¬ StartsAtNull scope pattern := by
  constructor
  · rintro ⟨found, ended⟩ pattern mem
    obtain ⟨all, gone, -⟩ := find_eq_ok_iff.1 ended
    obtain ⟨paths, -, searched⟩ := (exists_of_mapM_ok gone).1 pattern mem
    obtain ⟨pieces, compiled, begins, -⟩ := search_eq_ok_iff.1 searched
    exact ⟨⟨pieces, compiled⟩, begins⟩
  · intro sound
    cases ended : find tree scope patterns with
    | ok found => exact ⟨found, rfl⟩
    | error failure =>
      rcases error_of_find ended with ⟨pattern, mem, broken, -⟩ | ⟨pattern, mem, null, -⟩
      · exact absurd (sound pattern mem).1 broken
      · exact absurd null (sound pattern mem).2

/-- What discovery comes to for patterns that compile. -/
theorem find_cases (tree : FileTree) (compiles : ∀ pattern ∈ patterns, Compiles scope pattern) :
    (∃ pattern ∈ patterns, StartsAtNull scope pattern) ∧
        find tree scope patterns = .error .nullCharacter ∨
      (∀ pattern ∈ patterns, ¬ StartsAtNull scope pattern) ∧
        ∃ found, find tree scope patterns = .ok found := by
  by_cases null : ∃ pattern ∈ patterns, StartsAtNull scope pattern
  · obtain ⟨pattern, mem, starts⟩ := null
    exact .inl ⟨⟨pattern, mem, starts⟩, find_of_startsAtNull compiles mem starts⟩
  · have begins : ∀ pattern ∈ patterns, ¬ StartsAtNull scope pattern := fun pattern mem starts =>
      null ⟨pattern, mem, starts⟩
    exact .inr ⟨begins, (exists_find_iff tree).2 fun pattern mem =>
      ⟨compiles pattern mem, begins pattern mem⟩⟩

/-- What is found is what the search for any of the patterns finds. -/
theorem mem_find_iff (ended : find tree scope patterns = .ok found) : path ∈ found ↔
    ∃ pattern ∈ patterns, ∃ paths, search tree scope pattern = .ok paths ∧ path ∈ paths := by
  constructor
  · exact exists_of_mem_find ended
  · rintro ⟨pattern, mem, paths, searched, within⟩
    obtain ⟨all, gone, rfl⟩ := find_eq_ok_iff.1 ended
    obtain ⟨_, listed, same⟩ := (exists_of_mapM_ok gone).1 pattern mem
    cases searched.symm.trans same
    exact Ascending.mem_ofList.2 (List.mem_flatten.2 ⟨paths, listed, within⟩)

/-- Only which patterns there are counts, not their order and not how often one is there. -/
theorem find_of_same_patterns (compiles : ∀ pattern ∈ patterns, Compiles scope pattern)
    {others : List Text} (same : ∀ pattern, pattern ∈ others ↔ pattern ∈ patterns) :
    find tree scope others = find tree scope patterns := by
  have othersCompile : ∀ pattern ∈ others, Compiles scope pattern := fun pattern mem =>
    compiles pattern ((same pattern).1 mem)
  rcases find_cases tree compiles with ⟨⟨pattern, mem, null⟩, ended⟩ | ⟨-, found, ended⟩
  · rw [ended, find_of_startsAtNull othersCompile ((same pattern).2 mem) null]
  · have sound := (exists_find_iff tree).1 ⟨found, ended⟩
    obtain ⟨reordered, othersEnded⟩ := (exists_find_iff tree).2 fun pattern mem =>
      sound pattern ((same pattern).1 mem)
    rw [ended, othersEnded]
    refine congrArg Except.ok (Ascending.eq_of_mem_iff (pairwise_of_find othersEnded)
      (pairwise_of_find ended) ?_)
    intro path
    simp only [mem_find_iff othersEnded, mem_find_iff ended, same]

/-- The order in which a regular tree lists its entries does not count. -/
theorem find_of_perm (regular : tree.Regular) (perm : other.nodes.Perm tree.nodes) :
    find other scope patterns = find tree scope patterns := by
  refine find_congr fun pattern _ => ?_
  rw [find_singleton, find_singleton]
  have stepless := parentStep_not_mem_start scope pattern
  unfold start at stepless
  unfold search
  generalize Glob.split pattern scope.root.normalize = parts at stepless ⊢
  obtain ⟨start, rest⟩ := parts
  dsimp only at stepless ⊢
  have directory : other.isDirectory start = tree.isDirectory start := by
    rw [Bool.eq_iff_iff, (regular.of_perm perm).isDirectory_iff stepless,
      regular.isDirectory_iff stepless, regular.node?_of_perm perm]
  cases Glob.compile rest with
  | error fault => rfl
  | ok pieces =>
    cases FileTree.hasNull start with
    | true => rfl
    | false =>
      rw [directory]
      cases tree.isDirectory start with
      | false => rfl
      | true =>
        refine congrArg Except.ok (Ascending.ofList_eq_ofList_iff.2 ?_)
        intro path
        simp only [List.mem_map, List.mem_filter, FileTree.mem_filesBelow_iff,
          FileTree.mem_files_of_perm perm]

/-- For patterns that compile, discovery for two lists of them gives the ascending union of what is
found for each list. Where the search for one of them would start at the null character, discovery
for both lists fails for it, and so does discovery for one of the two. Only which patterns there
are counts, and what the tree holds: neither an order of patterns or entries nor a repetition. -/
theorem find_append (tree : FileTree) (scope : Scope) (ps qs : List Text)
    (compiles : ∀ pattern ∈ ps ++ qs, Compiles scope pattern) :
    ((∃ pattern ∈ ps ++ qs, StartsAtNull scope pattern) ∧
          find tree scope (ps ++ qs) = .error .nullCharacter ∧
          (find tree scope ps = .error .nullCharacter ∨
            find tree scope qs = .error .nullCharacter) ∨
        (∀ pattern ∈ ps ++ qs, ¬ StartsAtNull scope pattern) ∧ ∃ left right both,
          find tree scope ps = .ok left ∧ find tree scope qs = .ok right ∧
          find tree scope (ps ++ qs) = .ok both ∧ both.Pairwise (· < ·) ∧ both.Nodup ∧
          ∀ path, path ∈ both ↔ path ∈ left ∨ path ∈ right) ∧
      (∀ others, (∀ pattern, pattern ∈ others ↔ pattern ∈ ps ++ qs) →
        find tree scope others = find tree scope (ps ++ qs)) ∧
      (tree.Regular → ∀ other : FileTree, other.nodes.Perm tree.nodes →
        find other scope (ps ++ qs) = find tree scope (ps ++ qs)) := by
  refine ⟨?_, fun others same => find_of_same_patterns compiles same, fun regular other perm =>
    find_of_perm regular perm⟩
  obtain ⟨left, right⟩ := List.forall_mem_append.1 compiles
  rcases find_cases tree compiles with ⟨⟨pattern, mem, null⟩, ended⟩ | ⟨begins, both, ended⟩
  · refine .inl ⟨⟨pattern, mem, null⟩, ended, ?_⟩
    exact (List.mem_append.1 mem).imp (find_of_startsAtNull left · null)
      (find_of_startsAtNull right · null)
  · obtain ⟨leftSound, rightSound⟩ :=
      List.forall_mem_append.1 ((exists_find_iff tree).1 ⟨both, ended⟩)
    obtain ⟨first, leftEnded⟩ := (exists_find_iff tree).2 leftSound
    obtain ⟨second, rightEnded⟩ := (exists_find_iff tree).2 rightSound
    have ascends := pairwise_of_find ended
    refine .inr ⟨begins, first, second, both, leftEnded, rightEnded, ended, ascends,
      ascends.imp Path.ne_of_lt, ?_⟩
    rw [find_append_eq, leftEnded, rightEnded] at ended
    cases ended
    intro path
    rw [Ascending.mem_ofList, List.mem_append]

/-- A tree with two documents, listed from the bottom up. -/
def branched : FileTree :=
  ⟨[(["proj", "a", "y.md"], .file []), (["proj", "a", "b", "x.md"], .file []),
    (["proj", "a", "b"], .directory), (["proj", "a"], .directory), (["proj"], .directory)], []⟩

/-- Patterns that match one document twice, in searches that start in different directories. -/
theorem find_append_branched :
    let scope : Scope := ⟨.ofText "/proj", [], 4⟩
    let ps : List Text := ["a/*.md", "a/b/*.md"]
    let qs : List Text := ["**/x.md"]
    let inner := Path.ofText "/proj/a/b/x.md"
    let outer := Path.ofText "/proj/a/y.md"
    find branched scope ps = .ok [inner, outer] ∧ find branched scope qs = .ok [inner] ∧
      find branched scope (ps ++ qs) = .ok [inner, outer] ∧
      find branched scope (qs ++ ps ++ qs) = .ok [inner, outer] ∧
      find ⟨branched.nodes.reverse, []⟩ scope (ps ++ qs) = .ok [inner, outer] := by
  intro scope ps qs inner outer
  have regular : branched.Regular := FileTree.regular_of_nodes (by decide) (by decide)
  have left : find branched scope ps = .ok [inner, outer] := by decide +kernel
  have right : find branched scope qs = .ok [inner] := by decide +kernel
  have sound := List.forall_mem_append.2
    ⟨(exists_find_iff branched).1 ⟨_, left⟩, (exists_find_iff branched).1 ⟨_, right⟩⟩
  obtain ⟨⟨null, -⟩ | ⟨-, first, second, both, first_eq, second_eq, ended, ascends, -, mem⟩,
    reordered, relisted⟩ := find_append branched scope ps qs fun pattern mem => (sound pattern mem).1
  · obtain ⟨pattern, mem, null⟩ := null
    exact absurd null (sound pattern mem).2
  cases left.symm.trans first_eq
  cases right.symm.trans second_eq
  obtain rfl : both = [inner, outer] := by
    refine Ascending.eq_of_mem_iff ascends (by decide +kernel) ?_
    intro path
    rw [mem, List.mem_singleton, or_iff_left_of_imp]
    rintro rfl
    exact List.mem_cons_self
  refine ⟨left, right, ended, (reordered _ ?_).trans ended,
    (relisted regular _ (List.reverse_perm _)).trans ended⟩
  intro pattern
  rw [List.mem_append, List.mem_append, List.mem_append, or_right_comm, or_self, or_comm]

end Discovery

end DocWeave
