import DocWeave.Proofs.Change
import DocWeave.Proofs.Discovery.Union
import DocWeave.Proofs.FileTree.Kept

/-! # What deleting takes away

Deleting works through the files that were found before the first of them was removed. A file stays
when the file system refuses to remove it, and a path fails when its file has been removed under
another spelling of the path. Everything else that was found is gone afterwards, and nothing else.
-/

namespace DocWeave

namespace FileTree

variable {tree left : FileTree} {gone : List Location} {location : Location} {path : Path}

/-- What is left of a tree without what stood at some locations. -/
structure Without (tree : FileTree) (gone : List Location) (left : FileTree) : Prop where
  locked : left.locked = tree.locked
  node?_eq : ∀ location,
    left.node? location = if location ∈ gone then none else tree.node? location

namespace Without

theorem nothing (tree : FileTree) : tree.Without [] tree := ⟨rfl, fun _ => rfl⟩

theorem erase (without : tree.Without gone left) (placed : location ≠ []) :
    tree.Without (gone ++ [location]) (left.erase location) where
  locked := without.locked
  node?_eq other := by
    rw [node?_erase placed, without.node?_eq]
    by_cases hit : other = location
    · simp [hit]
    · simp [hit]

/-- Where only files are gone, a path leads where it has led. -/
theorem locate (without : tree.Without gone left) (files : ∀ other ∈ gone, tree.HasFile other)
    (located : tree.locate path = .ok location) : left.locate path = .ok location := by
  refine walk_of_directories (fun other directory => ?_) located
  have stays : other ∉ gone := by
    intro mem
    obtain ⟨bytes, stands⟩ := files other mem
    cases directory.symm.trans stands
  rw [without.node?_eq, if_neg stays, directory]

/-- Removing a file that stood in the tree before other files were removed. -/
theorem remove (without : tree.Without gone left) (regular : tree.Regular)
    (files : ∀ other ∈ gone, tree.HasFile other) (stood : tree.HasFile path.names) :
    left.remove path =
      if pathLimit < byteLength path.toText then .error (refuse .nameTooLong path)
      else if path.names ∈ gone then .error (refuse .notFound path)
      else if path.names ∈ tree.locked then .error (refuse .notPermitted path)
      else .ok (left.erase path.names) := by
  obtain ⟨bytes, stood⟩ := stood
  have located := without.locate files (regular.locate_of_node? stood)
  rw [FileTree.remove, reach_of_locate (regular.hasNull_of_node? stood) located]
  by_cases long : pathLimit < byteLength path.toText
  · rw [if_pos long, if_pos long]
    rfl
  rw [if_neg long, if_neg long]
  by_cases missing : path.names ∈ gone
  · have stands : left.node? path.names = none := by rw [without.node?_eq, if_pos missing]
    simp only [bind, Except.bind, stands, if_pos missing]
  · have stands : left.node? path.names = some (.file bytes) := by
      rw [without.node?_eq, if_neg missing, stood]
    simp only [bind, Except.bind, stands, if_neg missing, without.locked, List.contains_iff_mem]

end Without

theorem byteLength_cons (c : Char) (text : Text) :
    byteLength (c :: text) = c.utf8Size + byteLength text := by
  have shift (text : Text) (size : Nat) :
      text.foldl (fun size c => size + c.utf8Size) size = size + byteLength text := by
    unfold byteLength
    induction text generalizing size with
    | nil => rfl
    | cons d text ih =>
      rw [List.foldl_cons, List.foldl_cons, ih, ih (0 + d.utf8Size)]
      omega
  rw [byteLength, List.foldl_cons, shift, Nat.zero_add]

end FileTree

namespace Change

open FileTree

variable {tree left : FileTree} {root : Path} {patterns : List Text} {found before later : List Path}
  {path other : Path}

/-- Why a file that is found is not removed: its path is too long, it is locked, or it is gone
because another spelling of the path comes before this one. -/
def refusal? (tree : FileTree) (found : List Path) (path : Path) : Option FileCause :=
  if pathLimit < byteLength path.toText then some .nameTooLong
  else if path.names ∈ tree.locked then some .notPermitted
  else if ∃ other ∈ found, other < path ∧ other.names = path.names then some .notFound
  else none

/-- The files among those that are found which are removed. -/
def removed (tree : FileTree) (found : List Path) (paths : List Path) : List Path :=
  paths.filter fun path => refusal? tree found path = none

/-- The records of the files that are not removed. -/
def refused (tree : FileTree) (found : List Path) (paths : List Path) : List Diagnostic :=
  paths.filterMap fun path => (refusal? tree found path).map fun cause =>
    ⟨.deleteFailure, "Failed to delete: " ++ path.toText ++ " (" ++ (refuse cause path).message ++ ")",
      some path.toText⟩

theorem refusal?_eq_none_iff : refusal? tree found path = none ↔
    byteLength path.toText ≤ pathLimit ∧ path.names ∉ tree.locked ∧
      ∀ other ∈ found, other < path → other.names ≠ path.names := by
  unfold refusal?
  split_ifs with long locked twin <;> simp_all

/-- What discovery finds in a regular tree: absolute paths of files, in order. -/
structure IsFound (tree : FileTree) (found : List Path) : Prop where
  ascends : found.Pairwise (· < ·)
  hasFile : ∀ path ∈ found, tree.HasFile path.names
  isAbsolute : ∀ path ∈ found, path.isAbsolute = true

namespace IsFound

/-- Another spelling of a path that comes before it is one character shorter, and none comes before
that one. -/
theorem twin (isFound : IsFound tree found) (mem : path ∈ found) (listed : other ∈ found)
    (below : other < path) (same : other.names = path.names) :
    path.toText = '/' :: other.toText ∧ ∀ third ∈ found, third < other → third.names ≠ other.names := by
  obtain ⟨single, double⟩ := Path.anchors_of_lt below same (isFound.isAbsolute other listed)
    (isFound.isAbsolute path mem)
  constructor
  · simp only [Path.toText, single, double, same]
    rfl
  · intro third first lower equal
    have doubled := (Path.anchors_of_lt lower equal (isFound.isAbsolute third first)
      (isFound.isAbsolute other listed)).2
    cases single.symm.trans doubled

/-- Whether a file is gone by the time its path is reached, if its path can be removed at all. -/
theorem mem_removed_iff (isFound : IsFound tree found) (cut : found = before ++ path :: later)
    (short : byteLength path.toText ≤ pathLimit) (unlocked : path.names ∉ tree.locked) :
    path.names ∈ (removed tree found before).map Path.names ↔
      ∃ other ∈ found, other < path ∧ other.names = path.names := by
  subst cut
  obtain ⟨-, behind, across⟩ := List.pairwise_append.1 isFound.ascends
  have here : path ∈ before ++ path :: later := List.mem_append_right _ List.mem_cons_self
  simp only [removed, List.mem_map, List.mem_filter, decide_eq_true_eq]
  constructor
  · rintro ⟨other, ⟨earlier, -⟩, same⟩
    exact ⟨other, List.mem_append_left _ earlier, across other earlier path List.mem_cons_self, same⟩
  · rintro ⟨other, listed, below, same⟩
    obtain ⟨longer, alone⟩ := isFound.twin here listed below same
    have earlier : other ∈ before := by
      rcases List.mem_append.1 listed with earlier | later
      · exact earlier
      · rcases List.mem_cons.1 later with rfl | later
        · exact absurd below (Std.Irrefl.irrefl other)
        · have above := (List.pairwise_cons.1 behind).1 other later
          exact absurd (Trans.trans below above) (Std.Irrefl.irrefl other)
    refine ⟨other, ⟨earlier, refusal?_eq_none_iff.2 ⟨?_, same ▸ unlocked, alone⟩⟩, same⟩
    rw [longer, byteLength_cons] at short
    omega

/-- Removing one file, when those found before it have been worked through. -/
theorem remove_next (isFound : IsFound tree found) (cut : found = before ++ path :: later)
    (regular : tree.Regular)
    (without : tree.Without ((removed tree found before).map Path.names) left) :
    left.remove path = match refusal? tree found path with
      | some cause => .error (refuse cause path)
      | none => .ok (left.erase path.names) := by
  have within : before ⊆ found := cut ▸ List.subset_append_left ..
  have here : path ∈ found := by simp [cut]
  have gone : ∀ location ∈ (removed tree found before).map Path.names, tree.HasFile location :=
    List.forall_mem_map.2 fun other mem => isFound.hasFile other (within (List.mem_filter.1 mem).1)
  rw [without.remove regular gone (isFound.hasFile path here), refusal?]
  by_cases long : pathLimit < byteLength path.toText
  · rw [if_pos long, if_pos long]
  rw [if_neg long, if_neg long]
  by_cases locked : path.names ∈ tree.locked
  · have stands : path.names ∉ (removed tree found before).map Path.names := by
      intro mem
      obtain ⟨other, kept, same⟩ := List.mem_map.1 mem
      have free := refusal?_eq_none_iff.1 (of_decide_eq_true (List.mem_filter.1 kept).2)
      exact free.2.1 (same ▸ locked)
    rw [if_neg stands, if_pos locked, if_pos locked]
  · rw [if_neg locked, if_neg locked]
    simp only [isFound.mem_removed_iff cut (Nat.not_lt.1 long) locked]
    split_ifs <;> rfl

/-- Working through what has been found. The induction is on what is still to be removed; what has
been removed is gone from the tree. -/
theorem remove_rest (isFound : IsFound tree found) (regular : tree.Regular)
    (cut : found = before ++ later)
    (without : tree.Without ((removed tree found before).map Path.names) left) :
    (remove left later).paths = removed tree found later ∧
      tree.Without ((removed tree found found).map Path.names) (remove left later).tree ∧
      (remove left later).notices.filterMap Notice.diagnostic? = refused tree found later := by
  induction later generalizing before left with
  | nil =>
    rw [List.append_nil] at cut
    subst cut
    exact ⟨rfl, without, rfl⟩
  | cons path later ih =>
    have further : found = (before ++ [path]) ++ later := by rw [cut, List.append_cons]
    have next := isFound.remove_next cut regular without
    obtain ⟨bytes, stood⟩ := isFound.hasFile path (by simp [cut])
    have placed : path.names ≠ [] := ne_nil_of_node? stood (by simp)
    rw [Change.remove]
    cases refusal : refusal? tree found path with
    | some cause =>
      rw [refusal] at next
      have same : removed tree found (before ++ [path]) = removed tree found before := by
        simp [removed, refusal]
      obtain ⟨paths, rest, records⟩ := ih further (same ▸ without)
      rw [next]
      dsimp only
      refine ⟨?_, rest, ?_⟩
      · rw [removed, List.filter_cons_of_neg (by simp [refusal])]
        exact paths
      · rw [List.filterMap_cons_some (f := Notice.diagnostic?) rfl, records, refused, refused,
          List.filterMap_cons_some (by rw [refusal, Option.map_some])]
        rfl
    | none =>
      rw [refusal] at next
      have more : removed tree found (before ++ [path]) = removed tree found before ++ [path] := by
        simp [removed, refusal]
      obtain ⟨paths, rest, records⟩ := ih further
        (by rw [more, List.map_append]; exact without.erase placed)
      rw [next]
      dsimp only
      refine ⟨?_, rest, ?_⟩
      · rw [removed, List.filter_cons_of_pos (by simp [refusal])]
        exact congrArg _ paths
      · rw [List.filterMap_cons_none rfl, records, refused, refused,
          List.filterMap_cons_none (by rw [refusal, Option.map_none])]

end IsFound

theorem isFound_of_find {scope : Scope} (regular : tree.Regular)
    (ended : Discovery.find tree scope patterns = .ok found) : IsFound tree found where
  ascends := Discovery.pairwise_of_find ended
  hasFile _ mem := (Discovery.hasFile_of_mem_find regular ended mem).1
  isAbsolute _ mem := (Discovery.hasFile_of_mem_find regular ended mem).2

/-- What is to be deleted is what discovery finds that nothing keeps out. -/
theorem targets_texts (tree : FileTree) (root : Path) (patterns : List Text) :
    targets tree root (patterns.map Json.text) =
      Discovery.find tree (everywhere root) patterns := by
  unfold targets Discovery.find
  rw [List.mapM_map]
  rfl

/-- Deleting is removing the targets, with an announcement if there are any. -/
theorem exists_of_delete {patterns : List Json} (ended : targets tree root patterns = .ok found) :
    ∃ change, delete root tree patterns = .ok change ∧ change.tree = (remove tree found).tree ∧
      change.paths = (remove tree found).paths ∧
      change.notices.filterMap Notice.diagnostic? =
        (remove tree found).notices.filterMap Notice.diagnostic? := by
  rw [delete, ended]
  cases found with
  | nil => exact ⟨_, rfl, rfl, rfl, rfl⟩
  | cons path found => exact ⟨_, rfl, rfl, rfl, List.filterMap_cons_none rfl⟩

/-- For patterns that compile, deletion takes away what discovery finds that nothing keeps out, but
for the files that are refused, and nothing else. Each file that is refused is recorded once, in
order. Where the search for a pattern would start at the null character, discovery and deletion both
fail for it, and nothing is removed. -/
theorem delete_of_compiles (tree : FileTree) (regular : tree.Regular) (root : Path)
    (patterns : List Text)
    (compiles : ∀ pattern ∈ patterns, Discovery.Compiles ⟨root, [], 65536⟩ pattern) :
    (∃ pattern ∈ patterns, Discovery.StartsAtNull ⟨root, [], 65536⟩ pattern) ∧
        Discovery.find tree ⟨root, [], 65536⟩ patterns = .error .nullCharacter ∧
        delete root tree (patterns.map .text) = .error .nullCharacter ∨
      (∀ pattern ∈ patterns, ¬ Discovery.StartsAtNull ⟨root, [], 65536⟩ pattern) ∧
        ∃ found change, Discovery.find tree ⟨root, [], 65536⟩ patterns = .ok found ∧
          delete root tree (patterns.map .text) = .ok change ∧
          found.Pairwise (· < ·) ∧ (∀ path ∈ found, tree.HasFile path.names) ∧
          change.paths = found.filter (fun path => refusal? tree found path = none) ∧
          tree.Without (change.paths.map Path.names) change.tree ∧
          change.notices.filterMap Notice.diagnostic? =
            found.filterMap fun path => (refusal? tree found path).map fun cause =>
              ⟨.deleteFailure,
                "Failed to delete: " ++ path.toText ++ " (" ++ (refuse cause path).message ++ ")",
                some path.toText⟩ := by
  have targeted : targets tree root (patterns.map .text) =
      Discovery.find tree ⟨root, [], 65536⟩ patterns := targets_texts tree root patterns
  rcases Discovery.find_cases tree compiles with ⟨null, ended⟩ | ⟨begins, found, ended⟩
  · refine .inl ⟨null, ended, ?_⟩
    rw [delete, targeted, ended]
    rfl
  · refine .inr ⟨begins, ?_⟩
    have isFound := isFound_of_find regular ended
    obtain ⟨paths, without, records⟩ :=
      isFound.remove_rest regular (List.nil_append found).symm (.nothing tree)
    obtain ⟨change, deleted, left, gone, said⟩ := exists_of_delete (targeted.trans ended)
    refine ⟨found, change, ended, deleted, isFound.ascends, isFound.hasFile, gone.trans paths, ?_,
      said.trans records⟩
    rw [gone, paths, left]
    exact without

/-- A tree with three documents, the first of which is locked. -/
def guarded : FileTree :=
  ⟨[(["proj"], .directory), (["proj", "a.md"], .file []), (["proj", "b.md"], .file []),
    (["proj", "c.md"], .file [])], [["proj", "a.md"]]⟩

/-- The locked document stays and is recorded, as is the second spelling of one that is gone; the
document behind both is removed all the same. -/
theorem delete_of_compiles_guarded :
    let root := Path.ofText "/proj"
    let patterns : List Text := ["*.md", "//proj/b.md"]
    let a := Path.ofText "/proj/a.md"
    let b := Path.ofText "/proj/b.md"
    let c := Path.ofText "/proj/c.md"
    let again := Path.ofText "//proj/b.md"
    guarded.Regular ∧ Discovery.find guarded ⟨root, [], 65536⟩ patterns = .ok [a, b, c, again] ∧
      ∃ change, delete root guarded (patterns.map .text) = .ok change ∧ change.paths = [b, c] ∧
        (change.notices.filterMap Notice.diagnostic?).map
            (fun record => (record.condition, record.path)) =
          [(.deleteFailure, some a.toText), (.deleteFailure, some again.toText)] ∧
        change.tree.node? a.names = some (.file []) ∧ change.tree.node? b.names = none := by
  intro root patterns a b c again
  have regular : guarded.Regular := regular_of_nodes (by decide) (by decide)
  have ended : Discovery.find guarded ⟨root, [], 65536⟩ patterns = .ok [a, b, c, again] := by
    decide +kernel
  have sound := (Discovery.exists_find_iff guarded).1 ⟨_, ended⟩
  obtain ⟨⟨pattern, mem, null⟩, -⟩ | ⟨-, found, change, given, deleted, -, -, paths, without, records⟩ :=
    delete_of_compiles guarded regular root patterns fun pattern mem => (sound pattern mem).1
  · exact absurd null (sound pattern mem).2
  cases ended.symm.trans given
  have kept : change.paths = [b, c] := by
    rw [paths]
    decide +kernel
  refine ⟨regular, ended, change, deleted, kept, ?_, ?_, ?_⟩
  · rw [records]
    decide +kernel
  · rw [without.node?_eq, kept]
    decide +kernel
  · rw [without.node?_eq, kept]
    decide +kernel

end Change

end DocWeave
