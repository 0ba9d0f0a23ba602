import DocWeave.FileTree.Access
import Mathlib.Data.List.Induction

/-! # Regular file trees

In the tree of a file system every location is listed once, lies in a directory, and has names that
an entry of a directory can have. Setting a location where a path leads keeps a tree regular as long
as no directory is replaced by a file, and so does erasing a file. In a regular tree the names of a
location lead to it.
-/

namespace DocWeave.FileTree

variable {tree left : FileTree} {location other : Location} {node : Node} {path : Path}

/-! ## What a location holds -/

theorem node?_eq_lookup (placed : location ≠ []) :
    tree.node? location = tree.nodes.lookup location := by
  unfold node?
  split
  · exact absurd rfl placed
  · rfl

theorem ne_nil_of_node? {found : Option Node} (stands : tree.node? location = found)
    (other : found ≠ some .directory) : location ≠ [] := by
  rintro rfl
  exact other stands.symm

theorem lookup_filter_ne {entries : List (Location × Node)} :
    (entries.filter fun entry => entry.1 != location).lookup other =
      if other = location then none else entries.lookup other := by
  induction entries with
  | nil => simp
  | cons entry entries ih =>
    obtain ⟨key, node⟩ := entry
    by_cases same : key = location
    · subst same
      rw [List.filter_cons_of_neg (by simp), ih]
      by_cases hit : other = key
      · rw [if_pos hit, if_pos hit]
      · rw [if_neg hit, if_neg hit, List.lookup_cons, beq_eq_false_iff_ne.2 hit]
    · rw [List.filter_cons_of_pos (by simpa using same), List.lookup_cons, List.lookup_cons, ih]
      by_cases hit : other = key
      · subst hit
        rw [if_neg same, beq_self_eq_true, if_neg same]
      · rw [beq_eq_false_iff_ne.2 hit]

theorem node?_set (placed : location ≠ []) :
    (tree.set location node).node? other =
      if other = location then some node else tree.node? other := by
  by_cases rooted : other = []
  · subst rooted
    rw [if_neg (Ne.symm placed)]
    rfl
  · rw [node?_eq_lookup rooted, node?_eq_lookup rooted, set, List.lookup_cons, lookup_filter_ne]
    by_cases hit : other = location
    · rw [if_pos hit, beq_iff_eq.2 hit, if_pos hit]
    · rw [if_neg hit, if_neg hit, beq_eq_false_iff_ne.2 hit]

theorem node?_erase (placed : location ≠ []) :
    (tree.erase location).node? other = if other = location then none else tree.node? other := by
  by_cases rooted : other = []
  · subst rooted
    rw [if_neg (Ne.symm placed)]
    rfl
  · rw [node?_eq_lookup rooted, node?_eq_lookup rooted, erase, lookup_filter_ne]

/-! ## Regular trees -/

/-- A name that an entry of a directory can have. -/
structure IsEntryName (name : Text) : Prop where
  isName : isName name = true
  ne_parentStep : name ≠ parentStep
  noNull : name.contains '\x00' = false
  short : byteLength name ≤ nameLimit

instance (name : Text) : Decidable (IsEntryName name) :=
  decidable_of_iff (isName name = true ∧ name ≠ parentStep ∧ name.contains '\x00' = false ∧
      byteLength name ≤ nameLimit)
    ⟨fun ⟨named, apart, noNull, short⟩ => ⟨named, apart, noNull, short⟩,
      fun ⟨named, apart, noNull, short⟩ => ⟨named, apart, noNull, short⟩⟩

/-- The tree is as a file system has it. -/
structure Regular (tree : FileTree) : Prop where
  distinct : (tree.nodes.map Prod.fst).Nodup
  rooted : [] ∉ tree.nodes.map Prod.fst
  inDirectory : ∀ location node, tree.node? location = some node → location ≠ [] →
    tree.node? location.dropLast = some .directory
  named : ∀ location node, tree.node? location = some node → ∀ name ∈ location, IsEntryName name

/-- A location where something can be put: its names are those of entries and it lies in a
directory, or it is the root. -/
structure Open (tree : FileTree) (location : Location) : Prop where
  inDirectory : location ≠ [] → tree.node? location.dropLast = some .directory
  named : ∀ name ∈ location, IsEntryName name

theorem Regular.open_of_node? (regular : tree.Regular) (stands : tree.node? location = some node) :
    tree.Open location :=
  ⟨regular.inDirectory location node stands, regular.named location node stands⟩

theorem lookup_of_mem {entries : List (Location × Node)}
    (distinct : (entries.map Prod.fst).Nodup) (mem : (location, node) ∈ entries) :
    entries.lookup location = some node := by
  induction entries with
  | nil => cases mem
  | cons entry entries ih =>
    obtain ⟨absent, further⟩ := List.nodup_cons.1 distinct
    rcases List.mem_cons.1 mem with rfl | behind
    · rw [List.lookup_cons, beq_self_eq_true]
    · have other : location ≠ entry.1 := by
        rintro rfl
        exact absent (List.mem_map.2 ⟨_, behind, rfl⟩)
      obtain ⟨key, value⟩ := entry
      rw [List.lookup_cons, beq_eq_false_iff_ne.2 other]
      exact ih further behind

/-- What stands at a location is listed there, but for the root. -/
theorem mem_of_node? (stands : tree.node? location = some node) (placed : location ≠ []) :
    (location, node) ∈ tree.nodes := by
  rw [node?_eq_lookup placed] at stands
  obtain ⟨before, later, split, _⟩ := List.lookup_eq_some_iff.1 stands
  rw [split]
  simp

/-- A tree is regular if each entry of its list is at a place for it. -/
theorem regular_of_nodes (distinct : (tree.nodes.map Prod.fst).Nodup)
    (each : ∀ entry ∈ tree.nodes, entry.1 ≠ [] ∧
      tree.node? entry.1.dropLast = some .directory ∧ ∀ name ∈ entry.1, IsEntryName name) :
    tree.Regular where
  distinct := distinct
  rooted mem := by
    obtain ⟨entry, listed, top⟩ := List.mem_map.1 mem
    exact (each entry listed).1 top
  inDirectory location node stands placed := (each _ (mem_of_node? stands placed)).2.1
  named location node stands := by
    by_cases placed : location = []
    · subst placed
      exact nofun
    · exact (each _ (mem_of_node? stands placed)).2.2

/-- A listed file stands at its location. -/
theorem Regular.exists_of_mem_files (regular : tree.Regular) (listed : location ∈ tree.files) :
    ∃ bytes, tree.node? location = some (.file bytes) := by
  obtain ⟨⟨key, value⟩, mem, isFile⟩ := List.mem_filterMap.1 listed
  cases value with
  | directory => cases isFile
  | file bytes =>
    cases isFile
    have placed : location ≠ [] := by
      rintro rfl
      exact regular.rooted (List.mem_map.2 ⟨_, mem, rfl⟩)
    exact ⟨bytes, (node?_eq_lookup placed).trans (lookup_of_mem regular.distinct mem)⟩

/-- What lies above something is a directory. -/
theorem Regular.directory_above (regular : tree.Regular) {above below : List Text} {name : Text}
    (stands : tree.node? (above ++ name :: below) = some node) :
    tree.node? above = some .directory := by
  induction below using List.reverseRecOn generalizing node with
  | nil => simpa using regular.inDirectory _ _ stands (by simp)
  | append_singleton below last ih =>
    apply ih
    have parent := regular.inDirectory _ _ stands (by simp)
    rwa [← List.cons_append, ← List.append_assoc, List.dropLast_concat] at parent

/-- The names of a location lead to it. -/
theorem Regular.walk_of_node? (regular : tree.Regular) {above below : List Text}
    (stands : tree.node? (above ++ below) = some node) :
    tree.walk above below = .ok (above ++ below) := by
  induction below generalizing above with
  | nil => rw [walk, List.append_nil]
  | cons name below ih =>
    have entry := regular.named _ _ stands name (by simp)
    rw [walk, regular.directory_above stands]
    dsimp only
    rw [if_neg entry.ne_parentStep, if_neg (Nat.not_lt.2 entry.short), ih, List.append_assoc]
    · rfl
    · rwa [List.append_assoc]

/-- A path whose names lead somewhere leads there, unless it is too long. -/
theorem reach_of_locate (noNull : hasNull path = false) (located : tree.locate path = .ok location) :
    tree.reach path =
      if pathLimit < byteLength path.toText then .error (refuse .nameTooLong path)
      else .ok location := by
  rw [reach, noNull, if_neg Bool.false_ne_true, located]
  rfl

theorem Regular.hasNull_of_node? (regular : tree.Regular)
    (stands : tree.node? path.names = some node) : hasNull path = false := by
  simp only [hasNull, List.any_eq_false, Bool.not_eq_true]
  exact fun name mem => (regular.named _ _ stands name mem).noNull

theorem Regular.locate_of_node? (regular : tree.Regular)
    (stands : tree.node? path.names = some node) : tree.locate path = .ok path.names :=
  regular.walk_of_node? (show tree.node? ([] ++ path.names) = _ from stands)

/-- Going up leads to a directory, or stays at the root. -/
theorem Regular.open_dropLast (regular : tree.Regular) (isOpen : tree.Open location) :
    tree.Open location.dropLast := by
  by_cases top : location = []
  · subst top
    exact isOpen
  · exact regular.open_of_node? (isOpen.inDirectory top)

theorem Open.concat (isOpen : tree.Open location) {name : Text}
    (directory : tree.node? location = some .directory) (entry : IsEntryName name) :
    tree.Open (location ++ [name]) where
  inDirectory _ := by rwa [List.dropLast_concat]
  named := by
    intro other mem
    rcases List.mem_append.1 mem with old | new
    · exact isOpen.named other old
    · rwa [List.mem_singleton.1 new]

/-- A walk ends where something can be put. -/
theorem Regular.open_of_walk (regular : tree.Regular) {names : List Text} {start finish : Location}
    (began : tree.Open start)
    (usable : ∀ name ∈ names, isName name = true ∧ name.contains '\x00' = false)
    (walked : tree.walk start names = .ok finish) : tree.Open finish := by
  induction names generalizing start with
  | nil =>
    cases walked
    exact began
  | cons name rest ih =>
    obtain ⟨⟨isName, noNull⟩, further⟩ := List.forall_mem_cons.1 usable
    rcases stands : tree.node? start with _ | _ | bytes
    · simp [walk, stands] at walked
    · rw [walk, stands] at walked
      dsimp only at walked
      by_cases up : name = parentStep
      · rw [if_pos up] at walked
        exact ih (regular.open_dropLast began) further walked
      · rw [if_neg up] at walked
        split at walked
        · cases walked
        · rename_i short
          have entry : IsEntryName name := ⟨isName, up, noNull, Nat.not_lt.1 short⟩
          exact ih (began.concat stands entry) further walked
    · simp [walk, stands] at walked

/-- A path leads where something can be put. -/
theorem Regular.open_of_reach (regular : tree.Regular) (reached : tree.reach path = .ok location) :
    tree.Open location := by
  unfold reach at reached
  split at reached
  · cases reached
  · rename_i noNull
    split at reached
    · cases reached
    · have located : tree.walk [] path.names = .ok location := by
        unfold locate at reached
        cases walked : tree.walk [] path.names with
        | error cause =>
          rw [walked] at reached
          cases reached
        | ok found =>
          rw [walked] at reached
          cases reached
          rfl
      refine regular.open_of_walk ⟨nofun, nofun⟩ ?_ located
      intro name mem
      refine ⟨path.isName_of_mem name mem, ?_⟩
      simp only [hasNull, List.any_eq_true, not_exists, not_and, Bool.not_eq_true] at noNull
      exact noNull name mem

theorem Open.dropLast_ne (placed : location ≠ []) : location.dropLast ≠ location := by
  intro same
  have lengths := congrArg List.length same
  rw [List.length_dropLast] at lengths
  have positive := List.length_pos_iff.2 placed
  omega

/-- Setting an open location keeps a tree regular, unless a directory is replaced by a file. -/
theorem Regular.set (regular : tree.Regular) (isOpen : tree.Open location)
    (placed : location ≠ [])
    (keeps : tree.node? location = some .directory → node = .directory) :
    (tree.set location node).Regular where
  distinct := by
    refine List.nodup_cons.2 ⟨?_, (List.filter_sublist.map Prod.fst).nodup regular.distinct⟩
    intro mem
    obtain ⟨entry, kept, same⟩ := List.mem_map.1 mem
    simpa [same] using (List.mem_filter.1 kept).2
  rooted := by
    intro mem
    rcases List.mem_cons.1 mem with same | mem
    · exact placed same.symm
    · exact regular.rooted ((List.filter_sublist.map Prod.fst).subset mem)
  inDirectory other found stands below := by
    rw [node?_set placed] at stands ⊢
    by_cases hit : other = location
    · subst hit
      rw [if_neg (Open.dropLast_ne placed)]
      exact isOpen.inDirectory placed
    · rw [if_neg hit] at stands
      have above := regular.inDirectory other found stands below
      by_cases replaced : other.dropLast = location
      · rw [if_pos replaced, keeps (replaced ▸ above)]
      · rwa [if_neg replaced]
  named other found stands name mem := by
    rw [node?_set placed] at stands
    by_cases hit : other = location
    · exact isOpen.named name (hit ▸ mem)
    · rw [if_neg hit] at stands
      exact regular.named other found stands name mem

/-- Erasing a file keeps a tree regular. -/
theorem Regular.erase (regular : tree.Regular) {bytes : List UInt8}
    (stands : tree.node? location = some (.file bytes)) : (tree.erase location).Regular := by
  have placed : location ≠ [] := ne_nil_of_node? stands (by simp)
  constructor
  · exact (List.filter_sublist.map Prod.fst).nodup regular.distinct
  · exact fun mem => regular.rooted ((List.filter_sublist.map Prod.fst).subset mem)
  · intro other found kept below
    rw [node?_erase placed] at kept ⊢
    split at kept
    · cases kept
    · have above := regular.inDirectory other found kept below
      rw [if_neg, above]
      -- A file has nothing below it.
      intro erased
      rw [erased, stands] at above
      cases above
  · intro other found kept
    rw [node?_erase placed] at kept
    split at kept
    · cases kept
    · exact regular.named other found kept

end DocWeave.FileTree
