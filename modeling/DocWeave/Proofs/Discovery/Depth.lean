import DocWeave.Proofs.Discovery.Found

/-! # How deep discovery goes

The limit of a scope says how many directories below the root a search goes down to. It is asked
before a search goes further down, and a search that starts inside the root counts the directories
above its start as well. So a file lies deeper than the limit only if a pattern names its directory
by a fixed part, which is where a search then starts.
-/

namespace DocWeave

theorem Path.parent_extend {p : Path} {more : List Text} (named : ∀ name ∈ more, isName name = true)
    (descended : more ≠ []) : (p.extend more).parent = p.extend more.dropLast := by
  apply ext_names
  · rfl
  · rw [names_extend_of_isName fun name mem => named name (List.dropLast_subset _ mem)]
    show (p.extend more).names.dropLast = _
    rw [names_extend_of_isName named, List.dropLast_append_of_ne_nil descended]

/-- Each further name leads at most one directory further below the root. -/
theorem Scope.length_above_extend_le (scope : Scope) (p : Path) (more : List Text) :
    (scope.above (p.extend more)).length ≤ (scope.above p).length + more.length := by
  have fewer : (more.filter isName).length ≤ more.length := List.length_filter_le ..
  simp only [above]
  split
  · rename_i inside
    rw [Path.isAbove, Bool.and_eq_true, List.isPrefixOf_iff_prefix, Path.names_extend] at inside
    split
    · simp only [Path.names_extend, List.length_drop, List.length_append]
      omega
    · rename_i outside
      have short : p.names.length < scope.root.normalize.names.length := by
        by_contra long
        have reached := List.prefix_of_prefix_length_le inside.2 (List.prefix_append ..)
          (Nat.not_lt.1 long)
        apply outside
        rw [Path.isAbove, Bool.and_eq_true, List.isPrefixOf_iff_prefix]
        exact ⟨inside.1, reached⟩
      simp only [Path.names_extend, List.length_drop, List.length_append, List.length_nil]
      omega
  · exact Nat.zero_le _

namespace Discovery

variable {tree : FileTree} {scope : Scope} {pattern : Text} {patterns : List Text}
  {found : List Path} {path : Path}

/-- One search keeps to the limit, but for the directory where it starts. -/
theorem depth_of_mem_search (regular : tree.Regular)
    (ended : search tree scope pattern = .ok found) (mem : path ∈ found) :
    ((scope.above path.parent).length : Int) ≤ scope.maxDepth ∨
      path.parent = start scope pattern := by
  obtain ⟨pieces, below, -, descended, listed, finds, rfl⟩ :=
    (mem_search_iff regular ended).1 mem
  obtain ⟨bytes, stands⟩ := regular.exists_of_mem_files listed
  have named : ∀ name ∈ below, isName name = true := fun name inside =>
    (regular.named _ _ stands name (List.mem_append_right _ inside)).isName
  simp only [Scope.finds, Bool.and_eq_true] at finds
  have further := scope.length_above_extend_le (start scope pattern) below.dropLast
  rw [Path.parent_extend named descended]
  rcases (Scope.descends_iff.1 finds.1.1).1 with direct | within
  · right
    rw [direct]
    apply Path.ext_names
    · rfl
    · rw [Path.names_extend, List.filter_nil, List.append_nil]
  · left
    omega

/-- A file that is found is at most as many directories below the root as the limit says, unless it
stands directly in the directory that the fixed part of a pattern names. -/
theorem find_within_depth (tree : FileTree) (regular : tree.Regular) (scope : Scope)
    (patterns : List Text) (found : List Path) (ended : find tree scope patterns = .ok found) :
    ∀ path ∈ found, ((scope.above path.parent).length : Int) ≤ scope.maxDepth ∨
      ∃ pattern ∈ patterns, path.parent = start scope pattern := by
  intro path mem
  obtain ⟨pattern, wanted, paths, searched, within⟩ := exists_of_mem_find ended mem
  rcases depth_of_mem_search regular searched within with shallow | direct
  · exact .inl shallow
  · exact .inr ⟨pattern, wanted, direct⟩

/-- A tree with one document, two directories below the root of a project. -/
def nested : FileTree :=
  ⟨[(["proj"], .directory), (["proj", "a"], .directory), (["proj", "a", "b"], .directory),
    (["proj", "a", "b", "x.md"], .file [])], []⟩

theorem regular_nested : nested.Regular :=
  FileTree.regular_of_nodes (by decide) (by decide)

/-- A limit of two directories lets the document be found. -/
theorem find_within_depth_spanning :
    let scope : Scope := ⟨.ofText "/proj", [], 2⟩
    let path := Path.ofText "/proj/a/b/x.md"
    find nested scope ["**/*.md"] = .ok [path] ∧
      (((scope.above path.parent).length : Int) ≤ scope.maxDepth ∨
        ∃ pattern ∈ ["**/*.md".toList], path.parent = start scope pattern) := by
  intro scope path
  have ended : find nested scope ["**/*.md"] = .ok [path] := by decide +kernel
  exact ⟨ended, find_within_depth nested regular_nested scope _ _ ended path List.mem_cons_self⟩

/-- A limit of one directory keeps the document from being found, but not by a pattern that names
its directory. -/
theorem find_beyond_depth :
    let scope : Scope := ⟨.ofText "/proj", [], 1⟩
    let path := Path.ofText "/proj/a/b/x.md"
    nested.Regular ∧ find nested scope ["**/*.md"] = .ok [] ∧
      find nested scope ["a/b/*.md"] = .ok [path] ∧
      scope.root.normalize.isAbove path = true ∧
      ¬ ((scope.above path.parent).length : Int) ≤ scope.maxDepth := by
  exact ⟨regular_nested, by decide +kernel⟩

end Discovery

end DocWeave
