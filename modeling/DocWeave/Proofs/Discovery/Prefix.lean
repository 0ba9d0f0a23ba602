import DocWeave.Proofs.Discovery.Depth
import DocWeave.Proofs.Glob.Fixed
import DocWeave.Proofs.Path.Order

/-! # Searching from the fixed part of a pattern

A search starts in the directory that the fixed part of a pattern names and matches what lies below
it against the rest. For a pattern of plain segments that is the same as matching everything below
the root against the whole pattern: what the pattern matches begins with its fixed part, so it lies
in that directory.
-/

namespace DocWeave

namespace Scope

variable {scope : Scope} {pieces : List Glob.Piece} {above below : List Text}

/-- Where nothing is ignored, only the limit keeps a search from what it matches. -/
theorem finds_iff_of_unignored (unignored : scope.ignore = []) :
    scope.finds pieces above below = true ↔
      (below.dropLast = [] ∨ ((above.length + below.dropLast.length : Nat) : Int) ≤ scope.maxDepth) ∧
        Glob.matchesAll pieces (Text.join "/" below) = true := by
  have clear (path : Text) : Ignore.covers scope.ignore path = false := by rw [unignored]; rfl
  simp only [finds, Bool.and_eq_true, descends_iff, clear, Bool.not_false, and_true,
    implies_true, Glob.accepts_eq_matchesAll]

end Scope

namespace Discovery

variable {tree : FileTree} {scope : Scope} {pattern : Text} {pieces : List Glob.Piece}
  {found : List Path}

theorem start_of_isPlain (scope : Scope) (plain : Glob.IsPlain pattern) :
    start scope pattern = scope.root.normalize.extend (Glob.parts pattern).1 := by
  rw [start, plain.split (Path.isAbsolute_normalize _) (Path.parentStep_not_mem_normalize _)]

theorem rest_of_isPlain (scope : Scope) (plain : Glob.IsPlain pattern) :
    rest scope pattern = Text.join "/" (Glob.parts pattern).2 := by
  rw [rest, plain.split (Path.isAbsolute_normalize _) (Path.parentStep_not_mem_normalize _)]

theorem names_start_of_isPlain (scope : Scope) (plain : Glob.IsPlain pattern) :
    (start scope pattern).names = scope.root.normalize.names ++ (Glob.parts pattern).1 := by
  rw [start_of_isPlain scope plain, Path.names_extend_of_isName]
  exact fun _ mem => (plain _ (Glob.mem_splitOn_of_mem_fixed mem)).1

theorem above_start_of_isPlain (scope : Scope) (plain : Glob.IsPlain pattern) :
    scope.above (start scope pattern) = (Glob.parts pattern).1 := by
  have inside : scope.root.normalize.isAbove (start scope pattern) = true := by
    rw [Path.isAbove, Bool.and_eq_true, List.isPrefixOf_iff_prefix, names_start_of_isPlain scope plain]
    exact ⟨by rw [start_of_isPlain scope plain, Path.anchor_extend, beq_self_eq_true],
      List.prefix_append ..⟩
  rw [Scope.above, if_pos inside, names_start_of_isPlain scope plain, List.drop_left]

/-- The limit lets a search reach every file below the root. -/
def Reaches (tree : FileTree) (scope : Scope) : Prop :=
  ∀ below, scope.root.normalize.names ++ below ∈ tree.files →
    (below.dropLast.length : Int) ≤ scope.maxDepth

theorem reaches_of_length_le
    (shallow : ∀ location ∈ tree.files, (location.length : Int) ≤ scope.maxDepth) :
    Reaches tree scope := by
  intro below listed
  have within := shallow _ listed
  rw [List.length_append] at within
  rw [List.length_dropLast]
  omega

/-- A search that nothing keeps out finds, for a plain pattern, the files below the root that the
whole pattern matches. -/
theorem mem_search_iff_of_isPlain {path : Path} (regular : tree.Regular)
    (unignored : scope.ignore = []) (reaches : Reaches tree scope) (plain : Glob.IsPlain pattern)
    (compiled : Glob.compile pattern = .ok pieces)
    (ended : search tree scope pattern = .ok found) : path ∈ found ↔
      ∃ below, below ≠ [] ∧ scope.root.normalize.names ++ below ∈ tree.files ∧
        Glob.accepts pieces (Text.join "/" below) = true ∧
        path = scope.root.normalize.extend below := by
  obtain ⟨behind, compiledRest, rfl⟩ := plain.compile_rest compiled
  rw [← rest_of_isPlain scope plain] at compiledRest
  have clean : ∀ segment ∈ (Glob.parts pattern).1, '/' ∉ segment := fun _ mem =>
    Text.not_mem_of_mem_splitOn (Glob.mem_splitOn_of_mem_fixed mem)
  rw [mem_search_iff regular ended, above_start_of_isPlain scope plain, names_start_of_isPlain scope plain,
    start_of_isPlain scope plain]
  simp only [Scope.finds_iff_of_unignored unignored, Glob.accepts_eq_matchesAll,
    Glob.matchesAll_exactly_append, List.append_assoc]
  constructor
  · rintro ⟨others, below, same, descended, listed, ⟨-, matched⟩, rfl⟩
    obtain rfl := Except.ok.inj (same.symm.trans compiledRest)
    exact ⟨_, List.append_ne_nil_of_right_ne_nil _ descended, listed,
      ⟨_, Scope.join_append descended, matched⟩, Path.extend_extend ..⟩
  · rintro ⟨below, descended, listed, ⟨left, begins, matched⟩, rfl⟩
    obtain ⟨bytes, stands⟩ := regular.exists_of_mem_files listed
    have free : ∀ name ∈ below, '/' ∉ name := fun name mem =>
      slash_not_mem_of_isName (regular.named _ _ stands name (List.mem_append_right _ mem)).isName
    obtain ⟨further, inner, rfl, rfl⟩ := Scope.exists_of_join_eq free clean descended begins
    have shallow := reaches _ listed
    rw [List.dropLast_append_of_ne_nil inner, List.length_append] at shallow
    exact ⟨behind, further, compiledRest, inner, listed, ⟨.inr shallow, matched⟩,
      (Path.extend_extend ..).symm⟩

/-- Discovery with one pattern is its search, in order. -/
theorem find_singleton (tree : FileTree) (scope : Scope) (pattern : Text) :
    find tree scope [pattern] = (search tree scope pattern).map Ascending.ofList := by
  unfold find
  rw [List.mapM_cons, List.mapM_nil]
  cases search tree scope pattern with
  | error failure => rfl
  | ok found =>
    show Except.ok (Ascending.ofList ([found].flatten)) = _
    rw [List.flatten_singleton]
    rfl

/-- For a plain pattern, discovery that nothing keeps out gives the files below the root that the
whole pattern matches, each once and in order, unless the directory where the search starts holds
the null character. -/
theorem find_of_isPlain (tree : FileTree) (regular : tree.Regular) (scope : Scope)
    (unignored : scope.ignore = []) (reaches : Reaches tree scope) (pattern : Text)
    (plain : Glob.IsPlain pattern) (pieces : List Glob.Piece)
    (compiled : Glob.compile pattern = .ok pieces) :
    (StartsAtNull scope pattern ∧ find tree scope [pattern] = .error .nullCharacter) ∨
      (¬ StartsAtNull scope pattern ∧ ∃ found, find tree scope [pattern] = .ok found ∧
        found.Nodup ∧ found.Pairwise (· < ·) ∧
        ∀ path, path ∈ found ↔ ∃ below, below ≠ [] ∧
          scope.root.normalize.names ++ below ∈ tree.files ∧
          Glob.accepts pieces (Text.join "/" below) = true ∧
          path = scope.root.normalize.extend below) := by
  obtain ⟨behind, compiledRest, -⟩ := plain.compile_rest compiled
  rw [← rest_of_isPlain scope plain] at compiledRest
  rw [find_singleton]
  by_cases null : StartsAtNull scope pattern
  · refine .inl ⟨null, ?_⟩
    rw [search_of_startsAtNull ⟨behind, compiledRest⟩ null]
    rfl
  · refine .inr ⟨null, ?_⟩
    obtain ⟨found, ended⟩ : ∃ found, search tree scope pattern = .ok found :=
      ⟨_, search_eq_ok_iff.2 ⟨behind, compiledRest, null, rfl⟩⟩
    have ascends := Ascending.pairwise_ofList found
    refine ⟨Ascending.ofList found, by rw [ended]; rfl, ascends.imp Path.ne_of_lt, ascends, ?_⟩
    intro path
    rw [Ascending.mem_ofList,
      mem_search_iff_of_isPlain regular unignored reaches plain compiled ended]

/-- A pattern with a fixed part, in a tree with one document that it matches. -/
theorem find_of_isPlain_nested :
    let scope : Scope := ⟨.ofText "/proj", [], 4⟩
    let pattern : Text := "a/**/*.md"
    find nested scope [pattern] = .ok [.ofText "/proj/a/b/x.md"] ∧
      ∃ pieces, Glob.compile pattern = .ok pieces ∧
      ((StartsAtNull scope pattern ∧ find nested scope [pattern] = .error .nullCharacter) ∨
        (¬ StartsAtNull scope pattern ∧ ∃ found, find nested scope [pattern] = .ok found ∧
          found.Nodup ∧ found.Pairwise (· < ·) ∧
          ∀ path, path ∈ found ↔ ∃ below, below ≠ [] ∧
            scope.root.normalize.names ++ below ∈ nested.files ∧
            Glob.accepts pieces (Text.join "/" below) = true ∧
            path = scope.root.normalize.extend below)) := by
  intro scope pattern
  have compiled : Glob.compile pattern =
      .ok [.literal 'a', .slash, .directories, .many, .literal '.', .literal 'm', .literal 'd'] := by
    decide +kernel
  exact ⟨by decide +kernel, _, compiled, find_of_isPlain nested regular_nested scope rfl
    (reaches_of_length_le (by decide)) pattern (by decide) _ compiled⟩

/-- No file is in a directory whose name holds the null character, and a search that would start
there fails. -/
theorem find_of_null_prefix :
    let scope : Scope := ⟨.ofText "/proj", [], 4⟩
    let pattern : Text := "a\x00b/*.md"
    nested.Regular ∧ scope.ignore = [] ∧ Reaches nested scope ∧ Glob.IsPlain pattern ∧
      (∃ pieces, Glob.compile pattern = .ok pieces) ∧
      find nested scope [pattern] = .error .nullCharacter := by
  intro scope pattern
  have compiled : Glob.compile pattern =
      .ok [.literal 'a', .literal '\x00', .literal 'b', .slash, .many, .literal '.', .literal 'm',
        .literal 'd'] := by
    decide +kernel
  exact ⟨regular_nested, rfl, reaches_of_length_le (by decide), by decide, ⟨_, compiled⟩,
    by decide +kernel⟩

end Discovery

end DocWeave
