import DocWeave.Proofs.Discovery.Found
import DocWeave.Proofs.Glob.Fixed
import DocWeave.Proofs.Glob.Ignore
import DocWeave.Settings.Basic

/-! # Directories that are not entered

A search does not go down into a directory that is ignored. Where every ignore pattern ends in a star,
a file below such a directory is ignored itself, so a search that enters every directory and leaves
out the files that are ignored finds the same.
-/

namespace DocWeave

namespace Scope

variable {scope : Scope} {pieces : List Glob.Piece} {above below way : List Text}

/-- Whether a file is found where only the limit keeps the search from a directory, and ignored files
are left out one by one. -/
def findsUnpruned (scope : Scope) (pieces : List Glob.Piece) (above below : List Text) : Bool :=
  { scope with ignore := [] }.descends above below.dropLast &&
    Glob.accepts pieces (Text.join "/" below) &&
    !Ignore.covers scope.ignore (Text.join "/" (above ++ below))

/-- Without ignore patterns, a search goes down within the limit. -/
theorem descends_unignored_iff : { scope with ignore := [] }.descends above below = true ↔
    (below = [] ∨ ((above.length + below.length : Nat) : Int) ≤ scope.maxDepth) := by
  rw [descends_iff, and_iff_left]
  exact fun _ _ _ => rfl

/-- The path of a directory begins the path of every file below it. -/
theorem exists_join_eq (above : List Text) (begins : way <+: below.dropLast) (descended : below ≠ []) :
    ∃ more, Text.join "/" (above ++ below) = slashed (above ++ way) ++ more := by
  obtain ⟨between, cut⟩ := begins
  have split : above ++ below = above ++ way ++ (between ++ [below.getLast descended]) := by
    conv_lhs => rw [← List.dropLast_concat_getLast descended, ← cut]
    simp
  exact ⟨_, split ▸ join_append (List.append_ne_nil_of_right_ne_nil between (List.cons_ne_nil _ []))⟩

/-- Where ignore patterns end in stars, going down into ignored directories finds nothing more. -/
theorem finds_eq_findsUnpruned (starred : ∀ pattern ∈ scope.ignore, Ignore.IsStarred pattern) :
    scope.finds = scope.findsUnpruned := by
  funext pieces above below
  rw [Bool.eq_iff_iff]
  simp only [finds, findsUnpruned, Bool.and_eq_true, Bool.not_eq_true', descends_unignored_iff]
  rw [descends_iff]
  constructor
  · rintro ⟨⟨⟨within, -⟩, matched⟩, kept⟩
    exact ⟨⟨within, matched⟩, kept⟩
  · rintro ⟨⟨within, matched⟩, kept⟩
    refine ⟨⟨⟨within, fun way descended begins => ?_⟩, matched⟩, kept⟩
    have nonempty : below ≠ [] := by
      rintro rfl
      exact descended (List.prefix_nil.1 begins)
    -- A directory on the way that is covered would take the file with it.
    obtain ⟨more, below_directory⟩ := exists_join_eq above begins nonempty
    refine Bool.eq_false_iff.2 fun covered => ?_
    have file := Ignore.goesOn_covers starred _ more covered
    rw [← below_directory, kept] at file
    cases file

end Scope

namespace Discovery

/-- The files that one pattern matches, from a search that enters every directory within the limit. -/
def searchUnpruned (tree : FileTree) (scope : Scope) (pattern : Text) :
    Except Failure (List Path) := do
  let (start, rest) := Glob.split pattern scope.root.normalize
  let pieces ← (Glob.compile rest).mapError .pattern
  if FileTree.hasNull start then throw .nullCharacter
  if !tree.isDirectory start then return []
  let found := (tree.filesBelow start.names).filter (scope.findsUnpruned pieces (scope.above start))
  return found.map start.extend

/-- The files that any of the patterns matches, from such searches. -/
def findUnpruned (tree : FileTree) (scope : Scope) (patterns : List Text) :
    Except Failure (List Path) :=
  return Ascending.ofList (← patterns.mapM (searchUnpruned tree scope)).flatten

/-- Where every ignore pattern ends in a star, not entering ignored directories loses nothing: a search
that enters them, and leaves out ignored files only, finds the same. -/
theorem find_eq_findUnpruned (tree : FileTree) (scope : Scope) (patterns : List Text)
    (starred : ∀ pattern ∈ scope.ignore, Ignore.IsStarred pattern) :
    find tree scope patterns = findUnpruned tree scope patterns := by
  have same : search tree scope = searchUnpruned tree scope := by
    funext pattern
    unfold search searchUnpruned
    rw [Scope.finds_eq_findsUnpruned starred]
  rw [find, findUnpruned, same]

/-- A tree with dependencies at two levels. -/
def vendored : FileTree :=
  ⟨[(["proj"], .directory), (["proj", "docs"], .directory),
    (["proj", "docs", "node_modules"], .directory), (["proj", "node_modules"], .directory),
    (["proj", "docs", "c.md"], .file []), (["proj", "docs", "node_modules", "b.md"], .file []),
    (["proj", "node_modules", "a.md"], .file [])], []⟩

/-- Of a tree with dependencies, either search finds the one file that lies outside of them. -/
theorem find_eq_findUnpruned_vendored :
    let scope : Scope := ⟨.ofText "/proj", Settings.default.ignore, 8⟩
    (∀ pattern ∈ scope.ignore, Ignore.IsStarred pattern) ∧
      find vendored scope ["**/*.md"] = findUnpruned vendored scope ["**/*.md"] ∧
      find vendored scope ["**/*.md"] = .ok [.ofText "/proj/docs/c.md"] := by
  intro scope
  have starred : ∀ pattern ∈ scope.ignore, Ignore.IsStarred pattern := by decide +kernel
  exact ⟨starred, find_eq_findUnpruned vendored scope ["**/*.md"] starred, by decide +kernel⟩

/-- A pattern that names a directory only keeps the search from files that it does not cover. -/
example :
    let scope : Scope := ⟨.ofText "/proj", ["docs/"], 8⟩
    find vendored scope ["docs/c.md", "**/c.md"] = .ok [.ofText "/proj/docs/c.md"] ∧
      find vendored scope ["**/c.md"] ≠ findUnpruned vendored scope ["**/c.md"] := by
  decide +kernel

end Discovery

end DocWeave
