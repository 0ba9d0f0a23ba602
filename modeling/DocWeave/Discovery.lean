import DocWeave.Ascending
import DocWeave.FileTree.Access
import DocWeave.Glob.Ignore
import DocWeave.Glob.Split

/-! # Discovery

Discovery lists the files that patterns match. A search starts at the directory that the fixed
part of a pattern names and goes down from there, but not into directories that are ignored or too
deep. Depth and ignore patterns count from the root of the search when it starts inside it, and
from its own start otherwise. The result is a set in the order of paths.
-/

namespace DocWeave

/-- Where discovery looks and what keeps it out. -/
structure Scope where
  root : Path
  /-- The patterns of what is never found. -/
  ignore : List Text
  /-- How many directories below the root a file may be. -/
  maxDepth : Int

namespace Scope

/-- The names of a directory, each followed by a slash. -/
def slashed (names : List Text) : Text := names.flatMap fun name => name ++ "/"

/-- Whether a search in the directory `above` goes on down through `below`. -/
def descends (scope : Scope) (above : List Text) : List Text → Bool
  | [] => true
  | name :: rest =>
    decide ((above.length : Int) < scope.maxDepth) &&
      !Ignore.covers scope.ignore (slashed (above ++ [name])) &&
      scope.descends (above ++ [name]) rest

/-- Whether a file is found that a search in the directory `above` meets at `below`. -/
def finds (scope : Scope) (pieces : List Glob.Piece) (above below : List Text) : Bool :=
  scope.descends above below.dropLast && Glob.accepts pieces (Text.join "/" below) &&
    !Ignore.covers scope.ignore (Text.join "/" (above ++ below))

/-- The directories between the root and the start of a search, none when it starts elsewhere. -/
def above (scope : Scope) (start : Path) : List Text :=
  let root := scope.root.normalize
  if root.isAbove start then start.names.drop root.names.length else []

end Scope

namespace FileTree

/-- The locations of the files below a directory, as seen from it. Every directory on the way down is
read; trees with a directory whose path is longer than a path may be, which could not be read, are
left out. -/
def filesBelow (tree : FileTree) (directory : Location) : List Location :=
  tree.files.filterMap fun location =>
    if directory.isPrefixOf location then some (location.drop directory.length) else none

end FileTree

namespace Discovery

/-- The files that one pattern matches, in a tree whose directories can all be read. -/
def search (tree : FileTree) (scope : Scope) (pattern : Text) : Except Failure (List Path) := do
  let (start, rest) := Glob.split pattern scope.root.normalize
  let pieces ← (Glob.compile rest).mapError .pattern
  if FileTree.hasNull start then throw .nullCharacter
  if !tree.isDirectory start then return []
  let found := (tree.filesBelow start.names).filter (scope.finds pieces (scope.above start))
  return found.map start.extend

/-- The files that any of the patterns matches, in order. -/
def find (tree : FileTree) (scope : Scope) (patterns : List Text) : Except Failure (List Path) :=
  return Ascending.ofList (← patterns.mapM (search tree scope)).flatten

/-- Files by the directory that they are in, in the order in which the directories are met. -/
def byDirectory (paths : List Path) : List (Path × List Path) :=
  (paths.map Path.parent).eraseDups.map fun directory =>
    (directory, paths.filter fun path => path.parent = directory)

end Discovery

end DocWeave
