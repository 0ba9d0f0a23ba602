import DocWeave.Path.Basic
import DocWeave.Text.Quoted

/-! # File trees

A file tree maps locations to directories and files. A location is the list of names below the
root directory, which is always there. Some files may be locked against removal. Paths are walked
name by name: every name but the last has to lead to a directory, and a parent step leads back up.
-/

namespace DocWeave

/-- Names below the root directory, from the outermost. -/
abbrev Location := List Text

/-- What a location holds. -/
inductive Node where
  | directory
  | file (bytes : List UInt8)
  deriving DecidableEq, Repr

/-- Why the file system refuses something. -/
inductive FileCause where
  | notFound
  | notPermitted
  | exists
  | notDirectory
  | isDirectory
  | nameTooLong
  deriving DecidableEq, Repr

/-- A refusal and the path it is about. -/
structure FileFault where
  cause : FileCause
  path : Text
  deriving DecidableEq, Repr

namespace FileCause

/-- The number and the wording of a cause. -/
def description : FileCause → Text
  | notFound => "[Errno 2] No such file or directory"
  | notPermitted => "[Errno 13] Permission denied"
  | .exists => "[Errno 17] File exists"
  | notDirectory => "[Errno 20] Not a directory"
  | isDirectory => "[Errno 21] Is a directory"
  | nameTooLong => "[Errno 36] File name too long"

end FileCause

/-- The wording of a refusal. -/
def FileFault.message (f : FileFault) : Text := f.cause.description ++ ": " ++ f.path.quoted

/-- Directories and files by location, and the locations of files that cannot be removed. -/
structure FileTree where
  nodes : List (Location × Node)
  locked : List Location
  deriving Repr

namespace FileTree

/-- A tree with nothing but the root directory. -/
def empty : FileTree := ⟨[], []⟩

/-- What a location holds; nothing when it is `none`. -/
def node? (tree : FileTree) : Location → Option Node
  | [] => some .directory
  | location => tree.nodes.lookup location

/-- The tree with one location set. -/
def set (tree : FileTree) (location : Location) (node : Node) : FileTree :=
  { tree with nodes := (location, node) :: tree.nodes.filter fun entry => entry.1 != location }

/-- The tree without one location. -/
def erase (tree : FileTree) (location : Location) : FileTree :=
  { tree with nodes := tree.nodes.filter fun entry => entry.1 != location }

/-- The locations of the files. -/
def files (tree : FileTree) : List Location :=
  tree.nodes.filterMap fun
    | (location, .file _) => some location
    | (_, .directory) => none

/-- The most bytes that a name may have. -/
def nameLimit : Nat := 255

/-- How many bytes a text has on disk. -/
def byteLength (text : Text) : Nat := text.foldl (fun size c => size + c.utf8Size) 0

/-- Walks names from a location. -/
def walk (tree : FileTree) : Location → List Text → Except FileCause Location
  | location, [] => .ok location
  | location, name :: rest =>
    match tree.node? location with
    | none => .error .notFound
    | some (.file _) => .error .notDirectory
    | some .directory =>
      if name = parentStep then walk tree location.dropLast rest
      else if nameLimit < byteLength name then .error .nameTooLong
      else walk tree (location ++ [name]) rest

/-- Whether a path holds the null character, which no path can. -/
def hasNull (path : Path) : Bool := path.names.any fun name => name.contains '\x00'

/-- The location that a path leads to, whether or not something is there. -/
def locate (tree : FileTree) (path : Path) : Except FileCause Location := tree.walk [] path.names

/-- What a path leads to. -/
def find? (tree : FileTree) (path : Path) : Option Node :=
  match tree.locate path with
  | .ok location => tree.node? location
  | .error _ => none

/-- Whether a path leads to a directory. -/
def isDirectory (tree : FileTree) (path : Path) : Bool := tree.find? path == some .directory

/-- The tree with directories at every location above `location`. -/
def withParents (tree : FileTree) (location : Location) : FileTree :=
  (List.range location.length).foldl (fun grown length =>
    let above := location.take length
    if (grown.node? above).isSome then grown else grown.set above .directory) tree

/-- The tree with a node at a location and directories above it. -/
def plant (tree : FileTree) (location : Location) (node : Node) : FileTree :=
  (tree.withParents location).set location node

end FileTree

end DocWeave
