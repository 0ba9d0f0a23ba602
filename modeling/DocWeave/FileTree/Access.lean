import DocWeave.Failure

/-! # Reading and changing file trees

Each operation gives its result or a failure together with the tree it leaves behind: a failing
operation may have done part of its work.
-/

namespace DocWeave.FileTree

/-- The failure of a path. -/
def refuse (cause : FileCause) (path : Path) : Failure := .file ⟨cause, path.toText⟩

/-- The longest path, in bytes, that the file system takes. -/
def pathLimit : Nat := 4095

/-- The location that a path leads to when it is used, or why it leads nowhere. -/
def reach (tree : FileTree) (path : Path) : Except Failure Location :=
  if hasNull path then .error .nullCharacter
  else if pathLimit < byteLength path.toText then .error (refuse .nameTooLong path)
  else (tree.locate path).mapError fun cause => refuse cause path

/-- The bytes of the file that a path leads to. -/
def readBytes (tree : FileTree) (path : Path) : Except Failure (List UInt8) := do
  match tree.node? (← tree.reach path) with
  | some (.file bytes) => .ok bytes
  | some .directory => .error (refuse .isDirectory path)
  | none => .error (refuse .notFound path)

/-- The text of the file that a path leads to, read in the encoding of a name, with its line
endings unified. -/
def readText (tree : FileTree) (encoding : Text) (path : Path) : Except Failure Text := do
  let bytes ← tree.readBytes path
  match Encoding.ofName? encoding with
  | none => .error (.unknownEncoding encoding)
  | some encoding =>
    match Codec.decode encoding bytes with
    | .ok text => .ok text.unifyLineEndings
    | .error fault => .error (.decode fault)

/-- Makes one directory, in a directory that is there. -/
def makeDirectory (tree : FileTree) (path : Path) : Except Failure FileTree := do
  let location ← tree.reach path
  if path.names.getLast? = some parentStep ∨ (tree.node? location).isSome then
    .error (refuse .exists path)
  else .ok (tree.set location .directory)

/-- Makes a directory and the ones above it where they are missing; `depth` bounds how many. What
is a directory already is left alone. -/
def makeDirectories : (depth : Nat) → FileTree → Path → Except Failure Unit × FileTree
  | depth, tree, path =>
    match tree.makeDirectory path with
    | .ok made => (.ok (), made)
    | .error (.file fault) =>
      if fault.cause = .notFound then
        match depth with
        | 0 => (.error (.file fault), tree)
        | depth + 1 =>
          match makeDirectories depth tree path.parent with
          | (.error failure, left) => (.error failure, left)
          | (.ok (), grown) =>
            match grown.makeDirectory path with
            | .ok made => (.ok (), made)
            | .error (.file fault) =>
              if fault.cause ≠ .notFound ∧ grown.isDirectory path then (.ok (), grown)
              else (.error (.file fault), grown)
            | .error failure => (.error failure, grown)
      else if tree.isDirectory path then (.ok (), tree)
      else (.error (.file fault), tree)
    | .error failure => (.error failure, tree)

/-- Makes a directory and all that are missing above it. -/
def ensureDirectory (tree : FileTree) (path : Path) : Except Failure Unit × FileTree :=
  tree.makeDirectories path.names.length path

/-- The bytes of a text in the encoding of a name. -/
def encodeText (encoding text : Text) : Except Failure (List UInt8) :=
  match Encoding.ofName? encoding with
  | none => .error (.unknownEncoding encoding)
  | some encoding => (Codec.encode encoding text).mapError .encode

/-- Writes a file that may be there already. -/
def writeBytes (tree : FileTree) (path : Path) (bytes : List UInt8) : Except Failure FileTree := do
  let location ← tree.reach path
  if tree.node? location = some .directory then .error (refuse .isDirectory path)
  else .ok (tree.set location (.file bytes))

/-- Writes a text to a file that may be there already. The file is emptied first, so that a text
that cannot be encoded leaves it empty. -/
def writeText (tree : FileTree) (encoding : Text) (path : Path) (text : Text) :
    Except Failure Unit × FileTree :=
  let encoded := encodeText encoding text
  match tree.writeBytes path (encoded.toOption.getD []) with
  | .error failure => (.error failure, tree)
  | .ok left => (encoded.map fun _ => (), left)

/-- Removes a file. -/
def remove (tree : FileTree) (path : Path) : Except Failure FileTree := do
  let location ← tree.reach path
  match tree.node? location with
  | none => .error (refuse .notFound path)
  | some .directory => .error (refuse .isDirectory path)
  | some (.file _) =>
    if tree.locked.contains location then .error (refuse .notPermitted path)
    else .ok (tree.erase location)

/-- What a path leads to. Only a name that is too long is a failure; a path that leads nowhere
leads to nothing. -/
def status (tree : FileTree) (path : Path) : Except Failure (Option Node) :=
  match tree.reach path with
  | .ok location => .ok (tree.node? location)
  | .error (.file fault) =>
    if fault.cause = .nameTooLong then .error (.file fault) else .ok none
  | .error _ => .ok none

end DocWeave.FileTree
