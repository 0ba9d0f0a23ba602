import DocWeave.Diagnostic
import DocWeave.Discovery
import DocWeave.Outcome

/-! # Changes to the file tree

Writing puts files into the tree one after another and stops at the first that cannot be written.
Deleting removes every file that patterns match; one that cannot be removed is reported and left.
Both say what they do as they go.
-/

namespace DocWeave

/-- What a change has to say: how far it is, or what it could not do. -/
inductive Notice where
  | progress (message : Text)
  | report (report : Report)
  deriving DecidableEq, Repr

namespace Sink

/-- The sink after a notice, and what the notice writes to the log. -/
def notice (sink : Sink) : Notice → Sink × List LogEntry
  | .progress message => (sink, sink.progress message)
  | .report report => sink.take [report]

/-- The sink after notices, and what they write to the log. -/
def notices (sink : Sink) : List Notice → Sink × List LogEntry
  | [] => (sink, [])
  | first :: rest =>
    let (next, entries) := sink.notice first
    let (last, more) := next.notices rest
    (last, entries ++ more)

end Sink

/-- What a change has done: the tree it leaves, the paths that it changed and what it said. -/
structure Change where
  tree : FileTree
  paths : List Path
  notices : List Notice

namespace Change

/-- Where a file is written: as given when its path is absolute, else below the output root. -/
def destination (outputRoot : Path) (file : OutputFile) : Path :=
  let path := Path.ofText file.path
  if path.isAbsolute then path else (outputRoot.join path).normalize

/-- Writes one file, with the directories above it. -/
def writeOne (encoding : Text) (tree : FileTree) (path : Path) (content : Text) :
    Except Failure Unit × FileTree :=
  match tree.ensureDirectory path.parent with
  | (.ok (), grown) => grown.writeText encoding path content
  | refused => refused

/-- Writes files in order. The failure of one is what the writing ends with. -/
def write (encoding : Text) (outputRoot : Path) (tree : FileTree) :
    List OutputFile → Change × Except Failure Unit
  | [] => (⟨tree, [], []⟩, .ok ())
  | file :: rest =>
    let path := destination outputRoot file
    let notice := Notice.progress ("Writing file: " ++ path.toText)
    match writeOne encoding tree path file.content with
    | (.error failure, left) => (⟨left, [], [notice]⟩, .error failure)
    | (.ok (), left) =>
      let (later, outcome) := write encoding outputRoot left rest
      (⟨later.tree, path :: later.paths, notice :: later.notices⟩, outcome)

/-- The report of a file that cannot be removed. -/
def failedRemoval (path : Path) (failure : Failure) : Report :=
  .error .deleteFailure
    ("Failed to delete: " ++ path.toText ++ " (" ++ failure.message ++ ")") (some path.toText)

/-- Removes files in order. -/
def remove (tree : FileTree) : List Path → Change
  | [] => ⟨tree, [], []⟩
  | path :: rest =>
    match tree.remove path with
    | .error failure =>
      let later := remove tree rest
      { later with notices := .report (failedRemoval path failure) :: later.notices }
    | .ok left =>
      let later := remove left rest
      ⟨later.tree, path :: later.paths,
        .progress ("  - Deleted: " ++ path.toText) :: later.notices⟩

/-- Deletion looks everywhere below the root, so deep that no tree reaches the limit. -/
def everywhere (root : Path) : Scope := ⟨root, [], 65536⟩

/-- The files that patterns match which a callback gave; a pattern has to be a text. -/
def targets (tree : FileTree) (root : Path) (patterns : List Json) : Except Failure (List Path) :=
  return Ascending.ofList (← patterns.mapM fun
    | .text pattern => Discovery.search tree (everywhere root) pattern
    | other => throw (.shape (.noAttribute other.typeName "replace"))).flatten

/-- Deletes every file that patterns match. -/
def delete (root : Path) (tree : FileTree) (patterns : List Json) : Except Failure Change := do
  match ← targets tree root patterns with
  | [] => return ⟨tree, [], []⟩
  | found =>
    let change := remove tree found
    let announcement := "Deleting " ++ Text.ofNat found.length ++ " files..."
    return { change with notices := .progress announcement :: change.notices }

end Change

end DocWeave
