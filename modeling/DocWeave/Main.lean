import DocWeave.CommandLine.Run
import DocWeave.Recipe.Config
import DocWeave.Settings.Sources

/-! # The program

The program reads the directories that a command line names into a file tree, runs the command on
it, and brings the disk in line with the tree that the command leaves. It decides nothing itself.
A configuration file holds a description.
-/

namespace DocWeave.Main

/-- A location as the path that the operating system takes. -/
def spelled (location : Location) : String := String.ofList ('/' :: Text.join "/" location)

/-- The tree with everything that is on disk at a location and below it. -/
partial def readBelow (location : Location) (tree : FileTree) : IO FileTree := do
  let path := (← IO.currentDir) / spelled location
  if ← path.isDir then
    let mut grown := if location.isEmpty then tree else tree.plant location .directory
    for entry in ← path.readDir do
      grown ← readBelow (location ++ [entry.fileName.toList]) grown
    return grown
  else if ← path.pathExists then
    return tree.plant location (.file (← IO.FS.readBinFile path).toList)
  else return tree

/-- The directories that a command line is about. -/
def directories : Option CommandLine.Request → List Text
  | some (.run input output _ _) => [input, output]
  | _ => []

/-- The variables that set something. -/
def surroundings : IO Variables := do
  Settings.names.filterMapM fun name => do
    let full := (Settings.variablePrefix ++ name).map Char.toUpper
    return (← IO.getEnv (String.ofList full)).map fun value => (full, some value.toList)

/-- The text of the file of variables in the current directory. -/
def variableFile : IO (Option Text) := do
  let path := (← IO.currentDir) / ".env"
  if ← path.pathExists then return some (← IO.FS.readFile path).toList else return none

/-- Brings the disk from one tree to another. -/
def writeChanges (before after : FileTree) : IO Unit := do
  for location in before.files do
    if (after.node? location).isNone then IO.FS.removeFile (spelled location)
  for (location, node) in after.nodes do
    if before.node? location != some node then
      match node with
      | .directory => IO.FS.createDirAll (spelled location)
      | .file bytes =>
        IO.FS.createDirAll (spelled location.dropLast)
        IO.FS.writeBinFile (spelled location) ⟨bytes.toArray⟩

/-- The word for a level in the log. -/
def levelWord : Level → Text
  | .debug => "DEBUG"
  | .info => "INFO"
  | .warning => "WARNING"
  | .error => "ERROR"

/-- How deep a run of the program lets requested reads nest; no project comes near it unless its
requests never end. -/
def nesting : Nat := 300

/-- Runs a command in the current directory. -/
def run (settings : Settings) (arguments : List Text) : IO UInt32 := do
  let current := Path.ofText (← IO.currentDir).toString.toList
  let mut before := FileTree.empty.plant current.names .directory
  for directory in directories (CommandLine.read arguments) do
    before ← readBelow (Path.normalizeFrom current (Path.ofText directory)).names before
  let (outcome, session) :=
    CommandLine.run ⟨current, settings, Execution.ofFile, nesting⟩ before arguments
  writeChanges before session.tree
  for entry in session.log do
    IO.eprintln (String.ofList (levelWord entry.level ++ " " ++ entry.message))
  match outcome with
  | .ok exit =>
    IO.print (String.ofList exit.output)
    IO.eprint (String.ofList exit.errors)
  | .error failure => IO.eprintln (String.ofList failure.message)
  return (CommandLine.exitStatus (outcome.mapError .failure)).toUInt32

end DocWeave.Main

/-- Reads the settings and runs the command that the arguments ask for. -/
def main (arguments : List String) : IO UInt32 := do
  match DocWeave.Settings.ofSources (← DocWeave.Main.surroundings) (← DocWeave.Main.variableFile) with
  | .ok settings => DocWeave.Main.run settings (arguments.map String.toList)
  | .error failure =>
    IO.eprintln (String.ofList failure.message)
    return 1
