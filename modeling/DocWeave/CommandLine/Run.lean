import DocWeave.CommandLine.Arguments
import DocWeave.ConfigFile
import DocWeave.Project.Run

/-! # The command line

The command line prepares the directories, finds and loads the configuration, runs the project and
reports. Each step either passes what it has found out on to the next or ends the command with an
exit status and a line on the error output; what happened until then stays. A failure that no step
foresees ends the command as well, and is left to whoever runs it.
-/

namespace DocWeave.CommandLine

/-- How a command ends. -/
structure Exit where
  status : Nat
  output : Text
  errors : Text
  deriving DecidableEq, Repr

namespace Exit

/-- The command has done what it was asked for. -/
def success : Exit := ⟨0, [], []⟩

/-- The command ends early with a line on the error output. -/
def failure (message : Text) : Exit := ⟨1, [], message ++ "\n"⟩

/-- The arguments break the rules. -/
def usage : Exit := ⟨2, [], []⟩

end Exit

/-- What keeps a step from leading to the next. -/
inductive Ending where
  | exit (exit : Exit)
  /-- What a step executes ends the command itself. -/
  | quit (exit : Exit)
  /-- A failure that the step does not foresee. -/
  | failure (failure : Failure)
  deriving DecidableEq

/-- The exit status that a command leaves behind. -/
def exitStatus : Except Ending Exit → Nat
  | .ok exit => exit.status
  | .error (.exit exit) => exit.status
  | .error (.quit exit) => exit.status
  | .error (.failure _) => 1

/-- A step of a command, on the session. -/
abbrev Step := ExceptT Ending (StateM Session)

/-- Where a command runs. -/
structure Surroundings where
  /-- The current directory. -/
  current : Path
  settings : Settings
  execute : Executor
  /-- How deep reads may be requested from within reads. -/
  nesting : Nat

/-- What the steps of a run pass on. -/
structure Progress where
  inputDirectory : Path
  outputDirectory : Path
  verbosity : Int
  /-- The configuration file as it is asked for. -/
  configFile : Text
  /-- Whether the surroundings have been checked. -/
  isChecked : Bool
  /-- Where the configuration file is. -/
  configPath : Path
  /-- The configuration, once it is loaded. -/
  config : Option Config
  /-- What the run says, once it has ended well. -/
  summary : Option Summary

namespace Progress

/-- Nothing is known but the directories. -/
def start (inputDirectory outputDirectory : Path) : Progress :=
  ⟨inputDirectory, outputDirectory, 1, [], false, Path.root, none, none⟩

/-- Where the configuration file is looked for. -/
def configSought (p : Progress) : Path := p.inputDirectory.join (Path.ofText p.configFile)

/-- The project that a configuration makes of the directories. -/
def project (env : Surroundings) (p : Progress) (config : Config) : Project :=
  Project.ofPaths env.settings config (Path.normalizeFrom env.current p.inputDirectory)
    (some (Path.normalizeFrom env.current p.outputDirectory)) env.nesting

end Progress

/-- The name and the version of the program. -/
def versionLine : Text := "content-factory 1.0.0\n"

/-- The title that a talkative run begins with. -/
def title : Text := Text.join "\n" [
  "",
  "                 _             _        __            _",
  "  ___ ___  _ __ | |_ ___ _ __ | |_     / _| __ _  ___| |_ ___  _ __ _   _",
  " / __/ _ \\| '_ \\| __/ _ \\ '_ \\| __|___| |_ / _` |/ __| __/ _ \\| '__| | | |",
  "| (_| (_) | | | | ||  __/ | | | ||_____|  _| (_| | (__| || (_) | |  | |_| |",
  " \\___\\___/|_| |_|\\__\\___|_| |_|\\__|    |_|  \\__,_|\\___|\\__\\___/|_|   \\__, |",
  "                                                                     |___/",
  "  One annotated source, many tool-specific documents",
  ""]

namespace Step

/-- A remark to whoever watches. -/
def remark (level : Int) (message : Text) : Step Unit := modify fun s => s.remark level message

/-- What work on the session ends with. -/
def attempt {α : Type} (work : Work α) : Step (Except Failure α) := fun session =>
  let (outcome, after) := work.run session
  (.ok outcome, after)

/-- Ends the command. -/
def exit {α : Type} (exit : Exit) : Step α := throw (.exit exit)

/-- The result of something that must not fail. -/
def ofOutcome {α : Type} : Except Failure α → Step α
  | .ok value => pure value
  | .error failure => throw (.failure failure)

/-- What a path leads to, seen from the current directory. -/
def status (env : Surroundings) (path : Path) : Step (Option Node) := do
  ofOutcome ((← get).tree.status (env.current.join path))

/-- Makes a directory where there is none. -/
def ensureDirectory (env : Surroundings) (path : Path) : Step Unit := do
  let (outcome, left) := (← get).tree.ensureDirectory (env.current.join path)
  modify fun s => { s with tree := left }
  ofOutcome outcome

/-- The end of a command that is given something else than a directory. -/
def notDirectory (path : Path) : Exit := .failure ("Not a directory: " ++ path.toText)

/-- Makes the output directory and checks the input directory. -/
def prepareDirectories (env : Surroundings) (p : Progress) : Step Unit := do
  match ← status env p.outputDirectory with
  | some .directory => pure ()
  | some (.file _) => exit (notDirectory p.outputDirectory)
  | none => ensureDirectory env p.outputDirectory
  match ← status env p.inputDirectory with
  | some .directory => return
  | _ => exit (notDirectory p.inputDirectory)

/-- The end of a command that finds no configuration file. -/
def noConfig (p : Progress) : Exit :=
  .failure ("Error: Config file not found: " ++ p.configSought.toText)

/-- Finds the configuration file and makes sure of the output directory. -/
def checkSurroundings (env : Surroundings) (p : Progress) : Step Progress := do
  remark 2 title
  remark 2 "Checking environment..."
  if (← status env p.configSought).isNone then exit (noConfig p)
  remark 2 ("Config file: " ++ p.configSought.toText)
  ensureDirectory env p.outputDirectory
  remark 2 ("Output directory: " ++ p.outputDirectory.toText)
  return { p with configPath := p.configSought, isChecked := true }

/-- How a command ends that cannot load its configuration. -/
def failedLoad : LoadFailure → Ending
  | .unforeseen failure => .failure failure
  | .quits status errors => .quit ⟨status, [], errors⟩
  | other => .exit (.failure ("Error: " ++ other.message))

/-- Loads the configuration; the session goes on with the tree that loading leaves. -/
def loadConfig (env : Surroundings) (p : Progress) : Step Progress := do
  remark 1 "Loading configuration..."
  let (loaded, left) := ConfigFile.load (← get).tree env.execute
    (Path.normalizeFrom env.current p.configPath)
  modify fun s => { s with tree := left }
  match loaded with
  | .error failure => throw (failedLoad failure)
  | .ok config =>
    remark 2 ("Loaded " ++ Text.ofNat config.tools.length ++ " tools")
    return { p with config := some config }

/-- The end of a command whose run fails. -/
def failedRun : Failure → Exit
  | .cycle cycle => .failure ("Error: " ++ cycle.message)
  | other => .failure ("Generation error: " ++ other.message)

/-- Runs the project. -/
def runProject (env : Surroundings) (p : Progress) : Step Progress := do
  remark 1 "Generating tool documents..."
  match p.config with
  | none => exit (failedRun (.shape (.noAttribute "NoneType" "pipelines")))
  | some config =>
    let project := p.project env config
    modify fun s => { s with sink := project.sink (2 ≤ p.verbosity) }
    match ← attempt project.run with
    | .ok summary => return { p with summary := some summary }
    | .error failure => exit (failedRun failure)

/-- The end of a command that comes to its report without a run. -/
def noRun : Exit := .failure "Error: Generation failed"

/-- The lines of the report on a run, with their levels. -/
def reportLines (tools written : List Text) (diagnostics : Nat) : List (Int × Text) :=
  let heading : List Text := [
    "\n✓ Generation complete!",
    "  Tools: " ++ Text.join ", " tools,
    "  Files written: " ++ Text.ofNat written.length,
    "  Warnings: " ++ Text.ofNat diagnostics]
  let listing : List Text := written.map fun path => "    " ++ path
  heading.map (fun line => (1, line)) ++ listing.map fun line => (2, line)

/-- Reports on a run, unless nobody is to be told anything. -/
def report (p : Progress) (tools written : List Text) (diagnostics : Nat) : Step Unit := do
  if 1 ≤ p.verbosity then
    (reportLines tools written diagnostics).forM fun (level, line) => remark level line

/-- Reports on the run that there has been. -/
def reportRun (p : Progress) : Step Progress :=
  match p.summary with
  | none => exit noRun
  | some summary => do
    report p summary.tools (summary.written.map Path.toText) summary.diagnostics
    return p

/-- The steps of a run, in order. -/
def stages (env : Surroundings) : List (Progress → Step Progress) :=
  [checkSurroundings env, loadConfig env, runProject env, reportRun]

/-- A run whose directories are prepared. -/
def generate (env : Surroundings) (p : Progress) : Step Exit := do
  modify fun s => { s with verbosity := some p.verbosity }
  let _ ← (stages env).foldlM (fun progress stage => stage progress) p
  return .success

/-- A run from its arguments to its report. -/
def all (env : Surroundings) (inputDirectory outputDirectory configFile : Text) (verbosity : Nat) :
    Step Exit := do
  let start := { Progress.start (Path.ofText inputDirectory) (Path.ofText outputDirectory) with
    verbosity, configFile }
  prepareDirectories env start
  generate env start

end Step

/-- How a command ends, unless a failure ends it, and the session it leaves. -/
def run (env : Surroundings) (tree : FileTree) (arguments : List Text) :
    Except Failure Exit × Session :=
  let session := Session.start tree (.echoing false) none
  match read arguments with
  | none => (.ok .usage, session)
  | some .version => (.ok { Exit.success with output := versionLine }, session)
  | some .help => (.ok .success, session)
  | some .nowhere => (.error (.shape (.notPath "list")), session)
  | some (.run inputDirectory outputDirectory configFile verbosity) =>
    match (Step.all env inputDirectory outputDirectory configFile verbosity).run session with
    | (.ok exit, after) => (.ok exit, after)
    | (.error (.exit exit), after) => (.ok exit, after)
    | (.error (.quit exit), after) => (.ok exit, after)
    | (.error (.failure failure), after) => (.error failure, after)

end DocWeave.CommandLine
