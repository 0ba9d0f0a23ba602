import DocWeave.Project.Basic
import DocWeave.Project.Session

/-! # Runs

A run goes through the tools of a project in order. For each strategy it discovers files, groups
them by directory, resolves each directory's files and hands them to the transform, and then
writes and deletes what the transform asks for. A callback that fails is reported and passed over;
a document that cannot be read or resolved ends the run.
-/

namespace DocWeave

/-- What a run that ends well says. -/
structure Summary where
  tools : List Text
  /-- Every path written in the session, in order. -/
  written : List Path
  /-- How many diagnostics the session has. -/
  diagnostics : Nat
  deriving DecidableEq

namespace Project

variable (p : Project)

/-- The resolution of a document, with a report of the cycle if it ends in one. -/
def reportingCycle (path : Path) (resolved : Trace Text) : Trace Text :=
  match resolved.outcome with
  | .error (.cycle cycle) =>
    let report := Report.error .circularDependency cycle.message (some path.toText)
    { resolved with events := resolved.events ++ [.reported report] }
  | _ => resolved

/-- A discovered document, read and resolved; a cycle is reported before it ends the run. -/
def prepare (tool strategy : Text) (path : Path) : Work SourceFile := do
  let tree := (← get).tree
  let raw ← Work.ofOutcome (tree.readText p.settings.encoding path)
  let content ← Work.observe (reportingCycle path
    (p.resolve tree (p.library tree) tool strategy path raw))
  return SourceFile.ofContent p.root path content

/-- Runs a callback with the documents as they are now. -/
def perform (callback : Program Returned) : Work Returned := do
  Work.observe (callback.run (p.library (← get).tree))

/-- Writes files below the output root; they count as written once all of them are. -/
def writeFiles (files : List OutputFile) : Work Unit := do
  if files.isEmpty then return
  let (change, outcome) :=
    Change.write p.settings.encoding p.outputRoot (← get).tree files
  Work.change change
  Work.ofOutcome outcome
  modify fun s => { s with written := s.written ++ change.paths }

/-- Deletes the files below the output root that patterns match. -/
def deleteFiles (patterns : List Json) : Work Unit := do
  if patterns.isEmpty then return
  Work.change (← Work.ofOutcome (Change.delete p.outputRoot (← get).tree patterns))

/-- Does what an outcome asks for. -/
def apply (outcome : Outcome) : Work Unit := do
  p.writeFiles outcome.files
  p.deleteFiles outcome.deletions

/-- Runs a callback, reads what it returns and does what it asks for; gives the metadata. -/
def handle (read : Returned → Except ShapeFault Outcome) (callback : Program Returned) :
    Work Json := do
  let returned ← p.perform callback
  let outcome ← Work.ofOutcome ((read returned).mapError .shape)
  p.apply outcome
  return outcome.metadata

/-- Handles a callback; one that fails is reported and leaves no metadata. -/
def settle (read : Returned → Except ShapeFault Outcome) (callback : Program Returned)
    (failed : Failure → Report) : Work Json := do
  match ← (p.handle read callback).attempt with
  | .ok metadata => return metadata
  | .error failure =>
    Work.report (failed failure)
    return .null

/-- The report of a transform that fails. -/
def failedTransform (strategy : Text) (directory : Path) (failure : Failure) : Report :=
  .error .transformFailure
    ("Error in strategy '" ++ strategy ++ "' at dir '" ++ directory.toText ++ "': " ++
      failure.message)
    (some directory.toText)

/-- Handles one directory of a strategy; gives the metadata if there is some. -/
def runBatch (tool : Text) (strategy : Strategy) (directory : Path) (paths : List Path) :
    Work (Option Json) := do
  let files ← paths.mapM (p.prepare tool strategy.name)
  Work.call (.transform tool strategy.name directory p.root files)
  let callback := strategy.transform ⟨directory, p.root, files⟩
  match ← p.settle Returned.read callback (failedTransform strategy.name directory) with
  | .null => return none
  | metadata => return some metadata

/-- The files that a strategy is about, as they are now. -/
def discover (tool : Text) (strategy : Strategy) : Work (List Path) := do
  Work.progress ("  > Strategy: " ++ strategy.name ++ " (" ++ tool ++ ")")
  let found ← Work.ofOutcome (Discovery.find (← get).tree p.scope strategy.patterns)
  Work.remark 2 (strategy.name ++ ": " ++ Text.ofNat found.length ++ " files matched")
  return found

/-- Runs one strategy of a tool; gives the metadata of its batches. -/
def runStrategy (tool : Text) (strategy : Strategy) : Work (List Json) := do
  let found ← p.discover tool strategy
  let metadata ← (Discovery.byDirectory found).mapM fun (directory, paths) =>
    p.runBatch tool strategy directory paths
  return metadata.filterMap id

/-- The report of a last step that fails. -/
def failedFinish (tool : Text) (failure : Failure) : Report :=
  .error .onFinishFailure ("Error in onFinish for tool '" ++ tool ++ "': " ++ failure.message) none

/-- Runs the last step of a tool and does what it asks for. -/
def runFinish (tool : Text) (finish : List Json → Program Returned) (metadata : List Json) :
    Work Unit := do
  Work.progress ("  > Finalizing " ++ tool ++ "...")
  Work.call (.finish tool metadata)
  let _ ← p.settle Returned.readFinish (finish metadata) (failedFinish tool)

/-- Runs one tool. -/
def runTool (tool : Tool) : Work Unit := do
  Work.progress ("Processing tool: " ++ tool.name)
  let metadata ← tool.strategies.mapM (p.runStrategy tool.name)
  match tool.finish with
  | none => return
  | some finish => p.runFinish tool.name finish metadata.flatten

/-- Runs every tool. -/
def run : Work Summary := do
  Work.progress ("Starting engine at " ++ p.root.toText ++ "...")
  let _ ← p.config.tools.mapM p.runTool
  Work.progress "Done."
  let session ← get
  return ⟨p.config.tools.map Tool.name, session.written, session.sink.records.length⟩

/-- The sink that a project's sessions report to: it shows progress when it is asked to, or when
the configuration or else the settings log progress. -/
def sink (verbose : Bool) : Sink :=
  .echoing (verbose || p.config.useLogs.getD p.settings.useLogs)

end Project

end DocWeave
