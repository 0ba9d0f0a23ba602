import DocWeave.Change
import DocWeave.Document

/-! # Sessions

A session is the state that runs of a project work on: the file tree, the sink of diagnostics, the
log, what has been written, and which callbacks have been called with what. Work changes the
session and ends with a result or a failure; a failure undoes nothing.
-/

namespace DocWeave

/-- A callback that has been called. -/
inductive Call where
  | transform (tool strategy : Text) (directory root : Path) (files : List SourceFile)
  | finish (tool : Text) (metadata : List Json)

/-- The state of runs of a project. -/
structure Session where
  tree : FileTree
  sink : Sink
  log : List LogEntry
  /-- The verbosity of whoever watches the log, if somebody does. -/
  verbosity : Option Int
  /-- Every path written, in order. -/
  written : List Path
  calls : List Call

/-- Work on a session. -/
abbrev Work := ExceptT Failure (StateM Session)

namespace Session

/-- A session that nothing has happened in. -/
def start (tree : FileTree) (sink : Sink) (verbosity : Option Int) : Session :=
  ⟨tree, sink, [], verbosity, [], []⟩

/-- The session after a remark to whoever watches. -/
def remark (session : Session) (level : Int) (message : Text) : Session :=
  { session with log := session.log ++ LogEntry.remark session.verbosity level message }

/-- The session after notices to the sink. -/
def notices (session : Session) (notices : List Notice) : Session :=
  let (sink, entries) := session.sink.notices notices
  { session with sink := sink, log := session.log ++ entries }

/-- The session after a change to its tree and what the change says. -/
def change (session : Session) (change : Change) : Session :=
  { session with tree := change.tree }.notices change.notices

end Session

namespace Work

variable {α : Type}

/-- The result or the failure of something that leaves the session alone. -/
def ofOutcome (outcome : Except Failure α) : Work α := fun session => (outcome, session)

/-- A remark to whoever watches. -/
def remark (level : Int) (message : Text) : Work Unit := modify fun s => s.remark level message

/-- A progress message. -/
def progress (message : Text) : Work Unit := modify fun s => s.notices [.progress message]

/-- A report. -/
def report (report : Report) : Work Unit := modify fun s => s.notices [.report report]

/-- What a trace ends with, after its reports. -/
def observe (trace : Trace α) : Work α := fun session =>
  (trace.outcome, session.notices (trace.reports.map .report))

/-- The work with its failure as a result. -/
def attempt (work : Work α) : Work (Except Failure α) := fun session =>
  let (outcome, after) := work session
  (.ok outcome, after)

/-- A callback is called. -/
def call (call : Call) : Work Unit := modify fun s => { s with calls := s.calls ++ [call] }

/-- A change to the session's tree. -/
def change (change : Change) : Work Unit := modify fun s => s.change change

end Work

end DocWeave
