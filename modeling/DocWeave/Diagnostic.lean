import DocWeave.Text.Basic

/-! # Diagnostics

What the library reports without giving up a document: the kinds of conditions, a diagnostic as
one occurrence of a condition, and a sink that keeps the diagnostics and passes them on to a log.
A sink that echoes writes every report to the log; progress messages appear only when the sink is
verbose as well.
-/

namespace DocWeave

/-- The conditions that are reported. -/
inductive Condition where
  | missingIncludedFile
  | unknownPipelineStage
  | pipelineStageFailure
  | unclosedFilterTag
  | circularDependency
  | transformFailure
  | onFinishFailure
  | deleteFailure
  deriving DecidableEq, Repr

namespace Condition

/-- Every condition. -/
def all : List Condition :=
  [missingIncludedFile, unknownPipelineStage, pipelineStageFailure, unclosedFilterTag,
    circularDependency, transformFailure, onFinishFailure, deleteFailure]

/-- The label that a condition is reported under. -/
def label : Condition → Text
  | missingIncludedFile => "missing-included-file"
  | unknownPipelineStage => "unknown-pipeline-stage"
  | pipelineStageFailure => "pipeline-stage-failure"
  | unclosedFilterTag => "unclosed-filter-tag"
  | circularDependency => "circular-dependency"
  | transformFailure => "transform-failure"
  | onFinishFailure => "on-finish-failure"
  | deleteFailure => "delete-failure"

/-- The condition that a label stands for. -/
def ofLabel? (text : Text) : Option Condition := all.find? fun c => c.label == text

end Condition

/-- One occurrence of a condition, with the path it concerns when there is one. -/
structure Diagnostic where
  condition : Condition
  message : Text
  path : Option Text
  deriving DecidableEq, Repr

/-- How grave a report is. -/
inductive Severity where
  | warning
  | error
  deriving DecidableEq, Repr

/-- A diagnostic on its way to a sink. -/
structure Report where
  severity : Severity
  diagnostic : Diagnostic
  deriving DecidableEq, Repr

/-- A report of an occurrence that leaves nothing undone. -/
def Report.warning (condition : Condition) (message : Text) : Report :=
  ⟨.warning, ⟨condition, message, none⟩⟩

/-- A report of something that could not be done. -/
def Report.error (condition : Condition) (message : Text) (path : Option Text) : Report :=
  ⟨.error, ⟨condition, message, path⟩⟩

/-- The levels of log entries. -/
inductive Level where
  | debug
  | info
  | warning
  | error
  deriving DecidableEq, Repr

/-- A line of the log, with the condition that it reports if it reports one. -/
structure LogEntry where
  level : Level
  message : Text
  condition : Option Condition
  deriving DecidableEq, Repr

/-- A log line for whoever watches the program at this `verbosity`; nobody does when it is
`none`. -/
def LogEntry.remark (verbosity : Option Int) (level : Int) (message : Text) : List LogEntry :=
  match verbosity with
  | none => []
  | some verbosity => if level ≤ verbosity then [⟨.debug, message, none⟩] else []

/-- The log line of a report. -/
def Report.logEntry (r : Report) : LogEntry :=
  ⟨match r.severity with | .warning => .warning | .error => .error,
    r.diagnostic.message, some r.diagnostic.condition⟩

/-- Where reports and progress messages go. -/
structure Sink where
  echo : Bool
  verbose : Bool
  records : List Diagnostic
  deriving DecidableEq, Repr

namespace Sink

/-- A sink that echoes and has no records yet. -/
def echoing (verbose : Bool) : Sink := ⟨true, verbose, []⟩

/-- The sink with the reports recorded, in order, and what they write to the log. -/
def take (sink : Sink) (reports : List Report) : Sink × List LogEntry :=
  ({ sink with records := sink.records ++ reports.map Report.diagnostic },
    if sink.echo then reports.map Report.logEntry else [])

/-- What a progress message writes to the log. -/
def progress (sink : Sink) (message : Text) : List LogEntry :=
  if sink.echo && sink.verbose then [⟨.info, message, none⟩] else []

/-- The records of one condition, in the order of the reports. -/
def ofCondition (sink : Sink) (condition : Condition) : List Diagnostic :=
  sink.records.filter fun d => d.condition = condition

/-- The sink without records. -/
def clear (sink : Sink) : Sink := { sink with records := [] }

end Sink

end DocWeave
