import DocWeave.Diagnostic
import DocWeave.Visitation

/-! # Traces

Resolving a document asks for other documents, enters and leaves them, and reports what it goes
on without. A trace holds these events in order, together with the result or the failure that the
work ends with. Failing does not undo events.
-/

namespace DocWeave

/-- Something that happens while a document is resolved. -/
inductive Event where
  | entered (path : Path)
  | left (path : Path)
  | asked (path : Path)
  | reported (report : Report)
  deriving DecidableEq

namespace Event

/-- The path asked for, if the event is a request. -/
def askedPath? : Event → Option Path
  | asked path => some path
  | _ => none

/-- The report, if the event is one. -/
def report? : Event → Option Report
  | reported report => some report
  | _ => none

/-- The step of the visitation, if the event is one. -/
def visit? : Event → Option Visitation.Step
  | entered path => some (.enter path)
  | left path => some (.leave path)
  | _ => none

end Event

/-- The events of some work and what it ends with. -/
structure Trace (α : Type) where
  events : List Event
  outcome : Except Failure α

namespace Trace

variable {α β : Type}

/-- Nothing happens. -/
def done (value : α) : Trace α := ⟨[], .ok value⟩

/-- Nothing happens but the failure. -/
def fail (failure : Failure) : Trace α := ⟨[], .error failure⟩

/-- Nothing happens; the outcome is given. -/
def ofOutcome (outcome : Except Failure α) : Trace α := ⟨[], outcome⟩

/-- One event after another. -/
def emit (events : List Event) : Trace Unit := ⟨events, .ok ()⟩

/-- Reports in order. -/
def tell (reports : List Report) : Trace Unit := emit (reports.map .reported)

/-- Goes on with the result; a failure ends the work. -/
def andThen (t : Trace α) (next : α → Trace β) : Trace β :=
  match t.outcome with
  | .ok value => let rest := next value; ⟨t.events ++ rest.events, rest.outcome⟩
  | .error failure => ⟨t.events, .error failure⟩

instance : Monad Trace where
  pure := done
  bind := andThen

/-- The work between entering and leaving a document, which it leaves however it ends. -/
def visiting (path : Path) (t : Trace α) : Trace α :=
  ⟨.entered path :: t.events ++ [.left path], t.outcome⟩

/-- The work with its failure as a result. -/
def attempt (t : Trace α) : Trace (Except Failure α) := ⟨t.events, .ok t.outcome⟩

/-- The work as seen from within another document: what it enters and leaves concerns only
itself. -/
def apart (t : Trace α) : Trace α := { t with events := t.events.filter fun e => e.visit?.isNone }

/-- The paths asked for, in order. -/
def asked (t : Trace α) : List Path := t.events.filterMap Event.askedPath?

/-- The reports, in order. -/
def reports (t : Trace α) : List Report := t.events.filterMap Event.report?

/-- The steps of the visitation, in order. -/
def visits (t : Trace α) : List Visitation.Step := t.events.filterMap Event.visit?

@[simp] theorem bind_eq (t : Trace α) (next : α → Trace β) : t >>= next = t.andThen next := rfl

@[simp] theorem pure_eq (value : α) : (pure value : Trace α) = done value := rfl

@[simp] theorem done_andThen (value : α) (next : α → Trace β) :
    (done value).andThen next = next value := by
  simp [done, andThen]

@[simp] theorem fail_andThen (failure : Failure) (next : α → Trace β) :
    (fail failure).andThen next = fail failure := rfl

end Trace

end DocWeave
