import DocWeave.Trace

/-! # Work in the presence of a sink

Whoever has a document resolved may hand in a sink, and then reports go there; without a sink they
go nowhere, and the work goes on all the same. A recording is work that is handed a sink or none,
and each part of it hands on to the next what the sink has become.
-/

namespace DocWeave

/-- What some work leaves behind: what happened apart from reports, the sink, what the sink wrote to
the log, and what the work ends with. -/
structure Recorded (α : Type) where
  events : List Event
  sink : Option Sink
  log : List LogEntry
  outcome : Except Failure α

namespace Recorded

variable {α : Type}

/-- The paths asked for, in order. -/
def asked (r : Recorded α) : List Path := r.events.filterMap Event.askedPath?

/-- The steps of the visitation, in order. -/
def visits (r : Recorded α) : List Visitation.Step := r.events.filterMap Event.visit?

end Recorded

/-- Work that is handed a sink, or none. -/
def Recording (α : Type) : Type := Option Sink → Recorded α

namespace Recording

variable {α β : Type}

/-- Nothing happens. -/
def done (value : α) : Recording α := fun sink => ⟨[], sink, [], .ok value⟩

/-- Nothing happens but the failure. -/
def fail (failure : Failure) : Recording α := fun sink => ⟨[], sink, [], .error failure⟩

/-- Nothing happens; the outcome is given. -/
def ofOutcome (outcome : Except Failure α) : Recording α := fun sink => ⟨[], sink, [], outcome⟩

/-- A document is asked for. -/
def ask (path : Path) : Recording Unit := fun sink => ⟨[.asked path], sink, [], .ok ()⟩

/-- Something is reported, if there is a sink to report it to. -/
def report (report : Report) : Recording Unit
  | none => ⟨[], none, [], .ok ()⟩
  | some sink =>
    let (sink, log) := sink.take [report]
    ⟨[], some sink, log, .ok ()⟩

/-- Goes on with the result and the sink; a failure ends the work. -/
def andThen (work : Recording α) (next : α → Recording β) : Recording β := fun sink =>
  let first := work sink
  match first.outcome with
  | .ok value =>
    let rest := next value first.sink
    ⟨first.events ++ rest.events, rest.sink, first.log ++ rest.log, rest.outcome⟩
  | .error failure => ⟨first.events, first.sink, first.log, .error failure⟩

instance : Monad Recording where
  pure := done
  bind := andThen

/-- The work between entering and leaving a document, which it leaves however it ends. -/
def visiting (path : Path) (work : Recording α) : Recording α := fun sink =>
  let inner := work sink
  { inner with events := .entered path :: inner.events ++ [.left path] }

/-- The work with its failure as a result. -/
def attempt (work : Recording α) : Recording (Except Failure α) := fun sink =>
  let inner := work sink
  ⟨inner.events, inner.sink, inner.log, .ok inner.outcome⟩

/-- Work that is given as a trace, with its reports for the sink. -/
def ofTrace (t : Trace α) : Recording α := fun sink =>
  { events := t.events.filter fun event => event.report?.isNone
    sink := sink.map fun sink => (sink.take t.reports).1
    log := sink.elim [] fun sink => (sink.take t.reports).2
    outcome := t.outcome }

@[simp] theorem bind_eq (work : Recording α) (next : α → Recording β) :
    work >>= next = work.andThen next := rfl

@[simp] theorem pure_eq (value : α) : (pure value : Recording α) = done value := rfl

end Recording

end DocWeave
