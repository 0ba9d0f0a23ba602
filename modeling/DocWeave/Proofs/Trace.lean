import DocWeave.Trace

/-! # Work in sequence

Work that goes on ends well exactly when both parts do, and then its events are those of the first
part followed by those of the second. Work that has failed has only its own events. Visiting a
document adds two steps around the work and changes neither its outcome nor what it asks for. Work
is quiet when it neither asks for documents nor misses any.
-/

namespace DocWeave

/-- Whether an event is about the document that a directive names: it is asked for, or reported
as missing. -/
def Event.isAboutInclude : Event → Bool
  | .asked _ => true
  | .reported report => report.diagnostic.condition = .missingIncludedFile
  | _ => false

/-- Whether an event is a step of the visitation. -/
def Event.isVisit (event : Event) : Bool := event.visit?.isSome

namespace Trace

/-- No event of the work is of a kind. -/
def Avoids {α : Type} (kind : Event → Bool) (t : Trace α) : Prop :=
  ∀ event ∈ t.events, kind event = false

/-- Nothing of the work is about a document that a directive names. -/
def Quiet {α : Type} (t : Trace α) : Prop := ∀ event ∈ t.events, event.isAboutInclude = false

variable {α β γ : Type} {t : Trace α} {next : α → Trace β} {kind : Event → Bool}

theorem andThen_of_ok {value : α} (ended : t.outcome = .ok value) :
    t.andThen next = ⟨t.events ++ (next value).events, (next value).outcome⟩ := by
  rw [andThen, ended]

theorem andThen_of_error {failure : Failure} (ended : t.outcome = .error failure) :
    t.andThen next = ⟨t.events, .error failure⟩ := by
  rw [andThen, ended]

/-- What goes on in two steps may be taken as one. -/
theorem andThen_assoc (t : Trace α) (next : α → Trace β) (last : β → Trace γ) :
    (t.andThen next).andThen last = t.andThen fun value => (next value).andThen last := by
  cases ended : t.outcome with
  | error failure => rw [andThen_of_error ended, andThen_of_error ended, andThen_of_error rfl]
  | ok value =>
    rw [andThen_of_ok ended, andThen_of_ok ended]
    cases later : (next value).outcome with
    | error failure => rw [andThen_of_error rfl, andThen_of_error later]
    | ok result => rw [andThen_of_ok rfl, andThen_of_ok later, List.append_assoc]

theorem andThen_done (t : Trace α) : t.andThen done = t := by
  cases ended : t.outcome with
  | error failure =>
    rw [andThen_of_error ended, ← ended]
  | ok value =>
    rw [andThen_of_ok ended, done, List.append_nil, ← ended]

/-- Work in sequence obeys the monad laws, so that work on a list may be taken one by one. -/
instance : LawfulMonad Trace := LawfulMonad.mk' Trace
  (fun t => andThen_done t)
  (fun value next => done_andThen value next)
  (fun t next last => andThen_assoc t next last)

theorem mapM_cons (work : γ → Trace α) (x : γ) (xs : List γ) :
    (x :: xs).mapM work = (work x).andThen fun value =>
      (xs.mapM work).andThen fun values => done (value :: values) :=
  List.mapM_cons

theorem outcome_andThen_eq_ok_iff {result : β} :
    (t.andThen next).outcome = .ok result ↔
      ∃ value, t.outcome = .ok value ∧ (next value).outcome = .ok result := by
  cases ended : t.outcome with
  | error failure => simp [andThen_of_error ended]
  | ok value => simp [andThen_of_ok ended]

theorem outcome_andThen_eq_error_iff {failure : Failure} :
    (t.andThen next).outcome = .error failure ↔
      t.outcome = .error failure ∨
        ∃ value, t.outcome = .ok value ∧ (next value).outcome = .error failure := by
  cases ended : t.outcome with
  | error failure => simp [andThen_of_error ended]
  | ok value => simp [andThen_of_ok ended]

theorem asked_andThen_of_ok {value : α} (ended : t.outcome = .ok value) :
    (t.andThen next).asked = t.asked ++ (next value).asked := by
  rw [andThen_of_ok ended, asked, asked, asked, List.filterMap_append]

theorem reports_andThen_of_ok {value : α} (ended : t.outcome = .ok value) :
    (t.andThen next).reports = t.reports ++ (next value).reports := by
  rw [andThen_of_ok ended, reports, reports, reports, List.filterMap_append]

theorem mem_events_andThen_iff {event : Event} :
    event ∈ (t.andThen next).events ↔
      event ∈ t.events ∨ ∃ value, t.outcome = .ok value ∧ event ∈ (next value).events := by
  cases ended : t.outcome with
  | error failure => simp [andThen_of_error ended]
  | ok value => simp [andThen_of_ok ended]

@[simp] theorem outcome_visiting (path : Path) (t : Trace α) :
    (t.visiting path).outcome = t.outcome := rfl

theorem mem_events_visiting_iff {path : Path} {event : Event} :
    event ∈ (t.visiting path).events ↔
      event = .entered path ∨ event ∈ t.events ∨ event = .left path := by
  simp [visiting]

@[simp] theorem asked_visiting (path : Path) (t : Trace α) : (t.visiting path).asked = t.asked := by
  simp [visiting, asked, List.filterMap_cons, Event.askedPath?]

@[simp] theorem asked_done (value : α) : (done value).asked = [] := rfl

/-! ## Work without events of a kind -/

theorem avoids_done (value : α) : (done value).Avoids kind := by
  intro event mem
  cases mem

theorem avoids_fail (failure : Failure) : (fail failure : Trace α).Avoids kind := by
  intro event mem
  cases mem

theorem avoids_ofOutcome (outcome : Except Failure α) : (ofOutcome outcome).Avoids kind := by
  intro event mem
  cases mem

theorem avoids_tell {reports : List Report}
    (others : ∀ report ∈ reports, kind (.reported report) = false) : (tell reports).Avoids kind := by
  intro event mem
  obtain ⟨report, told, rfl⟩ := List.mem_map.1 mem
  exact others report told

theorem Avoids.andThen (first : t.Avoids kind) (later : ∀ value, (next value).Avoids kind) :
    (t.andThen next).Avoids kind := by
  intro event mem
  rcases mem_events_andThen_iff.1 mem with before | ⟨value, _, after⟩
  · exact first event before
  · exact later value event after

theorem Avoids.attempt (avoids : t.Avoids kind) : t.attempt.Avoids kind := avoids

theorem Avoids.mapM {xs : List γ} {work : γ → Trace α} (each : ∀ x ∈ xs, (work x).Avoids kind) :
    (xs.mapM work).Avoids kind := by
  induction xs with
  | nil => exact avoids_done []
  | cons x xs ih =>
    rw [mapM_cons]
    have others := ih fun y mem => each y (List.mem_cons_of_mem x mem)
    exact (each x List.mem_cons_self).andThen fun value =>
      others.andThen fun values => avoids_done (value :: values)

/-! ## Quiet work -/

theorem quiet_done (value : α) : (done value).Quiet := avoids_done value

theorem quiet_fail (failure : Failure) : (fail failure : Trace α).Quiet := avoids_fail failure

theorem quiet_tell {reports : List Report}
    (others : ∀ report ∈ reports, report.diagnostic.condition ≠ .missingIncludedFile) :
    (tell reports).Quiet :=
  avoids_tell fun report told => decide_eq_false (others report told)

theorem Quiet.not_mem {event : Event} (quiet : t.Quiet) (about : event.isAboutInclude = true) :
    event ∉ t.events := by
  intro mem
  rw [quiet event mem] at about
  cases about

theorem Quiet.asked (quiet : t.Quiet) : t.asked = [] := by
  apply List.filterMap_eq_nil_iff.2
  intro event mem
  have about := quiet event mem
  cases event with
  | asked path => cases about
  | entered path => rfl
  | left path => rfl
  | reported report => rfl

/-! ## Work that keeps apart -/

theorem visits_andThen_of_ok {value : α} (ended : t.outcome = .ok value) :
    (t.andThen next).visits = t.visits ++ (next value).visits := by
  rw [andThen_of_ok ended, visits, visits, visits, List.filterMap_append]

theorem visits_andThen_of_error {failure : Failure} (ended : t.outcome = .error failure) :
    (t.andThen next).visits = t.visits := by
  rw [andThen_of_error ended, visits, visits]

@[simp] theorem visits_visiting (path : Path) (t : Trace α) :
    (t.visiting path).visits = .enter path :: (t.visits ++ [.leave path]) := by
  simp [visiting, visits, Event.visit?]

theorem Avoids.visits (apart : t.Avoids Event.isVisit) : t.visits = [] := by
  apply List.filterMap_eq_nil_iff.2
  intro event mem
  exact Option.not_isSome_iff_eq_none.1 (Bool.eq_false_iff.1 (apart event mem))

theorem avoids_apart (t : Trace α) : t.apart.Avoids Event.isVisit := by
  intro event mem
  have none := (List.mem_filter.1 mem).2
  rw [Event.isVisit, Option.isNone_iff_eq_none.1 none]
  rfl

end Trace

end DocWeave
