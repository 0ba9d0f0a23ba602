import DocWeave.Proofs.Project.Effect
import Mathlib.Data.List.Forall2
import Mathlib.Data.List.Nodup

/-! # Callbacks that fail

A callback that fails leaves nothing but a report. So a run goes on as if the callback had returned
nothing: the same callbacks are called with the same files and metadata, the tree and what is
written come out the same, and all there is to tell the runs apart are the reports of the failures,
each at the end of what its callback reports.
-/

namespace DocWeave

/-! ## Relaxed configurations -/

namespace Program

/-- The program that returns nothing where this one fails. -/
def lenient : Program Returned → Program Returned
  | done value => done value
  | fail _ => done .nothing
  | tryFetch literal options next => tryFetch literal options fun answer => (next answer).lenient
  | tryFetchAll patterns options next =>
    tryFetchAll patterns options fun answer => (next answer).lenient

/-- What is returned in the end where nothing is returned instead of a failure. -/
def leniently : Except Failure Returned → Returned
  | .ok returned => returned
  | .error _ => .nothing

theorem run_lenient (library : Library) (callback : Program Returned) :
    callback.lenient.run library =
      ⟨(callback.run library).events, .ok (leniently (callback.run library).outcome)⟩ := by
  induction callback with
  | done value => rfl
  | fail failure => rfl
  | tryFetch literal options next ih =>
    simp only [lenient, run, ih]
    rfl
  | tryFetchAll patterns options next ih =>
    simp only [lenient, run, ih]
    rfl

/-- The other program is this one, or returns nothing where this one fails. -/
def Relaxes (callback other : Program Returned) : Prop :=
  other = callback ∨ other = callback.lenient

end Program

/-- The strategies differ at most in that the other one returns nothing for some of the batches for
which this one fails. -/
structure Strategy.Relaxes (strategy other : Strategy) : Prop where
  name : other.name = strategy.name
  patterns : other.patterns = strategy.patterns
  transform : ∀ batch, (strategy.transform batch).Relaxes (other.transform batch)

/-- The tools differ at most in that the other one returns nothing in some places where this one
fails. -/
structure Tool.Relaxes (tool other : Tool) : Prop where
  name : other.name = tool.name
  strategies : List.Forall₂ Strategy.Relaxes tool.strategies other.strategies
  finish : Option.Rel (fun finish other => ∀ metadata, (finish metadata).Relaxes (other metadata))
    tool.finish other.finish

/-! ## Moments side by side -/

/-- The report of a failure of a callback that has been called. -/
def Call.failed : Call → Failure → Report
  | transform _ strategy directory _ _ => Project.failedTransform strategy directory
  | finish tool _ => Project.failedFinish tool

/-- The sessions differ at most in what has been reported. -/
structure Session.Beside (s u : Session) : Prop where
  tree : u.tree = s.tree
  written : u.written = s.written
  calls : u.calls = s.calls

theorem Session.Beside.refl (s : Session) : s.Beside s := ⟨rfl, rfl, rfl⟩

namespace Moment

/-- What the callback of a moment fails with, if it has one that fails. -/
def raised (m : Moment) (p : Project) : Option Failure :=
  match m.task with
  | .settle _ callback _ =>
    match (callback.run (p.library m.session.tree)).outcome with
    | .ok _ => none
    | .error failure => some failure
  | _ => none

/-- The records that a moment adds. -/
def added (m : Moment) (p : Project) : List Diagnostic :=
  (m.after p).sink.records.drop m.session.sink.records.length

/-- A moment of a run beside one in which the callback may return nothing where it fails here: then
the report of the failure is all that this moment adds besides. -/
structure Relaxes (p q : Project) (m n : Moment) : Prop where
  beside : m.session.Beside n.session
  added : (n.raised q = m.raised p ∧ n.added q = m.added p) ∨
    ∃ failure call, m.raised p = some failure ∧ n.raised q = none ∧
      m.session.calls.getLast? = some call ∧
        m.added p = n.added q ++ [(call.failed failure).diagnostic]

end Moment

/-- Endings that fail alike, or come to results that are related. -/
inductive Agree {α β : Type} (R : α → β → Prop) : Except Failure α → Except Failure β → Prop where
  | error (failure : Failure) : Agree R (.error failure) (.error failure)
  | ok {x : α} {y : β} (related : R x y) : Agree R (.ok x) (.ok y)

theorem agree_eq {α : Type} (ended : Except Failure α) : Agree Eq ended ended := by
  cases ended with
  | error failure => exact .error failure
  | ok value => exact .ok rfl

theorem Work.Oblivious.beside {α : Type} {work : Work α} (oblivious : work.Oblivious)
    {s u : Session} (beside : s.Beside u) :
    (work u).1 = (work s).1 ∧ (work s).2.Beside (work u).2 ∧
      ∃ records, (work s).2.sink.records = s.sink.records ++ records ∧
        (work u).2.sink.records = u.sink.records ++ records := by
  obtain ⟨effect, has⟩ := oblivious s.tree
  have here := has s rfl
  have there := has u beside.tree
  refine ⟨there.result.trans here.result.symm, ⟨there.tree.trans here.tree.symm, ?_, ?_⟩,
    effect.records, here.records, there.records⟩
  · rw [here.written, there.written, beside.written]
  · rw [here.calls, there.calls, beside.calls]

/-! ## Tours side by side -/

namespace Tour

variable {α β γ δ : Type} {p q : Project} {R : α → β → Prop} {S : γ → δ → Prop}
  {s u : Session}

/-- The tour does the same as the other one, but for callbacks that return nothing there and fail
here. -/
structure RelaxesAt (p q : Project) (R : α → β → Prop) (a : Tour α) (b : Tour β)
    (s u : Session) : Prop where
  ends : Agree R (a.work s).1 (b.work u).1
  leaves : (a.work s).2.Beside (b.work u).2
  moments : List.Forall₂ (Moment.Relaxes p q) (a.moments s) (b.moments u)

/-- The tours do the same wherever they start beside each other. -/
def Relaxes (p q : Project) (R : α → β → Prop) (a : Tour α) (b : Tour β) : Prop :=
  ∀ s u, s.Beside u → a.RelaxesAt p q R b s u

theorem RelaxesAt.bind {a : Tour α} {b : Tour β} {next : α → Tour γ} {other : β → Tour δ}
    (opening : a.RelaxesAt p q R b s u)
    (further : ∀ x y t v, R x y → a.work s = (.ok x, t) → b.work u = (.ok y, v) → t.Beside v →
      (next x).RelaxesAt p q S (other y) t v) :
    (a >>= next).RelaxesAt p q S (b >>= other) s u := by
  obtain ⟨ends, leaves, moments⟩ := opening
  rcases here : a.work s with ⟨result, t⟩
  rcases there : b.work u with ⟨result', v⟩
  rw [here, there] at ends leaves
  cases ends with
  | error failure =>
    constructor
    · rw [work_bind, work_bind, Work.bind_of_error here, Work.bind_of_error there]
      exact .error failure
    · rw [work_bind, work_bind, Work.bind_of_error here, Work.bind_of_error there]
      exact leaves
    · rw [moments_bind_of_error here, moments_bind_of_error there]
      exact moments
  | ok related =>
    obtain ⟨ends, left, more⟩ := further _ _ t v related here there leaves
    constructor
    · rw [work_bind, work_bind, Work.bind_of_ok here, Work.bind_of_ok there]
      exact ends
    · rw [work_bind, work_bind, Work.bind_of_ok here, Work.bind_of_ok there]
      exact left
    · rw [moments_bind_of_ok here, moments_bind_of_ok there]
      exact List.rel_append moments more

theorem Relaxes.bind {a : Tour α} {b : Tour β} {next : α → Tour γ} {other : β → Tour δ}
    (opening : a.Relaxes p q R b)
    (further : ∀ x y, R x y → (next x).Relaxes p q S (other y)) :
    (a >>= next).Relaxes p q S (b >>= other) :=
  fun s u beside => (opening s u beside).bind fun x y t v related _ _ left =>
    further x y related t v left

theorem relaxes_aside {work : Work α} (oblivious : work.Oblivious) :
    (aside work).Relaxes p q Eq (aside work) := by
  intro s u beside
  obtain ⟨same, leaves, _⟩ := oblivious.beside beside
  refine ⟨?_, leaves, .nil⟩
  rw [work_aside, same]
  exact agree_eq _

theorem relaxes_pure (value : α) : (pure value : Tour α).Relaxes p q Eq (pure value) :=
  relaxes_aside (Work.oblivious_pure value)

/-- Tasks that do the same, and fail with the same callback if with one. -/
theorem relaxesAt_doing {task other : Task} {work work' : Work α} (oblivious : work.Oblivious)
    (here : task.ending p = work.ending) (there : other.ending q = work'.ending)
    (same : work' u = work u)
    (raised : (Moment.mk other u).raised q = (Moment.mk task s).raised p) (beside : s.Beside u) :
    (doing task work).RelaxesAt p q Eq (doing other work') s u := by
  obtain ⟨result, leaves, records, added, addedThere⟩ := oblivious.beside beside
  have after : (Moment.mk task s).after p = (work s).2 := congrArg Prod.snd (congrFun here s)
  have afterThere : (Moment.mk other u).after q = (work u).2 := by
    rw [← same]
    exact congrArg Prod.snd (congrFun there u)
  refine ⟨?_, ?_, .cons ⟨beside, .inl ⟨raised, ?_⟩⟩ .nil⟩
  · rw [work_doing, work_doing, same, result]
    exact agree_eq _
  · rw [work_doing, work_doing, same]
    exact leaves
  · rw [Moment.added, Moment.added, after, afterThere, added, addedThere, List.drop_left,
      List.drop_left]

theorem Relaxes.each {a : γ → Tour α} {b : δ → Tour α}
    (each : ∀ x y, S x y → (a x).Relaxes p q Eq (b y)) {xs : List γ} {ys : List δ}
    (related : List.Forall₂ S xs ys) : (Tour.each a xs).Relaxes p q Eq (Tour.each b ys) := by
  induction related with
  | nil => exact relaxes_pure []
  | cons head _ ih =>
    refine (each _ _ head).bind ?_
    rintro value _ rfl
    refine ih.bind ?_
    rintro values _ rfl
    exact relaxes_pure _

theorem Relaxes.each_same {a b : γ → Tour α} (each : ∀ x, (a x).Relaxes p q Eq (b x))
    (xs : List γ) : (Tour.each a xs).Relaxes p q Eq (Tour.each b xs) := by
  have equal : List.Forall₂ Eq xs xs := List.forall₂_eq_eq_eq ▸ rfl
  refine Relaxes.each ?_ equal
  rintro x _ rfl
  exact each x

end Tour

namespace Project

open Tour

variable {p : Project} {s u : Session} {read : Returned → Except ShapeFault Outcome}
  {callback other : Program Returned}

/-! ## Callbacks side by side -/

/-- Handling a callback depends on nothing of it but what it does. -/
theorem settle_congr (failed : Failure → Report)
    (same : other.run (p.library s.tree) = callback.run (p.library s.tree)) :
    p.settle read other failed s = p.settle read callback failed s := by
  simp only [settle, handle, perform, Work.bind_apply, Work.attempt_apply, Work.get_apply,
    Work.observe_apply, same]

/-- A callback that fails is reported at the end. -/
theorem settle_of_raised {failure : Failure} (failed : Failure → Report)
    (raised : (callback.run (p.library s.tree)).outcome = .error failure) :
    p.settle read callback failed s =
      (.ok .null, (p.heard callback s).notices [.report (failed failure)]) := by
  have refused : p.request s.tree read callback = .error failure := by
    rw [request, raised]
    rfl
  exact settle_of_error (handle_of_refused refused)

/-- A callback that returns nothing asks for nothing. -/
theorem settle_of_nothing (failed : Failure → Report) (reads : read .nothing = .ok Outcome.nothing)
    (returned : (callback.run (p.library s.tree)).outcome = .ok .nothing) :
    p.settle read callback failed s = (.ok .null, p.heard callback s) := by
  have asked : p.request s.tree read callback = .ok Outcome.nothing := by
    rw [request, returned]
    show (read .nothing).mapError Failure.shape = _
    rw [reads]
    rfl
  exact settle_of_ok (handle_of_asked asked)

/-- A callback that fails, beside one that returns nothing instead. -/
theorem relaxesAt_settle_of_raised (tools : List Tool)
    (reads : read .nothing = .ok Outcome.nothing) {failure : Failure}
    (raised : (callback.run (p.library s.tree)).outcome = .error failure) {call : Call}
    (called : s.calls.getLast? = some call) (beside : s.Beside u) :
    (doing (.settle read callback call.failed) (p.settle read callback call.failed)).RelaxesAt p
      (p.withTools tools) Eq (doing (.settle read callback.lenient call.failed)
        (p.settle read callback.lenient call.failed)) s u := by
  have lenient := callback.run_lenient (p.library u.tree)
  rw [beside.tree, raised, ← beside.tree] at lenient
  have returned : (callback.lenient.run (p.library u.tree)).outcome = .ok .nothing :=
    congrArg Trace.outcome lenient
  have reports : (callback.lenient.run (p.library u.tree)).reports =
      (callback.run (p.library s.tree)).reports := by
    rw [lenient, beside.tree]
    rfl
  have here : p.settle read callback call.failed s = _ := p.settle_of_raised call.failed raised
  have there : p.settle read callback.lenient call.failed u = _ :=
    p.settle_of_nothing call.failed reads returned
  refine ⟨?_, ?_, .cons ⟨beside, .inr ⟨failure, call, ?_, ?_, called, ?_⟩⟩ .nil⟩
  · rw [work_doing, work_doing, here, there]
    exact .ok rfl
  · rw [work_doing, work_doing, here, there]
    exact ⟨beside.tree, beside.written, beside.calls⟩
  · simp only [Moment.raised, raised]
  · simp only [Moment.raised, library_withTools, returned]
  · -- Both add what the callback reports, and this one the report of the failure behind it.
    have after : (Moment.mk (.settle read callback call.failed) s).after p =
        (p.settle read callback call.failed s).2 := rfl
    have afterThere : (Moment.mk (.settle read callback.lenient call.failed) u).after
        (p.withTools tools) = (p.settle read callback.lenient call.failed u).2 := by
      rw [Moment.after, Task.ending, settle_withTools]
      rfl
    simp [Moment.added, after, afterThere, here, there, heard, reports, Notice.diagnostic?]

/-- A callback that is called, beside one that may return nothing where it fails. -/
theorem relaxesAt_settle (tools : List Tool) (reads : read .nothing = .ok Outcome.nothing)
    (relaxes : callback.Relaxes other) {call : Call} (called : s.calls.getLast? = some call)
    (beside : s.Beside u) :
    (doing (.settle read callback call.failed) (p.settle read callback call.failed)).RelaxesAt p
      (p.withTools tools) Eq
      (doing (.settle read other call.failed) (p.settle read other call.failed)) s u := by
  -- The lenient program does the same where this one ends well. That and the unchanged program are
  -- one case.
  by_cases same : other.run (p.library s.tree) = callback.run (p.library s.tree)
  · have there : (Task.settle read other call.failed).ending (p.withTools tools) =
        (p.settle read other call.failed).ending := by
      rw [Task.ending, settle_withTools]
    refine relaxesAt_doing (p.oblivious_settle read callback call.failed) rfl there
      (settle_congr call.failed (by rw [beside.tree, same])) ?_ beside
    simp only [Moment.raised, library_withTools, beside.tree, same]
  · obtain rfl : other = callback.lenient :=
      relaxes.resolve_left fun equal => same (by rw [equal])
    cases ran : (callback.run (p.library s.tree)).outcome with
    | error failure => exact p.relaxesAt_settle_of_raised tools reads ran called beside
    | ok returned =>
      have lenient := callback.run_lenient (p.library s.tree)
      rw [ran] at lenient
      exact absurd (lenient.trans (by rw [Program.leniently, ← ran])) same

/-- The same with the call before it and with what comes next. -/
theorem relaxes_called (tools : List Tool) (reads : read .nothing = .ok Outcome.nothing)
    (relaxes : callback.Relaxes other) (call : Call) {α : Type} {next : Json → Tour α}
    (further : ∀ metadata, (next metadata).Relaxes p (p.withTools tools) Eq (next metadata)) :
    (aside (Work.call call) >>= fun _ =>
      doing (.settle read callback call.failed) (p.settle read callback call.failed) >>=
        next).Relaxes p (p.withTools tools) Eq
    (aside (Work.call call) >>= fun _ =>
      doing (.settle read other call.failed) (p.settle read other call.failed) >>= next) := by
  intro s u beside
  refine (relaxes_aside (Work.oblivious_call call) s u beside).bind ?_
  rintro _ _ t v rfl called _ left
  -- The callback is settled right after it is called, so that the last call tells which one fails.
  have last : t.calls.getLast? = some call := by
    cases called
    simp
  refine (p.relaxesAt_settle tools reads relaxes last left).bind ?_
  rintro metadata _ t v rfl _ _ left
  exact further metadata t v left

/-! ## Runs side by side -/

variable {strategy relaxed : Strategy} (tools : List Tool)

theorem relaxes_prepare (tool name : Text) (path : Path) :
    (doing (.prepare tool name path) (p.prepare tool name path)).Relaxes p (p.withTools tools) Eq
      (doing (.prepare tool name path) (p.prepare tool name path)) := by
  intro s u beside
  refine relaxesAt_doing (p.oblivious_prepare tool name path) rfl ?_ rfl rfl beside
  rw [Task.ending, prepare_withTools]

theorem relaxes_discover (relaxes : strategy.Relaxes relaxed) (tool : Text) :
    (doing (.discover tool strategy) (p.discover tool strategy)).Relaxes p (p.withTools tools) Eq
      (doing (.discover tool relaxed) (p.discover tool relaxed)) := by
  have same : p.discover tool relaxed = p.discover tool strategy := by
    simp only [discover, relaxes.name, relaxes.patterns]
  intro s u beside
  exact relaxesAt_doing (p.oblivious_discover tool strategy) rfl rfl (by rw [same]) rfl beside

theorem relaxes_tourBatch (relaxes : strategy.Relaxes relaxed) (tool : Text) (directory : Path)
    (paths : List Path) :
    (p.tourBatch tool strategy directory paths).Relaxes p (p.withTools tools) Eq
      ((p.withTools tools).tourBatch tool relaxed directory paths) := by
  simp only [tourBatch, prepare_withTools, settle_withTools, relaxes.name]
  refine (Relaxes.each_same (p.relaxes_prepare tools tool strategy.name) paths).bind ?_
  rintro files _ rfl
  refine p.relaxes_called tools rfl (relaxes.transform _)
    (.transform tool strategy.name directory p.root files) ?_
  intro metadata
  cases metadata <;> exact relaxes_pure _

theorem relaxes_tourStrategy (relaxes : strategy.Relaxes relaxed) (tool : Text) :
    (p.tourStrategy tool strategy).Relaxes p (p.withTools tools) Eq
      ((p.withTools tools).tourStrategy tool relaxed) := by
  refine (p.relaxes_discover tools relaxes tool).bind ?_
  rintro found _ rfl
  apply (Relaxes.each_same _ _).bind
  · rintro metadata _ rfl
    exact relaxes_pure _
  · rintro ⟨directory, paths⟩
    exact p.relaxes_tourBatch tools relaxes tool directory paths

theorem relaxes_tourFinish {finish other : List Json → Program Returned} (tool : Text)
    (metadata : List Json) (relaxes : (finish metadata).Relaxes (other metadata)) :
    (p.tourFinish tool finish metadata).Relaxes p (p.withTools tools) Eq
      ((p.withTools tools).tourFinish tool other metadata) := by
  simp only [tourFinish, settle_withTools]
  apply (relaxes_aside (Work.oblivious_progress _)).bind
  rintro _ _ rfl
  exact p.relaxes_called tools rfl relaxes (.finish tool metadata) fun _ => relaxes_pure ()

theorem relaxes_tourTool {tool other : Tool} (relaxes : tool.Relaxes other) :
    (p.tourTool tool).Relaxes p (p.withTools tools) Eq ((p.withTools tools).tourTool other) := by
  simp only [tourTool, relaxes.name]
  apply (relaxes_aside (Work.oblivious_progress _)).bind
  rintro _ _ rfl
  have each := Relaxes.each (fun here there (related : Strategy.Relaxes here there) =>
    p.relaxes_tourStrategy tools related tool.name) relaxes.strategies
  apply each.bind
  rintro metadata _ rfl
  have last := relaxes.finish
  cases here : tool.finish with
  | none =>
    rw [here] at last
    cases there : other.finish with
    | none => exact relaxes_pure ()
    | some finish =>
      rw [there] at last
      cases last
  | some finish =>
    rw [here] at last
    cases there : other.finish with
    | none =>
      rw [there] at last
      cases last
    | some other =>
      rw [there] at last
      cases last with
      | some related => exact p.relaxes_tourFinish tools tool.name _ (related _)

theorem names_of_relaxes {tools others : List Tool}
    (relaxes : List.Forall₂ Tool.Relaxes tools others) :
    others.map Tool.name = tools.map Tool.name := by
  induction relaxes with
  | nil => rfl
  | cons head _ ih => rw [List.map_cons, List.map_cons, head.name, ih]

theorem relaxes_tour (relaxes : List.Forall₂ Tool.Relaxes p.config.tools tools) :
    p.tour.Relaxes p (p.withTools tools)
      (fun here there => there.tools = here.tools ∧ there.written = here.written)
      (p.withTools tools).tour := by
  apply (relaxes_aside (Work.oblivious_progress _)).bind
  rintro _ _ rfl
  have each := Relaxes.each
    (fun here there (related : Tool.Relaxes here there) => p.relaxes_tourTool tools related) relaxes
  apply each.bind
  rintro _ _ rfl
  apply (relaxes_aside (Work.oblivious_progress _)).bind
  rintro _ _ rfl
  intro s u beside
  exact ⟨.ok ⟨names_of_relaxes relaxes, beside.written⟩, beside, .nil⟩

/-- The records of a course are what its moments add. -/
theorem records_of_course {ms : List Moment} {ending : Except Failure Unit × Session}
    (course : Course p s ms ending) :
    ending.2.sink.records = s.sink.records ++ ms.flatMap fun m => m.added p := by
  have step {s : Session} {m : Moment} (alike : s.Alike m.session) :
      (m.after p).sink.records = s.sink.records ++ m.added p := by
    obtain ⟨added, grown⟩ := (m.does p).records
    rw [Moment.added, ← grown, List.drop_left, alike.sink]
  induction course with
  | rest alike => simp [alike.sink]
  | go alike done _ ih =>
    have first := step alike
    rw [Moment.after, done] at first
    rw [ih, first, List.flatMap_cons, List.append_assoc]
  | stop alike failed =>
    have first := step alike
    rw [Moment.after, failed] at first
    rw [first, List.flatMap_cons, List.flatMap_nil, List.append_nil]

theorem records_run (p : Project) (s : Session) :
    (p.run s).2.sink.records = s.sink.records ++ (p.moments s).flatMap fun m => m.added p :=
  records_of_course (p.course_run s)

/-- A run in which callbacks may return nothing where they fail here calls the same callbacks with
the same files and metadata, leaves the same tree and the same record of what is written, and ends
alike. Moment by moment it adds the same records, but for the report of every failure that it does
not have. -/
theorem run_of_relaxes (p : Project) (tools : List Tool) (s : Session)
    (relaxes : List.Forall₂ Tool.Relaxes p.config.tools tools) :
    let q := p.withTools tools
    (p.run s).2.Beside (q.run s).2 ∧
    Agree (fun here there => there.tools = here.tools ∧ there.written = here.written)
      (p.run s).1 (q.run s).1 ∧
    List.Forall₂ (Moment.Relaxes p q) (p.moments s) (q.moments s) ∧
    (p.run s).2.sink.records = s.sink.records ++ (p.moments s).flatMap (fun m => m.added p) ∧
    (q.run s).2.sink.records = s.sink.records ++ (q.moments s).flatMap (fun m => m.added q) := by
  intro q
  obtain ⟨ends, leaves, moments⟩ := p.relaxes_tour tools relaxes s s (.refl s)
  rw [work_tour, work_tour] at ends leaves
  exact ⟨leaves, ends, moments, p.records_run s, q.records_run s⟩

/-- A strategy whose transform fails. -/
def failing : Strategy := ⟨"rules", ["in.md"], fun _ => .fail (.raised "no")⟩

/-- The strategy with a transform that returns nothing. -/
def sparing : Strategy := ⟨"rules", ["in.md"], fun _ => .done .nothing⟩

/-- An empty document. -/
def blank : FileTree := FileTree.empty.plant ["proj".toList, "in.md".toList] (.file [])

/-- The runs of both strategies differ in the report of the failure. -/
theorem run_of_relaxes_failing :
    let s := Session.start blank (.echoing false) none
    ((single failing).run s).2.Beside ((single sparing).run s).2 ∧
    ((single failing).run s).2.sink.records =
      [⟨.transformFailure, "Error in strategy 'rules' at dir '/proj': no", some "/proj".toList⟩] ∧
    ((single sparing).run s).2.sink.records = [] := by
  intro s
  have relaxes : List.Forall₂ Tool.Relaxes (single failing).config.tools
      (single sparing).config.tools :=
    .cons ⟨rfl, .cons ⟨rfl, rfl, fun _ => .inr rfl⟩ .nil, .none⟩ .nil
  have matched : Discovery.find blank (single failing).scope failing.patterns =
      .ok [.ofText "/proj/in.md"] := by decide +kernel
  have read : blank.readText (single failing).settings.encoding (.ofText "/proj/in.md") =
      .ok [] := by decide +kernel
  have parent : (Path.ofText "/proj/in.md").parent = .ofText "/proj" := by decide +kernel
  obtain ⟨beside, _⟩ := run_of_relaxes (single failing) (single sparing).config.tools s relaxes
  refine ⟨beside, ?_, ?_⟩
  · obtain ⟨called, metadata, t, alike, settled, _, after⟩ :=
      run_settles (p := single failing) (s := s) rfl matched read rfl rfl
    rw [settle_of_raised _ rfl] at settled
    cases settled
    have before : called.sink.records = [] := by
      rw [alike.sink]
      rfl
    rw [after.sink, parent, Session.records_notices, heard, Session.records_notices, before]
    rfl
  · obtain ⟨called, metadata, t, alike, settled, _, after⟩ :=
      run_settles (p := single sparing) (s := s) rfl matched read rfl rfl
    rw [settle_of_nothing _ rfl rfl] at settled
    cases settled
    have before : called.sink.records = [] := by
      rw [alike.sink]
      rfl
    rw [after.sink, heard, Session.records_notices, before]
    rfl

/-- The run with the failing strategy alone ends well, with one report on it. -/
theorem run_of_failing {s : Session} {name content : Text} {path : Path}
    (tools : p.config.tools = [⟨name, [failing], none⟩])
    (matched : Discovery.find s.tree p.scope failing.patterns = .ok [path])
    (read : s.tree.readText p.settings.encoding path = .ok content)
    (unfiltered : Text.find? (Region.opener p.settings.filterTag) content = none)
    (plain : Directive.findAll p.settings.includeTag content = []) :
    (p.run s).1 = .ok ⟨[name], s.written, s.sink.records.length + 1⟩ := by
  obtain ⟨called, metadata, t, alike, settled, ran, _⟩ :=
    run_settles tools matched read unfiltered plain
  rw [settle_of_raised _ rfl] at settled
  cases settled
  rw [ran, Session.records_notices, heard, Session.records_notices, alike.sink, ← alike.written,
    List.length_append, List.length_append]
  rfl

end Project

end DocWeave
