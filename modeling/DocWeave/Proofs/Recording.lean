import DocWeave.Proofs.Expansion.Basic
import DocWeave.Recording.Weave

/-! # What a sink changes

Work that is handed a sink goes as it does without one: a trace says what happens and how it ends,
and the sink only takes the reports of the trace. So the outcome and what is asked for are the same
with any sink and with none, and a sink keeps its records and has the same ones put behind them.
-/

namespace DocWeave

/-- Reports in order, and then a value. -/
def Trace.told {α : Type} (reports : List Report) (value : α) : Trace α :=
  ⟨reports.map .reported, .ok value⟩

@[simp] theorem Sink.take_nil (sink : Sink) : sink.take [] = (sink, []) := by
  simp [take]

theorem Sink.take_append (sink : Sink) (reports more : List Report) :
    sink.take (reports ++ more) =
      (((sink.take reports).1.take more).1,
        (sink.take reports).2 ++ ((sink.take reports).1.take more).2) := by
  cases echo : sink.echo <;> simp [take, echo]

namespace Recording

variable {α β γ : Type}

theorem andThen_congr {work : Recording α} {next other : α → Recording β}
    (same : ∀ value, next value = other value) : work.andThen next = work.andThen other :=
  congrArg work.andThen (funext same)

/-! ## Recordings of traces -/

/-- Work that reports nothing leaves the sink as it is. -/
theorem ofTrace_of_reports_eq_nil {t : Trace α} (silent : t.reports = []) :
    ofTrace t = fun sink => ⟨t.events, sink, [], t.outcome⟩ := by
  have unreported : t.events.filter (fun event => event.report?.isNone) = t.events := by
    refine List.filter_eq_self.2 fun event mem => ?_
    rw [List.filterMap_eq_nil_iff.1 silent event mem, Option.isNone_none]
  funext sink
  cases sink <;> simp [ofTrace, silent, unreported]

theorem ofTrace_done (value : α) : ofTrace (Trace.done value) = done value :=
  ofTrace_of_reports_eq_nil rfl

theorem ofTrace_fail (failure : Failure) : ofTrace (Trace.fail failure : Trace α) = fail failure :=
  ofTrace_of_reports_eq_nil rfl

theorem ofTrace_ofOutcome (outcome : Except Failure α) :
    ofTrace (Trace.ofOutcome outcome) = ofOutcome outcome :=
  ofTrace_of_reports_eq_nil rfl

theorem ofTrace_ask (path : Path) : ofTrace (Trace.emit [.asked path]) = ask path :=
  ofTrace_of_reports_eq_nil rfl

theorem ofTrace_tell (r : Report) : ofTrace (Trace.tell [r]) = report r := by
  funext sink
  cases sink <;> rfl

theorem ofTrace_andThen (t : Trace α) (next : α → Trace β) :
    ofTrace (t.andThen next) = (ofTrace t).andThen fun value => ofTrace (next value) := by
  funext sink
  cases ended : t.outcome with
  | error failure =>
    rw [Trace.andThen_of_error ended]
    simp only [ofTrace, andThen, ended, Trace.reports]
  | ok value =>
    have split : (t.andThen next).reports = t.reports ++ (next value).reports :=
      Trace.reports_andThen_of_ok ended
    rw [Trace.andThen_of_ok ended] at split ⊢
    cases sink with
    | none => simp [ofTrace, andThen, ended]
    | some sink => simp [ofTrace, andThen, ended, split, Sink.take_append]

theorem ofTrace_visiting (path : Path) (t : Trace α) :
    ofTrace (t.visiting path) = (ofTrace t).visiting path := by
  funext sink
  have same : (t.visiting path).reports = t.reports := by
    simp [Trace.visiting, Trace.reports, Event.report?, List.filterMap_cons]
  simp only [ofTrace, visiting, same]
  simp [Trace.visiting, Event.report?]

theorem ofTrace_attempt (t : Trace α) : ofTrace t.attempt = (ofTrace t).attempt := rfl

/-- Two parts that only report, one after the other. -/
theorem ofTrace_told_append (reports more : List Report) (first : α) (last : β) (both : α → β → γ) :
    ofTrace (Trace.told (reports ++ more) (both first last)) =
      (ofTrace (Trace.told reports first)).andThen fun first =>
        (ofTrace (Trace.told more last)).andThen fun last => done (both first last) := by
  simp only [← ofTrace_done, ← ofTrace_andThen]
  simp [Trace.told, Trace.andThen, Trace.done]

end Recording

/-! ## Filters -/

namespace Visibility

/-- Filtering into a sink is filtering, with its reports for the sink. -/
theorem filterFromInto_eq (tag tool text : Text) (position : Nat) :
    filterFromInto tag tool text position = .ofTrace
      (.told (filterFrom tag tool text position).2 (filterFrom tag tool text position).1) := by
  fun_induction filterFromInto tag tool text position with
  | case1 text position absent =>
    rw [filterFrom_of_none absent]
    exact (Recording.ofTrace_done _).symm
  | case2 text position first opens unmatched =>
    rw [filterFrom_of_unclosed opens unmatched, Recording.bind_eq, ← Recording.ofTrace_tell,
      ← Recording.ofTrace_done, ← Recording.ofTrace_andThen]
    rfl
  | case3 text position first opens region matched _ _ ihInside ihRest =>
    have within : (if region.keeps tool = true then filterFromInto tag tool region.inner 0
        else .done []) = .ofTrace (.told (inside tag tool region).2 (inside tag tool region).1) := by
      unfold inside
      split
      · exact ihInside
      · exact (Recording.ofTrace_done _).symm
    rw [filterFrom_of_region opens matched, within, ihRest]
    exact (Recording.ofTrace_told_append (inside tag tool region).2
      (filterFrom tag tool text region.stop).2 (inside tag tool region).1
      (filterFrom tag tool text region.stop).1 fun inside after =>
        text.slice position region.start ++ inside ++ after).symm

end Visibility

/-! ## Pipelines -/

namespace Chain

variable {env : Environment}

theorem runStageInto_eq (content : Text) (call : StageCall) :
    runStageInto env content call = .ofTrace (runStage env content call) := by
  unfold runStageInto runStage
  cases env.registry.find? call.name with
  | none =>
    simp only [Recording.bind_eq, Recording.pure_eq, Trace.bind_eq, Trace.pure_eq,
      Recording.ofTrace_andThen, Recording.ofTrace_tell, Recording.ofTrace_done]
  | some stage =>
    simp only [Recording.bind_eq, Recording.pure_eq, Trace.bind_eq, Trace.pure_eq,
      Recording.ofTrace_andThen, Recording.ofTrace_attempt]
    refine Recording.andThen_congr fun result => ?_
    cases result with
    | ok reply => exact (Recording.ofTrace_done _).symm
    | error failure =>
      rw [Recording.ofTrace_andThen, Recording.ofTrace_tell]
      exact Recording.andThen_congr fun _ => (Recording.ofTrace_done content).symm

theorem runStagesInto_eq (content : Text) (calls : List StageCall) :
    runStagesInto env content calls = .ofTrace (runStages env content calls) := by
  induction calls generalizing content with
  | nil => exact (Recording.ofTrace_done content).symm
  | cons call rest ih =>
    simp only [runStagesInto, runStages, Recording.bind_eq, Trace.bind_eq,
      Recording.ofTrace_andThen, runStageInto_eq, ih]

/-- Running a pipeline into a sink is running it, with its reports for the sink. -/
theorem runInto_eq (content spec : Text) :
    runInto env content spec = .ofTrace (run env content spec) :=
  runStagesInto_eq content (parse spec)

end Chain

/-! ## Documents -/

namespace Weaver

variable {w : Weaver}

theorem filteredInto_eq (content : Text) : w.filteredInto content = .ofTrace (w.filtered content) :=
  Visibility.filterFromInto_eq ..

theorem markerInto_eq (directive : Directive) (path : Path) :
    w.markerInto directive path = .ofTrace (w.marker directive path) := by
  simp only [markerInto, marker, Recording.bind_eq, Trace.bind_eq, Recording.ofTrace_andThen,
    Recording.ofTrace_tell, Recording.ofTrace_ofOutcome]

theorem pipedInto_eq (directive : Directive) (content : Text) :
    w.pipedInto directive content = .ofTrace (w.piped directive content) := by
  unfold pipedInto piped
  cases w.registry with
  | none => exact (Recording.ofTrace_done content).symm
  | some registry =>
    cases directive.pipelines with
    | none => exact (Recording.ofTrace_done content).symm
    | some spec => exact Chain.runInto_eq content spec

/-- Expanding into a sink is expanding, with its reports for the sink. -/
theorem expandFromInto_eq : ∀ (visited : Visitation) (current : Path) (text : Text) (position : Nat)
    (ds : List Directive), w.expandFromInto visited current text position ds =
      .ofTrace (w.expandFrom visited current text position ds) := by
  intro visited
  induction visited using expansion_induction w.store with
  | step visited below =>
    intro current text position ds
    induction ds generalizing position with
    | nil => rw [expandFromInto, expandFrom_nil, Recording.ofTrace_done]
    | cons directive rest ih =>
      rw [expandFromInto, expandFrom_cons]
      simp only [Recording.bind_eq, Recording.ofTrace_andThen, Recording.ofTrace_done, ih]
      -- What stands in place of the directive is left. Only the report of a missing document meets
      -- the sink here; filters and pipelines have been seen to report alike.
      refine congrArg (Recording.andThen · _) ?_
      split
      · rename_i failure unread
        rw [included_of_error unread, Recording.ofTrace_andThen, Recording.ofTrace_ask]
        refine Recording.andThen_congr fun _ => ?_
        split
        · exact markerInto_eq ..
        · exact (Recording.ofTrace_fail failure).symm
      · rename_i raw read
        rw [included_of_ok read, weave, Trace.bind_eq, Recording.ofTrace_andThen,
          Recording.ofTrace_ask]
        refine Recording.andThen_congr fun _ => ?_
        rw [Trace.andThen_assoc, Recording.ofTrace_andThen, filteredInto_eq]
        refine Recording.andThen_congr fun seen => ?_
        split
        · rename_i cycle entered
          rw [expand_of_cycle entered, Trace.fail_andThen, Recording.ofTrace_fail]
        · rename_i inside entered
          rw [expand_of_enter entered, Recording.ofTrace_andThen, Recording.ofTrace_visiting,
            below _ raw inside read entered]
          exact Recording.andThen_congr fun content => pipedInto_eq directive content

theorem expandInto_eq (visited : Visitation) (current : Path) (text : Text) :
    w.expandInto visited current text = .ofTrace (w.expand visited current text) := by
  unfold expandInto expand
  cases visited.enter current.normalize with
  | error cycle => exact (Recording.ofTrace_fail _).symm
  | ok inside =>
    dsimp only
    rw [Recording.ofTrace_visiting, expandFromInto_eq]

/-- Resolving a document into a sink is resolving it, with its reports for the sink. -/
theorem weaveInto_eq (visited : Visitation) (current : Path) (content : Text) :
    w.weaveInto visited current content = .ofTrace (w.weave visited current content) := by
  rw [weaveInto, weave, Recording.bind_eq, Trace.bind_eq, Recording.ofTrace_andThen,
    filteredInto_eq]
  exact Recording.andThen_congr fun seen => expandInto_eq visited current seen

end Weaver

/-! ## Sinks -/

namespace Recording

variable {α : Type}

/-- A sink only observes the work. With any sink the work ends, asks for documents and enters and
leaves them as it does without one, and the sink is left as it was but for further records, which
are the same for every sink. -/
structure IsObserved (work : Recording α) : Prop where
  outcome : ∀ sink, (work (some sink)).outcome = (work none).outcome
  asked : ∀ sink, (work (some sink)).asked = (work none).asked
  visits : ∀ sink, (work (some sink)).visits = (work none).visits
  unrecorded : (work none).sink = none
  recorded : ∃ added, ∀ sink,
    (work (some sink)).sink = some { sink with records := sink.records ++ added }

theorem isObserved_ofTrace (t : Trace α) : (ofTrace t).IsObserved where
  outcome _ := rfl
  asked _ := rfl
  visits _ := rfl
  unrecorded := rfl
  recorded := ⟨t.reports.map Report.diagnostic, fun _ => rfl⟩

/-- A sink only observes how documents are resolved, texts expanded and filtered, and pipelines
run. -/
theorem isObserved_resolving :
    (∀ (w : Weaver) (visited : Visitation) (current : Path) (content : Text),
      (w.weaveInto visited current content).IsObserved) ∧
    (∀ (w : Weaver) (visited : Visitation) (current : Path) (text : Text),
      (w.expandInto visited current text).IsObserved) ∧
    (∀ tag tool text : Text, (Visibility.filterInto tag tool text).IsObserved) ∧
    ∀ (env : Chain.Environment) (content spec : Text),
      (Chain.runInto env content spec).IsObserved := by
  refine ⟨?_, ?_, ?_, ?_⟩
  · intro w visited current content
    rw [Weaver.weaveInto_eq]
    exact isObserved_ofTrace _
  · intro w visited current text
    rw [Weaver.expandInto_eq]
    exact isObserved_ofTrace _
  · intro tag tool text
    rw [Visibility.filterInto, Visibility.filterFromInto_eq]
    exact isObserved_ofTrace _
  · intro env content spec
    rw [Chain.runInto_eq]
    exact isObserved_ofTrace _

end Recording

end DocWeave
