import DocWeave.Proofs.Discovery
import DocWeave.Proofs.Expansion.Walk
import DocWeave.Proofs.FileTree.Reading
import DocWeave.Proofs.Project.Task
import Mathlib.Data.List.Nodup

/-! # Circular documents in a run

A run ends in a cycle exactly when a document that it discovers itself is circular. A document that
is only requested, by a stage or by a callback, ends the request: the stage or the callback fails
then, which is reported, and the run goes on.
-/

namespace DocWeave

namespace Moment

/-- The resolution of the document that is prepared at the moment ends in the cycle. -/
def Circular (m : Moment) (p : Project) (cycle : Cycle) : Prop :=
  ∃ tool strategy path raw, m.task = .prepare tool strategy path ∧
    m.session.tree.readText p.settings.encoding path = .ok raw ∧
    (p.resolve m.session.tree (p.library m.session.tree) tool strategy path raw).outcome =
      .error (.cycle cycle)

variable {m : Moment} {p : Project} {cycle : Cycle}

/-- The task of a moment fails with a cycle only for its document. -/
theorem fails_cycle_iff : m.Fails p (.cycle cycle) ↔ m.Circular p cycle := by
  obtain ⟨task, s⟩ := m
  cases task with
  | discover tool strategy =>
    rw [fails_discover_iff]
    constructor
    · intro failed
      rcases Discovery.error_of_find failed with ⟨_, _, _, _, none⟩ | ⟨_, _, _, none⟩ <;> cases none
    · rintro ⟨_, _, _, _, ⟨⟩, _⟩
  | prepare tool strategy path =>
    rw [fails_prepare_iff]
    constructor
    · rintro (unread | ⟨raw, read, ended⟩)
      · exact absurd unread (FileTree.readText_ne_cycle cycle)
      · exact ⟨tool, strategy, path, raw, rfl, read, ended⟩
    · rintro ⟨_, _, _, raw, ⟨⟩, read, ended⟩
      exact .inr ⟨raw, read, ended⟩
  | settle read callback failed =>
    constructor
    · exact fun fails => absurd fails not_fails_settle
    · rintro ⟨_, _, _, _, ⟨⟩, _⟩

/-- The directives of the document that is prepared at the moment lead, from document to document,
to one that is in expansion already. -/
def ComesBack (m : Moment) (p : Project) : Prop :=
  ∃ tool strategy path raw walk last left directive,
    m.task = .prepare tool strategy path ∧
    m.session.tree.readText p.settings.encoding path = .ok raw ∧
    let w := p.weaver m.session.tree (p.library m.session.tree) tool strategy
    w.Leads path.normalize (w.directives (w.seen raw)) walk last left ∧
    directive ∈ left ∧ (w.target last directive).normalize ∈ path.normalize :: walk

/-- A document is circular only by directives, never for what a stage requests. -/
theorem Circular.comesBack (circular : m.Circular p cycle) : m.ComesBack p := by
  obtain ⟨tool, strategy, path, raw, task, read, ended⟩ := circular
  obtain ⟨walk, last, left, leads, _, directive, listed, fails⟩ :=
    Weaver.exists_leads_of_weave_error ended
  refine ⟨tool, strategy, path, raw, walk, last, left, directive, task, read, leads, listed, ?_⟩
  cases fails with
  | read _ unread _ => exact absurd unread (FileTree.readText_ne_cycle cycle)
  | cycle _ _ inChain => exact inChain

/-- Where handling a callback fails, its report is among the records from then on. -/
theorem mem_records_after {read : Returned → Except ShapeFault Outcome}
    {callback : Program Returned} {failed : Failure → Report} {failure : Failure}
    (task : m.task = .settle read callback failed)
    (ended : (p.handle read callback m.session).1 = .error failure) :
    (failed failure).diagnostic ∈ (m.after p).sink.records := by
  obtain ⟨_, s⟩ := m
  cases task
  exact (p.does_settle read callback failed s).2.2 failure ended

end Moment

namespace Project

/-- A run ends in a cycle exactly when a document that it discovers is circular, which it is by
directives only. Where a callback fails, with a cycle or otherwise, the run has its report in the
end. -/
theorem run_cycle_iff (p : Project) (s : Session) :
    (∀ cycle, (p.run s).1 = .error (.cycle cycle) ↔ ∃ m ∈ p.moments s, m.Circular p cycle) ∧
    (∀ m ∈ p.moments s, ∀ cycle, m.Circular p cycle → m.ComesBack p) ∧
    ∀ m ∈ p.moments s, ∀ read callback failed failure, m.task = .settle read callback failed →
      (p.handle read callback m.session).1 = .error failure →
      (failed failure).diagnostic ∈ (p.run s).2.sink.records := by
  refine ⟨?_, fun _ _ _ circular => circular.comesBack, ?_⟩
  · intro cycle
    rw [run_error_iff]
    simp only [Moment.fails_cycle_iff]
  · intro m mem read callback failed failure task ended
    obtain ⟨before, later, split⟩ := List.append_of_mem mem
    have course := p.course_run s
    rw [split] at course
    let recorded (t : Session) : Prop := (failed failure).diagnostic ∈ t.sink.records
    apply course.holds_of_after recorded _ _ (Moment.mem_records_after task ended)
    · intro s t alike here
      unfold recorded
      rwa [alike.sink]
    · intro other _ here
      exact (other.does p).records.subset here

/-- A document whose first directive names the document itself is circular. -/
theorem outcome_weave_of_self {w : Weaver} {path : Path} {content raw : Text}
    {directive : Directive} {rest : List Directive}
    (first : w.directives (w.seen content) = directive :: rest)
    (same : (w.target path.normalize directive).normalize = path.normalize)
    (read : w.store.read (w.target path.normalize directive) = .ok raw) :
    (w.weave .empty path content).outcome =
      .error (.cycle ⟨path.normalize, [path.normalize]⟩) := by
  have again : (⟨[path.normalize], by simp⟩ : Visitation).enter
      (w.target path.normalize directive).normalize =
        .error ⟨path.normalize, [path.normalize]⟩ := by
    rw [same, Visitation.enter_eq_error_iff]
    simp
  have included : (w.included ⟨[path.normalize], by simp⟩ path.normalize directive).outcome =
      .error (.cycle ⟨path.normalize, [path.normalize]⟩) := by
    rw [Weaver.included_of_ok read, Trace.andThen_of_ok rfl]
    exact Trace.outcome_andThen_eq_error_iff.2
      (.inl (Weaver.outcome_weave_of_cycle raw again))
  rw [Weaver.outcome_weave_empty, first, Weaver.expandFrom_cons,
    Trace.outcome_andThen_eq_error_iff]
  exact .inl included

/-- A request for a document that cannot be resolved ends as the resolution does. -/
theorem outcome_read_of_error {tree : FileTree} {library : Library} {path : Path} {raw : Text}
    {options : ReadOptions} {failure : Failure} {p : Project}
    (read : tree.readText p.settings.encoding path = .ok raw)
    (ended : (p.resolve tree library options.tool options.strategy path raw).outcome =
      .error failure) : (p.read tree library path options).outcome = .error failure := by
  unfold Project.read
  rw [Trace.bind_eq, Trace.outcome_andThen_eq_error_iff]
  refine .inr ⟨raw, read, ?_⟩
  rw [Trace.bind_eq, Trace.outcome_andThen_eq_error_iff]
  exact .inl ended

/-- A strategy whose transform requests a document and writes its content. -/
def requesting : Strategy :=
  ⟨"rules", ["in.md"], fun _ => .fetch "loop.md" ⟨"claude", "rules", none⟩ fun file =>
    .done (.record (.items [.file ⟨"out.md", file.content⟩]) (.list []) .null)⟩

/-- A document that includes itself. -/
def itself : Text := "<content-factory-include-file path='./loop.md' />"

/-- An empty document beside one that includes itself. -/
def besideLoop : FileTree :=
  (FileTree.empty.plant ["proj".toList, "loop.md".toList]
    (.file (itself.flatMap Codec.utf8Bytes))).plant ["proj".toList, "in.md".toList] (.file [])

/-- Requesting the document ends in its cycle. -/
theorem outcome_fetch_loop :
    ((single requesting).library besideLoop |>.fetch "loop.md" ⟨"claude", "rules", none⟩).outcome =
      .error (.cycle ⟨.ofText "/proj/loop.md", [.ofText "/proj/loop.md"]⟩) := by
  let library := (single requesting).libraryWithin besideLoop 0
  let w := (single requesting).weaver besideLoop library "claude" "rules"
  have unfiltered : Text.find? (Region.opener Settings.default.filterTag) itself = none := by
    decide +kernel
  have seen : w.seen itself = itself := congrArg Prod.fst (Visibility.filter_of_none unfiltered)
  have directives : Directive.findAll Settings.default.includeTag itself =
      [⟨"./loop.md", none, itself, 0, 49⟩] := by decide +kernel
  have collapsed : (Path.ofText "/proj/loop.md").normalize = .ofText "/proj/loop.md" := by
    decide +kernel
  have target : Path.resolveInclude Settings.default.rootMark "./loop.md"
      (single requesting).root (Path.ofText "/proj/loop.md").normalize =
        .ofText "/proj/loop.md" := by
    decide +kernel
  have read : besideLoop.readText "utf-8" (.ofText "/proj/loop.md") = .ok itself := by
    decide +kernel
  have circular : (w.weave .empty (.ofText "/proj/loop.md") itself).outcome =
      .error (.cycle ⟨.ofText "/proj/loop.md", [.ofText "/proj/loop.md"]⟩) := by
    rw [outcome_weave_of_self (w := w) (seen ▸ directives) (target ▸ collapsed) (target ▸ read),
      collapsed]
  have requested : Path.resolveRequest Settings.default.rootMark "loop.md"
      (single requesting).root = .ofText "/proj/loop.md" := by decide +kernel
  show ((single requesting).read besideLoop library (Path.resolveRequest
    Settings.default.rootMark "loop.md" (single requesting).root) _).outcome = _
  rw [requested]
  exact outcome_read_of_error read circular

/-- The run ends well though its transform has requested a circular document and failed for it. -/
theorem run_cycle_iff_requested :
    let s := Session.start besideLoop (.echoing false) none
    let cycle : Cycle := ⟨.ofText "/proj/loop.md", [.ofText "/proj/loop.md"]⟩
    (∃ summary, ((single requesting).run s).1 = .ok summary) ∧
      ∀ batch, (single requesting).request s.tree Returned.read (requesting.transform batch) =
        .error (.cycle cycle) := by
  intro s cycle
  constructor
  · have matched : Discovery.find besideLoop (single requesting).scope requesting.patterns =
        .ok [.ofText "/proj/in.md"] := by decide +kernel
    have read : besideLoop.readText (single requesting).settings.encoding
        (.ofText "/proj/in.md") = .ok [] := by decide +kernel
    obtain ⟨t, _, ran, _⟩ := run_of_document (s := s) rfl matched read rfl rfl
    exact ⟨_, ran⟩
  · intro batch
    have ran : ((requesting.transform batch).run ((single requesting).library s.tree)).outcome =
        .error (.cycle cycle) := by
      rw [requesting, Program.run_fetch, Trace.outcome_andThen_eq_error_iff]
      exact .inl outcome_fetch_loop
    rw [request, ran]
    rfl

end Project

end DocWeave
