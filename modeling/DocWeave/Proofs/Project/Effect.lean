import DocWeave.Proofs.Project.Task

/-! # Effects

Work on documents looks at nothing in a session but the tree. What has been reported, written and
called so far does not concern it, and it only adds to that. So work has an effect on a tree, the
same in every session with the tree.

Nor does the work of one tool look at the other tools of a configuration.
-/

namespace DocWeave

/-- A result, the tree that is left, and what is added to the lists that a session keeps. -/
structure Effect (α : Type) where
  result : Except Failure α
  tree : FileTree
  written : List Path
  calls : List Call
  records : List Diagnostic

/-- The effect of two parts in sequence, the first of which ends well. -/
def Effect.andThen {α β : Type} (first : Effect α) (second : Effect β) : Effect β where
  result := second.result
  tree := second.tree
  written := first.written ++ second.written
  calls := first.calls ++ second.calls
  records := first.records ++ second.records

namespace Work

variable {α β γ : Type} {work first : Work α} {next : α → Work β} {s : Session}

/-- The work has the effect in a session. -/
structure Has (work : Work α) (s : Session) (effect : Effect α) : Prop where
  result : (work s).1 = effect.result
  tree : (work s).2.tree = effect.tree
  written : (work s).2.written = s.written ++ effect.written
  calls : (work s).2.calls = s.calls ++ effect.calls
  records : (work s).2.sink.records = s.sink.records ++ effect.records

/-- The effect of the work depends on nothing but the tree. -/
def Oblivious (work : Work α) : Prop :=
  ∀ tree, ∃ effect, ∀ s : Session, s.tree = tree → work.Has s effect

theorem Has.bind_ok {opening : Effect α} {further : Effect β} {value : α}
    (has : first.Has s opening) (ended : opening.result = .ok value)
    (goes : (next value).Has (first s).2 further) :
    (first >>= next).Has s (opening.andThen further) := by
  have same : (first >>= next) s = next value (first s).2 :=
    bind_of_ok (Prod.ext (has.result.trans ended) rfl)
  constructor
  · rw [same, goes.result]
    rfl
  · rw [same, goes.tree]
    rfl
  · rw [same, goes.written, has.written, List.append_assoc]
    rfl
  · rw [same, goes.calls, has.calls, List.append_assoc]
    rfl
  · rw [same, goes.records, has.records, List.append_assoc]
    rfl

theorem Has.bind_error {opening : Effect α} {failure : Failure} (has : first.Has s opening)
    (ended : opening.result = .error failure) :
    (first >>= next).Has s ⟨.error failure, opening.tree, opening.written, opening.calls,
      opening.records⟩ := by
  have same : (first >>= next) s = (.error failure, (first s).2) :=
    bind_of_error (Prod.ext (has.result.trans ended) rfl)
  constructor
  · rw [same]
  · rw [same, has.tree]
  · rw [same, has.written]
  · rw [same, has.calls]
  · rw [same, has.records]

theorem Oblivious.bind (opening : first.Oblivious) (further : ∀ value, (next value).Oblivious) :
    (first >>= next).Oblivious := by
  intro tree
  obtain ⟨effect, has⟩ := opening tree
  -- The first part ends alike in every session with the tree, so that one case split serves all.
  cases ended : effect.result with
  | error failure => exact ⟨_, fun s same => (has s same).bind_error ended⟩
  | ok value =>
    obtain ⟨later, goes⟩ := further value effect.tree
    exact ⟨_, fun s same => (has s same).bind_ok ended (goes _ (has s same).tree)⟩

theorem has_pure (value : α) (s : Session) :
    (pure value : Work α).Has s ⟨.ok value, s.tree, [], [], []⟩ :=
  ⟨rfl, rfl, by simp, by simp, by simp⟩

theorem oblivious_ofOutcome (outcome : Except Failure α) : (ofOutcome outcome).Oblivious :=
  fun tree => ⟨⟨outcome, tree, [], [], []⟩, fun s same => ⟨rfl, same, by simp, by simp, by simp⟩⟩

theorem oblivious_pure (value : α) : (pure value : Work α).Oblivious :=
  oblivious_ofOutcome (.ok value)

theorem oblivious_progress (message : Text) : (progress message).Oblivious :=
  fun tree => ⟨⟨.ok (), tree, [], [], []⟩, fun s same =>
    ⟨rfl, same, by simp, by simp [Session.notices], by simp [Notice.diagnostic?]⟩⟩

theorem oblivious_remark (level : Int) (message : Text) : (remark level message).Oblivious :=
  fun tree => ⟨⟨.ok (), tree, [], [], []⟩, fun s same =>
    ⟨rfl, same, (List.append_nil s.written).symm, (List.append_nil s.calls).symm,
      (List.append_nil s.sink.records).symm⟩⟩

theorem oblivious_report (report : Report) : (Work.report report).Oblivious :=
  fun tree => ⟨⟨.ok (), tree, [], [], [report.diagnostic]⟩, fun s same =>
    ⟨rfl, same, by simp, by simp [Session.notices], by simp [Notice.diagnostic?]⟩⟩

theorem oblivious_observe (trace : Trace α) : (observe trace).Oblivious :=
  fun tree => ⟨⟨trace.outcome, tree, [], [], trace.reports.map Report.diagnostic⟩, fun s same =>
    ⟨rfl, same, by simp, by simp [Session.notices], by
      simp [List.filterMap_map, Function.comp_def, Notice.diagnostic?]⟩⟩

theorem oblivious_call (call : Call) : (Work.call call).Oblivious :=
  fun tree => ⟨⟨.ok (), tree, [], [call], []⟩, fun s same => ⟨rfl, same, by simp, rfl, by simp⟩⟩

theorem Oblivious.attempt (oblivious : work.Oblivious) : work.attempt.Oblivious := by
  intro tree
  obtain ⟨effect, has⟩ := oblivious tree
  refine ⟨⟨.ok effect.result, effect.tree, effect.written, effect.calls, effect.records⟩, ?_⟩
  intro s same
  have has := has s same
  exact ⟨congrArg Except.ok has.result, has.tree, has.written, has.calls, has.records⟩

/-- Work may look at the tree. -/
theorem Oblivious.reading {next : FileTree → Work α} (each : ∀ tree, (next tree).Oblivious) :
    (get >>= fun s : Session => next s.tree : Work α).Oblivious := by
  intro tree
  obtain ⟨effect, has⟩ := each tree tree
  refine ⟨effect, fun s same => ?_⟩
  have has := has s same
  rw [← same] at has
  exact ⟨has.result, has.tree, has.written, has.calls, has.records⟩

theorem Oblivious.mapM {work : γ → Work α} (each : ∀ x, (work x).Oblivious) (xs : List γ) :
    (xs.mapM work).Oblivious := by
  induction xs with
  | nil => exact oblivious_pure []
  | cons x xs ih =>
    rw [List.mapM_cons]
    exact (each x).bind fun value => ih.bind fun values => oblivious_pure _

end Work

namespace Project

open Work

variable {p : Project}

theorem oblivious_discover (tool : Text) (strategy : Strategy) :
    (p.discover tool strategy).Oblivious := by
  refine (oblivious_progress _).bind fun _ => ?_
  have search (tree : FileTree) : (ofOutcome (Discovery.find tree p.scope strategy.patterns) >>=
      fun found => remark 2 (strategy.name ++ ": " ++ Text.ofNat found.length ++
        " files matched") >>= fun _ => pure found).Oblivious := by
    refine (oblivious_ofOutcome _).bind fun found => ?_
    exact (oblivious_remark _ _).bind fun _ => oblivious_pure _
  exact Oblivious.reading search

theorem oblivious_prepare (tool strategy : Text) (path : Path) :
    (p.prepare tool strategy path).Oblivious :=
  Oblivious.reading fun tree =>
    (oblivious_ofOutcome (tree.readText p.settings.encoding path)).bind fun raw =>
      (oblivious_observe (reportingCycle path
        (p.resolve tree (p.library tree) tool strategy path raw))).bind fun content =>
          oblivious_pure (SourceFile.ofContent p.root path content)

theorem oblivious_writeFiles (files : List OutputFile) : (p.writeFiles files).Oblivious := by
  intro tree
  -- A batch of writes that fails has changed the tree, but nothing of it is recorded as written.
  rcases wrote : Change.write p.settings.encoding p.outputRoot tree files with ⟨change, failure | _⟩
  · refine ⟨⟨.error failure, change.tree, [], [], change.notices.filterMap Notice.diagnostic?⟩, ?_⟩
    rintro s rfl
    constructor <;>
      simp [writeFiles_apply, wrote, Session.change, Session.notices, Sink.records_notices]
  · refine ⟨⟨.ok (), change.tree, change.paths, [],
      change.notices.filterMap Notice.diagnostic?⟩, ?_⟩
    rintro s rfl
    constructor <;>
      simp [writeFiles_apply, wrote, Session.change, Session.notices, Sink.records_notices]

theorem oblivious_deleteFiles (patterns : List Json) : (p.deleteFiles patterns).Oblivious := by
  intro tree
  cases deleted : Change.delete p.outputRoot tree patterns with
  | error failure =>
    refine ⟨⟨.error failure, tree, [], [], []⟩, ?_⟩
    rintro s rfl
    constructor <;> simp [deleteFiles_apply, deleted]
  | ok change =>
    refine ⟨⟨.ok (), change.tree, [], [], change.notices.filterMap Notice.diagnostic?⟩, ?_⟩
    rintro s rfl
    constructor <;>
      simp [deleteFiles_apply, deleted, Session.change, Session.notices, Sink.records_notices]

theorem oblivious_settle (read : Returned → Except ShapeFault Outcome)
    (callback : Program Returned) (failed : Failure → Report) :
    (p.settle read callback failed).Oblivious := by
  have performed : (p.perform callback).Oblivious :=
    Oblivious.reading fun tree => oblivious_observe (callback.run (p.library tree))
  have handled : (p.handle read callback).Oblivious :=
    performed.bind fun returned =>
      (oblivious_ofOutcome ((read returned).mapError .shape)).bind fun outcome =>
        ((p.oblivious_writeFiles outcome.files).bind fun _ =>
          p.oblivious_deleteFiles outcome.deletions).bind fun _ => oblivious_pure outcome.metadata
  refine handled.attempt.bind fun ended => ?_
  cases ended with
  | ok metadata => exact oblivious_pure metadata
  | error failure =>
    exact (oblivious_report (failed failure)).bind fun _ => oblivious_pure Json.null

theorem oblivious_runBatch (tool : Text) (strategy : Strategy) (directory : Path)
    (paths : List Path) : (p.runBatch tool strategy directory paths).Oblivious := by
  refine (Oblivious.mapM (fun path => p.oblivious_prepare tool strategy.name path) paths).bind
    fun files => (oblivious_call _).bind fun _ => (p.oblivious_settle _ _ _).bind fun metadata => ?_
  cases metadata <;> exact oblivious_pure _

theorem oblivious_runStrategy (tool : Text) (strategy : Strategy) :
    (p.runStrategy tool strategy).Oblivious :=
  (p.oblivious_discover tool strategy).bind fun _ =>
    (Oblivious.mapM (fun _ => p.oblivious_runBatch tool strategy _ _) _).bind fun _ =>
      oblivious_pure _

theorem oblivious_runTool (tool : Tool) : (p.runTool tool).Oblivious := by
  refine (oblivious_progress _).bind fun _ =>
    (Oblivious.mapM (fun strategy => p.oblivious_runStrategy tool.name strategy) _).bind
      fun metadata => ?_
  cases tool.finish with
  | none => exact oblivious_pure ()
  | some finish =>
    exact (oblivious_progress _).bind fun _ => (oblivious_call _).bind fun _ =>
      (p.oblivious_settle _ _ _).bind fun _ => oblivious_pure ()

/-- Runs of the project on the tree return. -/
def Returns (p : Project) (tree : FileTree) : Prop :=
  ∀ s : Session, s.tree = tree → ∃ summary, (p.run s).1 = .ok summary

/-- A run ends well if its tools do. -/
theorem exists_run_ok_iff (s : Session) :
    (∃ summary, (p.run s).1 = .ok summary) ↔
      ∃ done, ((Work.progress ("Starting engine at " ++ p.root.toText ++ "...") >>= fun _ =>
        p.config.tools.mapM p.runTool) s).1 = .ok done := by
  simp only [run, bind_apply, progress_apply]
  rcases p.config.tools.mapM p.runTool _ with ⟨failure | done, t⟩ <;> simp

/-- Whether a run returns depends on nothing but the tree. -/
theorem returns_tree_iff (s : Session) :
    p.Returns s.tree ↔ ∃ summary, (p.run s).1 = .ok summary := by
  refine ⟨fun returns => returns s rfl, fun returned t same => ?_⟩
  have tools := (oblivious_progress ("Starting engine at " ++ p.root.toText ++ "...")).bind fun _ =>
    Oblivious.mapM p.oblivious_runTool p.config.tools
  obtain ⟨effect, has⟩ := tools s.tree
  rw [exists_run_ok_iff, (has s rfl).result] at returned
  rwa [exists_run_ok_iff, (has t same).result]

end Project

/-! ## Other tools -/

namespace Project

variable {p : Project}

/-- The project with other tools. -/
def withTools (p : Project) (tools : List Tool) : Project :=
  { p with config := { p.config with tools := tools } }

/-- What answers requests does not depend on the tools. -/
theorem libraryWithin_withTools (tools : List Tool) (tree : FileTree) (depth : Nat) :
    (p.withTools tools).libraryWithin tree depth = p.libraryWithin tree depth := by
  induction depth with
  | zero => rfl
  | succ depth ih =>
    simp only [libraryWithin, ih]
    rfl

@[simp] theorem library_withTools (tools : List Tool) (tree : FileTree) :
    (p.withTools tools).library tree = p.library tree :=
  libraryWithin_withTools tools tree p.nesting

@[simp] theorem discover_withTools (tools : List Tool) :
    (p.withTools tools).discover = p.discover := rfl

@[simp] theorem prepare_withTools (tools : List Tool) :
    (p.withTools tools).prepare = p.prepare := by
  funext tool strategy path
  simp only [prepare, library_withTools]
  rfl

@[simp] theorem settle_withTools (tools : List Tool) :
    (p.withTools tools).settle = p.settle := by
  funext read callback failed
  simp only [settle, handle, perform, library_withTools]
  rfl

@[simp] theorem runStrategy_withTools (tools : List Tool) :
    (p.withTools tools).runStrategy = p.runStrategy := by
  funext tool strategy
  simp only [runStrategy, runBatch, discover_withTools, prepare_withTools, settle_withTools]
  rfl

@[simp] theorem runTool_withTools (tools : List Tool) :
    (p.withTools tools).runTool = p.runTool := by
  funext tool
  simp only [runTool, runFinish, runStrategy_withTools, settle_withTools]

end Project

end DocWeave
