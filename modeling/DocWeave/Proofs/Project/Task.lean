import DocWeave.Proofs.Change
import DocWeave.Proofs.Expansion.Basic
import DocWeave.Proofs.Project.Course

/-! # What a task does

Finding files and preparing a document leave the tree and the record of what is written alone. A
callback that is handled asks for an outcome, or gives up; its files are written one after another
and its deletions are done after that. Each stops where it fails, and handling the callback never
fails: what went wrong is among the records, and records are never lost.
-/

namespace DocWeave

namespace Sink

theorem records_notices (sink : Sink) (notices : List Notice) :
    (sink.notices notices).1.records = sink.records ++ notices.filterMap Notice.diagnostic? := by
  induction notices generalizing sink with
  | nil => simp [Sink.notices]
  | cons first rest ih =>
    rw [Sink.notices]
    show ((sink.notice first).1.notices rest).1.records = _
    rw [ih]
    cases first with
    | progress message => simp [notice, List.filterMap_cons, Notice.diagnostic?]
    | report made => simp [notice, take, Notice.diagnostic?]

end Sink

namespace Session

variable {s t : Session}

@[simp] theorem tree_notices (s : Session) (notices : List Notice) :
    (s.notices notices).tree = s.tree := rfl

@[simp] theorem written_notices (s : Session) (notices : List Notice) :
    (s.notices notices).written = s.written := rfl

@[simp] theorem records_notices (s : Session) (notices : List Notice) :
    (s.notices notices).sink.records =
      s.sink.records ++ notices.filterMap Notice.diagnostic? :=
  s.sink.records_notices notices

@[simp] theorem tree_change (s : Session) (change : Change) :
    (s.change change).tree = change.tree := rfl

@[simp] theorem written_change (s : Session) (change : Change) :
    (s.change change).written = s.written := rfl

@[simp] theorem records_change (s : Session) (change : Change) :
    (s.change change).sink.records =
      s.sink.records ++ change.notices.filterMap Notice.diagnostic? :=
  s.sink.records_notices change.notices

theorem change_nothing (s : Session) : s.change ⟨s.tree, [], []⟩ = s := by
  simp [change, notices, Sink.notices]

end Session

namespace Project

variable {p : Project} {s : Session}

/-! ## Finding files -/

theorem outcome_discover (tool : Text) (strategy : Strategy) :
    (p.discover tool strategy s).1 = Discovery.find s.tree p.scope strategy.patterns := by
  simp only [discover, Work.bind_apply, Work.progress_apply, Work.get_apply, Work.ofOutcome_apply,
    Session.tree_notices]
  cases Discovery.find s.tree p.scope strategy.patterns with
  | error failure => rfl
  | ok found => rfl

theorem alike_discover (tool : Text) (strategy : Strategy) (s : Session) :
    s.Alike (p.discover tool strategy s).2 := by
  simp only [discover, Work.bind_apply, Work.progress_apply, Work.get_apply, Work.ofOutcome_apply,
    Session.tree_notices]
  cases Discovery.find s.tree p.scope strategy.patterns with
  | error failure => exact .progress s _
  | ok found => exact (Session.Alike.progress s _).trans (.remark _ _ _)

/-! ## Preparing a document -/

theorem outcome_reportingCycle (path : Path) (resolved : Trace Text) :
    (reportingCycle path resolved).outcome = resolved.outcome := by
  unfold reportingCycle
  split <;> rfl

/-- What preparing a document ends with. -/
theorem outcome_prepare (tool strategy : Text) (path : Path) (s : Session) :
    (p.prepare tool strategy path s).1 = do
      let raw ← s.tree.readText p.settings.encoding path
      let content ← (p.resolve s.tree (p.library s.tree) tool strategy path raw).outcome
      return SourceFile.ofContent p.root path content := by
  simp only [prepare, Work.bind_apply, Work.get_apply, Work.ofOutcome_apply]
  cases s.tree.readText p.settings.encoding path with
  | error failure => rfl
  | ok raw =>
    simp only [Work.observe_apply, outcome_reportingCycle]
    show _ = (p.resolve s.tree (p.library s.tree) tool strategy path raw).outcome >>= _
    cases (p.resolve s.tree (p.library s.tree) tool strategy path raw).outcome with
    | ok content => rfl
    | error failure => rfl

/-- A document that the filter leaves alone and that has no directives resolves to itself. -/
theorem resolve_of_plain {content : Text} (tree : FileTree) (library : Library)
    (tool strategy : Text) (path : Path)
    (unfiltered : Text.find? (Region.opener p.settings.filterTag) content = none)
    (plain : Directive.findAll p.settings.includeTag content = []) :
    p.resolve tree library tool strategy path content =
      ⟨[.entered path.normalize, .left path.normalize], .ok content⟩ := by
  have seen : (p.weaver tree library tool strategy).filtered content = Trace.done content := by
    show (⟨(Visibility.filter p.settings.filterTag tool content).2.map .reported,
      .ok (Visibility.filter p.settings.filterTag tool content).1⟩ : Trace Text) = _
    rw [Visibility.filter_of_none unfiltered]
    rfl
  have none : (p.weaver tree library tool strategy).directives content = [] := plain
  rw [resolve, Weaver.weave, seen, Trace.bind_eq, Trace.done_andThen,
    Weaver.expand_of_enter (Visitation.enter_empty _), none, Weaver.expandFrom_nil]
  rfl

theorem prepare_of_plain {content : Text} {path : Path} (tool strategy : Text)
    (read : s.tree.readText p.settings.encoding path = .ok content)
    (unfiltered : Text.find? (Region.opener p.settings.filterTag) content = none)
    (plain : Directive.findAll p.settings.includeTag content = []) :
    p.prepare tool strategy path s = (.ok (SourceFile.ofContent p.root path content), s) := by
  simp only [prepare, Work.bind_apply, Work.get_apply, Work.ofOutcome_apply, read,
    resolve_of_plain _ _ _ _ _ unfiltered plain]
  have silent : (⟨[.entered path.normalize, .left path.normalize], .ok content⟩ :
      Trace Text).reports = [] := rfl
  simp [reportingCycle, silent, Session.notices, Sink.notices]

/-- Preparing a document only has something to say. -/
theorem session_prepare (tool strategy : Text) (path : Path) (s : Session) :
    ∃ notices, (p.prepare tool strategy path s).2 = s.notices notices := by
  simp only [prepare, Work.bind_apply, Work.get_apply, Work.ofOutcome_apply]
  cases s.tree.readText p.settings.encoding path with
  | error failure => exact ⟨[], by simp [Session.notices, Sink.notices]⟩
  | ok raw =>
    simp only [Work.observe_apply, outcome_reportingCycle]
    cases (p.resolve s.tree (p.library s.tree) tool strategy path raw).outcome with
    | ok content => exact ⟨_, rfl⟩
    | error failure => exact ⟨_, rfl⟩

/-! ## Handling a callback -/

/-- What a callback asks for, where it does not give up. -/
def request (p : Project) (tree : FileTree) (read : Returned → Except ShapeFault Outcome)
    (callback : Program Returned) : Except Failure Outcome := do
  let returned ← (callback.run (p.library tree)).outcome
  (read returned).mapError .shape

/-- The session after the reports of a callback. -/
def heard (p : Project) (callback : Program Returned) (s : Session) : Session :=
  s.notices ((callback.run (p.library s.tree)).reports.map .report)

theorem handle_of_refused {read : Returned → Except ShapeFault Outcome}
    {callback : Program Returned} {failure : Failure}
    (refused : p.request s.tree read callback = .error failure) :
    p.handle read callback s = (.error failure, p.heard callback s) := by
  unfold request at refused
  simp only [handle, perform, Work.bind_apply, Work.get_apply, Work.observe_apply,
    Work.ofOutcome_apply]
  cases ran : (callback.run (p.library s.tree)).outcome with
  | error cause =>
    rw [ran] at refused
    cases refused
    rfl
  | ok returned =>
    rw [ran] at refused
    dsimp only
    rw [show (read returned).mapError Failure.shape = .error failure from refused]
    rfl

theorem handle_of_asked {read : Returned → Except ShapeFault Outcome}
    {callback : Program Returned} {outcome : Outcome}
    (asked : p.request s.tree read callback = .ok outcome) :
    p.handle read callback s =
      (p.apply outcome >>= fun _ => pure outcome.metadata) (p.heard callback s) := by
  unfold request at asked
  simp only [handle, perform, Work.bind_apply, Work.get_apply, Work.observe_apply,
    Work.ofOutcome_apply]
  cases ran : (callback.run (p.library s.tree)).outcome with
  | error cause =>
    rw [ran] at asked
    cases asked
  | ok returned =>
    rw [ran] at asked
    dsimp only
    rw [show (read returned).mapError Failure.shape = .ok outcome from asked]
    rfl

/-- Files are written one after another, and count as written once all of them are. -/
theorem writeFiles_apply (files : List OutputFile) (s : Session) :
    p.writeFiles files s =
      let (change, outcome) := Change.write p.settings.encoding p.outputRoot s.tree files
      match outcome with
      | .ok () => (.ok (), { s.change change with written := s.written ++ change.paths })
      | .error failure => (.error failure, s.change change) := by
  unfold writeFiles
  cases files with
  | nil =>
    show ((Except.ok (), s) : Except Failure Unit × Session) = _
    simp [Change.write, Session.change_nothing]
  | cons file rest =>
    simp only [List.isEmpty_cons, Bool.false_eq_true, if_false, Work.bind_apply, Work.get_apply,
      Work.change_apply, Work.ofOutcome_apply, Work.modify_apply]
    rcases Change.write p.settings.encoding p.outputRoot s.tree (file :: rest) with ⟨change, _ | _⟩
    · rfl
    · rfl

theorem deleteFiles_apply (patterns : List Json) (s : Session) :
    p.deleteFiles patterns s =
      match Change.delete p.outputRoot s.tree patterns with
      | .ok change => (.ok (), s.change change)
      | .error failure => (.error failure, s) := by
  unfold deleteFiles
  cases patterns with
  | nil =>
    show ((Except.ok (), s) : Except Failure Unit × Session) = _
    have nothing : Change.delete p.outputRoot s.tree [] = .ok ⟨s.tree, [], []⟩ := rfl
    simp [nothing, Session.change_nothing]
  | cons pattern rest =>
    simp only [List.isEmpty_cons, Bool.false_eq_true, if_false, Work.bind_apply, Work.get_apply,
      Work.change_apply, Work.ofOutcome_apply]
    cases Change.delete p.outputRoot s.tree (pattern :: rest) with
    | error failure => rfl
    | ok change => rfl

theorem settle_of_error {read : Returned → Except ShapeFault Outcome}
    {callback : Program Returned} {failed : Failure → Report} {failure : Failure} {t : Session}
    (ended : p.handle read callback s = (.error failure, t)) :
    p.settle read callback failed s = (.ok .null, t.notices [.report (failed failure)]) := by
  simp only [settle, Work.bind_apply, Work.attempt_apply, ended, Work.report_apply,
    Work.pure_apply]

theorem settle_of_ok {read : Returned → Except ShapeFault Outcome}
    {callback : Program Returned} {failed : Failure → Report} {metadata : Json} {t : Session}
    (ended : p.handle read callback s = (.ok metadata, t)) :
    p.settle read callback failed s = (.ok metadata, t) := by
  simp only [settle, Work.bind_apply, Work.attempt_apply, ended, Work.pure_apply]

/-- The writing that a request asks for; one that is refused asks for none. -/
def writing (p : Project) (tree : FileTree) (asked : Except Failure Outcome) :
    Change × Except Failure Unit :=
  Change.write p.settings.encoding p.outputRoot tree
    (match asked with
    | .ok outcome => outcome.files
    | .error _ => [])

/-- What counts as written after a writing: every path, once all are written. -/
def recorded : Change × Except Failure Unit → List Path
  | (change, .ok ()) => change.paths
  | (_, .error _) => []

/-- The tree after what a request asks for has been done, as far as it can be. -/
def treeAfter (p : Project) (tree : FileTree) (asked : Except Failure Outcome) : FileTree :=
  let (change, wrote) := p.writing tree asked
  match asked, wrote with
  | .ok outcome, .ok () =>
    match Change.delete p.outputRoot change.tree outcome.deletions with
    | .ok deleted => deleted.tree
    | .error _ => change.tree
  | _, _ => change.tree

/-- What doing what an outcome asks for leaves. -/
structure Does (p : Project) (asked : Except Failure Outcome) (s t : Session) : Prop where
  tree : t.tree = p.treeAfter s.tree asked
  written : t.written = s.written ++ recorded (p.writing s.tree asked)
  records : s.sink.records <+: t.sink.records

theorem Does.of_alike {asked : Except Failure Outcome} {t u : Session} (alike : s.Alike t)
    (does : p.Does asked t u) : p.Does asked s u where
  tree := by rw [does.tree, alike.tree]
  written := by rw [does.written, alike.written, alike.tree]
  records := by rw [← alike.sink]; exact does.records

theorem does_apply (outcome : Outcome) (s : Session) :
    p.Does (.ok outcome) s (p.apply outcome s).2 := by
  rw [apply, Work.bind_apply, writeFiles_apply]
  rcases wrote : Change.write p.settings.encoding p.outputRoot s.tree outcome.files with
    ⟨change, _ | _⟩
  · constructor <;> simp [treeAfter, writing, wrote, recorded]
  · dsimp only
    rw [deleteFiles_apply]
    cases deleted : Change.delete p.outputRoot change.tree outcome.deletions with
    | error failure => constructor <;> simp [treeAfter, writing, wrote, recorded, deleted]
    | ok removed => constructor <;> simp [treeAfter, writing, wrote, recorded, deleted]

/-- Handling a callback does what it asks for. -/
theorem does_handle (read : Returned → Except ShapeFault Outcome) (callback : Program Returned)
    (s : Session) :
    p.Does (p.request s.tree read callback) s (p.handle read callback s).2 := by
  cases asked : p.request s.tree read callback with
  | error failure =>
    rw [handle_of_refused asked]
    constructor <;> simp [heard, treeAfter, writing, Change.write, recorded]
  | ok outcome =>
    rw [handle_of_asked asked, Work.bind_apply]
    have done := p.does_apply outcome (p.heard callback s)
    have earlier : s.sink.records <+: (p.heard callback s).sink.records := by simp [heard]
    rcases ended : p.apply outcome (p.heard callback s) with ⟨_ | _, t⟩
    · rw [ended] at done
      exact ⟨done.tree, done.written, earlier.trans done.records⟩
    · rw [ended] at done
      exact ⟨done.tree, done.written, earlier.trans done.records⟩

/-- Handling a callback never fails, and its failure is among the records. -/
theorem does_settle (read : Returned → Except ShapeFault Outcome) (callback : Program Returned)
    (failed : Failure → Report) (s : Session) :
    (∃ metadata, (p.settle read callback failed s).1 = .ok metadata) ∧
    p.Does (p.request s.tree read callback) s (p.settle read callback failed s).2 ∧
    ∀ failure, (p.handle read callback s).1 = .error failure →
      (failed failure).diagnostic ∈ (p.settle read callback failed s).2.sink.records := by
  have done := p.does_handle read callback s
  rcases ended : p.handle read callback s with ⟨failure | metadata, t⟩
  · rw [ended] at done
    rw [settle_of_error ended]
    refine ⟨⟨_, rfl⟩, ⟨done.tree, done.written, done.records.trans ?_⟩, ?_⟩
    · simp
    · rintro _ ⟨⟩
      simp [Notice.diagnostic?]
  · rw [ended] at done
    rw [settle_of_ok ended]
    exact ⟨⟨_, rfl⟩, done, nofun⟩

theorem does_of_settled {read : Returned → Except ShapeFault Outcome}
    {callback : Program Returned} {failed : Failure → Report} {metadata : Json} {t : Session}
    (settled : p.settle read callback failed s = (.ok metadata, t)) :
    p.Does (p.request s.tree read callback) s t := by
  have done := (p.does_settle read callback failed s).2.1
  rwa [settled] at done

end Project

/-! ## Runs of one strategy -/

namespace Project

variable {p : Project} {s : Session} {name : Text} {strategy : Strategy}

theorem runStrategy_of_find (name : Text) {found : List Path}
    (matched : Discovery.find s.tree p.scope strategy.patterns = .ok found) :
    ∃ t, s.Alike t ∧ p.runStrategy name strategy s =
      ((Discovery.byDirectory found).mapM (fun (directory, paths) =>
        p.runBatch name strategy directory paths) >>= fun metadata =>
          pure (metadata.filterMap id)) t := by
  have alike := p.alike_discover name strategy s
  have outcome := (p.outcome_discover name strategy).trans matched
  rcases ended : p.discover name strategy s with ⟨result, t⟩
  rw [ended] at alike outcome
  dsimp only at outcome
  subst outcome
  exact ⟨t, alike, Work.bind_of_ok ended⟩

/-- Where the files of a directory are prepared, what remains is calling the transform and handling
it. -/
theorem runBatch_of_prepared {paths : List Path} {files : List SourceFile} {t : Session}
    (name : Text) (strategy : Strategy) (directory : Path)
    (prepared : paths.mapM (p.prepare name strategy.name) s = (.ok files, t)) :
    ∃ metadata left u,
      p.settle Returned.read (strategy.transform ⟨directory, p.root, files⟩)
        (failedTransform strategy.name directory)
        { t with calls := t.calls ++ [.transform name strategy.name directory p.root files] } =
          (.ok metadata, u) ∧
      p.runBatch name strategy directory paths s = (.ok left, u) := by
  let called : Session :=
    { t with calls := t.calls ++ [.transform name strategy.name directory p.root files] }
  let callback := strategy.transform ⟨directory, p.root, files⟩
  let failed := failedTransform strategy.name directory
  obtain ⟨⟨metadata, ended⟩, _⟩ := p.does_settle Returned.read callback failed called
  rcases settled : p.settle Returned.read callback failed called with ⟨result, u⟩
  rw [settled] at ended
  dsimp only at ended
  subst ended
  have batch : ∃ left, p.runBatch name strategy directory paths s = (.ok left, u) := by
    rw [runBatch, Work.bind_of_ok prepared, Work.bind_of_ok (Work.call_apply _ t),
      Work.bind_of_ok settled]
    cases metadata <;> exact ⟨_, rfl⟩
  obtain ⟨left, batch⟩ := batch
  exact ⟨metadata, left, u, rfl, batch⟩

/-- A directory with one document, one with nothing to resolve, comes to handling the transform. -/
theorem runBatch_of_document {path : Path} {content : Text} (name : Text) (strategy : Strategy)
    (read : s.tree.readText p.settings.encoding path = .ok content)
    (unfiltered : Text.find? (Region.opener p.settings.filterTag) content = none)
    (plain : Directive.findAll p.settings.includeTag content = []) :
    ∃ called metadata left t, s.Alike called ∧
      p.settle Returned.read
        (strategy.transform ⟨path.parent, p.root, [SourceFile.ofContent p.root path content]⟩)
        (failedTransform strategy.name path.parent) called = (.ok metadata, t) ∧
      p.runBatch name strategy path.parent [path] s = (.ok left, t) := by
  let files := [SourceFile.ofContent p.root path content]
  have prepared : [path].mapM (p.prepare name strategy.name) s = (.ok files, s) := by
    rw [List.mapM_cons, Work.bind_of_ok (prepare_of_plain _ _ read unfiltered plain)]
    rfl
  obtain ⟨metadata, left, t, settled, batch⟩ :=
    runBatch_of_prepared name strategy path.parent prepared
  exact ⟨{ s with calls := s.calls ++ [.transform name strategy.name path.parent p.root files] },
    metadata, left, t, ⟨rfl, rfl, rfl⟩, settled, batch⟩

/-- A directory whose first document cannot be read stops there. -/
theorem runBatch_of_unread {path : Path} {failure : Failure} (name : Text) (strategy : Strategy)
    (directory : Path) (rest : List Path)
    (unread : s.tree.readText p.settings.encoding path = .error failure) :
    p.runBatch name strategy directory (path :: rest) s = (.error failure, s) := by
  have stopped : p.prepare name strategy.name path s = (.error failure, s) := by
    simp only [prepare, Work.bind_apply, Work.get_apply, Work.ofOutcome_apply, unread]
  rw [runBatch, List.mapM_cons]
  exact Work.bind_of_error (Work.bind_of_error stopped)

theorem byDirectory_singleton (path : Path) :
    Discovery.byDirectory [path] = [(path.parent, [path])] := by
  simp [Discovery.byDirectory, List.eraseDups_cons]

theorem byDirectory_pair {path other : Path} (apart : other.parent ≠ path.parent) :
    Discovery.byDirectory [path, other] = [(path.parent, [path]), (other.parent, [other])] := by
  simp [Discovery.byDirectory, List.eraseDups_cons, apart, apart.symm]

/-- A project with one tool that has one strategy. -/
def single (strategy : Strategy) : Project :=
  .ofPaths .default ⟨[⟨"claude", [strategy], none⟩], [], none⟩ (.ofText "/proj") none 1

/-- The run of a single strategy is framed by progress messages. -/
theorem run_of_strategy (tools : p.config.tools = [⟨name, [strategy], none⟩]) (s : Session) :
    ∃ opening, s.Alike opening ∧ p.run s =
      match p.runStrategy name strategy opening with
      | (.ok _, t) =>
        (.ok ⟨[name], t.written, t.sink.records.length⟩, t.notices [.progress "Done."])
      | (.error failure, t) => (.error failure, t) := by
  let started := s.notices [.progress ("Starting engine at " ++ p.root.toText ++ "...")]
  let opening := started.notices [.progress ("Processing tool: " ++ name)]
  refine ⟨opening, (Session.Alike.progress s _).trans (.progress started _), ?_⟩
  simp only [run, tools, List.mapM_cons, List.mapM_nil, Work.bind_apply, Work.progress_apply,
    Work.pure_apply, runTool]
  rcases p.runStrategy name strategy opening with ⟨failure | metadata, t⟩
  · rfl
  · rfl

/-- A strategy that finds one document, one with nothing to resolve, comes to handling the
transform. -/
theorem runStrategy_settles (name : Text) {path : Path} {content : Text}
    (matched : Discovery.find s.tree p.scope strategy.patterns = .ok [path])
    (read : s.tree.readText p.settings.encoding path = .ok content)
    (unfiltered : Text.find? (Region.opener p.settings.filterTag) content = none)
    (plain : Directive.findAll p.settings.includeTag content = []) :
    ∃ called metadata left t, s.Alike called ∧
      p.settle Returned.read
        (strategy.transform ⟨path.parent, p.root, [SourceFile.ofContent p.root path content]⟩)
        (failedTransform strategy.name path.parent) called = (.ok metadata, t) ∧
      p.runStrategy name strategy s = (.ok left, t) := by
  obtain ⟨found, alike, ran⟩ := runStrategy_of_find name matched
  rw [← alike.tree] at read
  obtain ⟨called, metadata, left, t, further, settled, batch⟩ :=
    runBatch_of_document name strategy read unfiltered plain
  rw [byDirectory_singleton, List.mapM_cons, List.mapM_nil] at ran
  simp only [Work.bind_apply, batch, Work.pure_apply] at ran
  exact ⟨called, metadata, _, t, alike.trans further, settled, ran⟩

/-- The run of such a strategy alone ends well with what handling the transform leaves. -/
theorem run_settles (tools : p.config.tools = [⟨name, [strategy], none⟩]) {path : Path}
    {content : Text}
    (matched : Discovery.find s.tree p.scope strategy.patterns = .ok [path])
    (read : s.tree.readText p.settings.encoding path = .ok content)
    (unfiltered : Text.find? (Region.opener p.settings.filterTag) content = none)
    (plain : Directive.findAll p.settings.includeTag content = []) :
    ∃ called metadata t, s.Alike called ∧
      p.settle Returned.read
        (strategy.transform ⟨path.parent, p.root, [SourceFile.ofContent p.root path content]⟩)
        (failedTransform strategy.name path.parent) called = (.ok metadata, t) ∧
      (p.run s).1 = .ok ⟨[name], t.written, t.sink.records.length⟩ ∧ t.Alike (p.run s).2 := by
  obtain ⟨opening, alike, run⟩ := run_of_strategy tools s
  rw [← alike.tree] at matched read
  obtain ⟨called, metadata, left, t, further, settled, ran⟩ :=
    runStrategy_settles name matched read unfiltered plain
  rw [ran] at run
  exact ⟨called, metadata, t, alike.trans further, settled, by rw [run],
    by rw [run]; exact .progress t _⟩

/-- Such a run does what the transform asks for. -/
theorem run_of_document (tools : p.config.tools = [⟨name, [strategy], none⟩]) {path : Path}
    {content : Text}
    (matched : Discovery.find s.tree p.scope strategy.patterns = .ok [path])
    (read : s.tree.readText p.settings.encoding path = .ok content)
    (unfiltered : Text.find? (Region.opener p.settings.filterTag) content = none)
    (plain : Directive.findAll p.settings.includeTag content = []) :
    ∃ t, p.Does (p.request s.tree Returned.read
        (strategy.transform ⟨path.parent, p.root, [SourceFile.ofContent p.root path content]⟩)) s t ∧
      (p.run s).1 = .ok ⟨[name], t.written, t.sink.records.length⟩ ∧ t.Alike (p.run s).2 := by
  obtain ⟨called, metadata, t, alike, settled, ran⟩ :=
    run_settles tools matched read unfiltered plain
  refine ⟨t, ?_, ran⟩
  rw [← alike.tree]
  exact (does_of_settled settled).of_alike alike

/-- The run of a single strategy that finds two documents in two directories ends at the second, if
what the transform asks for at the first leaves the second unreadable. -/
theorem run_of_unread (tools : p.config.tools = [⟨name, [strategy], none⟩]) {path other : Path}
    {content : Text} {failure : Failure}
    (matched : Discovery.find s.tree p.scope strategy.patterns = .ok [path, other])
    (apart : other.parent ≠ path.parent)
    (read : s.tree.readText p.settings.encoding path = .ok content)
    (unfiltered : Text.find? (Region.opener p.settings.filterTag) content = none)
    (plain : Directive.findAll p.settings.includeTag content = [])
    (unread : (p.treeAfter s.tree (p.request s.tree Returned.read (strategy.transform
      ⟨path.parent, p.root, [SourceFile.ofContent p.root path content]⟩))).readText
        p.settings.encoding other = .error failure) :
    (p.run s).1 = .error failure := by
  obtain ⟨opening, first, run⟩ := run_of_strategy tools s
  rw [← first.tree] at matched
  obtain ⟨found, second, ran⟩ := runStrategy_of_find name matched
  have alike := first.trans second
  rw [← alike.tree] at read unread
  obtain ⟨called, metadata, left, t, third, settled, batch⟩ :=
    runBatch_of_document name strategy read unfiltered plain
  rw [← third.tree, ← (does_of_settled settled).tree] at unread
  have stopped := p.runBatch_of_unread name strategy other.parent [] unread
  rw [byDirectory_pair apart, List.mapM_cons, List.mapM_cons] at ran
  simp only [Work.bind_apply, batch, stopped] at ran
  rw [run, ran]

end Project

/-! ## Tasks -/

namespace Moment

/-- What the callback of a moment asks for; other tasks ask for nothing. -/
def request (m : Moment) (p : Project) : Except Failure Outcome :=
  match m.task with
  | .settle read callback _ => p.request m.session.tree read callback
  | _ => .ok Outcome.nothing

/-- What a task does: it does what its callback asks for, and loses no record. -/
theorem does (m : Moment) (p : Project) : p.Does (m.request p) m.session (m.after p) := by
  obtain ⟨task, s⟩ := m
  cases task with
  | discover tool strategy =>
    have alike := p.alike_discover tool strategy s
    have after : (Moment.mk (.discover tool strategy) s).after p =
      (p.discover tool strategy s).2 := rfl
    exact ⟨alike.tree, alike.written.trans (List.append_nil _).symm, by simp [after, alike.sink]⟩
  | prepare tool strategy path =>
    obtain ⟨notices, said⟩ := p.session_prepare tool strategy path s
    have after : (Moment.mk (.prepare tool strategy path) s).after p = s.notices notices := said
    rw [after]
    exact ⟨rfl, (List.append_nil _).symm, by simp⟩
  | settle read callback failed => exact (p.does_settle read callback failed s).2.1

variable {p : Project} {s : Session} {failure : Failure}

theorem fails_discover_iff {tool : Text} {strategy : Strategy} :
    (Moment.mk (.discover tool strategy) s).Fails p failure ↔
      Discovery.find s.tree p.scope strategy.patterns = .error failure := by
  show (p.discover tool strategy s).1.map (fun _ => ()) = .error failure ↔ _
  rw [Project.outcome_discover]
  cases Discovery.find s.tree p.scope strategy.patterns <;> simp [Except.map]

theorem fails_prepare_iff {tool strategy : Text} {path : Path} :
    (Moment.mk (.prepare tool strategy path) s).Fails p failure ↔
      s.tree.readText p.settings.encoding path = .error failure ∨
        ∃ raw, s.tree.readText p.settings.encoding path = .ok raw ∧
          (p.resolve s.tree (p.library s.tree) tool strategy path raw).outcome =
            .error failure := by
  show (p.prepare tool strategy path s).1.map (fun _ => ()) = .error failure ↔ _
  rw [Project.outcome_prepare]
  cases s.tree.readText p.settings.encoding path with
  | error cause => simp [Except.map, bind, Except.bind]
  | ok raw =>
    cases ended : (p.resolve s.tree (p.library s.tree) tool strategy path raw).outcome <;>
      simp [Except.map, bind, Except.bind, ended, pure, Except.pure]

theorem not_fails_settle {read : Returned → Except ShapeFault Outcome}
    {callback : Program Returned} {failed : Failure → Report} :
    ¬ (Moment.mk (.settle read callback failed) s).Fails p failure := by
  intro fails
  obtain ⟨⟨metadata, ended⟩, _⟩ := p.does_settle read callback failed s
  change (p.settle read callback failed s).1.map (fun _ => ()) = .error failure at fails
  rw [ended] at fails
  cases fails

end Moment

end DocWeave
