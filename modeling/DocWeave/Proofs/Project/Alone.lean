import DocWeave.Proofs.Project.Effect
import Mathlib.Data.List.Nodup
import Mathlib.Tactic.Choose

/-! # Tools beside one another

Tools whose callbacks ask for nothing to be written or deleted do not concern each other: each calls
its callbacks with what they would be given if there was no other tool, and reports the same. What
they are given can be told from the tree: the files of each strategy as they resolve, by directory,
and in the end the metadata that the transforms have left.
-/

namespace DocWeave

/-! ## What a tool calls -/

namespace Project

variable (p : Project) (tree : FileTree)

/-- A document as strategies are given it. -/
def prepared (tool strategy : Text) (path : Path) : Except Failure SourceFile := do
  let raw ← tree.readText p.settings.encoding path
  let content ← (p.resolve tree (p.library tree) tool strategy path raw).outcome
  return SourceFile.ofContent p.root path content

/-- The documents of one directory as a strategy is given them. -/
def batch (tool strategy : Text) (directory : Path) (paths : List Path) : Except Failure Batch := do
  return ⟨directory, p.root, ← paths.mapM (p.prepared tree tool strategy)⟩

/-- A strategy and the batches that it is given, by directories in the order in which they are
met. -/
def given (tool : Text) (strategy : Strategy) : Except Failure (Strategy × List Batch) := do
  let found ← Discovery.find tree p.scope strategy.patterns
  let batches ← (Discovery.byDirectory found).mapM fun (directory, paths) =>
    p.batch tree tool strategy.name directory paths
  return (strategy, batches)

/-- The calls of the transform of a strategy. -/
def transforms (tool : Text) : Strategy × List Batch → List Call
  | (strategy, batches) => batches.map fun batch =>
    .transform tool strategy.name batch.directory batch.root batch.files

/-- The metadata that a transform leaves, unless it fails or leaves none. -/
def metadata? (strategy : Strategy) (batch : Batch) : Option Json :=
  match p.request tree Returned.read (strategy.transform batch) with
  | .ok ⟨_, _, .null⟩ => none
  | .ok ⟨_, _, metadata⟩ => some metadata
  | .error _ => none

/-- The metadata that a strategy leaves. -/
def metadata : Strategy × List Batch → List Json
  | (strategy, batches) => batches.filterMap (p.metadata? tree strategy)

/-- The callbacks that a tool calls: the transforms of its strategies in order, and then the last
step with all the metadata that they leave. -/
def calls (tool : Tool) : Except Failure (List Call) := do
  let given ← tool.strategies.mapM (p.given tree tool.name)
  let finish := Call.finish tool.name (given.flatMap (p.metadata tree))
  return given.flatMap (transforms tool.name) ++ if tool.finish.isSome then [finish] else []

/-- Where the callback returns something to be done, it is nothing. -/
def AsksNothing (read : Returned → Except ShapeFault Outcome) (callback : Program Returned) :
    Prop :=
  ∀ outcome, p.request tree read callback = .ok outcome →
    outcome.files = [] ∧ outcome.deletions = []

/-- No callback of the tool asks for anything to be written or deleted. -/
structure Harmless (tool : Tool) : Prop where
  transform : ∀ strategy ∈ tool.strategies, ∀ batch,
    p.AsksNothing tree Returned.read (strategy.transform batch)
  finish : ∀ finish ∈ tool.finish, ∀ metadata,
    p.AsksNothing tree Returned.readFinish (finish metadata)

/-- The callbacks that a run calls. -/
def called (s : Session) : List Call := (p.run s).2.calls.drop s.calls.length

/-- The records that a run adds. -/
def reported (s : Session) : List Diagnostic :=
  (p.run s).2.sink.records.drop s.sink.records.length

end Project

/-! ## Work that only looks -/

namespace Work

variable {α β γ ζ : Type} {tree : FileTree}

/-- Where the work ends well on the tree, it has changed nothing there, and what it comes to and
calls is given by what can be seen of the tree. -/
def Looks (work : Work α) (tree : FileTree) (seen : Except Failure ζ) (value : ζ → α)
    (calls : ζ → List Call) : Prop :=
  ∀ s result t, s.tree = tree → work s = (.ok result, t) →
    t.tree = tree ∧ t.written = s.written ∧
      ∃ z, seen = .ok z ∧ result = value z ∧ t.calls = s.calls ++ calls z

theorem Looks.mapM {work : γ → Work α} {seen : γ → Except Failure ζ} {value : ζ → α}
    {calls : ζ → List Call} {xs : List γ}
    (each : ∀ x ∈ xs, (work x).Looks tree (seen x) value calls) :
    (xs.mapM work).Looks tree (xs.mapM seen) (List.map value) (List.flatMap calls) := by
  induction xs with
  | nil =>
    rintro s _ _ same ⟨⟩
    exact ⟨same, rfl, [], rfl, rfl, (List.append_nil _).symm⟩
  | cons x xs ih =>
    obtain ⟨here, later⟩ := List.forall_mem_cons.1 each
    intro s result u same ended
    rw [List.mapM_cons] at ended
    obtain ⟨y, t, first, ended⟩ := exists_of_bind_ok ended
    obtain ⟨ys, v, rest, ended⟩ := exists_of_bind_ok ended
    cases ended
    obtain ⟨kept, unwritten, z, seenHere, rfl, called⟩ := here s y t same first
    obtain ⟨stays, unwrittenLater, zs, seenLater, rfl, calledLater⟩ := ih later t ys u kept rest
    refine ⟨stays, unwrittenLater.trans unwritten, z :: zs, ?_, rfl, ?_⟩
    · rw [List.mapM_cons, seenHere, seenLater]
      rfl
    · rw [calledLater, called, List.flatMap_cons, List.append_assoc]

end Work

namespace Project

variable {p : Project} {tree : FileTree}

/-- A document without anything to filter or to include is given as it is. -/
theorem prepared_of_plain {content : Text} {path : Path} (tool strategy : Text)
    (read : tree.readText p.settings.encoding path = .ok content)
    (unfiltered : Text.find? (Region.opener p.settings.filterTag) content = none)
    (plain : Directive.findAll p.settings.includeTag content = []) :
    p.prepared tree tool strategy path = .ok (SourceFile.ofContent p.root path content) := by
  rw [prepared, read]
  simp only [bind, Except.bind, resolve_of_plain _ _ _ _ _ unfiltered plain]
  rfl

theorem looks_prepare (tool strategy : Text) (path : Path) :
    (p.prepare tool strategy path).Looks tree (p.prepared tree tool strategy path) id
      (fun _ => []) := by
  rintro s result t rfl ended
  obtain ⟨notices, said⟩ := p.session_prepare tool strategy path s
  have outcome := p.outcome_prepare tool strategy path s
  rw [ended] at said outcome
  dsimp only at said
  subst said
  exact ⟨rfl, rfl, result, outcome.symm, rfl, (List.append_nil _).symm⟩

theorem looks_discover (tool : Text) (strategy : Strategy) :
    (p.discover tool strategy).Looks tree (Discovery.find tree p.scope strategy.patterns) id
      (fun _ => []) := by
  rintro s result t rfl ended
  have alike := p.alike_discover tool strategy s
  have outcome := p.outcome_discover tool strategy (s := s)
  have uncalled : (p.discover tool strategy s).2.calls = s.calls := by
    simp only [discover, Work.bind_apply, Work.progress_apply, Work.get_apply, Work.ofOutcome_apply,
      Session.tree_notices]
    cases Discovery.find s.tree p.scope strategy.patterns <;> rfl
  rw [ended] at alike outcome uncalled
  exact ⟨alike.tree, alike.written, result, outcome.symm, rfl, by rw [uncalled, List.append_nil]⟩

/-- A callback that asks for nothing to be done is handled by taking its metadata. -/
theorem looks_settle {read : Returned → Except ShapeFault Outcome} {callback : Program Returned}
    (asks : p.AsksNothing tree read callback) (failed : Failure → Report) :
    (p.settle read callback failed).Looks tree (.ok (p.request tree read callback))
      (fun | .ok outcome => outcome.metadata | .error _ => .null) (fun _ => []) := by
  rintro s result t rfl ended
  cases asked : p.request s.tree read callback with
  | error failure =>
    rw [settle_of_error (handle_of_refused asked)] at ended
    cases ended
    exact ⟨rfl, rfl, _, rfl, rfl, (List.append_nil _).symm⟩
  | ok outcome =>
    obtain ⟨files, deletions, metadata⟩ := outcome
    obtain ⟨unwritten, undeleted⟩ := asks _ asked
    dsimp only at unwritten undeleted
    subst unwritten undeleted
    have handled : p.handle read callback s = (.ok metadata, p.heard callback s) :=
      handle_of_asked asked
    rw [settle_of_ok handled] at ended
    cases ended
    exact ⟨rfl, rfl, _, rfl, rfl, (List.append_nil _).symm⟩

theorem looks_runBatch {strategy : Strategy}
    (asks : ∀ batch, p.AsksNothing tree Returned.read (strategy.transform batch)) (tool : Text)
    (directory : Path) (paths : List Path) :
    (p.runBatch tool strategy directory paths).Looks tree
      (p.batch tree tool strategy.name directory paths) (p.metadata? tree strategy)
      fun batch => [.transform tool strategy.name batch.directory batch.root batch.files] := by
  intro s result u same ended
  obtain ⟨files, t, prepared, ended⟩ := Work.exists_of_bind_ok ended
  obtain ⟨_, v, called, ended⟩ := Work.exists_of_bind_ok ended
  obtain ⟨metadata, w, settled, ended⟩ := Work.exists_of_bind_ok ended
  have each := Work.Looks.mapM fun path (_ : path ∈ paths) =>
    @looks_prepare p tree tool strategy.name path
  obtain ⟨kept, unwritten, given, seen, equal, uncalled⟩ := each s files t same prepared
  rw [List.map_id] at equal
  subst equal
  rw [Work.call_apply] at called
  cases called
  obtain ⟨stays, still, _, ⟨⟩, rfl, quiet⟩ :=
    p.looks_settle (asks _) _ _ metadata w (by exact kept) settled
  have batch : p.batch tree tool strategy.name directory paths =
      .ok ⟨directory, p.root, files⟩ := by
    rw [Project.batch, seen]
    rfl
  -- Metadata that is null counts as none, whether it is returned or stands for a failure.
  have left : result = p.metadata? tree strategy ⟨directory, p.root, files⟩ ∧ u = w := by
    rw [metadata?]
    cases asked : p.request tree Returned.read (strategy.transform ⟨directory, p.root, files⟩) with
    | error failure =>
      rw [asked] at ended
      cases ended
      exact ⟨rfl, rfl⟩
    | ok outcome =>
      obtain ⟨_, _, metadata⟩ := outcome
      rw [asked] at ended
      dsimp only at ended
      cases metadata <;> cases ended <;> exact ⟨rfl, rfl⟩
  obtain ⟨rfl, rfl⟩ := left
  have silent : files.flatMap (fun _ => ([] : List Call)) = [] := by simp
  rw [uncalled, silent, List.append_nil, List.append_nil] at quiet
  exact ⟨stays, still.trans unwritten, _, batch, rfl, quiet⟩

theorem looks_runStrategy {strategy : Strategy}
    (asks : ∀ batch, p.AsksNothing tree Returned.read (strategy.transform batch)) (tool : Text) :
    (p.runStrategy tool strategy).Looks tree (p.given tree tool strategy) (p.metadata tree)
      (transforms tool) := by
  intro s result u same ended
  obtain ⟨found, t, discovered, ended⟩ := Work.exists_of_bind_ok ended
  obtain ⟨metadata, v, ran, ended⟩ := Work.exists_of_bind_ok ended
  cases ended
  obtain ⟨kept, unwritten, _, matched, rfl, uncalled⟩ :=
    p.looks_discover tool strategy s found t same discovered
  have each := Work.Looks.mapM fun batch (_ : batch ∈ Discovery.byDirectory found) =>
    p.looks_runBatch asks tool batch.1 batch.2
  obtain ⟨stays, still, batches, seen, rfl, called⟩ := each t metadata u kept ran
  have seen : (Discovery.byDirectory found).mapM (fun (directory, paths) =>
      p.batch tree tool strategy.name directory paths) = .ok batches := seen
  refine ⟨stays, still.trans unwritten, (strategy, batches), ?_, ?_, ?_⟩
  · simp only [given, matched, seen, bind, Except.bind]
    rfl
  · rw [List.filterMap_map]
    rfl
  · rw [called, uncalled, List.append_nil, ← List.map_eq_flatMap]
    rfl

theorem looks_runFinish {finish : List Json → Program Returned} (tool : Text)
    (metadata : List Json) (asks : p.AsksNothing tree Returned.readFinish (finish metadata)) :
    (p.runFinish tool finish metadata).Looks tree (.ok ()) id
      fun _ => [.finish tool metadata] := by
  intro s result u same ended
  rw [runFinish, Work.bind_apply, Work.progress_apply] at ended
  dsimp only at ended
  rw [Work.bind_apply, Work.call_apply] at ended
  dsimp only at ended
  obtain ⟨_, v, settled, ended⟩ := Work.exists_of_bind_ok ended
  cases ended
  obtain ⟨stays, still, _, _, _, quiet⟩ := p.looks_settle asks _ _ _ u (by exact same) settled
  exact ⟨stays, still, (), rfl, rfl, quiet.trans (List.append_nil _)⟩

/-- A tool that asks for nothing to be done calls what can be told from the tree. -/
theorem looks_runTool {tool : Tool} (harmless : p.Harmless tree tool) :
    (p.runTool tool).Looks tree (p.calls tree tool) (fun _ => ()) id := by
  intro s result u same ended
  rw [runTool, Work.bind_apply, Work.progress_apply] at ended
  dsimp only at ended
  obtain ⟨metadata, t, ran, ended⟩ := Work.exists_of_bind_ok ended
  have each := Work.Looks.mapM fun strategy listed =>
    p.looks_runStrategy (harmless.transform strategy listed) tool.name
  obtain ⟨kept, unwritten, given, seen, rfl, called⟩ := each _ metadata t (by exact same) ran
  have calls : p.calls tree tool = .ok (given.flatMap (transforms tool.name) ++
      if tool.finish.isSome then [Call.finish tool.name (given.flatMap (p.metadata tree))]
      else []) := by
    rw [Project.calls, seen]
    rfl
  cases last : tool.finish with
  | none =>
    rw [last] at ended calls
    cases ended
    refine ⟨kept, unwritten, _, calls, rfl, ?_⟩
    rw [called]
    simp [Session.notices]
  | some finish =>
    rw [last] at ended calls
    obtain ⟨stays, still, _, _, _, finished⟩ := p.looks_runFinish tool.name _
      (harmless.finish finish last _) t result u kept ended
    refine ⟨stays, still.trans unwritten, _, calls, rfl, ?_⟩
    simp only [finished, called, ← List.flatMap_def]
    simp [Session.notices]

/-! ## Runs with some of the tools -/

/-- The tool does the same to every session with the tree, and changes nothing there. -/
def Adds (p : Project) (tree : FileTree) (tool : Tool) (calls : List Call)
    (records : List Diagnostic) : Prop :=
  ∀ s : Session, s.tree = tree → (p.runTool tool).Has s ⟨.ok (), tree, [], calls, records⟩

/-- A harmless tool that has ended well once always adds the calls that can be told from the
tree. -/
theorem exists_adds {tool : Tool} (harmless : p.Harmless tree tool) {s : Session}
    (same : s.tree = tree) (ended : (p.runTool tool s).1 = .ok ()) :
    ∃ calls records, p.calls tree tool = .ok calls ∧ p.Adds tree tool calls records := by
  obtain ⟨⟨result, left, written, calls, records⟩, has⟩ := p.oblivious_runTool tool tree
  have here := has s same
  -- One session in which the tool ends well shows the effect that it has in every session.
  obtain ⟨kept, unwritten, seen, told, _, called⟩ :=
    p.looks_runTool harmless s () (p.runTool tool s).2 same (Prod.ext ended rfl)
  obtain rfl : .ok () = result := ended.symm.trans here.result
  obtain rfl : tree = left := kept.symm.trans here.tree
  obtain rfl : written = [] := List.append_cancel_left
    (here.written.symm.trans (unwritten.trans (List.append_nil _).symm))
  obtain rfl : seen = calls := List.append_cancel_left (called.symm.trans here.calls)
  exact ⟨seen, records, told, has⟩

/-- Tools one after another add their calls and records one after another. -/
theorem has_mapM {calls : Tool → List Call} {records : Tool → List Diagnostic} {tools : List Tool}
    (adds : ∀ tool ∈ tools, p.Adds tree tool (calls tool) (records tool)) {s : Session}
    (same : s.tree = tree) :
    ∃ units, (tools.mapM p.runTool).Has s
      ⟨.ok units, tree, [], tools.flatMap calls, tools.flatMap records⟩ := by
  induction tools generalizing s with
  | nil => exact ⟨[], rfl, same, by simp, by simp, by simp⟩
  | cons tool tools ih =>
    obtain ⟨here, later⟩ := List.forall_mem_cons.1 adds
    have first := here s same
    obtain ⟨units, rest⟩ := ih later first.tree
    have behind : (tools.mapM p.runTool >>= fun units => pure (() :: units)).Has _ _ :=
      rest.bind_ok rfl (Work.has_pure _ _)
    have whole : (p.runTool tool >>= fun head => tools.mapM p.runTool >>= fun units =>
      pure (head :: units)).Has s _ := first.bind_ok rfl behind
    rw [rest.tree] at whole
    rw [List.mapM_cons]
    exact ⟨() :: units, by simpa [Effect.andThen] using whole⟩

/-- A run of tools that always add the same ends well and adds what they add. -/
theorem run_adds {calls : Tool → List Call} {records : Tool → List Diagnostic} {s : Session}
    (adds : ∀ tool ∈ p.config.tools, p.Adds s.tree tool (calls tool) (records tool)) :
    (∃ summary, (p.run s).1 = .ok summary) ∧
    (p.run s).2.calls = s.calls ++ p.config.tools.flatMap calls ∧
    (p.run s).2.sink.records = s.sink.records ++ p.config.tools.flatMap records := by
  let opening := s.notices [.progress ("Starting engine at " ++ p.root.toText ++ "...")]
  obtain ⟨units, has⟩ := @has_mapM p s.tree calls records _ adds opening rfl
  let t := (p.config.tools.mapM p.runTool opening).2
  have ran : p.config.tools.mapM p.runTool opening = (.ok units, t) := Prod.ext has.result rfl
  have run : p.run s =
      (.ok ⟨p.config.tools.map Tool.name, t.written, t.sink.records.length⟩,
        t.notices [.progress "Done."]) := by
    rw [Project.run, Work.bind_apply, Work.progress_apply]
    dsimp only
    rw [Work.bind_of_ok ran]
    rfl
  rw [run]
  refine ⟨⟨_, rfl⟩, has.calls, ?_⟩
  rw [Session.records_notices, has.records]
  simp [opening, List.filterMap_cons, Notice.diagnostic?]

/-- Where harmless tools run well, each always adds the same. -/
theorem exists_adds_of_mapM {tools : List Tool} (harmless : ∀ tool ∈ tools, p.Harmless tree tool)
    {s t : Session} {units : List Unit} (same : s.tree = tree)
    (ended : tools.mapM p.runTool s = (.ok units, t)) :
    ∀ tool ∈ tools, ∃ calls records,
      p.calls tree tool = .ok calls ∧ p.Adds tree tool calls records := by
  induction tools generalizing s t units with
  | nil => exact nofun
  | cons tool tools ih =>
    obtain ⟨here, later⟩ := List.forall_mem_cons.1 harmless
    rw [List.mapM_cons] at ended
    obtain ⟨_, u, first, ended⟩ := Work.exists_of_bind_ok ended
    obtain ⟨rest, v, behind, ended⟩ := Work.exists_of_bind_ok ended
    obtain ⟨calls, records, told, adds⟩ := exists_adds here same (congrArg Prod.fst first)
    have kept := (adds s same).tree
    rw [first] at kept
    dsimp only at kept
    exact List.forall_mem_cons.2 ⟨⟨calls, records, told, adds⟩, ih later kept behind⟩

/-- The tools of a run that ends well have been gone through. -/
theorem exists_mapM_of_run {s : Session} {summary : Summary} (ended : (p.run s).1 = .ok summary) :
    ∃ opening units t, opening.tree = s.tree ∧
      p.config.tools.mapM p.runTool opening = (.ok units, t) := by
  obtain ⟨_, opening, first, ended⟩ := Work.exists_of_bind_ok (Prod.ext ended rfl)
  rw [Work.progress_apply] at first
  cases first
  obtain ⟨units, t, ran, _⟩ := Work.exists_of_bind_ok ended
  exact ⟨_, units, t, by rfl, ran⟩

/-- What a tool always adds is what it calls and reports by itself. -/
theorem Adds.alone {tool : Tool} {calls : List Call} {records : List Diagnostic} {s : Session}
    (adds : p.Adds s.tree tool calls records) :
    (p.withTools [tool]).called s = calls ∧ (p.withTools [tool]).reported s = records := by
  have only : ∀ other ∈ (p.withTools [tool]).config.tools,
      (p.withTools [tool]).Adds s.tree other calls records := by
    intro other mem
    rw [List.mem_singleton.1 mem, Adds, runTool_withTools]
    exact adds
  obtain ⟨_, allCalls, allRecords⟩ := run_adds only
  rw [called, reported, allCalls, allRecords, List.drop_left, List.drop_left]
  exact ⟨List.append_nil _, List.append_nil _⟩

/-- Each of some harmless tools that run well together calls by itself what can be told from the
tree. Any of them run well together in any order, and then they call and report, one after another,
what each of them calls and reports by itself. -/
theorem run_of_harmless (p : Project) (s : Session)
    (harmless : ∀ tool ∈ p.config.tools, p.Harmless s.tree tool)
    (ended : ∃ summary, (p.run s).1 = .ok summary) :
    (∀ tool ∈ p.config.tools,
      p.calls s.tree tool = .ok ((p.withTools [tool]).called s)) ∧
    ∀ tools ⊆ p.config.tools,
      (∃ summary, ((p.withTools tools).run s).1 = .ok summary) ∧
      ((p.withTools tools).run s).2.calls =
        s.calls ++ tools.flatMap (fun tool => (p.withTools [tool]).called s) ∧
      ((p.withTools tools).run s).2.sink.records =
        s.sink.records ++ tools.flatMap fun tool => (p.withTools [tool]).reported s := by
  obtain ⟨summary, ended⟩ := ended
  obtain ⟨opening, units, t, same, ran⟩ := exists_mapM_of_run ended
  have alone : ∀ tool ∈ p.config.tools,
      p.calls s.tree tool = .ok ((p.withTools [tool]).called s) ∧
      p.Adds s.tree tool ((p.withTools [tool]).called s) ((p.withTools [tool]).reported s) := by
    intro tool listed
    obtain ⟨calls, records, told, adds⟩ := exists_adds_of_mapM harmless same ran tool listed
    obtain ⟨called, reported⟩ := adds.alone
    rw [called, reported]
    exact ⟨told, adds⟩
  refine ⟨fun tool listed => (alone tool listed).1, fun tools within => ?_⟩
  have adds : ∀ tool ∈ (p.withTools tools).config.tools, (p.withTools tools).Adds s.tree tool
      ((p.withTools [tool]).called s) ((p.withTools [tool]).reported s) := by
    intro tool listed
    rw [Adds, runTool_withTools]
    exact (alone tool (within listed)).2
  exact run_adds adds

/-- The last step of a tool always ends well. -/
theorem outcome_runFinish (tool : Text) (finish : List Json → Program Returned)
    (metadata : List Json) (s : Session) : (p.runFinish tool finish metadata s).1 = .ok () := by
  simp only [runFinish, Work.bind_apply, Work.progress_apply, Work.call_apply]
  generalize Session.mk _ _ _ _ _ _ = called
  obtain ⟨⟨left, ended⟩, _⟩ :=
    p.does_settle Returned.readFinish (finish metadata) (failedFinish tool) called
  rcases settled : p.settle Returned.readFinish (finish metadata) (failedFinish tool) called with
    ⟨result, t⟩
  rw [settled] at ended
  dsimp only at ended
  subst ended
  rfl

/-- A tool with one strategy ends well if that does. -/
theorem outcome_runTool {name : Text} {strategy : Strategy}
    {finish : Option (List Json → Program Returned)} {s t : Session} {left : List Json}
    (ran : p.runStrategy name strategy (s.notices [.progress ("Processing tool: " ++ name)]) =
      (.ok left, t)) : (p.runTool ⟨name, [strategy], finish⟩ s).1 = .ok () := by
  rw [runTool, Work.bind_apply, Work.progress_apply]
  simp only [List.mapM_cons, List.mapM_nil, Work.bind_apply, ran, Work.pure_apply]
  cases finish with
  | none => rfl
  | some finish => exact p.outcome_runFinish name finish _ _

/-- What a tool with one strategy calls. -/
theorem calls_of_given {name : Text} {strategy : Strategy}
    {finish : Option (List Json → Program Returned)} {batches : List Batch}
    (given : p.given tree name strategy = .ok (strategy, batches)) :
    p.calls tree ⟨name, [strategy], finish⟩ = .ok (transforms name (strategy, batches) ++
      if finish.isSome then [.finish name (p.metadata tree (strategy, batches))] else []) := by
  simp only [calls, List.mapM_cons, List.mapM_nil, given, bind, Except.bind, pure, Except.pure,
    List.flatMap_cons, List.flatMap_nil, List.append_nil]

/-- A strategy whose transform leaves metadata. -/
def noting : Strategy :=
  ⟨"notes", ["in.md"], fun _ => .done (.record (.items []) (.list []) (.text "noted"))⟩

/-- A strategy whose transform fails. -/
def refusing : Strategy := ⟨"rules", ["in.md"], fun _ => .fail (.raised "no")⟩

/-- A tool with a last step. -/
def thorough : Tool := ⟨"claude", [noting], some fun _ => .done .nothing⟩

/-- A tool without a last step. -/
def brief : Tool := ⟨"cursor", [refusing], none⟩

/-- A project with both tools. -/
def both : Project := .ofPaths .default ⟨[thorough, brief], [], none⟩ (.ofText "/proj") none 1

/-- An empty document. -/
def input : FileTree := FileTree.empty.plant ["proj".toList, "in.md".toList] (.file [])

/-- No callback of the tools returns anything to be written or deleted. -/
theorem harmless_both : ∀ tool ∈ both.config.tools, both.Harmless input tool := by
  have noting (batch : Batch) :
      both.AsksNothing input Returned.read (noting.transform batch) := by
    rintro _ ⟨⟩
    exact ⟨rfl, rfl⟩
  have refusing (batch : Batch) :
      both.AsksNothing input Returned.read (refusing.transform batch) := nofun
  have last (metadata : List Json) :
      both.AsksNothing input Returned.readFinish (.done .nothing) := by
    rintro _ ⟨⟩
    exact ⟨rfl, rfl⟩
  refine List.forall_mem_cons.2 ⟨⟨?_, ?_⟩, List.forall_mem_cons.2 ⟨⟨?_, nofun⟩, nofun⟩⟩
  · exact List.forall_mem_cons.2 ⟨noting, nofun⟩
  · rintro _ ⟨⟩
    exact last
  · exact List.forall_mem_cons.2 ⟨refusing, nofun⟩

theorem find_input : Discovery.find input both.scope ["in.md".toList] =
    .ok [.ofText "/proj/in.md"] := by decide +kernel

theorem read_input : input.readText both.settings.encoding (.ofText "/proj/in.md") =
    .ok [] := by decide +kernel

/-- A failing transform does not keep the run from ending well. -/
theorem run_both : ∃ summary, (both.run (.start input (.echoing false) none)).1 = .ok summary := by
  let s := Session.start input (.echoing false) none
  have adds : ∀ tool ∈ both.config.tools, ∃ calls records,
      both.Adds input tool calls records := by
    intro tool listed
    have runs (name : Text) {strategy : Strategy} (same : strategy.patterns = ["in.md".toList]) :
        ∃ left t, both.runStrategy name strategy
          (s.notices [.progress ("Processing tool: " ++ name)]) = (.ok left, t) := by
      obtain ⟨_, _, left, t, _, _, ran⟩ := @runStrategy_settles both
        (s.notices [.progress ("Processing tool: " ++ name)]) strategy name _ _
        (by rw [same]; exact find_input) read_input rfl rfl
      exact ⟨left, t, ran⟩
    have ended : (both.runTool tool s).1 = .ok () := by
      rcases List.mem_pair.1 listed with rfl | rfl
      · obtain ⟨left, t, ran⟩ := @runs "claude" noting rfl
        exact outcome_runTool ran
      · obtain ⟨left, t, ran⟩ := @runs "cursor" refusing rfl
        exact outcome_runTool ran
    obtain ⟨calls, records, _, adds⟩ := exists_adds (harmless_both tool listed) rfl ended
    exact ⟨calls, records, adds⟩
  choose! calls records adds using adds
  exact (run_adds adds).1

theorem prepared_input (tool strategy : Text) :
    both.prepared input tool strategy (.ofText "/proj/in.md") =
      .ok (SourceFile.ofContent both.root (.ofText "/proj/in.md") []) :=
  prepared_of_plain tool strategy read_input rfl rfl

/-- Each strategy is given the document. -/
theorem given_input (tool : Text) {strategy : Strategy}
    (same : strategy.patterns = ["in.md".toList]) :
    both.given input tool strategy = .ok (strategy, [⟨.ofText "/proj", both.root,
      [SourceFile.ofContent both.root (.ofText "/proj/in.md") []]⟩]) := by
  have parent : (Path.ofText "/proj/in.md").parent = .ofText "/proj" := by decide +kernel
  rw [given, same, find_input]
  simp only [bind, Except.bind, byDirectory_singleton, List.mapM_cons, List.mapM_nil, batch,
    prepared_input, parent]
  rfl

/-- In the other order each of the tools calls what it calls in this one. -/
theorem run_of_harmless_both :
    let s := Session.start input (.echoing false) none
    let file := SourceFile.ofContent both.root (.ofText "/proj/in.md") []
    ((both.withTools [brief, thorough]).run s).2.calls =
      [.transform "cursor" "rules" (.ofText "/proj") both.root [file],
        .transform "claude" "notes" (.ofText "/proj") both.root [file],
        .finish "claude" [.text "noted"]] := by
  intro s file
  obtain ⟨alone, together⟩ := run_of_harmless both s harmless_both run_both
  have one : thorough ∈ both.config.tools := .head _
  have other : brief ∈ both.config.tools := .tail _ (.head _)
  obtain ⟨_, calls, _⟩ := together [brief, thorough]
    (List.cons_subset.2 ⟨other, List.cons_subset.2 ⟨one, List.nil_subset _⟩⟩)
  have first : both.calls input brief = _ := calls_of_given (@given_input "cursor" refusing rfl)
  have second : both.calls input thorough = _ := calls_of_given (@given_input "claude" noting rfl)
  have firstAlone := (alone brief other).symm.trans first
  have secondAlone := (alone thorough one).symm.trans second
  rw [calls, List.flatMap_cons, List.flatMap_cons, Except.ok.inj firstAlone,
    Except.ok.inj secondAlone]
  rfl

end Project

end DocWeave
