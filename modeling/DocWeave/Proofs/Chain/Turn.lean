import DocWeave.Proofs.Chain.Compose

/-! # Pipelines turn by turn

Each stage of a pipeline has its turn with the content that the last usable stage before it has left.
A stage is usable on a content if it is registered and replies with a content. All others hand on what
they are given: a pipeline leaves what its usable stages leave one after another, and reports those
that are not registered and those that fail, each once and in order.
-/

namespace DocWeave

namespace Program

variable {α : Type}

/-- What a program gives without a request. -/
def result? : Program α → Option α
  | done value => some value
  | _ => none

/-- Why a program gives up without a request. -/
def failure? : Program α → Option Failure
  | fail failure => some failure
  | _ => none

theorem exists_of_isPure {program : Program α} (pure : program.IsPure) :
    (∃ value, program = done value) ∨ ∃ failure, program = fail failure := by
  cases program with
  | done value => exact .inl ⟨value, rfl⟩
  | fail failure => exact .inr ⟨failure, rfl⟩
  | tryFetch literal options next => exact pure.elim
  | tryFetchAll patterns options next => exact pure.elim

end Program

/-- Stages without requests may be registered over others of the kind. -/
theorem Registry.IsPure.extend {registry : Registry} (pure : registry.IsPure)
    {more : List (Text × Stage)} (each : ∀ entry ∈ more, ∀ context, (entry.2 context).IsPure) :
    (registry.extend more).IsPure := by
  intro name stage found
  rw [find?, Registry.extend, List.lookup_append, Option.or_eq_some_iff] at found
  rcases found with first | ⟨-, later⟩
  · obtain ⟨before, after, listed, -⟩ := List.lookup_eq_some_iff.1 first
    exact each (name, stage) (by simp [listed])
  · exact pure name stage later

namespace Chain

/-- A stage with the content that it is given. -/
structure Turn where
  call : StageCall
  given : Text

namespace Turn

variable (env : Environment)

/-- What the stage is called with. -/
def context (turn : Turn) : StageContext :=
  ⟨turn.given, turn.call.name, env.tool, env.strategy, turn.call.params, env.library.isSome⟩

/-- The content that the stage replies with, if it is registered and usable. -/
def left? (turn : Turn) : Option Text := do
  let stage ← env.registry.find? turn.call.name
  let reply ← (stage (turn.context env)).result?
  reply.content?

/-- What is reported of the stage: that it is not registered, or that it fails. -/
def complaint? (turn : Turn) : Option Report :=
  match env.registry.find? turn.call.name with
  | none => some (unknownStage turn.call.name)
  | some stage => (stage (turn.context env)).failure?.map (failedStage turn.call.name)

end Turn

/-- What the last usable stage of turns has left, or the content that they begin with. -/
def contentAfter (env : Environment) (content : Text) (turns : List Turn) : Text :=
  (turns.filterMap (Turn.left? env)).getLast?.getD content

/-- The turns of stages in a row. -/
def turns (env : Environment) (content : Text) : List StageCall → List Turn
  | [] => []
  | call :: rest =>
    let turn : Turn := ⟨call, content⟩
    turn :: turns env ((turn.left? env).getD content) rest

variable {env : Environment}

theorem contentAfter_cons (content : Text) (turn : Turn) (rest : List Turn) :
    contentAfter env content (turn :: rest) =
      contentAfter env ((turn.left? env).getD content) rest := by
  rw [contentAfter, contentAfter]
  cases usable : turn.left? env with
  | none => rw [List.filterMap_cons_none usable, Option.getD_none]
  | some left =>
    rw [List.filterMap_cons_some usable, List.getLast?_cons, Option.getD_some, Option.getD_some]

section

variable {turn : Turn} {stage : Stage}

theorem Turn.left?_of_find (found : env.registry.find? turn.call.name = some stage) :
    turn.left? env = (stage (turn.context env)).result?.bind StageReply.content? := by
  rw [left?, found]
  rfl

theorem Turn.complaint?_of_find (found : env.registry.find? turn.call.name = some stage) :
    turn.complaint? env =
      (stage (turn.context env)).failure?.map (failedStage turn.call.name) := by
  rw [complaint?, found]

theorem runStage_of_done {reply : StageReply}
    (found : env.registry.find? turn.call.name = some stage)
    (gives : stage (turn.context env) = .done reply) :
    runStage env turn.given turn.call = ⟨[], .ok (reply.content?.getD turn.given)⟩ := by
  rw [Turn.context] at gives
  simp only [runStage, found, gives]
  rfl

theorem runStage_of_fail {failure : Failure}
    (found : env.registry.find? turn.call.name = some stage)
    (gives : stage (turn.context env) = .fail failure) :
    runStage env turn.given turn.call =
      ⟨[.reported (failedStage turn.call.name failure)], .ok turn.given⟩ := by
  rw [Turn.context] at gives
  simp only [runStage, found, gives]
  rfl

end

/-- One turn leaves what a usable stage replies with, or what the stage is given. -/
theorem runStage_of_isPure (pure : env.registry.IsPure) (turn : Turn) :
    runStage env turn.given turn.call =
      ⟨(turn.complaint? env).toList.map .reported, .ok ((turn.left? env).getD turn.given)⟩ := by
  cases found : env.registry.find? turn.call.name with
  | none =>
    rw [Turn.complaint?, Turn.left?, runStage, found]
    rfl
  | some stage =>
    rw [Turn.complaint?_of_find found, Turn.left?_of_find found]
    rcases Program.exists_of_isPure (pure _ _ found (turn.context env)) with
      ⟨reply, gives⟩ | ⟨failure, gives⟩
    · rw [runStage_of_done found gives, gives]
      rfl
    · rw [runStage_of_fail found gives, gives]
      rfl

theorem map_call_turns (content : Text) (calls : List StageCall) :
    (turns env content calls).map Turn.call = calls := by
  induction calls generalizing content with
  | nil => rfl
  | cons call rest ih => rw [turns, List.map_cons, ih]

/-- Every stage is given what the last usable stage before it has left. -/
theorem given_eq_contentAfter {content : Text} {calls : List StageCall} {before after : List Turn}
    {turn : Turn} (split : turns env content calls = before ++ turn :: after) :
    turn.given = contentAfter env content before := by
  induction calls generalizing content before with
  | nil => simp [turns] at split
  | cons call rest ih =>
    rw [turns] at split
    cases before with
    | nil =>
      obtain ⟨rfl, -⟩ := List.cons.inj split
      rfl
    | cons first before =>
      obtain ⟨rfl, later⟩ := List.cons.inj split
      rw [contentAfter_cons]
      exact ih later

/-- The usable stages leave, one after another, what all stages leave. -/
theorem foldlM_usable (content : Text) (calls : List StageCall) :
    (((turns env content calls).filter fun turn => (turn.left? env).isSome).map Turn.call).foldlM
      (fun given call => Turn.left? env ⟨call, given⟩) content =
        some (contentAfter env content (turns env content calls)) := by
  induction calls generalizing content with
  | nil => rfl
  | cons call rest ih =>
    rw [turns, contentAfter_cons]
    cases usable : Turn.left? env ⟨call, content⟩ with
    | none =>
      rw [List.filter_cons_of_neg (by simp [usable])]
      exact ih content
    | some left =>
      rw [List.filter_cons_of_pos (by simp [usable]), List.map_cons, List.foldlM_cons, usable]
      exact ih left

/-- Stages in a row leave what the last usable one has left, and report what there is to complain
of, turn by turn. -/
theorem runStages_of_isPure (pure : env.registry.IsPure) (content : Text) (calls : List StageCall) :
    runStages env content calls =
      ⟨((turns env content calls).filterMap (Turn.complaint? env)).map .reported,
        .ok (contentAfter env content (turns env content calls))⟩ := by
  induction calls generalizing content with
  | nil => rfl
  | cons call rest ih =>
    have first := runStage_of_isPure pure ⟨call, content⟩
    dsimp only at first
    rw [runStages, Trace.bind_eq, first, Trace.andThen_of_ok rfl, ih, turns, contentAfter_cons]
    cases complaint : Turn.complaint? env ⟨call, content⟩ with
    | none =>
      rw [List.filterMap_cons_none complaint]
      rfl
    | some report =>
      rw [List.filterMap_cons_some complaint]
      rfl

/-- A pipeline of stages without requests leaves what those of its stages leave one after another
that are usable on what they are given, and each stage is given what the last usable one before it has
left. It reports every stage that is not registered or fails, each once and in order, and does
nothing else. -/
theorem run_eq_usable (pure : env.registry.IsPure) (content spec : Text) :
    ∃ turns : List Turn, turns.map Turn.call = parse spec ∧
      (∀ before turn after, turns = before ++ turn :: after →
        turn.given = contentAfter env content before) ∧
      ((turns.filter fun turn => (turn.left? env).isSome).map Turn.call).foldlM
        (fun given call => Turn.left? env ⟨call, given⟩) content =
          some (contentAfter env content turns) ∧
      (run env content spec).outcome = .ok (contentAfter env content turns) ∧
      (run env content spec).events = (turns.filterMap (Turn.complaint? env)).map .reported := by
  have ran := runStages_of_isPure pure content (parse spec)
  refine ⟨turns env content (parse spec), map_call_turns content _, ?_, foldlM_usable content _, ?_, ?_⟩
  · exact fun before turn after split => given_eq_contentAfter split
  · exact congrArg Trace.outcome ran
  · exact congrArg Trace.events ran

/-- Stages that reply in every form. The second one is usable on some contents only. -/
def assorted : List (Text × Stage) := [
  ("shout", fun context => .done (.text (context.content ++ "!"))),
  ("pair", fun context =>
    if context.content.length = 2 then .done (.mapping [("content", .text (context.content ++ "+"))] none)
    else .done (.record none)),
  ("count", fun _ => .done (.mapping [("content", .int 5)] none)),
  ("ask", fun context => .done (.object (some (.text (context.content ++ "?"))))),
  ("break", fun _ => .fail (.raised "broken"))]

/-- What pipelines run with that have these stages as well. -/
def assortedly : Environment := { builtin with registry := Registry.builtin.extend assorted }

/-- Two stages that are usable, one of them twice but not at first, and a third, among others that
are not. -/
def assortedSpec : Text := "pair, nowhere, shout, count, pair, break, ask, adjust-headings(x)"

theorem run_eq_usable_assorted : assortedly.registry.IsPure ∧
    ∃ turns : List Turn, turns.map Turn.call = parse assortedSpec ∧
      contentAfter assortedly "a" turns = "a!+?" ∧
      turns.filterMap (Turn.complaint? assortedly) =
        [unknownStage "nowhere", failedStage "break" (.raised "broken"),
          failedStage "adjust-headings" (.numeral (.malformed "x"))] := by
  have pure : assortedly.registry.IsPure := by
    apply Registry.isPure_builtin.extend
    intro entry mem context
    simp only [assorted, List.mem_cons, List.not_mem_nil, or_false] at mem
    rcases mem with rfl | rfl | rfl | rfl | rfl
    case inr.inl =>
      dsimp only
      split <;> trivial
    all_goals trivial
  obtain ⟨turns, called, -, -, ended, told⟩ := run_eq_usable pure "a" assortedSpec
  have left : (run assortedly "a" assortedSpec).outcome = .ok "a!+?".toList := by rfl
  have reported : (run assortedly "a" assortedSpec).events =
      [unknownStage "nowhere", failedStage "break" (.raised "broken"),
        failedStage "adjust-headings" (.numeral (.malformed "x"))].map .reported := by rfl
  refine ⟨pure, turns, called, (Except.ok.inj (ended.symm.trans left)), ?_⟩
  exact (List.map_inj_right fun _ _ same => Event.reported.inj same).1 (told.symm.trans reported)

end Chain

end DocWeave
