import DocWeave.Chain.Run
import DocWeave.Proofs.Trace

/-! # What pipelines leave

A pipeline always leaves a content: a stage that fails is passed over, whatever it fails with. What
its stages do while a library answers them avoids events of a kind as far as the answers do. So a
pipeline of stages that request nothing asks for nothing, and the stages that are always there
request nothing.
-/

namespace DocWeave

/-- No answer of a library has events of a kind. -/
structure Library.Avoids (kind : Event → Bool) (library : Library) : Prop where
  fetch : ∀ literal options, (library.fetch literal options).Avoids kind
  fetchAll : ∀ patterns options, (library.fetchAll patterns options).Avoids kind

theorem Library.avoids_absent (kind : Event → Bool) : absent.Avoids kind where
  fetch _ _ := Trace.avoids_fail _
  fetchAll _ _ := Trace.avoids_fail _

theorem Library.avoids_exhausted (kind : Event → Bool) : exhausted.Avoids kind where
  fetch _ _ := Trace.avoids_fail _
  fetchAll _ _ := Trace.avoids_fail _

namespace Program

/-- A program does nothing but what answers its requests. -/
theorem avoids_run {α : Type} {kind : Event → Bool} {library : Library}
    (answers : library.Avoids kind) (program : Program α) : (program.run library).Avoids kind := by
  induction program with
  | done value => exact Trace.avoids_done value
  | fail failure => exact Trace.avoids_fail failure
  | tryFetch literal options next ih => exact (answers.fetch literal options).attempt.andThen ih
  | tryFetchAll patterns options next ih =>
    exact (answers.fetchAll patterns options).attempt.andThen ih

/-- A program that cannot do without a document fails where the request for it fails. -/
theorem run_fetch {α : Type} (library : Library) (literal : Text) (options : ReadOptions)
    (next : SourceFile → Program α) :
    (fetch literal options next).run library =
      (library.fetch literal options).andThen fun file => (next file).run library := by
  rw [fetch, run, Trace.andThen_of_ok rfl]
  cases ended : (library.fetch literal options).outcome with
  | ok file =>
    rw [Trace.andThen_of_ok ended]
    rfl
  | error failure =>
    rw [Trace.andThen_of_error ended]
    show (⟨_ ++ [], _⟩ : Trace α) = _
    rw [List.append_nil]
    rfl

theorem isPure_ofOutcome {α : Type} (outcome : Except Failure α) : (ofOutcome outcome).IsPure := by
  cases outcome with
  | ok value => trivial
  | error failure => trivial

theorem quiet_run_of_isPure {α : Type} {program : Program α} (pure : program.IsPure)
    (library : Library) : (program.run library).Quiet := by
  cases program with
  | done value => exact Trace.quiet_done value
  | fail failure => exact Trace.quiet_fail failure
  | tryFetch literal options next => exact pure.elim
  | tryFetchAll patterns options next => exact pure.elim

end Program

/-- The stages that are always there request nothing. -/
theorem Registry.isPure_builtin : Registry.builtin.IsPure := by
  intro name stage found context
  obtain ⟨before, after, listed, _⟩ := List.lookup_eq_some_iff.1 found
  have mem : (name, stage) ∈ Registry.builtin.stages := by simp [listed]
  simp only [Registry.builtin, List.mem_cons, Prod.mk.injEq, List.not_mem_nil, or_false] at mem
  rcases mem with ⟨_, rfl⟩ | ⟨_, rfl⟩ | ⟨_, rfl⟩ | ⟨_, rfl⟩
  · exact Program.isPure_ofOutcome _
  · trivial
  · unfold Stage.removeLine
    split
    · trivial
    · exact Program.isPure_ofOutcome _
  · trivial

namespace Chain

theorem exists_outcome_runStage (env : Environment) (content : Text) (call : StageCall) :
    ∃ left, (runStage env content call).outcome = .ok left := by
  unfold runStage
  split
  · exact ⟨content, rfl⟩
  · rename_i stage _
    simp only [Trace.bind_eq, Trace.outcome_andThen_eq_ok_iff]
    cases ended : ((stage ⟨content, call.name, env.tool, env.strategy, call.params,
        env.library.isSome⟩).run (env.library.getD Library.absent)).outcome with
    | ok reply =>
      exact ⟨reply.content?.getD content, .ok reply, congrArg Except.ok ended, rfl⟩
    | error failure => exact ⟨content, .error failure, congrArg Except.ok ended, rfl⟩

theorem exists_outcome_runStages (env : Environment) (content : Text) (calls : List StageCall) :
    ∃ left, (runStages env content calls).outcome = .ok left := by
  induction calls generalizing content with
  | nil => exact ⟨content, rfl⟩
  | cons call rest ih =>
    obtain ⟨between, ended⟩ := exists_outcome_runStage env content call
    obtain ⟨left, last⟩ := ih between
    exact ⟨left, Trace.outcome_andThen_eq_ok_iff.mpr ⟨between, ended, last⟩⟩

/-- A pipeline leaves a content, whatever its stages do. -/
theorem exists_outcome_run (env : Environment) (content spec : Text) :
    ∃ left, (run env content spec).outcome = .ok left :=
  exists_outcome_runStages env content (parse spec)

variable {kind : Event → Bool} {env : Environment}

/-- A stage does nothing but run, and report that it is not there or has failed. -/
theorem avoids_runStage
    (stages : ∀ name stage, env.registry.find? name = some stage → ∀ context,
      ((stage context).run (env.library.getD Library.absent)).Avoids kind)
    (told : ∀ report : Report, report.diagnostic.condition ≠ .missingIncludedFile →
      kind (.reported report) = false)
    (content : Text) (call : StageCall) : (runStage env content call).Avoids kind := by
  unfold runStage
  split
  · apply (Trace.avoids_tell _).andThen Trace.avoids_done
    simpa using told (unknownStage call.name) (by simp [unknownStage, Report.warning])
  · rename_i stage found
    apply (stages _ _ found _).attempt.andThen
    intro ended
    cases ended with
    | ok reply => exact Trace.avoids_done _
    | error failure =>
      apply (Trace.avoids_tell _).andThen fun _ => Trace.avoids_done content
      simpa using told (failedStage call.name failure) (by simp [failedStage, Report.error])

/-- A pipeline avoids events of a kind when its stages do. -/
theorem avoids_run
    (stages : ∀ name stage, env.registry.find? name = some stage → ∀ context,
      ((stage context).run (env.library.getD Library.absent)).Avoids kind)
    (told : ∀ report : Report, report.diagnostic.condition ≠ .missingIncludedFile →
      kind (.reported report) = false)
    (content spec : Text) : (run env content spec).Avoids kind := by
  unfold run
  induction parse spec generalizing content with
  | nil => exact Trace.avoids_done content
  | cons call rest ih => exact (avoids_runStage stages told content call).andThen ih

/-- A pipeline asks for nothing when its stages request nothing, and it never misses a document. -/
theorem quiet_run (pure : env.registry.IsPure) (content spec : Text) :
    (run env content spec).Quiet :=
  avoids_run (fun _ _ found context => Program.quiet_run_of_isPure (pure _ _ found context) _)
    (fun _ other => decide_eq_false other) content spec

/-- A pipeline keeps apart when its requests are answered apart. -/
theorem apart_run (env : Environment)
    (answers : (env.library.getD Library.absent).Avoids Event.isVisit) (content spec : Text) :
    (run env content spec).Avoids Event.isVisit :=
  avoids_run (fun _ _ _ _ => Program.avoids_run answers _) (fun _ _ => rfl) content spec

end Chain

end DocWeave
