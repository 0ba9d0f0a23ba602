import DocWeave.Chain.Spec
import DocWeave.Chain.Stage

/-! # Running pipelines

The stages of a specification run in order, each on what the one before it left. A stage that is
not registered and a stage that fails are reported and passed over; the content stays as it was.
-/

namespace DocWeave.Chain

/-- What pipelines run with. -/
structure Environment where
  registry : Registry
  tool : Text
  strategy : Text
  /-- What answers the requests of stages, where there is something. -/
  library : Option Library

/-- The report of a stage that is not registered. -/
def unknownStage (name : Text) : Report :=
  .warning .unknownPipelineStage ("Pipeline '" ++ name ++ "' not found.")

/-- The report of a stage that fails. -/
def failedStage (name : Text) (failure : Failure) : Report :=
  .error .pipelineStageFailure ("Error executing pipeline '" ++ name ++ "': " ++ failure.message)
    none

/-- What one stage leaves of a content. -/
def runStage (env : Environment) (content : Text) (call : StageCall) : Trace Text :=
  match env.registry.find? call.name with
  | none => do
    Trace.tell [unknownStage call.name]
    return content
  | some stage => do
    let context : StageContext :=
      ⟨content, call.name, env.tool, env.strategy, call.params, env.library.isSome⟩
    match ← ((stage context).run (env.library.getD Library.absent)).attempt with
    | .ok reply => return reply.content?.getD content
    | .error failure => do
      Trace.tell [failedStage call.name failure]
      return content

/-- What stages in a row leave of a content. -/
def runStages (env : Environment) (content : Text) : List StageCall → Trace Text
  | [] => Trace.done content
  | call :: rest => do runStages env (← runStage env content call) rest

/-- What the stages of a specification leave of a content. -/
def run (env : Environment) (content spec : Text) : Trace Text := runStages env content (parse spec)

end DocWeave.Chain
