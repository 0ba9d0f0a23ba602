import DocWeave.ConfigFile
import DocWeave.Json.Read
import DocWeave.Recipe.Callback
import DocWeave.Recipe.Stage

/-! # Recipes of configurations

A whole configuration described as data: tools with strategies and last steps, stages by name, and
whether progress is logged. A tool that is described twice keeps its place and takes the later
description.
-/

namespace DocWeave

namespace Strategy

/-- The strategy of a tool that a value spells out; one that does not say how it transforms writes
nothing. -/
def ofJson? (tool : Text) (value : Json) : Option Strategy := do
  let name ← (← value.get? "name").text?
  let patterns ← value.getD "matches" Json.texts? []
  let recipe ← CallbackRecipe.ofJson? ((← value.optional "transform" some).getD (.object []))
  return ⟨name, patterns, recipe.transform tool name⟩

end Strategy

namespace Tool

/-- The tool that a value spells out. -/
def ofJson? (value : Json) : Option Tool := do
  let name ← (← value.get? "name").text?
  let strategies ← value.getD "strategies" Json.list? []
  let finish ← value.optional "on_finish" CallbackRecipe.ofJson?
  return ⟨name, ← strategies.mapM (Strategy.ofJson? name),
    finish.map fun recipe => recipe.finish name⟩

/-- The tools with one added, in place of one of the same name if there is one. -/
def replaceIn (tools : List Tool) (tool : Tool) : List Tool :=
  if tools.any fun other => other.name == tool.name then
    tools.map fun other => if other.name = tool.name then tool else other
  else tools ++ [tool]

end Tool

namespace Config

/-- The configuration without tools and stages. -/
def empty : Config := ⟨[], [], none⟩

/-- The configuration that a value spells out. -/
def ofJson? (value : Json) : Option Config := do
  let tools ← (← value.getD "tools" Json.list? []).mapM Tool.ofJson?
  let stages ← value.getD "pipelines" StageRecipe.stagesOfJson? []
  let useLogs ← value.optional "use_logs" Json.bool?
  return ⟨tools.foldl Tool.replaceIn [], stages, useLogs⟩

end Config

namespace Execution

/-- What comes of a configuration file that holds a description. -/
def ofDescription (bytes : List UInt8) : Execution :=
  match Codec.decode .utf8 bytes with
  | .error fault => .fails fault.message
  | .ok text =>
    match Json.read? text with
    | none => .fails "the file holds no description"
    | some value =>
      match Config.ofJson? value with
      | some config => .defines config
      | none => .definesNone

/-- Reads the description that a file holds, and leaves the tree as it is. -/
def ofFile : Executor := fun tree location =>
  match tree.node? location with
  | some (.file bytes) => (ofDescription bytes, tree)
  | _ => (.definesNone, tree)

end Execution

end DocWeave
