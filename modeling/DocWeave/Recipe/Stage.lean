import DocWeave.Chain.Stage
import DocWeave.Json.Fields

/-! # Recipes of stages

A stage can be described as data: what it puts around the content or in its place, what documents
it adds, and the form in which it gives the outcome back; or that it fails, or gives back something
that leaves the content alone.
-/

namespace DocWeave

/-- The form in which a stage gives a content back. -/
inductive ReplyForm where
  | text
  | record
  | mapping
  | object
  deriving DecidableEq, Repr

/-- A content in a form. -/
def ReplyForm.reply (form : ReplyForm) (content : Text) : StageReply :=
  match form with
  | text => .text content
  | record => .record (some content)
  | mapping => .mapping [("content", .text content), ("other", .int 1)] none
  | object => .object (some (.text content))

/-- A stage described as data. -/
inductive StageRecipe where
  | append (text : Text)
  | prepend (text : Text)
  | constant (text : Text)
  /-- Puts what the stage is given in place of the content. -/
  | showContext
  | fail (message : Text)
  /-- Gives back what carries no content. -/
  | leave (reply : StageReply)
  | appendFile (path : Text) (pipelines : Option Text)
  | appendFiles (patterns : List Text) (pipelines : Option Text)
  deriving Repr

namespace StageRecipe

/-- What a stage is given, between bars. -/
def describe (context : StageContext) : Text :=
  Text.join "|" [context.content, context.stage, context.tool, context.strategy,
    Text.join "," context.params, if context.hasLibrary then "engine" else "none"]

/-- The stage that a recipe describes, with the form of what it gives back. -/
def stage (recipe : StageRecipe) (form : ReplyForm) : Stage := fun context =>
  match recipe with
  | append text => .done (form.reply (context.content ++ text))
  | prepend text => .done (form.reply (text ++ context.content))
  | constant text => .done (form.reply text)
  | showContext => .done (form.reply (describe context))
  | fail message => .fail (.raised message)
  | leave reply => .done reply
  | appendFile path pipelines =>
    .fetch path ⟨context.tool, context.strategy, pipelines⟩ fun file =>
      .done (form.reply (context.content ++ file.content))
  | appendFiles patterns pipelines =>
    .fetchAll patterns ⟨context.tool, context.strategy, pipelines⟩ fun files =>
      .done (form.reply (context.content ++ Text.join "," (files.map SourceFile.content)))

/-- What a stage that leaves the content alone gives back, by the word for it. -/
def idleReply? (word : Text) : Option StageReply :=
  match String.ofList word with
  | "none" => some .nothing
  | "number" => some (.object none)
  | "bad-mapping" => some (.mapping [("content", .int 5)] none)
  | "empty-mapping" => some (.mapping [] none)
  | "bad-object" => some (.object (some (.int 5)))
  | "result-none" => some (.record none)
  | _ => none

/-- The recipe that a value spells out. -/
def ofJson? (value : Json) : Option StageRecipe := do
  let word ← (← value.get? "do").text?
  let named (name : Text) : Option Text := do (← value.get? name).text?
  if let some reply := idleReply? word then return leave reply
  match String.ofList word with
  | "append" => return append (← named "text")
  | "prepend" => return prepend (← named "text")
  | "const" => return constant (← named "text")
  | "context" => return showContext
  | "raise" => return fail (← named "message")
  | "read" => return appendFile (← named "path") (← value.optional "pipelines" Json.text?)
  | "files_read" =>
    return appendFiles (← (← value.get? "patterns").texts?)
      (← value.optional "pipelines" Json.text?)
  | _ => none

/-- The form that a value asks for. -/
def formOfJson? (value : Json) : Option ReplyForm := do
  match String.ofList (← value.getD "as" Json.text? "str") with
  | "str" => return .text
  | "result" => return .record
  | "mapping" => return .mapping
  | "object" => return .object
  | _ => none

/-- The stages that a value spells out by name. -/
def stagesOfJson? (value : Json) : Option (List (Text × Stage)) := do
  (← value.object?).mapM fun (name, described) =>
    return (name, (← ofJson? described).stage (← formOfJson? described))

end StageRecipe

end DocWeave
