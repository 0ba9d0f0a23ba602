import DocWeave.Config
import DocWeave.Json.Fields
import DocWeave.Recipe.Fill

/-! # Recipes of callbacks

A transform and a last step can be described as data: what they read, whether they fail, which
files they write for each source file and for the whole, what they delete, and the form in which
they return all this.
-/

namespace DocWeave

/-- The form in which a callback returns its outcome. -/
inductive ReturnForm where
  | record
  | mapping
  /-- A mapping that spells the name of the deletions without an underscore. -/
  | camelMapping
  | nothing
  /-- The bare list of files. -/
  | files
  /-- A value of its own, whatever else the recipe holds. -/
  | value (value : Json)
  deriving Repr

/-- The metadata that a transform leaves. -/
inductive MetadataRecipe where
  | value (value : Json)
  /-- The list of the names of the source files. -/
  | fileNames
  deriving Repr

/-- A callback described as data. -/
structure CallbackRecipe where
  /-- A document to read first. -/
  read : Option Text
  pipelines : Option Text
  /-- The failure to end with. -/
  failure : Option Text
  /-- What to write for each source file. -/
  each : List OutputFile
  /-- What to write once. -/
  files : List OutputFile
  deletions : List Json
  metadata : MetadataRecipe
  form : ReturnForm
  deriving Repr

namespace CallbackRecipe

variable (recipe : CallbackRecipe)

/-- An output file with its placeholders filled in. -/
def fillFile (values : List (Text × Text)) (file : OutputFile) : OutputFile :=
  ⟨Recipe.fill values file.path, Recipe.fill values file.content⟩

/-- Files, deletions and metadata in the form of the recipe. -/
def returned (files : List OutputFile) (metadata : Option Json) : Returned :=
  let items := files.map OutputItem.file
  let others := (metadata.map fun value => [(("metadata" : Text), value)]).getD []
  match recipe.form with
  | .record => .record (.items items) (.list recipe.deletions) (metadata.getD .null)
  | .mapping => .mapping (.items items) (("delete_files", .list recipe.deletions) :: others)
  | .camelMapping => .mapping (.items items) (("deleteFiles", .list recipe.deletions) :: others)
  | .nothing => .nothing
  | .files => .items items
  | .value value => .ofJson value

/-- Goes on with the content of the document to read, if there is one, unless the recipe is to
fail. -/
def start (tool strategy : Text) (next : Option Text → Program Returned) : Program Returned :=
  let go (content : Option Text) : Program Returned :=
    match recipe.failure with
    | some message => .fail (.raised message)
    | none => next content
  match recipe.read with
  | none => go none
  | some literal =>
    .fetch literal ⟨tool, strategy, recipe.pipelines⟩ fun file => go (some file.content)

/-- The value of the document that was read. -/
def readValue (content : Option Text) : List (Text × Text) :=
  (content.map fun content => (("read" : Text), content)).toList

/-- The values that hold for a whole batch. -/
def batchValues (tool strategy : Text) (batch : Batch) : List (Text × Text) :=
  [("dir", batch.directory.name), ("count", Text.ofNat batch.files.length), ("tool", tool),
    ("strategy", strategy)]

/-- The values that hold for one source file. -/
def fileValues (file : SourceFile) : List (Text × Text) :=
  [("name", file.name), ("relative", file.relativePath), ("ext", file.extension),
    ("content", file.content)]

/-- The transform that a recipe describes. -/
def transform (tool strategy : Text) (batch : Batch) : Program Returned :=
  recipe.start tool strategy fun content =>
    let shared := batchValues tool strategy batch ++ readValue content
    let ofFile (file : SourceFile) := recipe.each.map (fillFile (fileValues file ++ shared))
    let files := batch.files.flatMap ofFile ++ recipe.files.map (fillFile shared)
    let metadata := match recipe.metadata with
      | .value value => value
      | .fileNames => .list (batch.files.map fun file => .text file.name)
    .done (recipe.returned files (some metadata))

/-- The last step that a recipe describes. -/
def finish (tool : Text) (metadata : List Json) : Program Returned :=
  recipe.start tool "finish" fun content =>
    let values := [(("metadata" : Text), (Json.list metadata).compact), ("tool", tool)] ++
      readValue content
    .done (recipe.returned (recipe.files.map (fillFile values)) none)

/-- The output files that a value lists. -/
def filesOfJson? (value : Json) : Option (List OutputFile) := do
  (← value.list?).mapM fun item =>
    return ⟨← (← item.get? "path").text?, ← (← item.get? "content").text?⟩

/-- The form that a value asks for. -/
def formOfJson? (value : Json) : Option ReturnForm := do
  match String.ofList (← value.getD "form" Json.text? "result") with
  | "result" => return .record
  | "mapping" => return .mapping
  | "camel" => return .camelMapping
  | "none" => return .nothing
  | "list" => return .files
  | "raw" => return .value ((value.get? "value").getD .null)
  | _ => none

/-- The word for the names of the source files as metadata. -/
def fileNamesWord : Text := "@names"

/-- The metadata that a value asks for. -/
def metadataOf (value : Json) : MetadataRecipe :=
  if value.text? = some fileNamesWord then .fileNames else .value value

/-- The recipe that a value spells out. -/
def ofJson? (value : Json) : Option CallbackRecipe := do
  return {
    read := ← value.optional "read" Json.text?
    pipelines := ← value.optional "pipelines" Json.text?
    failure := ← value.optional "raise" Json.text?
    each := ← value.getD "each" filesOfJson? []
    files := ← value.getD "files" filesOfJson? []
    deletions := ← value.getD "delete" Json.list? []
    metadata := metadataOf ((value.get? "metadata").getD .null)
    form := ← formOfJson? value }

end CallbackRecipe

end DocWeave
