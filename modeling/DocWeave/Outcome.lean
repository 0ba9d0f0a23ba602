import DocWeave.Failure
import DocWeave.Json.Basic

/-! # Outcomes of callbacks

A callback asks for files to be written and for files to be deleted, and it may leave metadata. It
can say so in several forms: a record, a mapping with the same fields, a bare list of files, or
nothing at all. Reading a form gives one outcome, or the first thing that is wrong with the form.
-/

namespace DocWeave

namespace Json

/-- The value of a field, if there is one of the name. -/
def entry? (name : Text) (fields : List (Text × Json)) : Option Json := fields.lookup name

/-- The items of a value that is gone through: of a list its items, of a text its characters, of
an object the names of its fields. -/
def items : Json → Except ShapeFault (List Json)
  | list items => .ok items
  | text t => .ok (t.map fun c => text [c])
  | object fields => .ok (fields.map fun field => text field.1)
  | value => .error (.notIterable value.typeName)

/-- The texts that items are. -/
def textsOf (items : List Json) : Except ShapeFault (List Text) :=
  items.zipIdx.mapM fun
    | (text t, _) => .ok t
    | (other, position) => .error (.notText position other.typeName)

/-- The field of a value that has to have it. -/
def field (value : Json) (name : Text) : Except ShapeFault Json :=
  match value with
  | object fields =>
    match entry? name fields with
    | some found => .ok found
    | none => .error (.missingField name)
  | list _ => .error .listIndex
  | text _ => .error .textIndex
  | other => .error (.notSubscriptable other.typeName)

end Json

/-- A file to write. -/
structure OutputFile where
  path : Text
  content : Text
  deriving DecidableEq, Repr

/-- One entry of a list of files: a file, or data that describes one. -/
inductive OutputItem where
  | file (file : OutputFile)
  | data (value : Json)
  deriving Repr

/-- The file that an entry stands for; what is no text is taken in its display form. -/
def OutputItem.read : OutputItem → Except ShapeFault OutputFile
  | .file output => .ok output
  | .data value => do
    let path ← value.field "path"
    let content ← value.field "content"
    return ⟨path.display, content.display⟩

/-- The field of a form that lists files. -/
inductive OutputList where
  | items (items : List OutputItem)
  | data (value : Json)
  deriving Repr

namespace OutputList

/-- The files that a field lists. -/
def read : OutputList → Except ShapeFault (List OutputFile)
  | .items entries => entries.mapM OutputItem.read
  | .data value => do (← value.items).mapM fun item => (OutputItem.data item).read

/-- The files that a field lists, where a field that holds nothing lists none. -/
def readOptional : OutputList → Except ShapeFault (List OutputFile)
  | .data value => if value.isTruthy then (OutputList.data value).read else .ok []
  | list => list.read

end OutputList

/-- What a callback returns. -/
inductive Returned where
  | nothing
  | record (files : OutputList) (deletions metadata : Json)
  | mapping (files : OutputList) (fields : List (Text × Json))
  | items (items : List OutputItem)
  /-- A value of a type that has no fields. -/
  | other (type : Text)
  deriving Repr

/-- What a callback asks for. -/
structure Outcome where
  files : List OutputFile
  /-- The patterns of the files to delete. -/
  deletions : List Json
  metadata : Json
  deriving Repr

namespace Outcome

/-- Nothing is asked for. -/
def nothing : Outcome := ⟨[], [], .null⟩

end Outcome

namespace Returned

/-- Plain data as a callback returns it. -/
def ofJson : Json → Returned
  | .null => nothing
  | .object fields => mapping (.data ((Json.entry? "files" fields).getD .null)) fields
  | .list list => items (list.map .data)
  | value => other value.typeName

/-- An outcome as the record of its fields. -/
def ofOutcome (outcome : Outcome) : Returned :=
  record (.items (outcome.files.map .file)) (.list outcome.deletions) outcome.metadata

/-- The patterns of files to delete among the fields of a mapping, under either name; a field that
holds nothing does not count. -/
def deletionsOf (fields : List (Text × Json)) : Except ShapeFault (List Json) :=
  let named (name : Text) := (Json.entry? name fields).filter Json.isTruthy
  (((named "delete_files").or (named "deleteFiles")).getD (.list [])).items

/-- The outcome of a form that every callback may use. -/
def read : Returned → Except ShapeFault Outcome
  | nothing => .ok Outcome.nothing
  | record files deletions metadata => do
    let files ← files.read
    let deletions ← deletions.items
    return ⟨files, deletions, metadata⟩
  | mapping files fields => do
    let files ← files.readOptional
    let deletions ← deletionsOf fields
    return ⟨files, deletions, (Json.entry? "metadata" fields).getD .null⟩
  | items _ => .error (.noAttribute "list" "get")
  | other type => .error (.noAttribute type "get")

/-- The outcome of a last step, which may return a bare list of files and leaves no metadata. -/
def readFinish : Returned → Except ShapeFault Outcome
  | .items entries => do return ⟨← entries.mapM OutputItem.read, [], .null⟩
  | returned => do return { ← returned.read with metadata := .null }

end Returned

end DocWeave
