import DocWeave.Json.Basic

/-! # Reading fields

Questions that whoever reads a description asks a value: what kind it is, and what its fields
hold. A field that is null is as good as none.
-/

namespace DocWeave.Json

/-- The field of an object, unless it is null. -/
def get? (value : Json) (name : Text) : Option Json :=
  match value with
  | object fields =>
    match fields.lookup name with
    | some null => none
    | found => found
  | _ => none

/-- The text that a value is. -/
def text? : Json → Option Text
  | text t => some t
  | _ => none

/-- The integer that a value is. -/
def int? : Json → Option Int
  | int n => some n
  | _ => none

/-- The truth value that a value is. -/
def bool? : Json → Option Bool
  | bool b => some b
  | _ => none

/-- The items of the list that a value is. -/
def list? : Json → Option (List Json)
  | list items => some items
  | _ => none

/-- The fields of the object that a value is. -/
def object? : Json → Option (List (Text × Json))
  | object fields => some fields
  | _ => none

/-- The texts that a list holds. -/
def texts? (value : Json) : Option (List Text) := do (← value.list?).mapM text?

/-- A field that may be missing, read by `read` when it is there. -/
def optional {α : Type} (value : Json) (name : Text) (read : Json → Option α) :
    Option (Option α) :=
  match value.get? name with
  | none => some none
  | some found => (read found).map some

/-- A field that is read by `read`, or `fallback` when it is missing. -/
def getD {α : Type} (value : Json) (name : Text) (read : Json → Option α) (fallback : α) :
    Option α :=
  return (← value.optional name read).getD fallback

end DocWeave.Json
