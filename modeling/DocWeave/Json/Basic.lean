import DocWeave.Json.Number
import DocWeave.Text.Quoted

/-! # Dynamic values

What a callback returns and what a tool's runs tell its last step is plain data: nothing, truth
values, numbers, texts, lists and objects. Objects keep the order of their fields. A value has two
spellings: the compact document form, with the fields of objects in order of their names, and the
display form that messages and generated files show.
-/

namespace DocWeave

/-- A dynamic value. A number with a fraction or an exponent is kept as its shortest spelling. -/
inductive Json where
  | null
  | bool (value : Bool)
  | int (value : Int)
  | real (spelling : Text)
  | text (value : Text)
  /-- A string in which half of a character stands alone, so that it is no text. -/
  | brokenText
  | list (items : List Json)
  | object (fields : List (Text × Json))
  deriving Inhabited, Repr

namespace Json

/-- Whether a value counts as something: nothing, false, zero and whatever is empty do not. -/
def isTruthy : Json → Bool
  | null => false
  | bool b => b
  | int n => n != 0
  | real spelling => spelling != Number.zero && spelling != '-' :: Number.zero
  | text t => !t.isEmpty
  | brokenText => true
  | list items => !items.isEmpty
  | object fields => !fields.isEmpty

/-- The name of a value's type in messages. -/
def typeName : Json → Text
  | null => "NoneType"
  | bool _ => "bool"
  | int _ => "int"
  | real _ => "float"
  | text _ | brokenText => "str"
  | list _ => "list"
  | object _ => "dict"

/-- The fields with one set; a field that is there keeps its place. -/
def setField (name : Text) (value : Json) : List (Text × Json) → List (Text × Json)
  | [] => [(name, value)]
  | (other, old) :: rest =>
    if other = name then (name, value) :: rest else (other, old) :: setField name value rest

/-- A character inside a document's string. -/
def escape (c : Char) : Text :=
  if c == '"' || c == '\\' then ['\\', c]
  else if c == '\n' then "\\n"
  else if c == '\r' then "\\r"
  else if c == '\t' then "\\t"
  else if c == '\x08' then "\\b"
  else if c == '\x0c' then "\\f"
  else if c.toNat < 0x20 then "\\u" ++ Text.hex 4 c.toNat
  else [c]

/-- A document's string. -/
def string (t : Text) : Text := "\"" ++ t.flatMap escape ++ "\""

/-- The character that stands for half of a character. -/
def replacement : Char := '\uFFFD'

/-- A named spelling put into its place among others, by name. -/
def insertByName (entry : Text × Text) : List (Text × Text) → List (Text × Text)
  | [] => [entry]
  | other :: rest =>
    if other.1 < entry.1 then other :: insertByName entry rest else entry :: other :: rest

mutual

/-- The compact document form. -/
def compact : Json → Text
  | null => "null"
  | bool b => if b then "true" else "false"
  | int n => Text.ofInt n
  | real spelling =>
    if spelling = Number.infinity then "Infinity"
    else if spelling = '-' :: Number.infinity then "-Infinity"
    else if spelling = "nan".toList then "NaN" else spelling
  | text t => string t
  | brokenText => string [replacement]
  | list items => "[" ++ Text.join "," (compactItems items) ++ "]"
  | object fields =>
    let entries := (compactFields fields).foldr insertByName []
    "\x7b" ++ Text.join "," (entries.map fun (name, value) => string name ++ ":" ++ value) ++ "\x7d"

/-- The compact forms of items. -/
def compactItems : List Json → List Text
  | [] => []
  | item :: rest => compact item :: compactItems rest

/-- The names and compact forms of fields. -/
def compactFields : List (Text × Json) → List (Text × Text)
  | [] => []
  | (name, value) :: rest => (name, compact value) :: compactFields rest

end

mutual

/-- The display form, in which nested texts are quoted. -/
def nested : Json → Text
  | null => "None"
  | bool b => if b then "True" else "False"
  | int n => Text.ofInt n
  | real spelling => spelling
  | text t => t.quoted
  | brokenText => Text.quoted [replacement]
  | list items => "[" ++ Text.join ", " (nestedItems items) ++ "]"
  | object fields => "\x7b" ++ Text.join ", " (nestedFields fields) ++ "\x7d"

/-- The display forms of items. -/
def nestedItems : List Json → List Text
  | [] => []
  | item :: rest => nested item :: nestedItems rest

/-- The display forms of fields. -/
def nestedFields : List (Text × Json) → List Text
  | [] => []
  | (name, value) :: rest => (name.quoted ++ ": " ++ nested value) :: nestedFields rest

end

/-- The display form: a text is itself. -/
def display : Json → Text
  | text t => t
  | value => nested value

end Json

end DocWeave
