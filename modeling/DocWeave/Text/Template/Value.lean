import DocWeave.Text.Digit
import DocWeave.Text.Quoted

/-! # Values of templates

What the fields of a template refer to. A field begins at a text, and its accessors lead on from
there: by position to a single character, by name to the kind of a value and to what is known of
kinds. Every kind but the most general one has that one above it.
-/

namespace DocWeave

/-- Why a template cannot be filled. -/
inductive TemplateFault where
  /-- The template, or a layout in it, breaks the rules of its grammar. -/
  | malformed (reason : Text)
  /-- A field names a value that is not given. -/
  | unknownName (name : Text)
  /-- A field refers to a value by position. -/
  | noPosition (index : Nat)
  /-- An accessor counts past the end of a value. -/
  | outOfRange (owner : Text)
  /-- An accessor indexes a value by something that is no number. -/
  | badIndex (owner : Text)
  /-- An accessor indexes a value that has no parts. -/
  | noParts (owner : Text)
  /-- An accessor asks for an attribute that a value does not have. -/
  | noAttribute (owner name : Text)
  /-- A layout is asked for a value of a kind that has none. -/
  | noLayout (kind : Text)
  deriving DecidableEq, Repr

namespace TemplateFault

/-- The wording of the fault. -/
def message : TemplateFault → Text
  | malformed reason => reason
  | unknownName name => name.quoted
  | noPosition index =>
    "Replacement index " ++ Text.ofNat index ++ " out of range for positional args tuple"
  | outOfRange owner => owner ++ " index out of range"
  | badIndex owner => owner
  | noParts owner => owner ++ " is not subscriptable"
  | noAttribute owner name => owner ++ " has no attribute " ++ name.quoted
  | noLayout kind => "unsupported format string passed to " ++ kind ++ ".__format__"

end TemplateFault

namespace Template

/-- A step from a value to a part of it. -/
inductive Accessor where
  | attribute (name : Text)
  | index (key : Text)
  deriving DecidableEq, Repr

/-- A value that a field can reach. -/
inductive Value where
  | text (text : Text)
  /-- A kind of values, by its name. -/
  | kind (name : Text)
  | kinds (names : List Text)
  | nothing
  deriving DecidableEq, Repr

/-- The greatest number that a template may count to. -/
def largest : Nat := 9223372036854775807

/-- A number, if it is not too large to count with. -/
def countable (value : Nat) : Except TemplateFault Nat :=
  if largest < value then .error (.malformed "Too many decimal digits in format string")
  else .ok value

/-- The number that a text of decimal digits denotes; `none` when it is no such text. Its leading
digits must not be too many, whatever follows them. -/
def number? (text : Text) : Except TemplateFault (Option Nat) := do
  let (digits, rest) := Text.leadingDigits text
  let value ← countable (Text.valueOfDigits digits)
  return if digits.isEmpty || !rest.isEmpty then none else some value

namespace Value

/-- The name of the most general kind. -/
def generalKind : Text := "object"

/-- The name of the kind of a value. -/
def kindName : Value → Text
  | text _ => "str"
  | kind _ => "type"
  | kinds _ => "tuple"
  | nothing => "NoneType"

/-- A kind and the kinds above it, from the most special to the most general one. -/
def lineage (name : Text) : List Text :=
  if name = generalKind then [name] else [name, generalKind]

/-- A value as a fault names it. -/
def owner : Value → Text
  | kind name => "type object " ++ name.quoted
  | value => value.kindName.quoted ++ " object"

/-- A value as it is shown. -/
def display : Value → Text
  | text t => t
  | kind name => "<class " ++ name.quoted ++ ">"
  | kinds names =>
    let shown : List Text := names.map fun name => "<class " ++ name.quoted ++ ">"
    "(" ++ Text.join ", " shown ++ (if shown.length = 1 then ",)" else ")")
  | nothing => "None"

/-- An attribute of a kind. -/
def memberOfKind? (name member : Text) : Option Value :=
  let above := (lineage name).drop 1
  let known : List (Text × Value) := [
    ("__name__", text name), ("__qualname__", text name), ("__module__", text "builtins"),
    ("__mro__", kinds (lineage name)), ("__bases__", kinds above),
    ("__base__", (above.head?.map kind).getD nothing)]
  known.lookup member

/-- An attribute of a value. -/
def member (value : Value) (name : Text) : Except TemplateFault Value :=
  if name = "__class__".toList then .ok (kind value.kindName)
  else
    let found := match value with
      | kind owner => memberOfKind? owner name
      | _ => none
    match found with
    | some reached => .ok reached
    | none => .error (.noAttribute value.owner name)

/-- The part of a value at an index; `none` stands for what is no number. -/
def part (value : Value) (index : Option Nat) : Except TemplateFault Value :=
  match value, index with
  | text _, none => .error (.badIndex "string indices must be integers, not 'str'")
  | text t, some i => ((t[i]?).map fun c => .ok (text [c])).getD (.error (.outOfRange "string"))
  | kinds _, none => .error (.badIndex "tuple indices must be integers or slices, not str")
  | kinds names, some i => ((names[i]?).map fun n => .ok (kind n)).getD (.error (.outOfRange "tuple"))
  | kind name, _ => .error (.noParts ("type " ++ name.quoted))
  | nothing, _ => .error (.noParts value.owner)

/-- The part of a value that an accessor reaches. -/
def access (value : Value) : Accessor → Except TemplateFault Value
  | .attribute name => value.member name
  | .index key => do value.part (← number? key)

end Value

end Template

end DocWeave
