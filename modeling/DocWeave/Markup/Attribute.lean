import DocWeave.Text.Blank
import DocWeave.Text.Word

/-! # Attributes

An attribute of a tag is a name, an equals sign with any blanks around it, and a value between
quotes. A value is at least one character long and holds no quote; the two quotes around it may
be of different kinds.
-/

namespace DocWeave.Markup

/-- Whether a character can open and close a value. -/
def isQuote (c : Char) : Bool := c == '"' || c == '\''

/-- The value between quotes that a text starts with, and what follows it. -/
def quotedValue? : Text → Option (Text × Text)
  | [] => none
  | q :: rest =>
    let value := rest.takeWhile fun c => !isQuote c
    match rest.drop value.length with
    | [] => none
    | _ :: after => if isQuote q && !value.isEmpty then some (value, after) else none

/-- The value that a text assigns, and what follows it. -/
def assignment? (text : Text) : Option (Text × Text) :=
  match Text.trimLeft text with
  | '=' :: rest => quotedValue? (Text.trimLeft rest)
  | _ => none

/-- The value of the first attribute called `name`, where `before` is the character that precedes
the text. The name counts only where a word begins. -/
def attributeValue? (name : Text) (before : Option Char) : Text → Option Text
  | [] => none
  | c :: rest =>
    let here := if Text.atWordBoundary before (c :: rest) && name.isPrefixOf (c :: rest)
      then assignment? ((c :: rest).drop name.length) else none
    match here with
    | some (value, _) => some value
    | none => attributeValue? name (some c) rest

/-- The items of a comma-separated attribute, trimmed and without empty ones; none without the
attribute. -/
def attributeItems (name tag : Text) : List Text :=
  match attributeValue? name none tag with
  | none => []
  | some value => Text.trimmedPieces ',' value

end DocWeave.Markup
