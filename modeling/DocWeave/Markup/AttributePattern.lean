import DocWeave.Failure
import DocWeave.Markup.Attribute
import DocWeave.Regex.Read
import DocWeave.Regex.Search

/-! # Attributes by pattern

An attribute can be asked for by a regular expression in the place of its name. The expression is
read together with what is around a name, so that bars and groups in it reach beyond the name. A
name without signs of expressions is looked for as it is.
-/

namespace DocWeave.Markup

/-- Whether a character means something else than itself in an expression. -/
def isSign (c : Char) : Bool :=
  ['\\', '.', '^', '$', '*', '+', '?', '{', '}', '[', ']', '|', '(', ')'].contains c

/-- The expression for an attribute, as it is written: a word begins with the name, and the value is
the first group unless the name has groups of its own. -/
def attributeExpression (name : Text) : Text :=
  "\\b" ++ name ++ "\\s*=\\s*[\"']([^\"']+)[\"']"

/-- The text of the first group where an expression holds first in a tag. -/
def firstGroup? (expression : Regex) (tag : Text) : Except Failure (Option Text) :=
  match expression.search tag with
  | none => .ok none
  | some stop =>
    if expression.lastGroup = 0 then .error .noGroup
    else match stop.groups.lookup 1 with
      | none => .error (.shape (.noAttribute "NoneType" "split"))
      | some value => .ok (some value)

/-- The items of a comma-separated attribute, given a pattern for its name. -/
def attributeItemsBy (pattern tag : Text) : Except Failure (List Text) :=
  if pattern.any isSign then
    match Regex.read (attributeExpression pattern) with
    | .error fault => .error (.expression fault)
    | .ok expression => do
      return ((← firstGroup? expression tag).map (Text.trimmedPieces ',')).getD []
  else .ok (attributeItems pattern tag)

/-- A name without signs is looked for as it is. -/
theorem attributeItemsBy_of_plain {name : Text} (plain : name.any isSign = false) (tag : Text) :
    attributeItemsBy name tag = .ok (attributeItems name tag) := by
  simp [attributeItemsBy, plain]

end DocWeave.Markup
