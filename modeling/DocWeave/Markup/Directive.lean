import DocWeave.Markup.Attribute

/-! # Include directives

A directive is a tag that names a path and may name a pipeline, in this order and with blanks
before each. It closes itself, or its closing tag follows at once. Directives are found from left
to right, and none begins inside another.
-/

namespace DocWeave

/-- An include directive of a text. -/
structure Directive where
  /-- The path literal, as it is written. -/
  path : Text
  /-- The specification of the pipeline, when there is one. -/
  pipelines : Option Text
  /-- The directive itself. -/
  span : Text
  /-- Where it starts. -/
  start : Nat
  /-- Where the text after it starts. -/
  stop : Nat
  deriving DecidableEq, Repr

namespace Directive

/-- What follows `expected` in a text that starts with it. -/
def after? (expected text : Text) : Option Text :=
  if expected.isPrefixOf text then some (text.drop expected.length) else none

/-- What follows the blanks of a text that starts with some. -/
def afterBlanks? : Text → Option Text
  | [] => none
  | c :: rest => if Text.isBlank c then some (Text.trimLeft rest) else none

/-- The value of the attribute that must come next, and what follows it. -/
def attribute? (name text : Text) : Option (Text × Text) := do
  let named ← afterBlanks? text
  Markup.assignment? (← after? name named)

/-- What follows the end of a directive. -/
def afterEnd? (tag text : Text) : Option Text :=
  let rest := Text.trimLeft text
  (after? "/>" rest).orElse fun _ => after? ("></" ++ tag ++ ">") rest

/-- The path and the pipeline of the directive that a text starts with, and what follows it. -/
def read? (tag text : Text) : Option (Text × Option Text × Text) := do
  let opened ← after? ('<' :: tag) text
  let (path, rest) ← attribute? "path" opened
  match attribute? "pipelines" rest with
  | some (pipelines, rest) => return (path, some pipelines, ← afterEnd? tag rest)
  | none => return (path, none, ← afterEnd? tag rest)

/-- The directives of a text that starts at `position`. The next `skip` characters belong to a
directive that has been read. -/
def findFrom (tag : Text) (position : Nat) : (skip : Nat) → Text → List Directive
  | _, [] => []
  | skip + 1, _ :: rest => findFrom tag (position + 1) skip rest
  | 0, c :: rest =>
    match read? tag (c :: rest) with
    | none => findFrom tag (position + 1) 0 rest
    | some (path, pipelines, after) =>
      let size := (c :: rest).length - after.length
      ⟨path, pipelines, (c :: rest).take size, position, position + size⟩ ::
        findFrom tag (position + 1) (size - 1) rest

/-- The directives of a text, from left to right. -/
def findAll (tag text : Text) : List Directive := findFrom tag 0 0 text

end Directive

end DocWeave
