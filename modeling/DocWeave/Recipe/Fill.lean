import DocWeave.Text.Basic

/-! # Filling in

A text of a recipe may hold placeholders: names of lower case letters in braces. Filling in
exchanges those whose names have values, in one pass; the others stay as they are written.
-/

namespace DocWeave.Recipe

/-- The name of the placeholder that an opening brace begins, given what follows the brace. -/
def placeholder? (rest : Text) : Option Text :=
  let name := rest.takeWhile Char.isLower
  if !name.isEmpty && rest[name.length]? == some '\x7d' then some name else none

/-- The text with its placeholders filled in. The next `skip` characters belong to one that has
been. -/
def fillFrom (values : List (Text × Text)) : (skip : Nat) → Text → Text
  | _, [] => []
  | skip + 1, _ :: rest => fillFrom values skip rest
  | 0, c :: rest =>
    match if c = '\x7b' then placeholder? rest else none with
    | none => c :: fillFrom values 0 rest
    | some name =>
      match values.lookup name with
      | none => c :: fillFrom values 0 rest
      | some value => value ++ fillFrom values (name.length + 1) rest

/-- The text with its placeholders filled in. -/
def fill (values : List (Text × Text)) (text : Text) : Text := fillFrom values 0 text

end DocWeave.Recipe
