import DocWeave.Text.Blank

/-! # Pipeline specifications

A specification lists stages with commas between them. A stage is a name, or a name and parameters
in parentheses; commas inside parentheses belong to the parameters. Whatever is empty says
nothing.
-/

namespace DocWeave

/-- A stage as a specification asks for it. -/
structure StageCall where
  name : Text
  params : List Text
  deriving DecidableEq, Repr

namespace StageCall

/-- The stage that one segment of a specification asks for. -/
def ofSegment? (segment : Text) : Option StageCall :=
  let trimmed := Text.trim segment
  if trimmed.isEmpty then none
  else
    match Text.find? "(" trimmed with
    | none => some ⟨trimmed, []⟩
    | some opening =>
      if trimmed.getLast? = some ')' then
        some ⟨Text.trim (trimmed.take opening),
          Text.trimmedPieces ',' (trimmed.slice (opening + 1) (trimmed.length - 1))⟩
      else some ⟨trimmed, []⟩

end StageCall

namespace Chain

/-- The level of parentheses after a character. -/
def levelAfter (level : Int) (c : Char) : Int :=
  if c = '(' then level + 1 else if c = ')' then level - 1 else level

/-- The segments between the commas at level nothing, where `level` is the level so far. -/
def segmentsFrom (level : Int) : Text → List Text
  | [] => [[]]
  | c :: rest =>
    if c = ',' ∧ level = 0 then [] :: segmentsFrom 0 rest
    else match segmentsFrom (levelAfter level c) rest with
      | [] => [[c]]
      | segment :: more => (c :: segment) :: more

/-- The stages that a specification asks for, in order. -/
def parse (spec : Text) : List StageCall := (segmentsFrom 0 spec).filterMap StageCall.ofSegment?

end Chain

end DocWeave
