import DocWeave.Chain.Reply
import DocWeave.Document
import DocWeave.Text.Blank

/-! # Pipeline stages

A stage is a program that is given a content and says what to put in its place; where its reply
carries no content, the content stays. Four stages are always there. A registry finds stages by
name, and later registrations hide earlier ones.
-/

namespace DocWeave

/-- What a stage is given. -/
structure StageContext where
  content : Text
  /-- The name that the stage was found by. -/
  stage : Text
  tool : Text
  strategy : Text
  params : List Text
  /-- Whether requests for documents can be answered. -/
  hasLibrary : Bool
  deriving DecidableEq, Repr

/-- A step of a pipeline. -/
abbrev Stage := StageContext → Program StageReply

namespace Stage

/-- The level of the heading that a line is: one to six number signs before a blank. -/
def headingLevel? (line : Text) : Option Nat :=
  let level := (line.takeWhile (· == '#')).length
  if 1 ≤ level ∧ level ≤ 6 ∧ (line.drop level).head?.any Text.isBlank then some level else none

/-- Whether a line opens or closes a fenced block. -/
def isFence (line : Text) : Bool :=
  let start := Text.trimLeft line
  ("```" : Text).isPrefixOf start || ("~~~" : Text).isPrefixOf start

/-- A heading level moved by `shift`, kept between one and six. -/
def shiftLevel (shift : Int) (level : Nat) : Nat := (min 6 (max 1 (level + shift))).toNat

/-- A line with its heading level moved, if it is a heading. -/
def shiftHeading (shift : Int) (line : Text) : Text :=
  match headingLevel? line with
  | none => line
  | some level => List.replicate (shiftLevel shift level) '#' ++ line.drop level

/-- Lines with their heading levels moved, except inside fenced blocks. -/
def shiftHeadings (shift : Int) (fenced : Bool) : List Text → List Text
  | [] => []
  | line :: rest =>
    if isFence line then line :: shiftHeadings shift (!fenced) rest
    else (if fenced then line else shiftHeading shift line) :: shiftHeadings shift fenced rest

/-- The lines of a text, joined again after a change. -/
def overLines (change : List Text → List Text) (content : Text) : Text :=
  Text.join "\n" (change (content.splitOn '\n'))

/-- An integer parameter. -/
def intParam (param : Text) : Except Failure Int := (Numeral.read param).mapError .numeral

/-- Moves the levels of headings by the first parameter, by one without it. -/
def adjustHeadings : Stage := fun context =>
  .ofOutcome do
    let shift ← match context.params with
      | [] => .ok 1
      | param :: _ => intParam param
    return .record (some (overLines (shiftHeadings shift false) context.content))

/-- Puts the content into a fenced block, tagged with the first parameter. -/
def wrapExample : Stage := fun context =>
  let language := context.params.head?.getD []
  let body := if context.content.getLast? = some '\n' then context.content
    else context.content ++ ['\n']
  .done (.record (some ("```" ++ language ++ "\n" ++ body ++ "```")))

/-- Removes the line that the first parameter counts to, from one. -/
def removeLine : Stage := fun context =>
  match context.params with
  | [] => .done .nothing
  | param :: _ => .ofOutcome do
    let number ← intParam param
    let remove (lines : List Text) : List Text :=
      if 1 ≤ number ∧ number ≤ lines.length then lines.eraseIdx (number - 1).toNat else lines
    return .record (some (overLines remove context.content))

/-- Removes leading and trailing blanks. -/
def trim : Stage := fun context => .done (.record (some (Text.trim context.content)))

end Stage

/-- Stages by name. -/
structure Registry where
  stages : List (Text × Stage)

namespace Registry

/-- The stages that are always there. -/
def builtin : Registry where
  stages := [
    ("adjust-headings", Stage.adjustHeadings), ("wrap-example", Stage.wrapExample),
    ("remove-nth-line", Stage.removeLine), ("trim", Stage.trim)]

/-- The registry with more stages, which hide the ones of the same names. -/
def extend (registry : Registry) (more : List (Text × Stage)) : Registry :=
  ⟨more ++ registry.stages⟩

/-- The stage of a name. -/
def find? (registry : Registry) (name : Text) : Option Stage := registry.stages.lookup name

/-- Whether there is a stage of a name. -/
def contains (registry : Registry) (name : Text) : Bool := (registry.find? name).isSome

/-- Whether no stage requests documents. -/
def IsPure (registry : Registry) : Prop :=
  ∀ name stage, registry.find? name = some stage → ∀ context, (stage context).IsPure

end Registry

end DocWeave
