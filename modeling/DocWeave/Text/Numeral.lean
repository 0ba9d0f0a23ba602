import DocWeave.Text.Blank
import DocWeave.Text.Digit
import DocWeave.Text.Quoted

/-! # Integer literals

An integer literal is a run of decimal digits of any script, with single underscores allowed
between digits, after at most one sign. Blanks around it are ignored.
-/

namespace DocWeave

/-- Why a text is not read as an integer. -/
inductive NumeralFault where
  /-- The text is no integer literal. -/
  | malformed (text : Text)
  /-- The literal has more digits than are read. -/
  | tooLong (digits : Nat)
  deriving DecidableEq, Repr

namespace NumeralFault

/-- The wording of the fault; a long literal is shown up to its two hundredth character. -/
def message : NumeralFault → Text
  | malformed text => "invalid literal for int() with base 10: " ++ text.quoted.take 200
  | tooLong digits =>
    "Exceeds the limit (4300 digits) for integer string conversion: value has " ++
    Text.ofNat digits ++ " digits; use sys.set_int_max_str_digits() to increase the limit"

end NumeralFault

namespace Numeral

/-- The most digits that are read. -/
def digitLimit : Nat := 4300

/-- The digits of a run with single underscores between them; `none` when it is no such run. -/
def digitRun? : Text → Option (List Nat)
  | [] => none
  | [c] => (Text.digit? c).map ([·])
  | c :: '_' :: rest => do
    let d ← Text.digit? c
    return d :: (← digitRun? rest)
  | c :: d :: rest => do
    let value ← Text.digit? c
    return value :: (← digitRun? (d :: rest))

/-- Whether a character can be in a run of digits. -/
def isRunChar (c : Char) : Bool := c == '_' || (Text.digit? c).isSome

/-- Whether a literal is negative, and what follows its sign. -/
def sign : Text → Bool × Text
  | '-' :: rest => (true, rest)
  | '+' :: rest => (false, rest)
  | text => (false, text)

/-- The integer that a literal denotes. Too many digits are a fault of their own, whatever follows
them. -/
def read (text : Text) : Except NumeralFault Int :=
  let (negative, magnitude) := sign text.trimMargins
  match digitRun? (magnitude.takeWhile isRunChar) with
  | none => .error (.malformed text)
  | some digits =>
    if digitLimit < digits.length then .error (.tooLong digits.length)
    else if !(magnitude.dropWhile isRunChar).isEmpty then .error (.malformed text)
    else
      let value : Int := Text.valueOfDigits digits
      .ok (if negative then -value else value)

end Numeral

end DocWeave
