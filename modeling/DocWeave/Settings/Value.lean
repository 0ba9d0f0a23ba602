import DocWeave.Text.Blank

/-! # Values of settings

How truth values and integers are written in variables. A truth value is one of a few words in any
case, with nothing around it. An integer may have blanks around it, a sign, single underscores
between digits, leading zeros, and a fraction of one or more zeros.
-/

namespace DocWeave.SettingValue

/-- The words for a truth value. -/
def words : Bool → List Text
  | true => ["1", "true", "t", "yes", "y", "on"]
  | false => ["0", "false", "f", "no", "n", "off"]

/-- The truth value that a text is a word for. -/
def bool? (text : Text) : Option Bool :=
  let word := text.map Char.toLower
  [true, false].find? fun value => (words value).contains word

/-- The digits after leading zeros and the underscores among them, down to one character; `last` is
the one before the text. A minus sign ends the zeros as well. -/
def dropZeros (last : Char) : Text → Option Text
  | [] => some [last]
  | c :: rest =>
    if c = '0' ∨ c = '_' then dropZeros c rest
    else if c.isDigit ∨ c = '-' then some (c :: rest)
    else if c = '.' then some (last :: c :: rest)
    else none

/-- The text of a number without leading zeros; a number begins with a digit. -/
def dropLeadingZeros : Text → Option Text
  | [] => none
  | c :: rest =>
    if c = '0' then dropZeros c rest
    else if c.isDigit then some (c :: rest)
    else none

/-- The text without a point that zeros and nothing else follow. -/
def dropZeroFraction (text : Text) : Text :=
  let whole := text.takeWhile (· != '.')
  let fraction := text.drop (whole.length + 1)
  if !fraction.isEmpty && fraction.all (· == '0') then whole else text

/-- The text without underscores, if each stands alone inside it. -/
def dropUnderscores (text : Text) : Text :=
  if text.head? = some '_' ∨ text.getLast? = some '_' ∨ (Text.find? "__" text).isSome then text
  else text.filter (· != '_')

/-- Why a text is no integer. -/
inductive IntFault where
  | notANumber
  | tooLong
  deriving DecidableEq, Repr

/-- The most characters that a number may have with its sign. -/
def lengthLimit : Nat := 4300

/-- The number that digits without a leading zero denote; `none` when the text is anything else. -/
def plainDigits? (text : Text) : Option Nat :=
  if text.isEmpty || !text.all Char.isDigit || (text.head? == some '0' && 1 < text.length) then none
  else some (text.foldl (fun value c => 10 * value + (c.toNat - '0'.toNat)) 0)

/-- The integer that a text spells without a plus sign, underscores or zeros to drop. Too many digits
are a fault of their own, whatever follows them. -/
def plainInt (text : Text) : Except IntFault Int :=
  let negative := text.head? = some '-'
  let digits := if negative then text.drop 1 else text
  let signed := (if negative then 1 else 0) + (digits.takeWhile Char.isDigit).length
  if digits.head? ≠ some '0' ∧ lengthLimit < signed then .error .tooLong
  else match plainDigits? digits with
    | none => .error .notANumber
    | some value => .ok (if negative then -value else value)

/-- The text of an integer brought to its plain form. -/
def plain? (text : Text) : Option Text :=
  let trimmed := text.trimMargins
  let unsigned := if trimmed.head? = some '+' then trimmed.drop 1 else trimmed
  if trimmed.head? = some '+' ∧ unsigned.head? = some '-' then none
  else
    let minus : Text := if unsigned.head? = some '-' then ['-'] else []
    (dropLeadingZeros (unsigned.drop minus.length)).map fun digits =>
      minus ++ dropUnderscores (dropZeroFraction digits)

/-- The integer that a text spells, either as it stands or in its plain form. -/
def int (text : Text) : Except IntFault Int :=
  match plainInt text with
  | .error .notANumber =>
    match plain? text with
    | none => .error .notANumber
    | some text => plainInt text
  | read => read

end DocWeave.SettingValue
