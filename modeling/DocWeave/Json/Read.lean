import DocWeave.Json.Basic
import DocWeave.Text.Digit

/-! # Reading documents

The reader takes the whole of a document or none of it. Control characters inside strings are
refused; of two fields with one name the later value counts, at the place of the earlier one.
-/

namespace DocWeave.Json

/-- Whether a character may stand between the parts of a document. -/
def isSpace (c : Char) : Bool := c == ' ' || c == '\t' || c == '\n' || c == '\r'

/-- The text without leading space. -/
def skipSpace (text : Text) : Text := text.dropWhile isSpace

/-- The number that four hexadecimal digits denote. -/
def hexUnit? (a b c d : Char) : Option Nat := do
  return Text.valueInBase 16 [← Text.hexDigit? a, ← Text.hexDigit? b, ← Text.hexDigit? c,
    ← Text.hexDigit? d]

/-- The character that a one-letter escape stands for. -/
def simpleEscape? (c : Char) : Option Char :=
  match c with
  | '"' => some '"'
  | '\\' => some '\\'
  | '/' => some '/'
  | 'b' => some '\x08'
  | 'f' => some '\x0c'
  | 'n' => some '\n'
  | 'r' => some '\r'
  | 't' => some '\t'
  | _ => none

/-- The character of a code unit, unless that is half of a pair. -/
def unitChar? (unit : Nat) : Option Char :=
  if 0xD800 ≤ unit ∧ unit < 0xE000 then none else some (Char.ofNat unit)

/-- The characters of a string up to its closing quote, with `none` for half of one, and what
follows. -/
def readString? : Text → Option (List (Option Char) × Text)
  | [] => none
  | '"' :: rest => some ([], rest)
  | '\\' :: 'u' :: a :: b :: c :: d :: '\\' :: 'u' :: e :: f :: g :: h :: rest => do
    let high ← hexUnit? a b c d
    let low ← hexUnit? e f g h
    if 0xD800 ≤ high ∧ high < 0xDC00 ∧ 0xDC00 ≤ low ∧ low < 0xE000 then
      let (more, after) ← readString? rest
      let code := 0x10000 + (high - 0xD800) * 0x400 + (low - 0xDC00)
      return (some (Char.ofNat code) :: more, after)
    else
      let (more, after) ← readString? ('\\' :: 'u' :: e :: f :: g :: h :: rest)
      return (unitChar? high :: more, after)
  | '\\' :: 'u' :: a :: b :: c :: d :: rest => do
    let unit ← hexUnit? a b c d
    let (more, after) ← readString? rest
    return (unitChar? unit :: more, after)
  | '\\' :: c :: rest => do
    let meant ← simpleEscape? c
    let (more, after) ← readString? rest
    return (some meant :: more, after)
  | c :: rest => do
    if c == '\\' || c.toNat < 0x20 then none
    else
      let (more, after) ← readString? rest
      return (some c :: more, after)

/-- The value of a string, given its characters. -/
def ofCharacters (characters : List (Option Char)) : Json :=
  if characters.all Option.isSome then text (characters.filterMap id) else brokenText

/-- The digits that a text starts with, and what follows. -/
def spanDigits (text : Text) : Text × Text := (text.takeWhile Char.isDigit, text.dropWhile Char.isDigit)

/-- The number that digits denote. -/
def digitsValue (digits : Text) : Nat := digits.foldl (fun value d => 10 * value + (d.toNat - 48)) 0

/-- The most digits an integer is read with. -/
def integerLimit : Nat := 4300

/-- The exponent that a text starts with, if it starts with one, and what follows. -/
def readExponent? : Text → Option (Int × Text)
  | e :: rest =>
    if e == 'e' || e == 'E' then
      let (negative, unsigned) := match rest with
        | '-' :: more => (true, more)
        | '+' :: more => (false, more)
        | more => (false, more)
      let (digits, after) := spanDigits unsigned
      if digits.isEmpty then none
      else some (if negative then -digitsValue digits else digitsValue digits, after)
    else none
  | [] => none

/-- The fraction digits that a text starts with, if it starts with any, and what follows. -/
def readFraction? : Text → Option (Text × Text)
  | '.' :: rest =>
    let (digits, after) := spanDigits rest
    if digits.isEmpty then none else some (digits, after)
  | _ => none

/-- The number that a text starts with, and what follows. -/
def readNumber? (text : Text) : Option (Json × Text) :=
  let (negative, unsigned) := match text with
    | '-' :: rest => (true, rest)
    | rest => (false, rest)
  let (run, afterRun) := spanDigits unsigned
  let (whole, rest) := if run.head? = some '0' then (run.take 1, run.drop 1 ++ afterRun)
    else (run, afterRun)
  if whole.isEmpty then none
  else
    let fraction := readFraction? rest
    let afterFraction := (fraction.map Prod.snd).getD rest
    let exponent := readExponent? afterFraction
    let after := (exponent.map Prod.snd).getD afterFraction
    let decimals := (fraction.map Prod.fst).getD []
    if fraction.isNone && exponent.isNone then
      if integerLimit < whole.length then none
      else
        let value : Int := digitsValue whole
        some (int (if negative then -value else value), after)
    else
      let place := (exponent.map Prod.fst).getD 0 - decimals.length
      let spelled := Number.spellNearest (digitsValue (whole ++ decimals)) place
      some (real (if negative then '-' :: spelled else spelled), after)

/-- The words that are values. -/
def words : List (Text × Json) := [
  ("null", null), ("true", bool true), ("false", bool false), ("NaN", real "nan"),
  ("Infinity", real Number.infinity), ("-Infinity", real ('-' :: Number.infinity))]

/-- The word that a text starts with, and what follows. -/
def readWord? (text : Text) : Option (Json × Text) :=
  (words.find? fun (word, _) => word.isPrefixOf text).map fun (word, value) =>
    (value, text.drop word.length)

mutual

/-- The value that a text starts with, and what follows. The fuel bounds the steps taken. -/
def readValue? : (fuel : Nat) → Text → Option (Json × Text)
  | 0, _ => none
  | fuel + 1, start =>
    match skipSpace start with
    | '"' :: rest => (readString? rest).map fun (characters, after) => (ofCharacters characters, after)
    | '[' :: rest =>
      match skipSpace rest with
      | ']' :: after => some (list [], after)
      | items => (readItems? fuel items).map fun (found, after) => (list found, after)
    | '\x7b' :: rest =>
      match skipSpace rest with
      | '\x7d' :: after => some (object [], after)
      | fields => (readFields? fuel [] fields).map fun (found, after) => (object found, after)
    | other => (readWord? other).orElse fun _ => readNumber? other

/-- The items up to the closing bracket, and what follows. -/
def readItems? : (fuel : Nat) → Text → Option (List Json × Text)
  | 0, _ => none
  | fuel + 1, start => do
    let (item, rest) ← readValue? fuel start
    match skipSpace rest with
    | ']' :: after => return ([item], after)
    | ',' :: more =>
      let (items, after) ← readItems? fuel more
      return (item :: items, after)
    | _ => none

/-- The fields up to the closing brace, added to those before, and what follows. -/
def readFields? : (fuel : Nat) → List (Text × Json) → Text → Option (List (Text × Json) × Text)
  | 0, _, _ => none
  | fuel + 1, before, start =>
    match skipSpace start with
    | '"' :: opened => do
      let (characters, rest) ← readString? opened
      let name := characters.map (·.getD replacement)
      match skipSpace rest with
      | ':' :: rest =>
        let (value, rest) ← readValue? fuel rest
        let fields := setField name value before
        match skipSpace rest with
        | '\x7d' :: after => return (fields, after)
        | ',' :: more => readFields? fuel fields more
        | _ => none
      | _ => none
    | _ => none

end

/-- The value of a whole document. -/
def read? (document : Text) : Option Json := do
  let (value, rest) ← readValue? (2 * document.length + 2) document
  if (skipSpace rest).isEmpty then return value else none

end DocWeave.Json
