import DocWeave.Text.Printable

/-! # Quoted texts

How a text is shown inside a message: between quotes, with every character that would be
misread written as an escape.
-/

namespace DocWeave.Text

/-- The lower-case hexadecimal digits of `n`, padded with zeros to `width`. -/
def hex (width n : Nat) : Text :=
  let digits := Nat.toDigits 16 n
  List.replicate (width - digits.length) '0' ++ digits

/-- The escape that names a code point by its number: two, four or eight digits. -/
def codePointEscape (c : Char) : Text :=
  let n := c.toNat
  if n ≤ 0xFF then "\\x" ++ hex 2 n
  else if n ≤ 0xFFFF then "\\u" ++ hex 4 n
  else "\\U" ++ hex 8 n

/-- How a character is written between quotes of the kind `quote`, where `shown` says which
characters stand for themselves. -/
def quotedChar (shown : Char → Bool) (quote c : Char) : Text :=
  if c == quote || c == '\\' then ['\\', c]
  else if c == '\n' then "\\n"
  else if c == '\r' then "\\r"
  else if c == '\t' then "\\t"
  else if shown c then [c]
  else codePointEscape c

/-- The quote that a text is shown between: double only where that saves escaping a single one. -/
def quoteFor (text : Text) : Char :=
  if text.contains '\'' && !text.contains '"' then '"' else '\''

/-- The text between quotes, escaped unless printable. -/
def quoted (text : Text) : Text :=
  let quote := quoteFor text
  [quote] ++ text.flatMap (quotedChar isPrintable quote) ++ [quote]

/-- The text between quotes, with every character beyond ASCII escaped as well. -/
def quotedAscii (text : Text) : Text :=
  let quote := quoteFor text
  [quote] ++ text.flatMap (quotedChar (fun c => isPrintable c && c.val < 0x80) quote) ++ [quote]

end DocWeave.Text
