import DocWeave.Text.Basic

/-! # Blanks

The characters that count as white space everywhere in the library, and what it means to trim a
text of them.
-/

namespace DocWeave.Text

/-- The white space of Unicode together with the four information separators U+001C to U+001F. -/
def isBlank (c : Char) : Bool :=
  let n := c.toNat
  (0x09 ≤ n && n ≤ 0x0D) || (0x1C ≤ n && n ≤ 0x20) || n == 0x85 || n == 0xA0 || n == 0x1680 ||
  (0x2000 ≤ n && n ≤ 0x200A) || n == 0x2028 || n == 0x2029 || n == 0x202F || n == 0x205F ||
  n == 0x3000

/-- The text without its leading blanks. -/
def trimLeft (text : Text) : Text := text.dropWhile isBlank

/-- The text without its trailing blanks. -/
def trimRight (text : Text) : Text := (text.reverse.dropWhile isBlank).reverse

/-- The text without its leading and trailing blanks. -/
def trim (text : Text) : Text := trimRight (trimLeft text)

/-- Whether a character is a blank around a number: the information separators are not. -/
def isMargin (c : Char) : Bool := isBlank c && !(0x1C ≤ c.toNat && c.toNat ≤ 0x1F)

/-- The text without the blanks around it, as around a number. -/
def trimMargins (text : Text) : Text :=
  ((text.dropWhile isMargin).reverse.dropWhile isMargin).reverse

/-- The trimmed pieces between separators, without the empty ones. -/
def trimmedPieces (separator : Char) (text : Text) : List Text :=
  ((text.splitOn separator).map trim).filter fun piece => !piece.isEmpty

end DocWeave.Text
