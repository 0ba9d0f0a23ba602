import DocWeave.Text.Blank
import DocWeave.Text.Digit
import DocWeave.Text.Lower
import DocWeave.Text.Word

/-! # Regular expressions

An expression describes texts by what is tried in order: tests of single characters, demands on the
place, sequences, choices, repetitions, and groups whose text can be asked for again. Trying may go
back to an earlier choice unless the expression forbids it.
-/

namespace DocWeave

namespace Regex

/-- A kind of characters. -/
inductive CharKind where
  | digit
  | blank
  | word
  deriving DecidableEq, Repr

/-- How characters are read. -/
structure CharMode where
  /-- Whether the case of letters does not count. -/
  ignoresCase : Bool
  /-- Whether kinds and cases are those of ASCII. -/
  isAscii : Bool
  deriving DecidableEq, Repr

/-- Whether a character is of a kind. -/
def CharKind.contains (isAscii : Bool) (c : Char) : CharKind → Bool
  | digit => if isAscii then c.isDigit else (Text.digit? c).isSome
  | blank => Text.isBlank c && (!isAscii || c == ' ' || (0x09 ≤ c.toNat && c.toNat ≤ 0x0D))
  | word => if isAscii then c.isAlphanum || c == '_' else Text.isWord c

/-- A member of a set of characters, which are given by their codes. -/
inductive SetItem where
  | one (code : Nat)
  | range (low high : Nat)
  /-- The characters of a kind, or those of no such kind. -/
  | kind (kind : CharKind) (negated : Bool)
  deriving DecidableEq, Repr

/-- A test of one character: whether it is in a set, or in none of its items. -/
structure CharTest where
  negated : Bool
  items : List SetItem
  mode : CharMode
  deriving DecidableEq, Repr

/-- The code of a character in lower case. -/
def CharMode.folded (mode : CharMode) (code : Nat) : Nat :=
  if mode.isAscii then if 0x41 ≤ code && code ≤ 0x5A then code + 0x20 else code
  else ((Text.lowerChar (Char.ofNat code)).head?.map Char.toNat).getD code

/-- Whether a character is as good as the one with a code. -/
def CharMode.agrees (mode : CharMode) (c : Char) (code : Nat) : Bool :=
  c.toNat == code ||
    (mode.ignoresCase &&
      (mode.folded c.toNat == mode.folded code ||
        (!mode.isAscii && Text.shareCapital (mode.folded c.toNat) (mode.folded code))))

/-- Whether an item of a set has a character. -/
def SetItem.contains (mode : CharMode) (c : Char) : SetItem → Bool
  | one code => mode.agrees c code
  | range low high =>
    (low ≤ c.toNat && c.toNat ≤ high) ||
      (mode.ignoresCase && (List.range (high + 1 - low)).any fun i => mode.agrees c (low + i))
  | kind k negated =>
    let shown := if mode.ignoresCase then Char.ofNat (mode.folded c.toNat) else c
    k.contains mode.isAscii shown != negated

/-- Whether a character passes the test. -/
def CharTest.accepts (test : CharTest) (c : Char) : Bool :=
  test.items.any (fun item => item.contains test.mode c) != test.negated

/-- A place in a text. -/
inductive Place where
  | textStart
  | lineStart
  | textEnd
  /-- The end of the text, or before a line feed that ends it. -/
  | lastLineEnd
  | lineEnd
  /-- Where a word begins or ends, by the word characters of ASCII or all. -/
  | boundary (isAscii : Bool)
  /-- Where no word begins or ends; an empty text has no such place. -/
  | noBoundary (isAscii : Bool)
  deriving DecidableEq, Repr

/-- In which order numbers of repetitions are tried. -/
inductive RepeatOrder where
  | mostFirst
  | fewestFirst
  /-- As many as there can be, and no other number. -/
  | mostOnly
  deriving DecidableEq, Repr

/-- The least and the greatest number of characters that something takes; `none` for any number. -/
structure Width where
  least : Nat
  most : Option Nat
  deriving DecidableEq, Repr

namespace Width

/-- The width of something that takes no characters. -/
def zero : Width := ⟨0, some 0⟩

/-- One after the other. -/
def add (w v : Width) : Width :=
  ⟨w.least + v.least, do return (← w.most) + (← v.most)⟩

/-- One or the other. -/
def join (w v : Width) : Width :=
  ⟨min w.least v.least, do return max (← w.most) (← v.most)⟩

/-- The same several times. -/
def times (least : Nat) (most : Option Nat) (w : Width) : Width :=
  ⟨w.least * least, if w.most = some 0 then some 0 else do return (← w.most) * (← most)⟩

end Width

end Regex

open Regex in
/-- A regular expression. -/
inductive Regex where
  /-- Holds everywhere. -/
  | empty
  | char (test : CharTest)
  | place (place : Place)
  | sequence (first second : Regex)
  | choice (first second : Regex)
  | times (least : Nat) (most : Option Nat) (order : RepeatOrder) (body : Regex)
  /-- A group, by its number. -/
  | group (number : Nat) (body : Regex)
  /-- The text of a group again. -/
  | again (number : Nat) (mode : CharMode)
  /-- The first way in which the body holds, and no other. -/
  | atomic (body : Regex)
  /-- Whether the body holds from here on, taking nothing. -/
  | ahead (wanted : Bool) (body : Regex)
  /-- Whether the body holds some characters before, taking nothing. -/
  | behind (wanted : Bool) (width : Nat) (body : Regex)
  /-- One of two expressions, by whether a group has a text. -/
  | whether (number : Nat) (yes no : Regex)
  deriving DecidableEq, Repr

namespace Regex

/-- The number of the last group of an expression; zero without groups. -/
def lastGroup : Regex → Nat
  | empty | char _ | place _ | again _ _ => 0
  | sequence first second | choice first second | whether _ first second =>
    max first.lastGroup second.lastGroup
  | times _ _ _ body | atomic body | ahead _ body | behind _ _ body => body.lastGroup
  | group number body => max number body.lastGroup

/-- How many characters an expression takes, given the widths of groups. -/
def width (groups : List (Nat × Width)) : Regex → Width
  | empty | place _ | ahead _ _ | behind _ _ _ => .zero
  | char _ => ⟨1, some 1⟩
  | sequence first second => (first.width groups).add (second.width groups)
  | choice first second => (first.width groups).join (second.width groups)
  | times least most _ body => (body.width groups).times least most
  | group _ body => body.width groups
  | again number _ => (groups.lookup number).getD .zero
  | atomic body => body.width groups
  | whether _ yes no => (yes.width groups).join (no.width groups)

end Regex

end DocWeave
