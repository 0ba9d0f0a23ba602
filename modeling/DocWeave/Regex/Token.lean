import DocWeave.Text.Numeral

/-! # The writing of regular expressions

An expression is written in tokens: characters, and characters after a backslash. This module cuts
a text into tokens, takes runs of them, and says what can be wrong with the writing.
-/

namespace DocWeave.Regex

/-- Why a text is no regular expression. -/
inductive Fault where
  /-- Nothing follows the last backslash. -/
  | looseBackslash
  /-- No meaning is given to this character after a backslash. -/
  | badEscape (c : Char)
  | unclosedSet
  /-- A range of a set whose ends are no characters, or are in the wrong order. -/
  | badRange
  | nothingToRepeat
  /-- A repetition is repeated without a group around it. -/
  | repeatedTwice
  /-- The least number of repetitions exceeds the greatest. -/
  | boundsReversed
  | countTooLarge
  | countUnreadable (fault : NumeralFault)
  /-- A parenthesis and a question mark go on in a way that has no meaning. -/
  | unknownExtension
  | badFlags
  | badName (name : Text)
  | takenName (name : Text)
  | unknownName (name : Text)
  | unknownGroup (number : Nat)
  /-- The text of a group is asked for within the group. -/
  | openGroup
  /-- A look-behind asks for the text of a group within it. -/
  | groupInLookBehind
  /-- What is looked for behind has no fixed width, or too great a one. -/
  | unboundedLookBehind
  | unclosedGroup
  | unopenedGroup
  deriving DecidableEq, Repr

namespace Fault

/-- The wording of the fault. -/
def message : Fault → Text
  | looseBackslash => "bad escape (end of pattern)"
  | badEscape c => "bad escape \\" ++ [c]
  | unclosedSet => "unterminated character set"
  | badRange => "bad character range"
  | nothingToRepeat => "nothing to repeat"
  | repeatedTwice => "multiple repeat"
  | boundsReversed => "min repeat greater than max repeat"
  | countTooLarge => "the repetition number is too large"
  | countUnreadable fault => fault.message
  | unknownExtension => "unknown extension"
  | badFlags => "bad inline flags"
  | badName name => "bad character in group name " ++ name.quoted
  | takenName name => "redefinition of group name " ++ name.quoted
  | unknownName name => "unknown group name " ++ name.quoted
  | unknownGroup number => "invalid group reference " ++ Text.ofNat number
  | openGroup => "cannot refer to an open group"
  | groupInLookBehind => "cannot refer to group defined in the same lookbehind subpattern"
  | unboundedLookBehind => "look-behind requires fixed-width pattern"
  | unclosedGroup => "missing ), unterminated subpattern"
  | unopenedGroup => "unbalanced parenthesis"

end Fault

/-- A unit of the writing of an expression. -/
inductive Token where
  | plain (c : Char)
  /-- A character after a backslash. -/
  | escaped (c : Char)
  deriving DecidableEq, Repr

namespace Token

/-- The tokens of a text. -/
def ofText : Text → Except Fault (List Token)
  | [] => .ok []
  | ['\\'] => .error .looseBackslash
  | '\\' :: c :: rest => return escaped c :: (← ofText rest)
  | c :: rest => return plain c :: (← ofText rest)

/-- A token as it is written. -/
def toText : Token → Text
  | plain c => [c]
  | escaped c => ['\\', c]

/-- The text of the plain characters of a kind, up to a number of them, that come first; and what
follows. -/
def span (accepts : Char → Bool) : (limit : Nat) → List Token → Text × List Token
  | limit + 1, plain c :: rest =>
    if accepts c then
      let (more, after) := span accepts limit rest
      (c :: more, after)
    else ([], plain c :: rest)
  | _, tokens => ([], tokens)

/-- Nothing is lost between the characters that come first and what follows. -/
theorem map_plain_span_append (accepts : Char → Bool) (limit : Nat) (tokens : List Token) :
    (span accepts limit tokens).1.map plain ++ (span accepts limit tokens).2 = tokens := by
  fun_induction span accepts limit tokens with
  | case1 limit c rest accepted more after found ih => simpa [found] using ih
  | case2 => rfl
  | case3 => rfl

/-- The characters that come first are all of the kind. -/
theorem all_span (accepts : Char → Bool) (limit : Nat) (tokens : List Token) :
    (span accepts limit tokens).1.all accepts = true := by
  fun_induction span accepts limit tokens with
  | case1 limit c rest accepted more after found ih =>
    rw [found] at ih
    simpa [accepted] using ih
  | case2 => rfl
  | case3 => rfl

/-- The text up to a plain character, and what follows that. -/
def splitAt? (stop : Char) : List Token → Option (Text × List Token)
  | [] => none
  | token :: rest =>
    if token = plain stop then some ([], rest)
    else (splitAt? stop rest).map fun (text, after) => (token.toText ++ text, after)

/-- The digits of the least and the greatest number of repetitions that tokens give after an
opening brace, and what follows the closing one. A number that is left out has no digits; a single
number is both. -/
def bounds? (tokens : List Token) : Option ((Text × Text) × List Token) :=
  let (least, rest) := span Char.isDigit tokens.length tokens
  match rest with
  | .plain '}' :: after => if least.isEmpty then none else some ((least, least), after)
  | .plain ',' :: rest =>
    let (most, rest) := span Char.isDigit rest.length rest
    match rest with
    | .plain '}' :: after => some ((least, most), after)
    | _ => none
  | _ => none

end Token

/-- Numbers of repetitions lie below this. -/
def countLimit : Nat := 4294967295

/-- The number of repetitions that digits give; `none` without digits. -/
def readCount (digits : Text) : Except Fault (Option Nat) :=
  if digits.isEmpty then .ok none
  else match Numeral.read digits with
    | .error fault => .error (.countUnreadable fault)
    | .ok count => if countLimit ≤ count.toNat then .error .countTooLarge else .ok (some count.toNat)

/-- The least and the greatest number of repetitions that digits give. -/
def readCounts (least most : Text) : Except Fault (Nat × Option Nat) := do
  let least := (← readCount least).getD 0
  let most ← readCount most
  if most.any (· < least) then .error .boundsReversed else .ok (least, most)

end DocWeave.Regex
