import DocWeave.Text.Basic

/-! # Bracket expressions

The text between the brackets of a bracket expression is a list of marks: single characters and
characters escaped by a backslash. A mark, a plain hyphen and another mark make a range; a hyphen
at the end is itself. A closing bracket ends the expression unless it is the first mark. Letters
and digits cannot be escaped.
-/

namespace DocWeave

/-- Why a pattern is refused, and where in its source. -/
structure PatternFault where
  reason : Text
  position : Nat
  /-- The pattern written out in full, which positions refer to. -/
  source : Text
  deriving DecidableEq, Repr

namespace PatternFault

/-- The wording of the fault; line and column are given when the source has more than one line. -/
def message (f : PatternFault) : Text :=
  let before := f.source.take f.position
  let place := f.reason ++ " at position " ++ Text.ofNat f.position
  if f.source.contains '\n' then
    place ++ " (line " ++ Text.ofNat (before.count '\n' + 1) ++ ", column " ++
      Text.ofNat ((before.reverse.takeWhile (· != '\n')).length + 1) ++ ")"
  else place

end PatternFault

/-- A set of characters given by members and ranges, or the complement of one. -/
structure CharSet where
  negated : Bool
  /-- Closed ranges; a single member is a range of its own. -/
  ranges : List (Char × Char)
  deriving DecidableEq, Repr

namespace CharSet

/-- Whether a character is in the set. -/
def contains (s : CharSet) (c : Char) : Bool :=
  (s.ranges.any fun (low, high) => low ≤ c && c ≤ high) != s.negated

/-- A mark of a bracket expression and its position in the source. -/
structure Mark where
  char : Char
  escaped : Bool
  position : Nat
  deriving DecidableEq, Repr

namespace Mark

/-- A mark as it is written. -/
def toText (m : Mark) : Text := if m.escaped then ['\\', m.char] else [m.char]

/-- Whether a mark makes a range of its neighbours. -/
def isHyphen (m : Mark) : Bool := !m.escaped && m.char == '-'

end Mark

/-- The marks up to the closing bracket, and the text after it when there is one. -/
def marks (first : Bool) (position : Nat) : Text → List Mark × Option Text
  | [] => ([], none)
  | '\\' :: c :: rest =>
    let (more, after) := marks false (position + 2) rest
    (⟨c, true, position⟩ :: more, after)
  | c :: rest =>
    if c == ']' && !first then ([], some rest)
    else
      let (more, after) := marks false (position + 1) rest
      (⟨c, false, position⟩ :: more, after)

/-- The character that a mark stands for; refused with the reason and its position. -/
def member (m : Mark) : Except (Text × Nat) Char :=
  if m.escaped && m.char.isAlphanum then .error ("bad escape " ++ m.toText, m.position)
  else .ok m.char

/-- The ranges that marks stand for. -/
def rangesOf : List Mark → Except (Text × Nat) (List (Char × Char))
  | [] => .ok []
  | [m] => do
    let c ← member m
    return [(c, c)]
  | [m, h] => do
    let c ← member m
    let d ← member h
    return [(c, c), (d, d)]
  | m :: h :: n :: rest =>
    if h.isHyphen then do
      let low ← member m
      let high ← member n
      if high < low then
        .error ("bad character range " ++ m.toText ++ "-" ++ n.toText, m.position)
      else return (low, high) :: (← rangesOf rest)
    else do
      let c ← member m
      return (c, c) :: (← rangesOf (h :: n :: rest))

/-- Reads the bracket expression whose first mark is at `position`, and gives the text after its
closing bracket. -/
def read (negated : Bool) (position : Nat) (text : Text) : Except (Text × Nat) (CharSet × Text) := do
  let (found, after) := marks true position text
  let ranges ← rangesOf found
  match after with
  | some rest => return (⟨negated, ranges⟩, rest)
  | none => .error ("unterminated character set", position - (if negated then 2 else 1))

end CharSet

end DocWeave
