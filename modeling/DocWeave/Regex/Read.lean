import DocWeave.Regex.Reader

/-! # Reading regular expressions

An expression is one or more branches between bars, a branch is a sequence of elements, and an
element is a character, a set of characters, a place or something in parentheses, with a
repetition or without. `read` takes the whole of a text or none of it.
-/

namespace DocWeave.Regex

/-- The way in which a part of an expression is meant. -/
structure Flags extends CharMode where
  /-- Whether the signs for the ends of the text hold at the ends of its lines as well. -/
  isLinewise : Bool
  /-- Whether a dot stands for a line feed as well. -/
  dotTakesAll : Bool
  /-- Whether blanks and comments are passed over. -/
  isSpaced : Bool
  deriving DecidableEq, Repr

namespace Flags

/-- How an expression is meant unless it says otherwise. -/
def none : Flags := ⟨⟨false, false⟩, false, false, false⟩

/-- The flags with those of some letters set and those of others cleared. -/
def adjust (flags : Flags) (on off : Text) : Flags :=
  let turned (letter : Char) (old : Bool) : Bool :=
    (old || on.contains letter) && !off.contains letter
  { ignoresCase := turned 'i' flags.ignoresCase
    isAscii := (flags.isAscii || on.contains 'a') && !on.contains 'u'
    isLinewise := turned 'm' flags.isLinewise
    dotTakesAll := turned 's' flags.dotTakesAll
    isSpaced := turned 'x' flags.isSpaced }

end Flags

/-- What part of an expression can be repeated. -/
inductive ElementKind where
  | single
  /-- A place cannot be repeated. -/
  | place
  /-- A repetition cannot be repeated again. -/
  | repeated
  deriving DecidableEq, Repr

/-- An element of a branch. -/
structure Element where
  kind : ElementKind
  expression : Regex
  deriving DecidableEq, Repr

namespace Element

/-- The elements one after the other. -/
def sequence (elements : List Element) : Regex :=
  elements.foldr (fun element rest => .sequence element.expression rest) .empty

/-- The element for the character with a code. -/
def ofCode (flags : Flags) (code : Nat) : Element :=
  ⟨.single, .char ⟨false, [.one code], flags.toCharMode⟩⟩

/-- The element for the characters of a kind, or those of no such kind. -/
def ofKind (flags : Flags) (kind : CharKind) (negated : Bool) : Element :=
  ⟨.single, .char ⟨false, [.kind kind negated], flags.toCharMode⟩⟩

/-- The element for a dot. -/
def dot (flags : Flags) : Element :=
  ⟨.single, .char ⟨true, if flags.dotTakesAll then [] else [.one 10], ⟨false, false⟩⟩⟩

/-- The element for a place. -/
def ofPlace (place : Place) : Element := ⟨.place, .place place⟩

/-- The element for the text of a group again. -/
def again (flags : Flags) (number : Nat) : Element := ⟨.single, .again number flags.toCharMode⟩

end Element

/-! ## Characters -/

/-- Whether a character is an octal digit. -/
def isOctal (c : Char) : Bool := '0' ≤ c && c ≤ '7'

/-- The number that octal digits denote. -/
def octalValue (digits : Text) : Nat := Text.valueInBase 8 (digits.map fun c => c.toNat - 48)

/-- The code of the control character that a letter stands for after a backslash. -/
def control? (c : Char) : Option Nat :=
  match c with
  | 'a' => some 7
  | 't' => some 9
  | 'n' => some 10
  | 'v' => some 11
  | 'f' => some 12
  | 'r' => some 13
  | _ => none

/-- The kind of characters that a letter stands for after a backslash, and whether it stands for
those of no such kind. -/
def kind? (c : Char) : Option (CharKind × Bool) :=
  match c with
  | 'd' => some (.digit, false)
  | 'D' => some (.digit, true)
  | 's' => some (.blank, false)
  | 'S' => some (.blank, true)
  | 'w' => some (.word, false)
  | 'W' => some (.word, true)
  | _ => none

/-- The place that a letter stands for after a backslash. -/
def place? (flags : Flags) (c : Char) : Option Place :=
  match c with
  | 'A' => some .textStart
  | 'Z' => some .textEnd
  | 'b' => some (.boundary flags.isAscii)
  | 'B' => some (.noBoundary flags.isAscii)
  | _ => none

namespace Reader

/-- Takes the code that hexadecimal digits give, after the letter for their number. -/
def hexCode (letter : Char) (count : Nat) : Reader Nat := do
  let digits ← span (fun c => (Text.hexDigit? c).isSome) count
  let code := Text.valueInBase 16 (digits.filterMap Text.hexDigit?)
  if digits.length = count && code ≤ 0x10FFFF then return code else throw (.badEscape letter)

/-- Takes the code of the single character that one stands for after a backslash. -/
def escapedCode (c : Char) : Reader Nat := do
  match c, control? c with
  | _, some code => return code
  | 'x', _ => hexCode c 2
  | 'u', _ => hexCode c 4
  | 'U', _ => hexCode c 8
  | _, _ => if c.isAlpha then throw (.badEscape c) else return c.toNat

/-- The code of octal digits, which fits into a byte. -/
def octalCode (digits : Text) : Reader Nat :=
  let code := octalValue digits
  if code ≤ 0xFF then return code else throw (.badEscape (digits.headD '0'))

/-! ## Sets -/

/-- Takes the rest of what a token stands for in a set. -/
def setItem : Token → Reader SetItem
  | .plain c => return .one c.toNat
  | .escaped c => do
    match kind? c with
    | some (kind, negated) => return .kind kind negated
    | none =>
      if c == 'b' then return .one 8
      else if isOctal c then return .one (← octalCode (c :: (← span isOctal 2)))
      else if c.isDigit then throw (.badEscape c)
      else return .one (← escapedCode c)

/-- Takes the items of a set and the bracket that closes it; a bracket that comes first is an item.
The fuel bounds the items. -/
def setItems (items : List SetItem) : (fuel : Nat) → Reader (List SetItem)
  | 0 => throw .unclosedSet
  | fuel + 1 => do
    let some token ← take? | throw .unclosedSet
    if token = .plain ']' && !items.isEmpty then return items.reverse
    let low ← setItem token
    if ← accept '-' then
      let some token ← take? | throw .unclosedSet
      if token = .plain ']' then return (.one 0x2D :: low :: items).reverse
      match low, ← setItem token with
      | .one low, .one high =>
        if high < low then throw .badRange
        setItems (.range low high :: items) fuel
      | _, _ => throw .badRange
    else setItems (low :: items) fuel

/-- Takes the rest of a set. -/
def charSet (flags : Flags) : Reader Element := do
  let negated ← accept '^'
  let items ← setItems [] ((← get).rest.length + 1)
  return ⟨.single, .char ⟨negated, items, flags.toCharMode⟩⟩

/-! ## Elements -/

/-- Takes the rest of a group's number, or of the octal digits of a character. -/
def numbered (flags : Flags) (first : Char) : Reader Element := do
  let second ← span Char.isDigit 1
  let third ← if isOctal first && second.any isOctal then span isOctal 1 else pure []
  let digits := first :: second ++ third
  if third.isEmpty then
    let number := Text.valueOfDigits (digits.filterMap Text.digit?)
    checkClosed number
    return .again flags number
  else return .ofCode flags (← octalCode digits)

/-- Takes the rest of what a character stands for after a backslash. -/
def escape (flags : Flags) (c : Char) : Reader Element := do
  match kind? c, place? flags c with
  | some (kind, negated), _ => return .ofKind flags kind negated
  | none, some found => return .ofPlace found
  | none, none =>
    if c == '0' then return .ofCode flags (octalValue (← span isOctal 2))
    else if c.isDigit then numbered flags c
    else return .ofCode flags (← escapedCode c)

/-- Takes the sign for the order in which numbers of repetitions are tried. -/
def repeatOrder : Reader RepeatOrder := do
  if ← accept '?' then return .fewestFirst
  else if ← accept '+' then return .mostOnly
  else return .mostFirst

/-- The elements, latest first, with the latest repeated in the order that is asked for next. -/
def repeatLatest (least : Nat) (most : Option Nat) : List Element → Reader (List Element)
  | [] => throw .nothingToRepeat
  | latest :: before => do
    match latest.kind with
    | ElementKind.place => throw .nothingToRepeat
    | .repeated => throw .repeatedTwice
    | .single =>
      return ⟨.repeated, .times least most (← repeatOrder) latest.expression⟩ :: before

/-- Takes the rest of an element that begins with a plain character, given the elements before,
latest first. -/
def plainElement (flags : Flags) (elements : List Element) (c : Char) : Reader (List Element) := do
  match c with
  | '.' => return .dot flags :: elements
  | '^' => return .ofPlace (if flags.isLinewise then .lineStart else .textStart) :: elements
  | '$' => return .ofPlace (if flags.isLinewise then .lineEnd else .lastLineEnd) :: elements
  | '[' => return (← charSet flags) :: elements
  | '*' => repeatLatest 0 none elements
  | '+' => repeatLatest 1 none elements
  | '?' => repeatLatest 0 (some 1) elements
  | '{' =>
    match Token.bounds? (← get).rest with
    | none => return .ofCode flags c.toNat :: elements
    | some ((least, most), rest) =>
      let (least, most) ← readCounts least most
      modify fun notes => { notes with rest }
      repeatLatest least most elements
  | _ => return .ofCode flags c.toNat :: elements

end Reader

/-! ## Parentheses -/

/-- What a parenthesis begins. -/
inductive Opening where
  | comment
  /-- The text of a group again. -/
  | again (number : Nat)
  | group (name : Option Text)
  /-- A part in which the flags differ. -/
  | flagged (flags : Flags)
  | atomic
  | ahead (wanted : Bool)
  | behind (wanted : Bool)
  | condition (number : Nat)
  deriving DecidableEq, Repr

/-- Whether a text can be the name of a group. -/
def isGroupName : Text → Bool
  | [] => false
  | c :: rest => Text.isWord c && (Text.digit? c).isNone && rest.all Text.isWord

namespace Reader

/-- Takes the name of a group and what closes it. -/
def groupName (stop : Char) : Reader Text := do
  let name ← upTo stop
  if isGroupName name then return name else throw (.badName name)

/-- Takes the name or the number of the group that a condition asks for. -/
def condition : Reader Nat := do
  let name ← upTo ')'
  let number ←
    if isGroupName name then named name
    else match Numeral.read name with
      | .ok number => if 0 < number then pure number.toNat else throw (.badName name)
      | .error _ => throw (.badName name)
  ask number
  if (← get).barrier.isSome then checkClosed number
  return number

/-- Takes the letters of flags and the colon after them, given the first character. -/
def flagged (flags : Flags) (first : Char) : Reader Flags := do
  modify fun notes => { notes with rest := .plain first :: notes.rest }
  let limit := (← get).rest.length
  let on ← span ("imsxau".toList.contains ·) limit
  let clears ← accept '-'
  let off ← if clears then span ("imsx".toList.contains ·) limit else pure []
  let isRefused := (on.contains 'a' && on.contains 'u') || on.any off.contains ||
    (clears && off.isEmpty)
  if !(← accept ':') || isRefused then throw .badFlags
  return flags.adjust on off

/-- Takes what tells the meaning of a parenthesis. -/
def opening (flags : Flags) : Reader Opening := do
  if !(← accept '?') then return .group none
  let some (.plain c) ← take? | throw .unknownExtension
  match c with
  | ':' => return .flagged flags
  | '>' => return .atomic
  | '=' => return .ahead true
  | '!' => return .ahead false
  | '#' =>
    let _ ← upTo ')'
    return .comment
  | '(' => return .condition (← condition)
  | '<' =>
    if ← accept '=' then return .behind true
    else if ← accept '!' then return .behind false
    else throw .unknownExtension
  | 'P' =>
    if ← accept '<' then return .group (some (← groupName '>'))
    else if ← accept '=' then
      let number ← named (← groupName ')')
      checkClosed number
      return .again number
    else throw .unknownExtension
  | _ => return .flagged (← flagged flags c)

/-! ## Branches -/

mutual

/-- Takes branches between bars. -/
def branches (flags : Flags) : (fuel : Nat) → Reader Regex
  | 0 => throw .unclosedGroup
  | fuel + 1 => do
    let first ← branch flags [] fuel
    if ← accept '|' then return .choice first (← branches flags fuel) else return first

/-- Takes the rest of a branch, given its elements so far, latest first. -/
def branch (flags : Flags) (elements : List Element) : (fuel : Nat) → Reader Regex
  | 0 => throw .unclosedGroup
  | fuel + 1 => do
    match (← get).rest with
    | [] => return Element.sequence elements.reverse
    | token :: rest =>
      if token = .plain '|' || token = .plain ')' then return Element.sequence elements.reverse
      modify fun notes => { notes with rest }
      match token with
      | .escaped c => branch flags ((← escape flags c) :: elements) fuel
      | .plain c =>
        if flags.isSpaced && CharKind.blank.contains true c then branch flags elements fuel
        else if flags.isSpaced && c == '#' then
          modify fun notes => { notes with rest := (rest.dropWhile (· ≠ .plain '\n')).tail }
          branch flags elements fuel
        else if c == '(' then branch flags ((← parenthesis flags fuel).toList ++ elements) fuel
        else branch flags (← plainElement flags elements c) fuel

/-- Takes branches and the parenthesis that closes them. -/
def enclosed (flags : Flags) : (fuel : Nat) → Reader Regex
  | 0 => throw .unclosedGroup
  | fuel + 1 => do
    let body ← branches flags fuel
    if ← accept ')' then return body else throw .unclosedGroup

/-- Takes the rest of what is in parentheses; nothing comes of a comment. -/
def parenthesis (flags : Flags) : (fuel : Nat) → Reader (Option Element)
  | 0 => throw .unclosedGroup
  | fuel + 1 => do
    match ← opening flags with
    | .comment => return none
    | .again number => return some (.again flags number)
    | .group name =>
      let number ← beginGroup name
      let body ← enclosed flags fuel
      endGroup number body
      return some ⟨.single, .group number body⟩
    | .flagged inner => return some ⟨.single, ← enclosed inner fuel⟩
    | .atomic => return some ⟨.single, .atomic (← enclosed flags fuel)⟩
    | .ahead wanted => return some ⟨.single, .ahead wanted (← enclosed flags fuel)⟩
    | .behind wanted =>
      let body ← inLookBehind (enclosed flags fuel)
      return some ⟨.single, .behind wanted (← fixedWidth body) body⟩
    | .condition number =>
      let yes ← branch flags [] fuel
      let no ← if ← accept '|' then branch flags [] fuel else pure .empty
      if ← accept ')' then return some ⟨.single, .whether number yes no⟩
      else throw .unclosedGroup

end

end Reader

/-- The expression that a text gives. Every token costs the reader at most four steps. -/
def read (source : Text) : Except Fault Regex := do
  let tokens ← Token.ofText source
  let (expression, notes) ←
    (Reader.branches .none (4 * tokens.length + 4)).run (.ofTokens tokens)
  if !notes.rest.isEmpty then throw .unopenedGroup
  if notes.groupCount < notes.asked then throw (.unknownGroup notes.asked)
  match notes.late with
  | some fault => throw fault
  | none => return expression

end DocWeave.Regex
