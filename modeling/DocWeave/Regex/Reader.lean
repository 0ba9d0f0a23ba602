import DocWeave.Regex.Basic
import DocWeave.Regex.Token

/-! # The reader's notes

While an expression is read, notes are kept of the groups that have been opened, named and closed,
so that what refers to a group can be checked.
-/

namespace DocWeave.Regex

/-- What is known of an expression that has been read in part. -/
structure Notes where
  rest : List Token
  groupCount : Nat
  names : List (Text × Nat)
  /-- The groups that have been closed, with their widths. -/
  closed : List (Nat × Width)
  /-- The greatest number of a group that a condition asks for. -/
  asked : Nat
  /-- Within a look-behind, the number that the next group had when the outermost one began. -/
  barrier : Option Nat
  /-- A fault that counts only if there is no other. -/
  late : Option Fault
  deriving DecidableEq, Repr

/-- The notes before anything is read. -/
def Notes.ofTokens (tokens : List Token) : Notes := ⟨tokens, 0, [], [], 0, none, none⟩

/-- A step of reading. -/
abbrev Reader := StateT Notes (Except Fault)

namespace Reader

/-- Takes the next token. -/
def take? : Reader (Option Token) := do
  match (← get).rest with
  | [] => return none
  | token :: rest =>
    modify fun notes => { notes with rest }
    return some token

/-- Takes the next token if it is a plain character, and says whether it is. -/
def accept (c : Char) : Reader Bool := do
  match (← get).rest with
  | [] => return false
  | token :: rest =>
    if token = .plain c then
      modify fun notes => { notes with rest }
      return true
    else return false

/-- Takes the plain characters of a kind that come next, up to a number of them. -/
def span (accepts : Char → Bool) (limit : Nat) : Reader Text := do
  let (text, rest) := Token.span accepts limit (← get).rest
  modify fun notes => { notes with rest }
  return text

/-- Takes the text up to a plain character, and that as well. -/
def upTo (stop : Char) : Reader Text := do
  match Token.splitAt? stop (← get).rest with
  | none => throw .unclosedGroup
  | some (text, rest) =>
    modify fun notes => { notes with rest }
    return text

/-- Begins a group, and gives its number. -/
def beginGroup (name : Option Text) : Reader Nat := do
  let notes ← get
  let number := notes.groupCount + 1
  match name with
  | none => set { notes with groupCount := number }
  | some name =>
    if (notes.names.lookup name).isSome then throw (.takenName name)
    set { notes with groupCount := number, names := (name, number) :: notes.names }
  return number

/-- Ends a group. -/
def endGroup (number : Nat) (body : Regex) : Reader Unit :=
  modify fun notes => { notes with closed := (number, body.width notes.closed) :: notes.closed }

/-- Checks that the text of a group can be asked for. -/
def checkClosed (number : Nat) : Reader Unit := do
  let notes ← get
  if notes.groupCount < number then throw (.unknownGroup number)
  if (notes.closed.lookup number).isNone then throw .openGroup
  if notes.barrier.any (· ≤ number) then throw .groupInLookBehind

/-- The number of the group with a name. -/
def named (name : Text) : Reader Nat := do
  match (← get).names.lookup name with
  | none => throw (.unknownName name)
  | some number => return number

/-- Notes that a condition asks for a group, which may be one that is still to come. -/
def ask (number : Nat) : Reader Unit :=
  modify fun notes => { notes with asked := max notes.asked number }

/-- Reads what is looked for behind, within which no group can be asked for that it opens. -/
def inLookBehind (body : Reader Regex) : Reader Regex := do
  let outer := (← get).barrier
  modify fun notes => { notes with barrier := some (outer.getD (notes.groupCount + 1)) }
  let expression ← body
  modify fun notes => { notes with barrier := outer }
  return expression

/-- The width of what is looked for behind; a fault of it waits until all else has been read. -/
def fixedWidth (body : Regex) : Reader Nat := do
  let width := body.width (← get).closed
  if width.most = some width.least && width.least ≤ countLimit then return width.least
  else
    modify fun notes => { notes with late := some .unboundedLookBehind }
    return 0

end Reader

end DocWeave.Regex
