import DocWeave.Glob.CharSet
import DocWeave.Glob.Step

/-! # Glob patterns

A glob pattern is matched against the whole of a relative path. In a segment, `*` stands for any
characters, `?` for one and a bracket expression for one of a set; the first two never take a
slash. A segment `**` spans any number of directories, or any rest when it is the last.

A pattern is read in two steps. Tokens follow the pattern character by character, and each token
has a source; pieces are what is matched. The steps differ only for a bracket expression that
negates nothing: its closing bracket is its first mark, so that it goes on, through the sources
of the tokens after it, to the next closing bracket there.

`matchesAll` says what it means that pieces match a path, and `accepts` finds it out, starting from
the last piece.
-/

namespace DocWeave.Glob

/-- What a pattern says, in order. -/
inductive Token where
  | literal (c : Char)
  | one
  | many
  /-- A bracket expression, by what stands between its brackets. -/
  | bracket (body : Text)
  | slash
  | directories
  | anything
  deriving DecidableEq, Repr

/-- Characters that are escaped in a source. -/
def isSpecial (c : Char) : Bool := "()[]\x7b\x7d?*+-|^$\\.&~# \t\n\r\x0b\x0c".toList.contains c

/-- The marks of a bracket expression as its source has them. -/
def bracketSource (body : Text) : Text :=
  let marked := match body with
    | '!' :: rest => '^' :: rest
    | body => body
  Text.substitute '\\' "\\\\" marked

namespace Token

/-- The source of a token, which positions of faults refer to. -/
def source : Token → Text
  | literal c => if isSpecial c then ['\\', c] else [c]
  | one => "[^/]"
  | many => "[^/]*"
  | bracket body => "[" ++ bracketSource body ++ "]"
  | slash => "/"
  | directories => "(?:[^/]+/)*"
  | anything => ".*"

end Token

/-- The end of every source. -/
def sourceEnd : Text := "\\Z"

/-- The source of a pattern. -/
def source (tokens : List Token) : Text := (tokens.map Token.source).flatten ++ sourceEnd

/-- What stands between the brackets when the text after an opening bracket has a closing one; an
empty expression is none. -/
def bracketBody? (text : Text) : Option Text :=
  let negation := match text with
    | '!' :: _ | '^' :: _ => 1
    | _ => 0
  match Text.findFrom? "]" text negation with
  | none | some 0 => none
  | some close => some (text.take close)

/-- The tokens of a segment. The next `skip` characters belong to a token that has been read. -/
def segmentTokens : (skip : Nat) → Text → List Token
  | _, [] => []
  | skip + 1, _ :: rest => segmentTokens skip rest
  | 0, '*' :: rest => .many :: segmentTokens 0 rest
  | 0, '?' :: rest => .one :: segmentTokens 0 rest
  | 0, '[' :: rest =>
    match bracketBody? rest with
    | none => .literal '[' :: segmentTokens 0 rest
    | some body => .bracket body :: segmentTokens (body.length + 1) rest
  | 0, c :: rest => .literal c :: segmentTokens 0 rest

/-- The segments of a pattern; empty ones and single dots say nothing. -/
def segments (pattern : Text) : List Text :=
  (pattern.splitOn '/').filter fun s => !s.isEmpty && s != ['.']

/-- The segment that spans directories. -/
def spanning : Text := "**"

/-- The tokens of segments in a row. -/
def tokensOf : List Text → List Token
  | [] => []
  | [last] => if last = spanning then [.anything] else segmentTokens 0 last
  | s :: rest =>
    (if s = spanning then [.directories] else segmentTokens 0 s ++ [.slash]) ++ tokensOf rest

/-- The tokens of a pattern. -/
def tokens (pattern : Text) : List Token := tokensOf (segments pattern)

/-- What is matched, in order. -/
inductive Piece where
  | literal (c : Char)
  | one
  | many
  | set (s : CharSet)
  /-- Any number of characters of a set. -/
  | setMany (s : CharSet)
  | slash
  | directories
  | anything
  deriving DecidableEq, Repr

/-- How many tokens the first `length` characters of their sources take up, how many characters
of the last of these sources are left over, and the left over text. -/
def coverOf : (length : Nat) → List Token → Nat × Text
  | _, [] => (0, [])
  | length, t :: rest =>
    let size := t.source.length
    if length ≤ size then (1, t.source.drop length)
    else let (count, left) := coverOf (length - size) rest; (count + 1, left)

/-- The piece that a set makes with what is left over of the token that closes it. -/
def closePiece (s : CharSet) (left : Text) (position : Nat) : Except (Text × Nat) Piece :=
  if left.isEmpty then .ok (.set s)
  else if left = ['*'] then .ok (.setMany s)
  else .error ("unbalanced parenthesis", position + (left.takeWhile (· != ')')).length)

/-- The set of a bracket expression that closes in its own token. -/
def bracketSet (offset : Nat) (marked : Text) : Except (Text × Nat) CharSet := do
  let (set, _) ← match marked with
    | '^' :: rest => CharSet.read true (offset + 2) (rest ++ "]")
    | marked => CharSet.read false (offset + 1) (marked ++ "]")
  return set

/-- The pieces of tokens whose sources start at `offset`. The next `skip` tokens have been taken
up by a bracket expression before them. -/
def piecesFrom : (offset skip : Nat) → List Token → Except (Text × Nat) (List Piece)
  | _, _, [] => .ok []
  | offset, skip + 1, t :: rest => piecesFrom (offset + t.source.length) skip rest
  | offset, 0, t :: rest => do
    let after := offset + t.source.length
    match t with
    | .literal c => return .literal c :: (← piecesFrom after 0 rest)
    | .one => return .one :: (← piecesFrom after 0 rest)
    | .many => return .many :: (← piecesFrom after 0 rest)
    | .slash => return .slash :: (← piecesFrom after 0 rest)
    | .directories => return .directories :: (← piecesFrom after 0 rest)
    | .anything => return .anything :: (← piecesFrom after 0 rest)
    | .bracket body =>
      if bracketSource body = ['^'] then
        let following := source rest
        let (set, left) ← CharSet.read true (offset + 2) (']' :: following)
        let used := following.length - left.length
        let (count, surplus) := coverOf used rest
        let piece ← closePiece set surplus (after + used)
        return piece :: (← piecesFrom after count rest)
      else
        let set ← bracketSet offset (bracketSource body)
        return .set set :: (← piecesFrom after 0 rest)

/-- The pieces of a pattern. -/
def compile (pattern : Text) : Except PatternFault (List Piece) :=
  let read := tokens pattern
  match piecesFrom 0 0 read with
  | .ok pieces => .ok pieces
  | .error (reason, position) => .error ⟨reason, position, source read⟩

namespace Piece

/-- Whether `next` accepts what remains of a path after the piece. -/
def andThen (next : Text → Bool) : Piece → Text → Bool
  | literal c => oneThen (· == c) next
  | one => oneThen (· != '/') next
  | many => manyThen (· != '/') next
  | set s => oneThen s.contains next
  | setMany s => manyThen s.contains next
  | slash => oneThen (· == '/') next
  | directories => directoriesThen next false
  | anything => manyThen (· != '\n') next

/-- The answers of `andThen` for all suffixes of a path, given those of what comes next. -/
def row (path : Text) (next : List Bool) : Piece → List Bool
  | literal c => oneRow (· == c) path next
  | one => oneRow (· != '/') path next
  | many => manyRow (· != '/') path next
  | set s => oneRow s.contains path next
  | setMany s => manyRow s.contains path next
  | slash => oneRow (· == '/') path next
  | directories => (directoriesRow path next).map Prod.fst
  | anything => manyRow (· != '\n') path next

theorem row_answers (piece : Piece) (next : Text → Bool) (path : Text) :
    piece.row path (answers next path) = answers (piece.andThen next) path := by
  cases piece with
  | literal c => exact oneRow_answers ..
  | one => exact oneRow_answers ..
  | many => exact manyRow_answers ..
  | set s => exact oneRow_answers ..
  | setMany s => exact manyRow_answers ..
  | slash => exact oneRow_answers ..
  | directories => exact map_fst_directoriesRow ..
  | anything => exact manyRow_answers ..

end Piece

/-- Whether the pieces match the whole of a path. -/
def matchesAll : List Piece → Text → Bool
  | [] => List.isEmpty
  | piece :: rest => piece.andThen (matchesAll rest)

/-- Whether the pieces match, for all suffixes of a path. -/
def table (path : Text) : List Piece → List Bool
  | [] => answers List.isEmpty path
  | piece :: rest => piece.row path (table path rest)

/-- Whether the pieces match the whole of a path, found out from the last piece on. -/
def accepts (pieces : List Piece) (path : Text) : Bool := (table path pieces).headD false

theorem table_eq_answers (path : Text) (pieces : List Piece) :
    table path pieces = answers (matchesAll pieces) path := by
  induction pieces with
  | nil => rfl
  | cons piece rest ih => rw [table, ih, piece.row_answers]; rfl

theorem accepts_eq_matchesAll (pieces : List Piece) (path : Text) :
    accepts pieces path = matchesAll pieces path := by
  rw [accepts, table_eq_answers, headD_answers]

end DocWeave.Glob
