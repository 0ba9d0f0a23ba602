import DocWeave.Glob.Pattern

/-! # Ignore patterns

An ignore pattern is matched against the whole of a path as well, but its wildcards do not care
for slashes: `*` stands for any text, `?` for any character. In a bracket expression, only `!`
negates, ranges that run backwards are dropped, an expression that is empty then matches nothing,
and one that negates nothing matches any character.

`matchesAll` says what it means that pieces match a text, and `accepts` finds it out, starting from
the last piece.
-/

namespace DocWeave.Ignore

/-- What an ignore pattern matches, in order. -/
inductive Piece where
  | literal (c : Char)
  | one
  | many
  | set (s : CharSet)
  | never
  deriving DecidableEq, Repr

/-- What stands between the brackets when the text after an opening bracket has a closing one;
right after the opening bracket or the negation, a closing bracket is a member. -/
def bracketBody? (text : Text) : Option Text :=
  let negation := if text.head? = some '!' then 1 else 0
  let first := if (text.drop negation).head? = some ']' then negation + 1 else negation
  (Text.findFrom? "]" text first).map fun close => text.take close

/-- The text cut at the hyphens that make ranges: those at least two characters apart. The next
`held` characters cannot be such a hyphen. -/
def chunks : (held : Nat) → Text → List Text
  | _, [] => [[]]
  | held, c :: rest =>
    if held = 0 ∧ c = '-' then [] :: chunks 2 rest
    else match chunks (held - 1) rest with
      | [] => [[c]]
      | chunk :: more => (c :: chunk) :: more

/-- A hyphen that nothing follows belongs to the chunk before it. -/
def closeChunks : List Text → List Text
  | [] => []
  | [chunk, []] => [chunk ++ "-"]
  | chunk :: rest => chunk :: closeChunks rest

/-- The chunks without the ends of ranges that run backwards. -/
def dropBackward : List Text → List Text
  | [] => []
  | chunk :: rest =>
    match dropBackward rest with
    | [] => [chunk]
    | next :: more =>
      match chunk.getLast?, next.head? with
      | some low, some high =>
        if high < low then (chunk.dropLast ++ next.drop 1) :: more else chunk :: next :: more
      | _, _ => chunk :: next :: more

/-- The body of a bracket expression with everything escaped but the hyphens of ranges. -/
def bracketSource (body : Text) : Text :=
  if body.contains '-' then
    let held := if body.head? = some '!' then 2 else 1
    let escape (chunk : Text) := Text.substitute '-' "\\-" (Text.substitute '\\' "\\\\" chunk)
    Text.join "-" ((dropBackward (closeChunks (chunks held body))).map escape)
  else Text.substitute '\\' "\\\\" body

/-- The piece that a bracket expression stands for. -/
def bracketPiece (body : Text) : Piece :=
  match bracketSource body with
  | [] => .never
  | ['!'] => .one
  | marked =>
    let negated := marked.head? == some '!'
    let marks := if negated then marked.drop 1 else marked
    match CharSet.read negated 0 (marks ++ "]") with
    | .ok (set, _) => .set set
    | .error _ => .never

/-- The pieces of a pattern. The next `skip` characters belong to a piece that has been read. -/
def pieces : (skip : Nat) → Text → List Piece
  | _, [] => []
  | skip + 1, _ :: rest => pieces skip rest
  | 0, '*' :: rest => .many :: pieces 0 rest
  | 0, '?' :: rest => .one :: pieces 0 rest
  | 0, '[' :: rest =>
    match bracketBody? rest with
    | none => .literal '[' :: pieces 0 rest
    | some body => bracketPiece body :: pieces (body.length + 1) rest
  | 0, c :: rest => .literal c :: pieces 0 rest

namespace Piece

/-- Whether `next` accepts what remains of a text after the piece. -/
def andThen (next : Text → Bool) : Piece → Text → Bool
  | literal c => Glob.oneThen (· == c) next
  | one => Glob.oneThen (fun _ => true) next
  | many => Glob.manyThen (fun _ => true) next
  | set s => Glob.oneThen s.contains next
  | never => Glob.oneThen (fun _ => false) next

/-- The answers of `andThen` for all suffixes of a text, given those of what comes next. -/
def row (text : Text) (next : List Bool) : Piece → List Bool
  | literal c => Glob.oneRow (· == c) text next
  | one => Glob.oneRow (fun _ => true) text next
  | many => Glob.manyRow (fun _ => true) text next
  | set s => Glob.oneRow s.contains text next
  | never => Glob.oneRow (fun _ => false) text next

theorem row_answers (piece : Piece) (next : Text → Bool) (text : Text) :
    piece.row text (Glob.answers next text) = Glob.answers (piece.andThen next) text := by
  cases piece with
  | literal c => exact Glob.oneRow_answers ..
  | one => exact Glob.oneRow_answers ..
  | many => exact Glob.manyRow_answers ..
  | set s => exact Glob.oneRow_answers ..
  | never => exact Glob.oneRow_answers ..

end Piece

/-- Whether the pieces match the whole of a text. -/
def matchesAll : List Piece → Text → Bool
  | [] => List.isEmpty
  | piece :: rest => piece.andThen (matchesAll rest)

/-- Whether the pieces match, for all suffixes of a text. -/
def table (text : Text) : List Piece → List Bool
  | [] => Glob.answers List.isEmpty text
  | piece :: rest => piece.row text (table text rest)

/-- Whether an ignore pattern matches a text, found out from its last piece on. -/
def accepts (pattern text : Text) : Bool := (table text (pieces 0 pattern)).headD false

theorem table_eq_answers (text : Text) (pieces : List Piece) :
    table text pieces = Glob.answers (matchesAll pieces) text := by
  induction pieces with
  | nil => rfl
  | cons piece rest ih => rw [table, ih, piece.row_answers]; rfl

theorem accepts_eq_matchesAll (pattern text : Text) :
    accepts pattern text = matchesAll (pieces 0 pattern) text := by
  rw [accepts, table_eq_answers, Glob.headD_answers]

/-- Whether one of the patterns covers a relative path. A pattern is tried on the path with and
without a slash before it, and a leading `**` may also stand for no directory at all. -/
def covers (patterns : List Text) (path : Text) : Bool :=
  patterns.any fun pattern =>
    accepts pattern path || accepts pattern ('/' :: path) ||
    (("**/" : Text).isPrefixOf pattern && accepts (pattern.drop 3) path)

end DocWeave.Ignore
