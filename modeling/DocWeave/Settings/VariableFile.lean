import DocWeave.Text.Blank
import DocWeave.Text.Codec

/-! # Files of variables

A file of variables assigns values to names, one assignment to a line: a name, after the word
`export` if one likes, and then an equal sign and a value. A name may stand in single quotes, a
value in either kind of quotes, in which it may span lines. A name alone has no value. Number
signs begin comments, and a line that is none of this is passed over. A byte order mark at the
start of the file does not count.

Values may refer to variables, those of the surroundings and those assigned before.
-/

namespace DocWeave

/-- Names and values, in the order of their assignment; a name may be without a value. -/
abbrev Variables := List (Text × Option Text)

namespace Variables

/-- The value of a name, by its last assignment; a name that has none may still be assigned. -/
def find? (given : Variables) (name : Text) : Option (Option Text) := given.reverse.lookup name

/-- The variables after one more assignment: a name that is assigned already keeps its place. -/
def assign (given : Variables) (name : Text) (value : Option Text) : Variables :=
  if given.any fun entry => entry.1 == name then
    given.map fun entry => if entry.1 = name then (name, value) else entry
  else given ++ [(name, value)]

end Variables

namespace VariableFile

/-- What has been read and the text after it, or where reading got stuck. -/
abbrev Reading (α : Type) := Except Text (α × Text)

/-- Whether a character is a blank within a line. -/
def isGap (c : Char) : Bool := Text.isBlank c && c != '\n'

/-- The text after blanks within the line. -/
def skipGap (text : Text) : Text := text.dropWhile isGap

/-- The text from the end of the line on. -/
def skipLine (text : Text) : Text := text.dropWhile (· != '\n')

/-- The text after the word `export`, when blanks follow it. -/
def skipExport (text : Text) : Text :=
  let word : Text := "export"
  if word.isPrefixOf text && (text[word.length]?).any isGap then skipGap (text.drop word.length)
  else text

/-- Whether a character can stand in a name that is not quoted. -/
def isNameChar (c : Char) : Bool := c != '=' && c != '#' && !Text.isBlank c

/-- The name of an assignment; a comment has none. -/
def readName (text : Text) : Reading (Option Text) :=
  match text with
  | '#' :: _ => .ok (none, text)
  | '\'' :: rest =>
    match rest.takeWhile (· != '\''), rest.dropWhile (· != '\'') with
    | c :: name, _ :: after => .ok (some (c :: name), after)
    | _, _ => .error text
  | _ =>
    match text.takeWhile isNameChar with
    | [] => .error text
    | name => .ok (some name, text.dropWhile isNameChar)

/-- The text up to the closing quote, and the text after it. A backslash keeps the character after
it from closing. -/
def toQuote? (quote : Char) : Text → Option (Text × Text)
  | [] => none
  | '\\' :: c :: rest => (toQuote? quote rest).map fun (body, after) => ('\\' :: c :: body, after)
  | c :: rest =>
    if c = quote then some ([], rest)
    else (toQuote? quote rest).map fun (body, after) => (c :: body, after)

/-- What a backslash and a character stand for between double quotes. -/
def doubleEscapes : List (Char × Char) :=
  [('\\', '\\'), ('\'', '\''), ('"', '"'), ('a', '\x07'), ('b', '\x08'), ('f', '\x0c'),
    ('n', '\n'), ('r', '\r'), ('t', '\t'), ('v', '\x0b')]

/-- What a backslash and a character stand for between single quotes. -/
def singleEscapes : List (Char × Char) := [('\\', '\\'), ('\'', '\'')]

/-- The text with its escapes resolved; a backslash before any other character is itself. -/
def unescape (escapes : List (Char × Char)) : Text → Text
  | '\\' :: c :: rest =>
    match escapes.lookup c with
    | some meant => meant :: unescape escapes rest
    | none => '\\' :: unescape escapes (c :: rest)
  | c :: rest => c :: unescape escapes rest
  | [] => []

/-- The text before a comment: a number sign begins one only after a blank. -/
def beforeComment : Text → Text
  | [] => []
  | c :: rest =>
    if Text.isBlank c && (rest.dropWhile Text.isBlank).head? == some '#' then []
    else c :: beforeComment rest

/-- The value of an assignment, given what follows the equal sign. -/
def readValue (text : Text) : Reading Text :=
  let quoted (quote : Char) (escapes : List (Char × Char)) (rest : Text) : Reading Text :=
    match toQuote? quote rest with
    | some (body, after) => .ok (unescape escapes body, after)
    | none => .error (quote :: rest)
  match skipGap text with
  | '\'' :: rest => quoted '\'' singleEscapes rest
  | '"' :: rest => quoted '"' doubleEscapes rest
  | _ => .ok (Text.trim (beforeComment (text.takeWhile (· != '\n'))), skipLine text)

/-- The text after the line, of which nothing but a comment may be left. -/
def readEnd (text : Text) : Reading Unit :=
  let left := skipGap text
  let left := if left.head? = some '#' then skipLine left else left
  match left with
  | [] => .ok ((), [])
  | '\n' :: rest => .ok ((), rest)
  | _ => .error left

/-- The value that an equal sign announces, if there is one. -/
def readAssigned (text : Text) : Reading (Option Text) :=
  match text with
  | '=' :: rest => (readValue rest).map fun (value, after) => (some value, after)
  | _ => .ok (none, text)

/-- One assignment or comment. -/
def readLine (text : Text) : Except Text (Option (Text × Option Text) × Text) := do
  let (name, text) ← readName (skipExport text)
  let (value, text) ← readAssigned (skipGap text)
  let (_, text) ← readEnd text
  return (name.map fun name => (name, value), text)

/-- The assignments of a text whose lines end in line feeds. -/
def assignments (text : Text) : Variables :=
  let start := text.dropWhile Text.isBlank
  if start.isEmpty then []
  else
    let (found, rest) := match readLine start with
      | .ok (found, rest) => (found, rest)
      | .error stuck => (none, (skipLine stuck).drop 1)
    if rest.length < text.length then found.toList ++ assignments rest else found.toList
  termination_by text.length

/-- A reference at the start of a text, given what follows the dollar sign and the brace: the
name, what stands in when the name is unknown, and how many characters the reference takes. -/
def reference? (text : Text) : Option (Text × Text × Nat) :=
  let name := text.takeWhile fun c => c != '\x7d' && c != ':'
  match text.drop name.length with
  | '\x7d' :: _ => some (name, [], name.length + 1)
  | ':' :: '-' :: rest =>
    let fallback := rest.takeWhile (· != '\x7d')
    if fallback.length < rest.length then some (name, fallback, name.length + fallback.length + 3)
    else none
  | _ => none

/-- The text with its references exchanged for values. The next `skip` characters belong to a
reference that has been. -/
def expandFrom (known : Variables) : (skip : Nat) → Text → Text
  | _, [] => []
  | skip + 1, _ :: rest => expandFrom known skip rest
  | 0, c :: rest =>
    match if c = '$' ∧ rest.head? = some '\x7b' then reference? (rest.drop 1) else none with
    | none => c :: expandFrom known 0 rest
    | some (name, fallback, length) =>
      ((known.find? name).getD (some fallback)).getD [] ++ expandFrom known (length + 1) rest

/-- The variables that assignments leave, with the references in their values resolved. -/
def resolve (surroundings : Variables) (assigned : Variables) : Variables :=
  assigned.foldl (fun known (name, value) =>
    known.assign name (value.map (expandFrom (surroundings ++ known) 0))) []

/-- The text without a byte order mark at its start. -/
def dropMark (text : Text) : Text := if text.head? = some '\ufeff' then text.drop 1 else text

/-- The variables that a file assigns. -/
def read (surroundings : Variables) (text : Text) : Variables :=
  resolve surroundings (assignments (dropMark text).unifyLineEndings)

end VariableFile

end DocWeave
