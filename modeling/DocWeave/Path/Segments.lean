import DocWeave.Path.Basic

/-! # Segments of path texts

Output paths are shaped as texts, before anyone knows where they lead. A segment is what stands
between separators, and both slashes separate. The results are written with forward slashes and
keep a leading one.
-/

namespace DocWeave.Segments

/-- Whether a character separates segments. -/
def isSeparator (c : Char) : Bool := c == '/' || c == '\\'

/-- The segments of a path text, without the empty ones. -/
def ofText (path : Text) : List Text := (path.splitWhere isSeparator).filter fun s => !s.isEmpty

/-- Whether a path text begins with a separator. -/
def isRooted (path : Text) : Bool := path.head?.any isSeparator

/-- Segments written as a path text, after a slash if `rooted`. -/
def toText (rooted : Bool) (segments : List Text) : Text :=
  (if rooted then "/" else "") ++ Text.join "/" segments

/-- The path text without its first `count` segments; empty when it has no more than those. -/
def dropLeading (count : Nat) (path : Text) : Text :=
  if (ofText path).length ≤ count then []
  else toText (isRooted path) ((ofText path).drop count)

/-- The path text with only its last `count` segments; `none` when it has no segment at all. -/
def keepTrailing (count : Nat) (path : Text) : Option Text :=
  let segments := ofText path
  match segments.drop (segments.length - count) with
  | [] => none
  | kept => some (toText (isRooted path) kept)

/-- A count of segments to drop; a negative one says how many to keep at the end. -/
def drop (count : Int) (path : Text) : Option Text :=
  match count with
  | .ofNat n => some (dropLeading n path)
  | .negSucc n => keepTrailing (n + 1) path

/-- The segments before and after the first run equal to `wanted`. -/
def cutAt? (wanted : List Text) : List Text → Option (List Text × List Text)
  | [] => none
  | s :: rest =>
    if wanted.isPrefixOf (s :: rest) then some ([], (s :: rest).drop wanted.length)
    else (cutAt? wanted rest).map fun (before, after) => (s :: before, after)

/-- The path text with the first run of segments equal to those of `wanted` exchanged for those
of `replacement`; without such a run, the collapsed path text. -/
def replace (path wanted replacement : Text) : Text :=
  let run := ofText wanted
  match if run.isEmpty then none else cutAt? run (ofText path) with
  | none => (Path.ofText path).collapse.toText
  | some (before, after) => toText (isRooted path) (before ++ ofText replacement ++ after)

end DocWeave.Segments
