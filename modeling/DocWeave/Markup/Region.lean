import DocWeave.Ascending
import DocWeave.Markup.Attribute

/-! # Visibility regions

A region is what stands between an opening tag and the closing tag that matches it. The match is
found by counting: every opening marker goes one level down, every closing tag one level up, and
the closing tag that comes back to the level of the start is the match. Nothing else in the text
is looked at.
-/

namespace DocWeave

/-- A region of a text and whom it is meant for. -/
structure Region where
  /-- The tools it is meant for, ascending; none means every tool. -/
  shownTo : List Text
  /-- The tools it is hidden from, ascending. -/
  hiddenFrom : List Text
  /-- The text between the opening tag and its match. -/
  inner : Text
  /-- Where the opening tag starts. -/
  start : Nat
  /-- Where the text after the closing tag starts. -/
  stop : Nat
  deriving DecidableEq, Repr

namespace Region

/-- Whether a tool gets to see the region; hiding wins over showing. -/
def keeps (region : Region) (tool : Text) : Bool :=
  (region.shownTo.isEmpty || region.shownTo.contains tool) && !region.hiddenFrom.contains tool

/-- What every opening tag starts with. -/
def opener (tag : Text) : Text := '<' :: tag

/-- The closing tag. -/
def closer (tag : Text) : Text := "</" ++ tag ++ ">"

/-- How far into the text the closing tag lies that brings `depth` back to nothing. The next
`skip` characters belong to a marker that has been counted. -/
def closeOffset? (opener closer : Text) : (skip : Nat) → (depth : Int) → Text → Option Nat
  | _, _, [] => none
  | skip + 1, depth, _ :: rest => (closeOffset? opener closer skip depth rest).map (· + 1)
  | 0, depth, c :: rest =>
    if closer.isPrefixOf (c :: rest) then
      if depth = 1 then some 0
      else (closeOffset? opener closer (closer.length - 1) (depth - 1) rest).map (· + 1)
    else if opener.isPrefixOf (c :: rest) then
      (closeOffset? opener closer (opener.length - 1) (depth + 1) rest).map (· + 1)
    else (closeOffset? opener closer 0 depth rest).map (· + 1)

/-- The position of the closing tag that matches the opening tag at `start`. -/
def closeFrom? (tag text : Text) (start : Nat) : Option Nat :=
  (closeOffset? (opener tag) (closer tag) 0 0 (text.drop start)).map (· + start)

/-- The region of the first opening tag at `start` or later; `none` if there is no opening tag, if
it has no matching close, or if it does not end before its match. -/
def findFrom? (tag text : Text) (start : Nat) : Option Region := do
  let first ← Text.findFrom? (opener tag) text start
  let last ← closeFrom? tag text first
  let bracket ← Text.findFrom? ">" text first
  if last < bracket then none
  else
    let opening := text.slice first (bracket + 1)
    some {
      shownTo := Ascending.ofList (Markup.attributeItems "include" opening)
      hiddenFrom := Ascending.ofList (Markup.attributeItems "exclude" opening)
      inner := text.slice (bracket + 1) last
      start := first
      stop := last + (closer tag).length }

end Region

namespace Region

/-- A region lies at or after the place the search starts from and is shorter inside than the
text. -/
theorem findFrom?_bounds {tag text : Text} {start : Nat} {region : Region}
    (found : findFrom? tag text start = some region) :
    start ≤ region.start ∧ region.start < region.stop ∧ region.start < text.length ∧
      region.inner.length < text.length := by
  simp only [findFrom?, bind, Option.bind_eq_some_iff] at found
  obtain ⟨first, foundFirst, last, foundLast, bracket, foundBracket, found⟩ := found
  split at found
  · simp at found
  · cases found
    have ⟨fromStart, inText⟩ := Text.le_of_findFrom? foundFirst
    have ⟨_, bracketInText⟩ := Text.le_of_findFrom? foundBracket
    obtain ⟨offset, _, rfl⟩ := Option.map_eq_some_iff.1 foundLast
    simp only [opener, List.length_cons] at inText
    have oneLong : (">" : Text).length = 1 := rfl
    refine ⟨fromStart, ?_, Nat.lt_of_lt_of_le (Nat.lt_succ_of_le (Nat.le_add_right ..)) inText, ?_⟩
    · show first < offset + first + (closer tag).length
      simp only [closer, List.length_append]
      have : ("</" : Text).length = 2 := rfl
      omega
    · simp only [Text.slice, List.length_drop, List.length_take]
      omega

end Region

end DocWeave
