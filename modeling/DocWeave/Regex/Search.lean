import DocWeave.Regex.Basic

/-! # Searching

An expression is tried at every place of a text, from the first on, and the first success counts.
Trying carries on what is to be done afterwards, so that a later failure leads back to the latest
choice that has another way. A repetition stops trying once a round has taken nothing, which is
what bounds it.
-/

namespace DocWeave.Regex

/-- A place in a text, with what has been found out on the way there. -/
structure Cursor where
  /-- The text before, the nearest character first. -/
  before : Text
  after : Text
  /-- The texts of groups, the latest first. -/
  groups : List (Nat × Text)
  deriving DecidableEq, Repr

namespace Cursor

/-- The whole text that a cursor is in. -/
def text (cursor : Cursor) : Text := cursor.before.reverse ++ cursor.after

/-- The cursor after the next character, if that passes a test. -/
def step? (cursor : Cursor) (accepts : Char → Bool) : Option Cursor :=
  match cursor.after with
  | [] => none
  | c :: rest =>
    if accepts c then some { cursor with before := c :: cursor.before, after := rest } else none

/-- The cursor after a text, if that comes next. -/
def skip? (cursor : Cursor) (agrees : Char → Char → Bool) : Text → Option Cursor
  | [] => some cursor
  | c :: rest => (cursor.step? (agrees c)).bind fun next => next.skip? agrees rest

/-- The cursor some characters back, if there are so many. -/
def back? (cursor : Cursor) (count : Nat) : Option Cursor :=
  if cursor.before.length < count then none
  else some { cursor with
    before := cursor.before.drop count
    after := (cursor.before.take count).reverse ++ cursor.after }

/-- What lies between a cursor and a later one. -/
def upTo (cursor stop : Cursor) : Text :=
  cursor.after.take (cursor.after.length - stop.after.length)

theorem text_step? {cursor next : Cursor} {accepts : Char → Bool}
    (stepped : cursor.step? accepts = some next) : next.text = cursor.text := by
  unfold step? at stepped
  split at stepped
  · simp at stepped
  · rename_i c rest after
    split at stepped
    · cases stepped
      simp [text, after]
    · simp at stepped

/-- Skipping a text stays within the whole text. -/
theorem text_skip? {agrees : Char → Char → Bool} {expected : Text} {cursor next : Cursor}
    (skipped : cursor.skip? agrees expected = some next) : next.text = cursor.text := by
  induction expected generalizing cursor with
  | nil => cases skipped; rfl
  | cons c rest ih =>
    obtain ⟨between, stepped, later⟩ := Option.bind_eq_some_iff.1 skipped
    rw [ih later, text_step? stepped]

/-- Going back stays within the whole text. -/
theorem text_back? {cursor start : Cursor} {count : Nat}
    (back : cursor.back? count = some start) : start.text = cursor.text := by
  unfold back? at back
  split at back
  · simp at back
  · cases back
    simp only [text]
    rw [← List.append_assoc, ← List.reverse_append, List.take_append_drop]

end Cursor

/-- Whether a cursor is at a place. -/
def Place.holds (cursor : Cursor) : Place → Bool
  | textStart => cursor.before.isEmpty
  | lineStart => cursor.before.head?.all (· == '\n')
  | textEnd => cursor.after.isEmpty
  | lastLineEnd => cursor.after.isEmpty || cursor.after == ['\n']
  | lineEnd => cursor.after.head?.all (· == '\n')
  | boundary isAscii =>
    cursor.before.head?.any (CharKind.word.contains isAscii ·) !=
      cursor.after.head?.any (CharKind.word.contains isAscii ·)
  | noBoundary isAscii =>
    !(cursor.before.isEmpty && cursor.after.isEmpty) &&
      cursor.before.head?.any (CharKind.word.contains isAscii ·) ==
        cursor.after.head?.any (CharKind.word.contains isAscii ·)

/-- What is still to be done after a part of an expression. -/
abbrev Next := Cursor → Option Cursor

/-- A part of an expression, which holds if what is to be done next can be done. -/
abbrev Part := Next → Cursor → Option Cursor

/-- The first of two ways that leads to an end. -/
def orElse (first : Option Cursor) (second : Unit → Option Cursor) : Option Cursor :=
  match first with
  | some stop => some stop
  | none => second ()

/-- Rounds of a body; `count` have been made, and the last that was free to be left out began with
`last` characters to go. The fuel bounds the rounds to come. -/
def rounds (least : Nat) (most : Option Nat) (lazily : Bool) (body : Part) (next : Next) :
    (fuel count : Nat) → (last : Option Nat) → Next
  | 0, _, _ => fun _ => none
  | fuel + 1, count, last => fun cursor =>
    if count < least then body (rounds least most lazily body next fuel (count + 1) last) cursor
    else
      let size := cursor.after.length
      let again (_ : Unit) : Option Cursor :=
        if most.all (count < ·) && last != some size then
          body (rounds least most lazily body next fuel (count + 1) (some size)) cursor
        else none
      if lazily then orElse (next cursor) again else orElse (again ()) fun _ => next cursor

/-- The first way in which a part holds, and no other. -/
def commit (part : Part) : Part := fun next cursor => (part some cursor).bind next

/-- Rounds of a body, as many as there may be. -/
def repeated (least : Nat) (most : Option Nat) (order : RepeatOrder) (body : Part) : Part :=
  let free (lazily : Bool) (body : Part) : Part := fun next cursor =>
    rounds least most lazily body next (least + cursor.after.length + 2) 0 none cursor
  match order with
  | .mostFirst => free false body
  | .fewestFirst => free true body
  | .mostOnly => commit (free false (commit body))

/-- Looks whether a part holds from a cursor on; the groups that it finds stay. -/
def peek (wanted : Bool) (part : Part) (start : Option Cursor) : Part := fun next cursor =>
  match start.bind (part some), wanted with
  | some stop, true => next { cursor with groups := stop.groups }
  | none, false => next cursor
  | _, _ => none

/-- Tries an expression at a cursor, and then what is to be done next. -/
def run : Regex → Part
  | empty => fun next cursor => next cursor
  | char test => fun next cursor => (cursor.step? test.accepts).bind next
  | place p => fun next cursor => if p.holds cursor then next cursor else none
  | sequence first second => fun next => first.run (second.run next)
  | choice first second => fun next cursor =>
    orElse (first.run next cursor) fun _ => second.run next cursor
  | times least most order body => repeated least most order body.run
  | group number body => fun next cursor =>
    body.run (fun stop => next { stop with groups := (number, cursor.upTo stop) :: stop.groups })
      cursor
  | again number mode => fun next cursor => do
    let text ← cursor.groups.lookup number
    let folded (c : Char) : Nat := if mode.ignoresCase then mode.folded c.toNat else c.toNat
    next (← cursor.skip? (fun c d => folded c == folded d) text)
  | atomic body => commit body.run
  | ahead wanted body => fun next cursor => peek wanted body.run (some cursor) next cursor
  | behind wanted count body => fun next cursor =>
    peek wanted body.run (cursor.back? count) next cursor
  | whether number yes no => fun next cursor =>
    if (cursor.groups.lookup number).isSome then yes.run next cursor else no.run next cursor

/-- Searches a text, given what comes before it. -/
def searchFrom (expression : Regex) (before : Text) : Text → Option Cursor
  | [] => expression.run some ⟨before, [], []⟩
  | c :: rest =>
    orElse (expression.run some ⟨before, c :: rest, []⟩) fun _ =>
      searchFrom expression (c :: before) rest

/-- The end of the first place in a text where an expression holds. -/
def search (expression : Regex) (text : Text) : Option Cursor := searchFrom expression [] text

end DocWeave.Regex
