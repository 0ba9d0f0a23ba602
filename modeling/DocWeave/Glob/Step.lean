import DocWeave.Text.Basic

/-! # Steps of matching

A pattern is matched piece by piece, and each piece asks whether the rest of the pattern accepts
what remains after the piece has taken its part. There are three ways to take a part: one
character, any number of characters, or any number of names each followed by a slash.

Asked from the front, the same question comes back many times. So each step has a row beside it,
which turns the answers of the rest for all suffixes of a text into the answers of the step for
all of them, in time linear in the text. The main statements are that the rows hold these answers.
-/

namespace DocWeave.Glob

/-- Whether `next` accepts what remains after one character that satisfies `taken`. -/
def oneThen (taken : Char → Bool) (next : Text → Bool) : Text → Bool
  | [] => false
  | c :: rest => taken c && next rest

/-- Whether `next` accepts what remains after some number of characters that satisfy `taken`. -/
def manyThen (taken : Char → Bool) (next : Text → Bool) : Text → Bool
  | [] => next []
  | c :: rest => next (c :: rest) || (taken c && manyThen taken next rest)

/-- Whether `next` accepts what remains after some number of names each followed by a slash;
`started` when a name has begun. -/
def directoriesThen (next : Text → Bool) (started : Bool) : Text → Bool
  | [] => !started && next []
  | c :: rest =>
    (!started && next (c :: rest)) ||
    (if c = '/' then started && directoriesThen next false rest
    else directoriesThen next true rest)

/-- The suffixes of a text, from the whole text to the empty one. -/
def suffixes : Text → List Text
  | [] => [[]]
  | c :: rest => (c :: rest) :: suffixes rest

/-- The answers of a question for all suffixes of a text. -/
def answers (question : Text → Bool) (text : Text) : List Bool := (suffixes text).map question

/-- The answer for the whole text is the first. -/
theorem headD_answers (question : Text → Bool) (text : Text) (fallback : Bool) :
    (answers question text).headD fallback = question text := by
  cases text <;> rfl

/-- The answers of `oneThen`, given those of what comes next. -/
def oneRow (taken : Char → Bool) : Text → List Bool → List Bool
  | [], _ => [false]
  | c :: rest, next => (taken c && (next.drop 1).headD false) :: oneRow taken rest (next.drop 1)

/-- The answers of `manyThen`, given those of what comes next. -/
def manyRow (taken : Char → Bool) : Text → List Bool → List Bool
  | [], next => [next.headD false]
  | c :: rest, next =>
    let later := manyRow taken rest (next.drop 1)
    (next.headD false || (taken c && later.headD false)) :: later

/-- The answers of `directoriesThen` before a name and within one, given those of what comes
next. -/
def directoriesRow : Text → List Bool → List (Bool × Bool)
  | [], next => [(next.headD false, false)]
  | c :: rest, next =>
    let later := directoriesRow rest (next.drop 1)
    let (before, within) := later.headD (false, false)
    (next.headD false || (c != '/' && within), if c = '/' then before else within) :: later

theorem oneRow_answers (taken : Char → Bool) (next : Text → Bool) (text : Text) :
    oneRow taken text (answers next text) = answers (oneThen taken next) text := by
  induction text with
  | nil => rfl
  | cons c rest ih =>
    have tail : (answers next (c :: rest)).drop 1 = answers next rest := rfl
    simp only [oneRow, tail, headD_answers, ih]
    rfl

theorem manyRow_answers (taken : Char → Bool) (next : Text → Bool) (text : Text) :
    manyRow taken text (answers next text) = answers (manyThen taken next) text := by
  induction text with
  | nil => rfl
  | cons c rest ih =>
    have tail : (answers next (c :: rest)).drop 1 = answers next rest := rfl
    simp only [manyRow, tail, headD_answers, ih]
    rfl

theorem directoriesRow_answers (next : Text → Bool) (text : Text) :
    directoriesRow text (answers next text) =
      (suffixes text).map fun s => (directoriesThen next false s, directoriesThen next true s) := by
  induction text with
  | nil => simp [directoriesRow, answers, suffixes, directoriesThen]
  | cons c rest ih =>
    have tail : (answers next (c :: rest)).drop 1 = answers next rest := rfl
    have first (f : Text → Bool × Bool) : ((suffixes rest).map f).headD (false, false) = f rest := by
      cases rest <;> rfl
    simp only [directoriesRow, tail, headD_answers, ih, first]
    by_cases slash : c = '/'
    · simp [suffixes, directoriesThen, slash]
    · have other : (c != '/') = true := bne_iff_ne.2 slash
      simp [suffixes, directoriesThen, slash, other]

/-- The first components are the answers of `directoriesThen` before a name. -/
theorem map_fst_directoriesRow (next : Text → Bool) (text : Text) :
    (directoriesRow text (answers next text)).map Prod.fst =
      answers (directoriesThen next false) text := by
  rw [directoriesRow_answers, List.map_map]
  rfl

end DocWeave.Glob
