import DocWeave.Glob.Ignore
import DocWeave.Proofs.Glob.Taken
import DocWeave.Proofs.Text.Search

/-! # Ignore patterns that end in a star

A star at the end of an ignore pattern belongs to no bracket expression, so it stands for any text. A
text that such a pattern matches may therefore go on in any way, and where such patterns cover a
directory they cover all that lies below it.
-/

namespace DocWeave.Ignore

variable {pattern text path : Text} {patterns : List Text}

/-- A pattern that ends in a star. -/
def IsStarred (pattern : Text) : Prop := pattern.getLast? = some '*'

instance (pattern : Text) : Decidable (IsStarred pattern) :=
  inferInstanceAs (Decidable (_ = _))

theorem IsStarred.length_pos (starred : IsStarred pattern) : 0 < pattern.length := by
  cases pattern with
  | nil => cases starred
  | cons c rest => exact Nat.succ_pos _

theorem IsStarred.of_append (before : Text) (starred : IsStarred (before ++ text))
    (some' : text ≠ []) : IsStarred text := by
  rwa [IsStarred, List.getLast?_append, List.getLast?_eq_some_getLast some', Option.some_or,
    ← List.getLast?_eq_some_getLast some'] at starred

/-- What comes before the star at the end is followed by something. -/
theorem IsStarred.of_cons {c : Char} (starred : IsStarred (c :: text)) (other : c ≠ '*') :
    IsStarred text := by
  cases text with
  | nil => exact absurd (Option.some.inj starred) other
  | cons d rest => exact of_append [c] starred (List.cons_ne_nil d rest)

/-- A bracket expression ends with a closing bracket. -/
theorem exists_of_bracketBody? {body : Text} (found : bracketBody? text = some body) :
    ∃ after, text = body ++ ']' :: after := by
  obtain ⟨close, landed, rfl⟩ := Option.map_eq_some_iff.1 found
  obtain ⟨held, before, after, rfl, -, -, rfl⟩ := Text.exists_of_findFrom?_singleton (c := ']') landed
  exact ⟨after, by rw [List.take_left' rfl]⟩

/-- A star at the end is a piece of its own. -/
theorem exists_pieces_eq {skip : Nat} (starred : IsStarred pattern) (within : skip < pattern.length) :
    ∃ before, pieces skip pattern = before ++ [.many] := by
  have onward {piece : Piece} {others : List Piece} (ends : ∃ before, others = before ++ [.many]) :
      ∃ before, piece :: others = before ++ [.many] := by
    obtain ⟨before, rfl⟩ := ends
    exact ⟨piece :: before, rfl⟩
  fun_induction pieces skip pattern with
  | case1 => cases starred
  | case2 skip c rest ih =>
    have inside : skip < rest.length := Nat.lt_of_succ_lt_succ within
    have nonempty : rest ≠ [] := List.ne_nil_of_length_pos (Nat.zero_lt_of_lt inside)
    exact ih (.of_append [c] starred nonempty) inside
  | case3 rest ih =>
    cases rest with
    | nil => exact ⟨[], rfl⟩
    | cons d more =>
      exact onward (ih (.of_append ['*'] starred (List.cons_ne_nil d more)) (Nat.succ_pos _))
  | case4 rest ih =>
    have behind := starred.of_cons (by decide)
    exact onward (ih behind behind.length_pos)
  | case5 rest none ih =>
    have behind := starred.of_cons (by decide)
    exact onward (ih behind behind.length_pos)
  | case6 rest body found ih =>
    have behind := starred.of_cons (by decide)
    obtain ⟨after, rfl⟩ := exists_of_bracketBody? found
    have close := IsStarred.of_append body behind (List.cons_ne_nil _ after)
    have further := (close.of_cons (by decide)).length_pos
    exact onward (ih behind (by rw [List.length_append, List.length_cons]; omega))
  | case7 c rest star mark bracket ih =>
    have behind := starred.of_cons star
    exact onward (ih behind behind.length_pos)

/-! ## Going on -/

/-- A text that is accepted may go on in any way. -/
def GoesOn (accepted : Text → Bool) : Prop :=
  ∀ text more, accepted text = true → accepted (text ++ more) = true

/-- A piece lets the rest of a text go on where what comes next does. -/
theorem Piece.goesOn_andThen {next : Text → Bool} (goesOn : GoesOn next) (piece : Piece) :
    GoesOn (piece.andThen next) := by
  have one (taken : Char → Bool) : GoesOn (Glob.oneThen taken next) := by
    intro text more accepted
    obtain ⟨front, left, rfl, takes, matched⟩ := Glob.oneThen_iff.1 accepted
    exact Glob.oneThen_iff.2
      ⟨front, left ++ more, List.append_assoc .., takes, goesOn left more matched⟩
  have many (taken : Char → Bool) : GoesOn (Glob.manyThen taken next) := by
    intro text more accepted
    obtain ⟨front, left, rfl, takes, matched⟩ := Glob.manyThen_iff.1 accepted
    exact Glob.manyThen_iff.2
      ⟨front, left ++ more, List.append_assoc .., takes, goesOn left more matched⟩
  cases piece with
  | many => exact many _
  | _ => exact one _

theorem goesOn_matchesAll (before : List Piece) : GoesOn (matchesAll (before ++ [.many])) := by
  induction before with
  | nil =>
    intro text more _
    exact Glob.manyThen_iff.2 ⟨text ++ more, [], (List.append_nil _).symm, fun _ _ => rfl, rfl⟩
  | cons piece rest ih => exact piece.goesOn_andThen ih

/-- What a pattern that ends in a star matches may go on in any way. -/
theorem IsStarred.goesOn_accepts (starred : IsStarred pattern) : GoesOn (accepts pattern) := by
  obtain ⟨before, same⟩ := exists_pieces_eq starred starred.length_pos
  intro text more matched
  rw [accepts_eq_matchesAll, same] at matched ⊢
  exact goesOn_matchesAll before text more matched

/-- Where patterns end in stars, what lies below a covered directory is covered. -/
theorem goesOn_covers (starred : ∀ pattern ∈ patterns, IsStarred pattern) :
    GoesOn (covers patterns) := by
  intro path more covered
  obtain ⟨pattern, listed, tried⟩ := List.any_eq_true.1 covered
  have starred := starred pattern listed
  refine List.any_eq_true.2 ⟨pattern, listed, ?_⟩
  simp only [Bool.or_eq_true, Bool.and_eq_true] at tried ⊢
  rcases tried with (bare | slashed) | ⟨begins, stripped⟩
  · exact .inl (.inl (starred.goesOn_accepts path more bare))
  · exact .inl (.inr (starred.goesOn_accepts ('/' :: path) more slashed))
  · obtain ⟨rest, rfl⟩ := List.isPrefixOf_iff_prefix.1 begins
    have nonempty : rest ≠ [] := by
      rintro rfl
      cases starred
    exact .inr ⟨begins, (starred.of_append _ nonempty).goesOn_accepts path more stripped⟩

end DocWeave.Ignore
