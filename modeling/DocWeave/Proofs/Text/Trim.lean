import DocWeave.Proofs.Text.Within

/-! # Blanks around a text

Trimming drops the blanks around a text, and what is left neither begins nor ends with one. So blanks
that are put around a text make no difference to what is left of it.
-/

namespace DocWeave.Text

/-- A text with blanks around it. -/
inductive Padded (text : Text) : Text → Prop where
  | intro {before after : Text} (blank : ∀ c ∈ before ++ after, isBlank c = true) :
      Padded text (before ++ text ++ after)

variable {text blanks padded : Text}

theorem trimLeft_append_of_blank (blank : ∀ c ∈ blanks, isBlank c = true) (after : Text) :
    trimLeft (blanks ++ after) = trimLeft after :=
  List.dropWhile_append_of_pos blank

theorem trimLeft_cons_of_solid {c : Char} (solid : isBlank c = false) (after : Text) :
    trimLeft (c :: after) = c :: after := by
  simp [trimLeft, solid]

theorem trimRight_append_of_blank (blank : ∀ c ∈ blanks, isBlank c = true) (before : Text) :
    trimRight (before ++ blanks) = trimRight before := by
  rw [trimRight, List.reverse_append, List.dropWhile_append_of_pos (by simpa using blank), trimRight]

theorem trimLeft_of_blank (blank : ∀ c ∈ blanks, isBlank c = true) : trimLeft blanks = [] := by
  simpa [trimLeft] using trimLeft_append_of_blank blank []

theorem trim_of_blank (blank : ∀ c ∈ blanks, isBlank c = true) : trim blanks = [] := by
  rw [trim, trimLeft_of_blank blank]
  rfl

theorem not_mem_of_blank {c : Char} (solid : isBlank c = false)
    (blank : ∀ d ∈ blanks, isBlank d = true) : c ∉ blanks := by
  intro mem
  rw [blank c mem] at solid
  cases solid

theorem padded_of_blank (blank : ∀ c ∈ blanks, isBlank c = true) : Padded text (blanks ++ text) := by
  have pads : Padded text (blanks ++ text ++ []) := .intro (by simpa using blank)
  rwa [List.append_nil] at pads

/-- Blanks around a text are trimmed with those of the text. -/
theorem Padded.trim_eq (pads : Padded text padded) : trim padded = trim text := by
  obtain @⟨before, after, blank⟩ := pads
  rw [List.forall_mem_append] at blank
  rw [trim, List.append_assoc, trimLeft_append_of_blank blank.1, trimLeft, List.dropWhile_append]
  split
  · rename_i nothing
    have left : trimLeft text = [] := List.isEmpty_iff.1 nothing
    rw [show after.dropWhile isBlank = [] from trimLeft_of_blank blank.2, trim, left]
  · exact trimRight_append_of_blank blank.2 _

/-- Blanks around a text hold no other character. -/
theorem Padded.count_eq {c : Char} (pads : Padded text padded) (solid : isBlank c = false) :
    padded.count c = text.count c := by
  obtain @⟨before, after, blank⟩ := pads
  rw [List.forall_mem_append] at blank
  rw [List.count_append, List.count_append, List.count_eq_zero.2 (not_mem_of_blank solid blank.1),
    List.count_eq_zero.2 (not_mem_of_blank solid blank.2), Nat.zero_add, Nat.add_zero]

/-- A text that neither begins nor ends with a blank is left as it is. -/
theorem trim_of_solid {c d : Char} (first : text.head? = some c) (last : text.getLast? = some d)
    (opens : isBlank c = false) (closes : isBlank d = false) : trim text = text := by
  obtain ⟨rest, rfl⟩ := List.head?_eq_some_iff.1 first
  obtain ⟨front, shape⟩ := List.getLast?_eq_some_iff.1 last
  rw [trim, trimLeft_cons_of_solid opens, shape, trimRight, List.reverse_append, List.reverse_singleton,
    List.singleton_append, List.dropWhile_cons_of_neg (by simp [closes]), List.reverse_cons,
    List.reverse_reverse]

/-- A trimmed text does not begin with a blank. -/
theorem solid_of_trim_eq {c : Char} {rest : Text} (trimmed : trim (c :: rest) = c :: rest) :
    isBlank c = false := by
  by_contra blank
  have shorter := (isInfix_trim rest).length_le
  rw [trim, trimLeft, List.dropWhile_cons_of_pos (by simpa using blank)] at trimmed
  have same := congrArg List.length trimmed
  rw [List.length_cons] at same
  exact absurd (same ▸ shorter) (Nat.not_succ_le_self _)

end DocWeave.Text
