import DocWeave.Text.Blank
import Mathlib.Data.List.Infix

/-! # What is cut out of a text

A cut, a trimmed text and a piece between separators stand in the text that they come from, one
character behind the other.
-/

namespace DocWeave.Text

variable {text piece : Text}

theorem isInfix_slice (text : Text) (start stop : Nat) : text.slice start stop <:+: text :=
  (List.drop_suffix ..).isInfix.trans (List.take_prefix ..).isInfix

theorem isSuffix_trimLeft (text : Text) : trimLeft text <:+ text := List.dropWhile_suffix _

theorem isPrefix_trimRight (text : Text) : trimRight text <+: text := by
  rw [trimRight, ← List.reverse_suffix, List.reverse_reverse]
  exact List.dropWhile_suffix _

theorem isInfix_trim (text : Text) : trim text <:+: text :=
  (isPrefix_trimRight _).isInfix.trans (isSuffix_trimLeft text).isInfix

/-- The first piece is what comes before the first separator. -/
theorem isPrefix_of_splitWhere {isSeparator : Char → Bool} {pieces : List Text}
    (cut : splitWhere isSeparator text = piece :: pieces) : piece <+: text := by
  induction text generalizing piece pieces with
  | nil =>
    cases cut
    exact List.prefix_rfl
  | cons c rest ih =>
    unfold splitWhere at cut
    split at cut
    · cases cut
      exact List.nil_prefix
    · split at cut
      · rename_i none
        exact absurd none (splitWhere_ne_nil isSeparator rest)
      · rename_i first more further
        cases cut
        exact List.cons_prefix_cons.2 ⟨rfl, ih further⟩

theorem isInfix_of_mem_splitWhere {isSeparator : Char → Bool}
    (mem : piece ∈ splitWhere isSeparator text) : piece <:+: text := by
  induction text generalizing piece with
  | nil =>
    rw [splitWhere, List.mem_singleton] at mem
    rw [mem]
  | cons c rest ih =>
    unfold splitWhere at mem
    split at mem
    · rcases List.mem_cons.1 mem with rfl | behind
      · exact List.nil_infix
      · exact (ih behind).trans (List.infix_cons List.infix_rfl)
    · split at mem
      · rename_i none
        exact absurd none (splitWhere_ne_nil isSeparator rest)
      · rename_i first more further
        rcases List.mem_cons.1 mem with rfl | behind
        · exact (List.cons_prefix_cons.2 ⟨rfl, isPrefix_of_splitWhere further⟩).isInfix
        · exact (ih (further ▸ List.mem_cons_of_mem first behind)).trans
            (List.infix_cons List.infix_rfl)

/-- A trimmed piece stands in the text that was cut. -/
theorem isInfix_of_mem_trimmedPieces {separator : Char}
    (mem : piece ∈ trimmedPieces separator text) : piece <:+: text := by
  obtain ⟨cut, listed, rfl⟩ := List.mem_map.1 (List.mem_filter.1 mem).1
  exact (isInfix_trim cut).trans (isInfix_of_mem_splitWhere listed)

end DocWeave.Text
