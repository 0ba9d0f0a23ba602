import DocWeave.Markup.Region
import DocWeave.Proofs.Text.Search

/-! # The level of a search

A search for a closing tag goes through a text with nothing but a level. It passes over what begins
no marker, and since no marker begins inside another one, it can as well be read character by
character: each one changes the level by the markers that begin with it.
-/

namespace DocWeave

namespace Text

/-- How many occurrences of `needle` begin at `start` or later and before `stop`. -/
def occurrences (needle text : Text) (start stop : Nat) : Nat :=
  (List.range' start (stop - start)).countP fun i => needle.isPrefixOf (text.drop i)

/-- Occurrences behind a place are occurrences in what is left of the text there. -/
theorem occurrences_eq_drop (needle text : Text) (start stop : Nat) :
    occurrences needle text start stop = occurrences needle (text.drop start) 0 (stop - start) := by
  have shifted : List.range' start (stop - start) =
      (List.range' 0 (stop - start)).map (start + ·) := by
    rw [List.map_add_range', Nat.add_zero]
  simp only [occurrences, shifted, List.countP_map, Function.comp_def, List.drop_drop, Nat.sub_zero]

/-- The first place counts by itself, and the others count in the rest of the text. -/
theorem occurrences_cons (needle : Text) (c : Char) (rest : Text) (stop : Nat) :
    occurrences needle (c :: rest) 0 (stop + 1) =
      occurrences needle rest 0 stop + if needle <+: c :: rest then 1 else 0 := by
  have shifted : List.range' (0 + 1) stop = (List.range' 0 stop).map (1 + ·) := by
    rw [List.map_add_range']
  simp only [occurrences, Nat.sub_zero, List.range'_succ, shifted, List.countP_cons,
    List.countP_map, Function.comp_def, Nat.add_comm 1, List.drop_succ_cons, List.drop_zero,
    List.isPrefixOf_iff_prefix]

end Text

namespace Region

open Text

variable {tag text after opening closing rest : Text} {depth : Int} {c : Char}

theorem closeOffset?_skip (opener closer text after : Text) :
    closeOffset? opener closer text.length depth (text ++ after) =
      (closeOffset? opener closer 0 depth after).map (· + text.length) := by
  induction text with
  | nil => simp
  | cons c text ih =>
    simp only [List.length_cons, List.cons_append, closeOffset?, ih, Option.map_map]
    rfl

/-- Text in which no marker begins only moves the place where the search lands. -/
theorem closeOffset?_append_of_skips {opener closer : Text} (noOpener : Skips opener text after)
    (noCloser : Skips closer text after) :
    closeOffset? opener closer 0 depth (text ++ after) =
      (closeOffset? opener closer 0 depth after).map (· + text.length) := by
  induction text with
  | nil => simp
  | cons c text ih =>
    have notCloser : closer.isPrefixOf (c :: (text ++ after)) = false := by
      simpa only [← Bool.not_eq_true, List.isPrefixOf_iff_prefix] using noCloser.not_here
    have notOpener : opener.isPrefixOf (c :: (text ++ after)) = false := by
      simpa only [← Bool.not_eq_true, List.isPrefixOf_iff_prefix] using noOpener.not_here
    simp only [List.cons_append, closeOffset?, notCloser, notOpener, Bool.false_eq_true, ↓reduceIte,
      ih noOpener.tail noCloser.tail, Option.map_map, List.length_cons]
    rfl

/-! ## Character by character -/

/-- What is behind the first character of a marker can be searched like any other text. -/
theorem closeOffset?_behind {needle : Text} (opens : IsMarker opening) (closes : IsMarker closing)
    (marker : IsMarker needle) (stands : needle <+: c :: rest) :
    closeOffset? opening closing (needle.length - 1) depth rest =
      closeOffset? opening closing 0 depth rest := by
  obtain ⟨name, rfl, single⟩ := marker
  obtain ⟨-, after, rfl⟩ := List.cons_prefix_cons.mp stands
  rw [List.length_cons, Nat.add_sub_cancel, closeOffset?_skip,
    closeOffset?_append_of_skips (opens.skips single) (closes.skips single)]

/-- By how much the level changes at the start of a text. -/
def turn (opening closing text : Text) : Int :=
  (if opening <+: text then 1 else 0) - if closing <+: text then 1 else 0

/-- One character after another, the search changes its level by what begins there. -/
theorem closeOffset?_cons (opens : IsMarker opening) (closes : IsMarker closing)
    (apart : ¬ (opening <+: c :: rest ∧ closing <+: c :: rest)) :
    closeOffset? opening closing 0 depth (c :: rest) =
      if closing <+: c :: rest ∧ depth = 1 then some 0
      else (closeOffset? opening closing 0 (depth + turn opening closing (c :: rest)) rest).map
        (· + 1) := by
  rw [closeOffset?]
  by_cases closed : closing <+: c :: rest
  · have unopened : ¬ opening <+: c :: rest := fun opened => apart ⟨opened, closed⟩
    rw [if_pos (List.isPrefixOf_iff_prefix.2 closed),
      closeOffset?_behind opens closes closes closed]
    simp only [turn, closed, unopened, true_and, if_true, if_false, Int.zero_sub,
      ← Int.sub_eq_add_neg]
  · rw [if_neg (by simpa using closed)]
    by_cases opened : opening <+: c :: rest
    · rw [if_pos (List.isPrefixOf_iff_prefix.2 opened),
        closeOffset?_behind opens closes opens opened]
      simp [turn, closed, opened]
    · rw [if_neg (by simpa using opened)]
      simp [turn, closed, opened]

/-- How many opening markers begin in a text. -/
def openings (tag text : Text) : Nat := occurrences (opener tag) text 0 text.length

theorem openings_cons (tag : Text) (c : Char) (rest : Text) :
    openings tag (c :: rest) = openings tag rest + if opener tag <+: c :: rest then 1 else 0 :=
  occurrences_cons ..

theorem openings_eq_zero_iff : openings tag text = 0 ↔ ¬ opener tag <:+: text := by
  induction text with
  | nil => simp [openings, occurrences, opener]
  | cons c text ih =>
    rw [openings_cons, List.infix_cons_iff, not_or, ← ih]
    split <;> simp_all

end Region

end DocWeave
