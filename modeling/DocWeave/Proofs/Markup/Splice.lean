import DocWeave.Proofs.Recording
import Mathlib.Data.List.Infix

/-! # Filtering as a recursion

The filter goes through one text from position to position. Without positions it says: what comes
before the first region stays, then comes what the filter leaves of the inside of the region, and
then what it leaves of the rest. This holds of every text, malformed ones too, with any sink and
with none; and since the inside and the rest are shorter than the text, it holds of no other
function.
-/

namespace DocWeave

open Text

namespace Visibility

variable {tag tool text : Text}

/-- What comes of a text when `seen` says what comes of the inside of its first region, if the tool
gets to see it, and then of the rest. A text whose first opening tag has no match is reported. -/
def spliced (tag tool : Text) (seen : Text → Recording Text) (text : Text) : Recording Text :=
  if Region.opener tag <:+: text then
    match Region.findFrom? tag text 0 with
    | none => Recording.report (unclosed tag) >>= fun _ => .done text
    | some region =>
      (if region.keeps tool then seen region.inner else .done []) >>= fun inside =>
      seen (text.drop region.stop) >>= fun after =>
      .done (text.take region.start ++ inside ++ after)
  else .done text

/-- Filtering from a position is filtering what is left of the text there. -/
theorem filterFromInto_eq_filterInto_drop (tag tool text : Text) (position : Nat) :
    filterFromInto tag tool text position = filterInto tag tool (text.drop position) := by
  rw [filterInto, filterFromInto_eq, filterFromInto_eq, filterFrom_eq_filter_drop, filter]

theorem filterInto_eq_spliced (tag tool text : Text) :
    filterInto tag tool text = spliced tag tool (filterInto tag tool) text := by
  rw [filterInto, filterFromInto, spliced]
  split
  · rename_i absent
    rw [findFrom?_zero] at absent
    rw [if_neg fun occurs => find?_ne_none_of_isInfix occurs absent, List.drop_zero]
  · rename_i first opens
    rw [findFrom?_zero] at opens
    have regions := Region.findFrom?_first opens
    rw [if_pos (isInfix_of_find? opens)]
    split
    · rename_i unmatched
      rw [regions.symm.trans unmatched, List.drop_zero]
    · rename_i region matched
      rw [regions.symm.trans matched, filterFromInto_eq_filterInto_drop tag tool text region.stop]
      rfl

/-- What comes of a text is decided by what comes of shorter ones. -/
theorem spliced_congr {seen other : Text → Recording Text}
    (same : ∀ shorter : Text, shorter.length < text.length → seen shorter = other shorter) :
    spliced tag tool seen text = spliced tag tool other text := by
  unfold spliced
  cases found : Region.findFrom? tag text 0 with
  | none => rfl
  | some region =>
    obtain ⟨-, ordered, within, inner⟩ := Region.findFrom?_bounds found
    have rest : (text.drop region.stop).length < text.length := by
      rw [List.length_drop]
      omega
    simp only [same _ inner, same _ rest]

theorem eq_filterInto_of_spliced {seen : Text → Recording Text}
    (splices : ∀ text, seen text = spliced tag tool seen text) (text : Text) :
    seen text = filterInto tag tool text := by
  induction size : text.length using Nat.strong_induction_on generalizing text with
  | _ size ih =>
    rw [splices, filterInto_eq_spliced]
    exact spliced_congr fun shorter less => ih _ (size ▸ less) shorter rfl

/-- Whatever the text and the sink, filtering leaves a text without opening tags alone, reports one
whose first opening tag has no match and leaves it alone too, and otherwise puts together what comes
before the first region, what it leaves of the inside if the tool gets to see it, and what it leaves
of the rest. No other function does so. -/
theorem filterInto_splices (tag tool : Text) :
    (∀ text, filterInto tag tool text = spliced tag tool (filterInto tag tool) text) ∧
    ∀ seen, (∀ text, seen text = spliced tag tool seen text) → seen = filterInto tag tool :=
  ⟨filterInto_eq_spliced tag tool, fun _ splices => funext (eq_filterInto_of_spliced splices)⟩

end Visibility

end DocWeave
