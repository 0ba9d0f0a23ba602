import DocWeave.Proofs.Ascending
import DocWeave.Proofs.Markup.Visibility
import DocWeave.Proofs.Text.Within

/-! # The tools that a text names

Whom a region is meant for is read off its opening tag, and a region inside another is read off the
text between its tags. So every tool that decides what is kept stands in the filtered text, one
character behind the other, and tools that stand nowhere in it are all shown the same.
-/

namespace DocWeave

namespace Markup

variable {text value : Text}

theorem isInfix_of_quotedValue? {after : Text} (read : quotedValue? text = some (value, after)) :
    value <:+: text := by
  cases text with
  | nil => cases read
  | cons quote rest =>
    simp only [quotedValue?] at read
    split at read
    · cases read
    · split at read
      · cases read
        exact (List.takeWhile_prefix _).isInfix.trans (List.infix_cons List.infix_rfl)
      · cases read

theorem isInfix_of_assignment? {after : Text} (read : assignment? text = some (value, after)) :
    value <:+: text := by
  unfold assignment? at read
  split at read
  · rename_i rest trimmed
    have behind : '=' :: rest <:+ text := trimmed ▸ Text.isSuffix_trimLeft text
    exact (isInfix_of_quotedValue? read).trans ((Text.isSuffix_trimLeft rest).isInfix.trans
      ((List.suffix_cons '=' rest).trans behind).isInfix)
  · cases read

/-- The value of an attribute stands in the tag. -/
theorem isInfix_of_attributeValue? {name : Text} {before : Option Char}
    (read : attributeValue? name before text = some value) : value <:+: text := by
  induction text generalizing before with
  | nil => cases read
  | cons c rest ih =>
    unfold attributeValue? at read
    dsimp only at read
    split at read
    · rename_i found here
      cases read
      split at here
      · exact (isInfix_of_assignment? here).trans (List.drop_suffix ..).isInfix
      · cases here
    · exact (ih read).trans (List.infix_cons List.infix_rfl)

/-- Every item of an attribute stands in the tag. -/
theorem isInfix_of_mem_attributeItems {name tag item : Text}
    (mem : item ∈ attributeItems name tag) : item <:+: tag := by
  unfold attributeItems at mem
  split at mem
  · cases mem
  · rename_i value read
    exact (Text.isInfix_of_mem_trimmedPieces mem).trans (isInfix_of_attributeValue? read)

end Markup

namespace Region

variable {tag text : Text} {start : Nat} {region : Region}

/-- What a region holds and whom it names stands in the text. -/
theorem isInfix_of_findFrom? (found : findFrom? tag text start = some region) :
    region.inner <:+: text ∧ ∀ tool ∈ region.shownTo ++ region.hiddenFrom, tool <:+: text := by
  simp only [findFrom?, bind, Option.bind_eq_some_iff] at found
  obtain ⟨first, -, last, -, bracket, -, found⟩ := found
  split at found
  · cases found
  · cases found
    refine ⟨Text.isInfix_slice .., ?_⟩
    intro tool mem
    rcases List.mem_append.1 mem with shown | hidden
    · exact (Markup.isInfix_of_mem_attributeItems (Ascending.mem_of_mem_ofList shown)).trans
        (Text.isInfix_slice ..)
    · exact (Markup.isInfix_of_mem_attributeItems (Ascending.mem_of_mem_ofList hidden)).trans
        (Text.isInfix_slice ..)

/-- A tool that a region does not name sees it if it is meant for everyone. -/
theorem keeps_of_not_mem {tool : Text} (unnamed : tool ∉ region.shownTo ++ region.hiddenFrom) :
    region.keeps tool = region.shownTo.isEmpty := by
  rw [List.mem_append, not_or] at unnamed
  simp [keeps, unnamed.1, unnamed.2]

end Region

namespace Visibility

/-- Tools that stand nowhere in a text are shown the same of it, with the same reports. -/
theorem filterFrom_eq_of_unnamed {tag text a b : Text} (apartA : ¬ a <:+: text)
    (apartB : ¬ b <:+: text) (position : Nat) :
    filterFrom tag a text position = filterFrom tag b text position := by
  cases opens : Text.findFrom? (Region.opener tag) text position with
  | none => rw [filterFrom_of_none opens, filterFrom_of_none opens]
  | some first =>
    cases matched : Region.findFrom? tag text first with
    | none => rw [filterFrom_of_unclosed opens matched, filterFrom_of_unclosed opens matched]
    | some region =>
      have bounds := Region.findFrom?_bounds matched
      have progress := Text.le_of_findFrom? opens
      obtain ⟨inner, named⟩ := Region.isInfix_of_findFrom? matched
      have keeps : region.keeps a = region.keeps b := by
        rw [Region.keeps_of_not_mem fun mem => apartA (named a mem),
          Region.keeps_of_not_mem fun mem => apartB (named b mem)]
      have within : inside tag a region = inside tag b region := by
        rw [inside, inside, keeps, filter, filter, filterFrom_eq_of_unnamed
          (fun stands => apartA (stands.trans inner)) (fun stands => apartB (stands.trans inner)) 0]
      have behind : filterFrom tag a text region.stop = filterFrom tag b text region.stop :=
        filterFrom_eq_of_unnamed apartA apartB region.stop
      rw [filterFrom_of_region opens matched, filterFrom_of_region opens matched, within, behind]
  termination_by (text.length, text.length - position)

theorem filter_eq_of_unnamed {tag text a b : Text} (apartA : ¬ a <:+: text)
    (apartB : ¬ b <:+: text) : filter tag a text = filter tag b text :=
  filterFrom_eq_of_unnamed apartA apartB 0

end Visibility

end DocWeave
