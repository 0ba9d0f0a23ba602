import DocWeave.Text.Basic

/-! # Where a search lands

A search passes over a text in which no occurrence of its needle begins. An occurrence can begin in
one text and end in the next, so what is passed over is said of both texts together. Markers are
the needles for which the boundary does not matter: they open with a bracket and hold no other.
-/

namespace DocWeave.Text

/-- No occurrence of `needle` begins within `text` when `after` follows it. -/
def Skips (needle text after : Text) : Prop :=
  ∀ rest, rest ≠ [] → rest <:+ text → ¬ needle <+: rest ++ after

/-- A marker opens with a bracket and holds no other one. -/
def IsMarker (needle : Text) : Prop := ∃ name, needle = '<' :: name ∧ '<' ∉ name

variable {needle text after : Text}

theorem Skips.not_here {c : Char} (skips : Skips needle (c :: text) after) :
    ¬ needle <+: c :: (text ++ after) :=
  skips (c :: text) (by simp) (List.suffix_refl _)

theorem Skips.tail {c : Char} (skips : Skips needle (c :: text) after) :
    Skips needle text after := by
  intro rest nonempty suffix
  exact skips rest nonempty (suffix.trans (List.suffix_cons ..))

/-- One more character is passed over when the needle does not begin with it. -/
theorem Skips.cons {c : Char} (notHere : ¬ needle <+: c :: (text ++ after))
    (skips : Skips needle text after) : Skips needle (c :: text) after := by
  intro rest nonempty suffix occurs
  rcases List.suffix_cons_iff.mp suffix with rfl | within
  · exact notHere occurs
  · exact skips rest nonempty within occurs

/-- What does not hold the next character ends before it. -/
theorem prefix_of_prefix_append (occurs : needle <+: text ++ after)
    (foreign : ∀ c ∈ after.head?, c ∉ needle) : needle <+: text := by
  rcases List.prefix_or_prefix_of_prefix occurs (List.prefix_append text after) with within | across
  · exact within
  · obtain ⟨more, rfl⟩ := across
    rw [List.prefix_append_right_inj] at occurs
    cases more with
    | nil => simp
    | cons c more =>
      obtain ⟨tail, rfl⟩ := occurs
      exact absurd (by simp) (foreign c rfl)

/-- A marker that begins in a text ends there too, if a bracket comes next. -/
theorem IsMarker.prefix_cons {c : Char} (marker : IsMarker needle)
    (bracketed : ∀ c ∈ after.head?, c = '<') (occurs : needle <+: c :: (text ++ after)) :
    needle <+: c :: text := by
  obtain ⟨name, rfl, single⟩ := marker
  obtain ⟨rfl, beyond⟩ := List.cons_prefix_cons.mp occurs
  exact List.cons_prefix_cons.mpr
    ⟨rfl, prefix_of_prefix_append beyond fun c next => bracketed c next ▸ single⟩

/-- A marker that is absent from a text does not begin in it either, if a bracket comes next. -/
theorem skips_of_absent (marker : IsMarker needle) (absent : ¬ needle <:+: text)
    (bracketed : ∀ c ∈ after.head?, c = '<') : Skips needle text after := by
  intro rest nonempty suffix occurs
  obtain ⟨c, rest, rfl⟩ := List.exists_cons_of_ne_nil nonempty
  exact absent ((marker.prefix_cons bracketed occurs).isInfix.trans suffix.isInfix)

/-- A text that holds a marker is passed over up to the first place where it stands. -/
theorem IsMarker.exists_first (marker : IsMarker needle) (occurs : needle <:+: text)
    (bracketed : ∀ c ∈ after.head?, c = '<') :
    ∃ front back, text = front ++ back ∧ needle <+: back ∧ Skips needle front (back ++ after) := by
  induction text with
  | nil =>
    obtain ⟨name, rfl, -⟩ := marker
    exact absurd (List.infix_nil.1 occurs) (List.cons_ne_nil _ _)
  | cons c text ih =>
    by_cases here : needle <+: c :: text
    · exact ⟨[], c :: text, rfl, here, fun _ nonempty suffix =>
        absurd (List.suffix_nil.1 suffix) nonempty⟩
    · obtain ⟨front, back, rfl, stands, skips⟩ :=
        ih ((List.infix_cons_iff.1 occurs).resolve_left here)
      refine ⟨c :: front, back, rfl, stands, skips.cons fun begins => here ?_⟩
      rw [← List.append_assoc] at begins
      exact marker.prefix_cons bracketed begins

/-- No occurrence begins in a text without the character that it would begin with. -/
theorem skips_of_not_mem {c : Char} (name : Text) (absent : c ∉ text) :
    Skips (c :: name) text after := by
  intro rest nonempty suffix occurs
  obtain ⟨d, rest, rfl⟩ := List.exists_cons_of_ne_nil nonempty
  obtain ⟨rfl, -⟩ := List.cons_prefix_cons.mp occurs
  exact absent (suffix.subset (List.mem_cons_self ..))

/-- A marker begins nowhere in a text without brackets. -/
theorem IsMarker.skips (marker : IsMarker needle) (unbracketed : '<' ∉ text) :
    Skips needle text after := by
  obtain ⟨name, rfl, -⟩ := marker
  exact skips_of_not_mem _ unbracketed

/-- What is passed over only moves the place where the search lands. -/
theorem find?_append_of_skips (skips : Skips needle text after) :
    find? needle (text ++ after) = (find? needle after).map (· + text.length) := by
  induction text with
  | nil => simp
  | cons c text ih =>
    have here : needle.isPrefixOf (c :: (text ++ after)) = false := by
      simpa only [← Bool.not_eq_true, List.isPrefixOf_iff_prefix] using skips.not_here
    simp only [List.cons_append, find?, here, Bool.false_eq_true, ↓reduceIte, ih skips.tail,
      Option.map_map, List.length_cons]
    rfl

/-- A search lands at once where its needle stands. -/
theorem find?_of_starts (occurs : needle <+: text) : find? needle text = some 0 := by
  cases text with
  | nil => simp [List.prefix_nil.mp occurs, find?]
  | cons c text => simp [find?, List.isPrefixOf_iff_prefix.mpr occurs]

theorem find?_nil (nonempty : needle ≠ []) : find? needle [] = none := by
  simp [find?, nonempty]

/-- A search from a later place is a search of what is left there. -/
theorem findFrom?_append (needle before text : Text) (start : Nat) :
    findFrom? needle (before ++ text) (before.length + start) =
      (findFrom? needle text start).map (before.length + ·) := by
  simp only [findFrom?, List.length_append, Nat.add_lt_add_iff_left, List.drop_append,
    List.drop_eq_nil_of_le (Nat.le_add_right ..), Nat.add_sub_cancel_left, List.nil_append]
  split
  · rfl
  · simp only [Option.map_map]
    congr 1
    funext offset
    simp only [Function.comp_apply]
    omega

theorem findFrom?_zero (needle text : Text) : findFrom? needle text 0 = find? needle text := by
  simp [findFrom?]

/-- The needle stands where a search lands. -/
theorem prefix_drop_of_find? {i : Nat} (found : find? needle text = some i) :
    needle <+: text.drop i := by
  induction text generalizing i with
  | nil =>
    unfold find? at found
    split at found
    · rename_i empty
      simp [List.isEmpty_iff.mp empty]
    · simp at found
  | cons c text ih =>
    unfold find? at found
    split at found
    · rename_i occurs
      cases found
      exact List.isPrefixOf_iff_prefix.mp occurs
    · obtain ⟨j, later, rfl⟩ := Option.map_eq_some_iff.mp found
      exact ih later

theorem isInfix_of_find? {i : Nat} (found : find? needle text = some i) : needle <:+: text :=
  (prefix_drop_of_find? found).isInfix.trans (List.drop_suffix i text).isInfix

/-- A search lands somewhere if its needle occurs. -/
theorem find?_ne_none_of_isInfix (occurs : needle <:+: text) : find? needle text ≠ none := by
  induction text with
  | nil => simp [List.infix_nil.1 occurs, find?]
  | cons c text ih =>
    rw [find?]
    split
    · simp
    · rename_i notHere
      rw [List.isPrefixOf_iff_prefix] at notHere
      rcases List.infix_cons_iff.1 occurs with here | later
      · exact absurd here notHere
      · simpa using ih later

/-- Searching from the place where a search lands, one lands there again. -/
theorem findFrom?_of_find? {i : Nat} (found : find? needle text = some i) :
    findFrom? needle text i = some i := by
  have within := find?_add_length_le found
  rw [findFrom?, if_neg (by omega), find?_of_starts (prefix_drop_of_find? found), Option.map_some,
    Nat.zero_add]

/-- A search for one character lands on the first. -/
theorem exists_of_find?_singleton {c : Char} {i : Nat} (found : find? [c] text = some i) :
    ∃ before after, text = before ++ c :: after ∧ c ∉ before ∧ i = before.length := by
  induction text generalizing i with
  | nil => cases found
  | cons d rest ih =>
    rw [find?] at found
    split at found
    · rename_i here
      obtain ⟨rfl, -⟩ := List.cons_prefix_cons.1 (List.isPrefixOf_iff_prefix.1 here)
      cases found
      exact ⟨[], rest, rfl, List.not_mem_nil, rfl⟩
    · rename_i other
      obtain ⟨j, later, rfl⟩ := Option.map_eq_some_iff.1 found
      obtain ⟨before, after, rfl, free, rfl⟩ := ih later
      have apart : c ≠ d := by
        rintro rfl
        exact other (List.isPrefixOf_iff_prefix.2 (List.cons_prefix_cons.2 ⟨rfl, List.nil_prefix⟩))
      exact ⟨d :: before, after, rfl, by simp [apart, free], rfl⟩

theorem exists_of_findFrom?_singleton {c : Char} {start i : Nat}
    (found : findFrom? [c] text start = some i) :
    ∃ held before after, text = held ++ before ++ c :: after ∧ held.length = start ∧ c ∉ before ∧
      i = (held ++ before).length := by
  unfold findFrom? at found
  split at found
  · cases found
  · rename_i within
    obtain ⟨j, later, rfl⟩ := Option.map_eq_some_iff.1 found
    obtain ⟨before, after, cut, free, rfl⟩ := exists_of_find?_singleton later
    have length : (text.take start).length = start := List.length_take_of_le (Nat.not_lt.1 within)
    refine ⟨text.take start, before, after, ?_, length, free, ?_⟩
    · rw [List.append_assoc, ← cut, List.take_append_drop]
    · rw [List.length_append, length, Nat.add_comm]

theorem slice_append_drop {start stop : Nat} (text : Text) (ordered : start ≤ stop) :
    text.slice start stop ++ text.drop stop = text.drop start := by
  have behind : text.drop stop = (text.drop start).drop (stop - start) := by
    rw [List.drop_drop, Nat.add_sub_cancel' ordered]
  rw [slice, List.drop_take, behind, List.take_append_drop]

/-- A cut behind a first part is a cut of what follows it. -/
theorem slice_append (before text : Text) (start stop : Nat) :
    slice (before ++ text) (before.length + start) (before.length + stop) =
      slice text start stop := by
  simp [slice, List.take_append, List.drop_append, List.drop_eq_nil_of_le]

/-- A cut between two other parts. -/
theorem slice_between (before middle after : Text) :
    slice (before ++ middle ++ after) before.length (before.length + middle.length) = middle := by
  simp [slice, List.take_append]

end DocWeave.Text
