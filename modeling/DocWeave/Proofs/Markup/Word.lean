import DocWeave.Markup.Attribute
import DocWeave.Proofs.Text.Search

/-! # Where an attribute is read

An attribute is read where its name begins a word and an assignment follows. What is assigned may
lie behind the text in which the name stands, so reading is said of a text and of what comes after
it: either the name begins a word of the text that is followed as it has to be, or reading goes on
behind the text.
-/

namespace DocWeave.Markup

open Text

/-- An attribute name is a word. -/
structure IsAttributeName (name : Text) : Prop where
  nonempty : name ≠ []
  isWord : ∀ c ∈ name, isWord c = true
  solid : ∀ c ∈ name, isBlank c = false

instance : DecidablePred IsAttributeName := fun name =>
  have := List.decidableBAll (fun c => isWord c = true) name
  have := List.decidableBAll (fun c => isBlank c = false) name
  decidable_of_iff (name ≠ [] ∧ (∀ c ∈ name, isWord c = true) ∧ ∀ c ∈ name, isBlank c = false)
    ⟨fun ⟨nonempty, isWord, solid⟩ => ⟨nonempty, isWord, solid⟩,
      fun isName => ⟨isName.nonempty, isName.isWord, isName.solid⟩⟩

variable {name text after rest : Text} {before : Option Char} {follows : Text → Bool}

theorem IsAttributeName.not_mem {c : Char} (isName : IsAttributeName name)
    (foreign : Text.isWord c = false) : c ∉ name := by
  intro mem
  simp [isName.isWord c mem] at foreign

/-- The name begins a word of the text, where `before` precedes the text, and what follows it there
is as asked. -/
def HoldsWord (before : Option Char) (name : Text) (follows : Text → Bool) (text : Text) : Prop :=
  ∃ front rest, text = front ++ name ++ rest ∧ (front.getLast?.or before).any isWord = false ∧
    follows rest = true

/-- Looking at every place tells whether the name begins a word. -/
theorem any_places_iff : ((List.range (text.length + 1)).any fun i =>
      name.isPrefixOf (text.drop i) && !((text.take i).getLast?.or before).any isWord &&
        follows (text.drop (i + name.length))) = true ↔ HoldsWord before name follows text := by
  simp only [List.any_eq_true, List.mem_range, Bool.and_eq_true, Bool.not_eq_true',
    List.isPrefixOf_iff_prefix]
  constructor
  · rintro ⟨i, _, ⟨⟨rest, split⟩, bounded⟩, follow⟩
    refine ⟨text.take i, rest, ?_, bounded, ?_⟩
    · rw [List.append_assoc, split, List.take_append_drop]
    · rwa [← List.drop_drop, ← split, List.drop_left] at follow
  · rintro ⟨front, rest, rfl, bounded, follow⟩
    have within : front.length < (front ++ name ++ rest).length + 1 := by
      rw [List.length_append, List.length_append]
      omega
    refine ⟨front.length, within, ⟨?_, ?_⟩, ?_⟩
    · rw [List.append_assoc, List.drop_left]
      exact List.prefix_append name rest
    · rwa [List.append_assoc, List.take_left]
    · rwa [← List.length_append, List.drop_left]

instance : Decidable (HoldsWord before name follows text) := decidable_of_iff _ any_places_iff

/-- What precedes the end of a text. -/
theorem getLast?_cons_or (c : Char) (text : Text) (before : Option Char) :
    (c :: text).getLast?.or before = text.getLast?.or (some c) := by
  cases text <;> simp [List.getLast?_cons]

theorem not_holdsWord_nil (nonempty : name ≠ []) : ¬ HoldsWord before name follows [] := by
  rintro ⟨front, rest, split, -⟩
  simp [nonempty] at split

/-- A word begins at the first character or behind it. -/
theorem holdsWord_cons {c : Char} :
    HoldsWord before name follows (c :: text) ↔
      (before.any isWord = false ∧ name <+: c :: text ∧
        follows ((c :: text).drop name.length) = true) ∨
      HoldsWord (some c) name follows text := by
  constructor
  · rintro ⟨front, rest, split, bounded, follow⟩
    cases front with
    | nil =>
      refine .inl ⟨by simpa using bounded, ⟨rest, by simpa using split.symm⟩, ?_⟩
      rwa [split, List.nil_append, List.drop_left]
    | cons d front =>
      rw [List.cons_append, List.cons_append] at split
      obtain ⟨rfl, behind⟩ := List.cons.inj split
      exact .inr ⟨front, rest, behind, by rwa [getLast?_cons_or] at bounded, follow⟩
  · rintro (⟨bounded, ⟨rest, split⟩, follow⟩ | ⟨front, rest, rfl, bounded, follow⟩)
    · refine ⟨[], rest, split.symm, by simpa using bounded, ?_⟩
      rwa [← split, List.drop_left] at follow
    · exact ⟨c :: front, rest, rfl, by rwa [getLast?_cons_or], follow⟩

/-- A character that is no part of a word may as well be the start. -/
theorem holdsWord_of_foreign (foreign : before.any isWord = false) :
    HoldsWord before name follows text ↔ HoldsWord none name follows text := by
  have same (front : Text) :
      (front.getLast?.or before).any isWord = (front.getLast?.or none).any isWord := by
    cases front.getLast? <;> simp [foreign]
  simp only [HoldsWord, same]

/-! ## Reading from left to right -/

/-- The value that is read at the very start of a text. -/
def valueHere? (name : Text) (before : Option Char) (text : Text) : Option Text :=
  if atWordBoundary before text && name.isPrefixOf text then
    (assignment? (text.drop name.length)).map Prod.fst
  else none

/-- A value is read here, or else reading goes on behind one character. -/
theorem attributeValue?_step {c : Char} : attributeValue? name before (c :: text) =
    (valueHere? name before (c :: text)).or (attributeValue? name (some c) text) := by
  rw [attributeValue?, valueHere?]
  cases atWordBoundary before (c :: text) && name.isPrefixOf (c :: text) with
  | false => rfl
  | true => cases assignment? ((c :: text).drop name.length) <;> rfl

theorem valueHere?_eq_none (absent : ¬ name <+: text) : valueHere? name before text = none := by
  rw [← List.isPrefixOf_iff_prefix, Bool.not_eq_true] at absent
  rw [valueHere?, absent, Bool.and_false]
  rfl

/-- Where the name stands, what follows it in the text tells whether a value is read. -/
theorem valueHere?_append {c : Char} (follows : Text → Bool) (answer : Option (Text × Text))
    (isName : IsAttributeName name) (apart : ∀ c ∈ after.head?, c ∉ name)
    (assigned : ∀ rest, rest <:+ c :: text →
      assignment? (rest ++ after) = if follows rest then answer else none) :
    valueHere? name before (c :: text ++ after) =
      if before.any isWord = false ∧ name <+: c :: text ∧
        follows ((c :: text).drop name.length) = true then answer.map Prod.fst else none := by
  by_cases stands : name <+: c :: text
  · obtain ⟨d, letters, rfl⟩ := List.exists_cons_of_ne_nil isName.nonempty
    obtain ⟨rfl, -⟩ := List.cons_prefix_cons.1 stands
    have boundary : atWordBoundary before (d :: text ++ after) = !before.any isWord := by
      simp [atWordBoundary, isName.isWord d List.mem_cons_self]
    have occurs : (d :: letters).isPrefixOf (d :: text ++ after) = true :=
      List.isPrefixOf_iff_prefix.2 (stands.trans (List.prefix_append (d :: text) after))
    have value := assigned _ (List.drop_suffix (d :: letters).length (d :: text))
    rw [← List.drop_append_of_le_length stands.length_le] at value
    rw [valueHere?, boundary, occurs, value]
    cases before.any isWord <;> cases follows ((d :: text).drop (d :: letters).length) <;>
      simp [stands]
  · rw [valueHere?_eq_none fun occurs => stands (prefix_of_prefix_append occurs apart),
      if_neg fun holds => stands holds.2.1]

/-- Reading goes through a text to what comes after it, unless the name begins a word of the text
that is followed as it has to be for an assignment. What is assigned then lies in what comes after,
and is the same wherever in the text the name stands. -/
theorem attributeValue?_through (follows : Text → Bool) (answer : Option (Text × Text))
    (isName : IsAttributeName name) (apart : ∀ c ∈ after.head?, c ∉ name)
    (assigned : ∀ rest, rest <:+ text →
      assignment? (rest ++ after) = if follows rest then answer else none) :
    attributeValue? name before (text ++ after) =
      (if HoldsWord before name follows text then answer.map Prod.fst else none).or
        (attributeValue? name (text.getLast?.or before) after) := by
  induction text generalizing before with
  | nil => simp [not_holdsWord_nil isName.nonempty]
  | cons c text ih =>
    have here : valueHere? name before (c :: (text ++ after)) = _ :=
      valueHere?_append follows answer isName apart assigned
    rw [List.cons_append, attributeValue?_step, here, getLast?_cons_or, ih fun rest suffix =>
      assigned rest (suffix.trans (List.suffix_cons ..)), ← Option.or_assoc]
    congr 1
    simp only [holdsWord_cons]
    split <;> split <;> simp_all

/-- A character that is not part of the name is passed over. -/
theorem attributeValue?_cons_of_not_mem {c : Char} (isName : IsAttributeName name)
    (foreign : c ∉ name) (text : Text) :
    attributeValue? name before (c :: text) = attributeValue? name (some c) text := by
  have absent : ¬ name <+: c :: text := by
    intro occurs
    obtain ⟨d, rest, rfl⟩ := List.exists_cons_of_ne_nil isName.nonempty
    obtain ⟨rfl, -⟩ := List.cons_prefix_cons.mp occurs
    exact foreign List.mem_cons_self
  rw [attributeValue?_step, valueHere?_eq_none absent, Option.none_or]

/-- Characters that no name holds are passed over. -/
theorem attributeValue?_foreign (isName : IsAttributeName name) (foreign : ∀ c ∈ text, c ∉ name) :
    attributeValue? name before (text ++ after) =
      attributeValue? name (text.getLast?.or before) after := by
  induction text generalizing before with
  | nil => rfl
  | cons c text ih =>
    rw [List.forall_mem_cons] at foreign
    rw [List.cons_append, attributeValue?_cons_of_not_mem isName foreign.1, ih foreign.2,
      getLast?_cons_or]

end DocWeave.Markup
