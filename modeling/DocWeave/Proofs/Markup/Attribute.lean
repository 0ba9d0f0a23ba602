import DocWeave.Proofs.Markup.Word
import DocWeave.Proofs.Text.Pieces
import DocWeave.Proofs.Text.Trim

/-! # Attributes as they are written and read

A written attribute is a blank, a name, and a list between double quotes. Reading goes from left to
right and takes the first place where the wanted name begins a word and an assignment follows, so
text that assigns nothing is passed over, and so is an attribute that the wanted name does not end.
An attribute whose list is empty text is no assignment at all.
-/

namespace DocWeave

namespace Text

theorem isBlank_of_isQuote {c : Char} (quote : Markup.isQuote c = true) : isBlank c = false := by
  simp only [Markup.isQuote, Bool.or_eq_true, beq_iff_eq] at quote
  rcases quote with rfl | rfl <;> decide

end Text

namespace Markup

open Text

/-- An attribute as a tag writes it; one that lists nothing is not written. -/
def written (name : Text) (listed : List Text) : Text :=
  if listed = [] then [] else ' ' :: name ++ "=\"" ++ join ", " listed ++ "\""

/-- Text that an equals sign cannot continue as an assignment: it ends the tag, or a blank and some
other character come first. -/
def Detached (after : Text) : Prop := ∃ c rest, trimLeft after = c :: rest ∧ c ≠ '='

/-- Text that no attribute name reaches into either. -/
def IsApart (after : Text) : Prop :=
  Detached after ∧ ∃ c rest, after = c :: rest ∧ Text.isWord c = false

/-- The characters that tags and attributes are made of. -/
def signs : List Char := ['"', '\'', '=', '<', '>']

/-- A listed name is plain when it can stand between commas within a tag. -/
def IsPlain (name : Text) : Prop := ∀ c ∈ name, c ≠ ',' ∧ c ∉ signs

-- The instances go through the characters of the name, never through all characters.
instance : DecidablePred IsPlain := fun name =>
  List.decidableBAll (fun c => c ≠ ',' ∧ c ∉ signs) name

/-- A listed name is an identifier when reading a list gives it back as it is. -/
def IsIdentifier (name : Text) : Prop := (name ≠ [] ∧ trim name = name) ∧ IsPlain name

instance : DecidablePred IsIdentifier := fun name =>
  inferInstanceAs (Decidable ((name ≠ [] ∧ trim name = name) ∧ IsPlain name))

variable {name other text after value : Text} {before : Option Char} {listed : List Text}

theorem detached_cons {c : Char} (solid : isBlank c = false) (different : c ≠ '=') (after : Text) :
    Detached (c :: after) :=
  ⟨c, after, by simp [trimLeft, solid], different⟩

theorem Detached.cons_blank (detached : Detached after) : Detached (' ' :: after) := by
  obtain ⟨c, rest, trimmed, different⟩ := detached
  refine ⟨c, rest, ?_, different⟩
  rw [← trimmed]
  simp [trimLeft, show isBlank ' ' = true by decide]

theorem isApart_cons {c : Char} (solid : isBlank c = false) (foreign : Text.isWord c = false)
    (different : c ≠ '=') : IsApart (c :: after) :=
  ⟨detached_cons solid different after, c, after, rfl, foreign⟩

theorem assignment?_eq_none (plain : '=' ∉ text) (detached : Detached after) :
    assignment? (text ++ after) = none := by
  induction text with
  | nil =>
    obtain ⟨c, rest, trimmed, different⟩ := detached
    simp only [List.nil_append, assignment?, trimmed]
    split
    · rename_i equals
      exact absurd (List.cons.inj equals).1 different
    · rfl
  | cons c text ih =>
    have different : c ≠ '=' := Ne.symm (List.ne_of_not_mem_cons plain)
    by_cases blank : isBlank c = true
    · have skipped : trimLeft (c :: text ++ after) = trimLeft (text ++ after) := by
        simp [trimLeft, blank]
      rw [assignment?, skipped]
      exact ih (List.not_mem_of_not_mem_cons plain)
    · have kept : trimLeft (c :: text ++ after) = c :: (text ++ after) := by
        simp [trimLeft, blank]
      simp only [assignment?, kept]
      split
      · rename_i equals
        exact absurd (List.cons.inj equals).1 different
      · rfl

theorem assignment?_cons_eq_none {c : Char} (solid : isBlank c = false) (different : c ≠ '=')
    (after : Text) : assignment? (c :: after) = none :=
  assignment?_eq_none List.not_mem_nil (detached_cons solid different after)

/-- What comes before the first quote is the value. -/
theorem quotedValue?_spelled {opening closing : Char} (opens : isQuote opening = true)
    (closes : isQuote closing = true) (filled : value ≠ [])
    (quoteless : ∀ c ∈ value, isQuote c = false) (rest : Text) :
    quotedValue? (opening :: (value ++ closing :: rest)) = some (value, rest) := by
  have taken : (value ++ closing :: rest).takeWhile (fun c => !isQuote c) = value := by
    rw [List.takeWhile_append_of_pos fun c mem => by simp [quoteless c mem]]
    simp [closes]
  have nonempty : value.isEmpty = false := List.isEmpty_eq_false_iff.mpr filled
  simp only [quotedValue?, taken, List.drop_left, opens, nonempty]
  rfl

/-- Blanks around the equals sign are no part of the value. -/
theorem assignment?_spelled {left right : Text} {opening closing : Char}
    (blankLeft : ∀ c ∈ left, isBlank c = true) (blankRight : ∀ c ∈ right, isBlank c = true)
    (opens : isQuote opening = true) (closes : isQuote closing = true) (filled : value ≠ [])
    (quoteless : ∀ c ∈ value, isQuote c = false) (rest : Text) :
    assignment? (left ++ '=' :: (right ++ opening :: (value ++ closing :: rest))) =
      some (value, rest) := by
  rw [assignment?, trimLeft_append_of_blank blankLeft, trimLeft_cons_of_solid (by decide)]
  show quotedValue? (trimLeft (right ++ opening :: (value ++ closing :: rest))) = _
  rw [trimLeft_append_of_blank blankRight, trimLeft_cons_of_solid (isBlank_of_isQuote opens),
    quotedValue?_spelled opens closes filled quoteless]

/-- The value between quotes is all of what is written there, unless it is empty. -/
theorem assignment?_quoted (quoteless : ∀ c ∈ value, isQuote c = false) (after : Text) :
    assignment? ("=\"" ++ value ++ "\"" ++ after) =
      if value.isEmpty then none else some (value, after) := by
  have shape : ("=\"" ++ value ++ "\"" ++ after : Text) =
      [] ++ '=' :: ([] ++ '"' :: (value ++ '"' :: after)) := by simp
  rw [shape]
  cases value with
  | nil => rfl
  | cons c value =>
    exact assignment?_spelled (by simp) (by simp) (by decide) (by decide) (List.cons_ne_nil c value)
      quoteless after

/-- Text without an equals sign is passed over: whatever begins there assigns nothing. -/
theorem attributeValue?_append (isName : IsAttributeName name) (unassigned : '=' ∉ text)
    (apart : IsApart after) :
    attributeValue? name before (text ++ after) =
      attributeValue? name (text.getLast?.or before) after := by
  obtain ⟨detached, c, rest, rfl, foreign⟩ := apart
  have idle (tail : Text) (suffix : tail <:+ text) : assignment? (tail ++ c :: rest) = none :=
    assignment?_eq_none (fun mem => unassigned (suffix.subset mem)) detached
  rw [attributeValue?_through (fun _ => false) none isName (by simpa using isName.not_mem foreign)
    idle]
  simp

/-- A word before an equals sign is passed over unless the name ends it and something is assigned. -/
theorem attributeValue?_word (isName : IsAttributeName name)
    (solid : ∀ c ∈ other, isBlank c = false ∧ c ≠ '=')
    (idle : name <:+ other → assignment? ('=' :: after) = none) :
    attributeValue? name before (other ++ '=' :: after) =
      attributeValue? name (other.getLast?.or before) ('=' :: after) := by
  have foreign : '=' ∉ name := isName.not_mem (by decide)
  have assigned (rest : Text) (suffix : rest <:+ other) : assignment? (rest ++ '=' :: after) =
      if rest.isEmpty then assignment? ('=' :: after) else none := by
    cases rest with
    | nil => rfl
    | cons c rest =>
      obtain ⟨clear, different⟩ := solid c (suffix.subset List.mem_cons_self)
      exact assignment?_cons_eq_none clear different _
  rw [attributeValue?_through List.isEmpty (assignment? ('=' :: after)) isName
    (by simpa using foreign) assigned]
  split
  · rename_i holds
    obtain ⟨front, rest, rfl, -, ends⟩ := holds
    rw [List.isEmpty_iff] at ends
    subst ends
    rw [List.append_nil] at idle ⊢
    rw [idle (List.suffix_append front name)]
    rfl
  · rfl

/-- A list of plain names holds no sign. -/
theorem not_mem_signs_of_mem_join {c : Char} (plain : ∀ name ∈ listed, IsPlain name)
    (mem : c ∈ join ", " listed) : c ∉ signs := by
  rcases mem_or_mem_of_mem_join mem with between | ⟨piece, inList, inPiece⟩
  · have comma : c = ',' ∨ c = ' ' := by simpa using between
    rcases comma with rfl | rfl <;> decide
  · exact (plain piece inList c inPiece).2

theorem not_isQuote_of_mem_join {c : Char} (plain : ∀ name ∈ listed, IsPlain name)
    (mem : c ∈ join ", " listed) : isQuote c = false := by
  have clear := not_mem_signs_of_mem_join plain mem
  simp only [signs, List.mem_cons, not_or] at clear
  simp [isQuote, clear]

/-- An attribute brings no bracket into a tag. -/
theorem not_mem_written {c : Char} (isName : IsAttributeName name)
    (plain : ∀ name ∈ listed, IsPlain name) (bracket : c = '<' ∨ c = '>') :
    c ∉ written name listed := by
  have foreign : c ∉ name := by
    rcases bracket with rfl | rfl
    · exact isName.not_mem (by decide)
    · exact isName.not_mem (by decide)
  have unlisted : c ∉ join ", " listed := by
    intro mem
    have clear := not_mem_signs_of_mem_join plain mem
    rcases bracket with rfl | rfl
    · exact clear (by decide)
    · exact clear (by decide)
  have different : c ≠ ' ' ∧ c ≠ '=' ∧ c ≠ '"' := by
    rcases bracket with rfl | rfl <;> decide
  unfold written
  split
  · exact List.not_mem_nil
  · simp [foreign, different]
    simpa using unlisted

/-- An attribute is passed over unless the name ends its own name and its list is not empty text. -/
theorem attributeValue?_written_of_idle (before : Option Char) (isName : IsAttributeName name)
    (isOther : IsAttributeName other) (plain : ∀ name ∈ listed, IsPlain name)
    (idle : name <:+ other → join ", " listed = []) (after : Text) :
    ∃ last, attributeValue? name before (written other listed ++ after) =
      attributeValue? name last after := by
  by_cases empty : listed = []
  · exact ⟨before, by simp [written, empty]⟩
  have shape : written other listed ++ after =
      ' ' :: (other ++ '=' :: '"' :: (join ", " listed ++ '"' :: after)) := by
    simp [written, empty]
  have unassigned : name <:+ other →
      assignment? ('=' :: '"' :: (join ", " listed ++ '"' :: after)) = none := by
    intro ends
    have quoted := assignment?_quoted (fun c => not_isQuote_of_mem_join plain) after
    rw [idle ends] at quoted ⊢
    simpa using quoted
  have solid : ∀ c ∈ other, isBlank c = false ∧ c ≠ '=' := fun c mem =>
    ⟨isOther.solid c mem, fun equals => isOther.not_mem (by decide) (equals ▸ mem)⟩
  refine ⟨some '"', ?_⟩
  rw [shape, attributeValue?_cons_of_not_mem isName (isName.not_mem (by decide)),
    attributeValue?_word isName solid unassigned,
    attributeValue?_cons_of_not_mem isName (isName.not_mem (by decide)),
    attributeValue?_cons_of_not_mem isName (isName.not_mem (by decide)),
    attributeValue?_append isName (fun mem => not_mem_signs_of_mem_join plain mem (by decide))
      (isApart_cons (by decide) (by decide) (by decide)),
    attributeValue?_cons_of_not_mem isName (isName.not_mem (by decide))]

/-- The first attribute of the name is the one that is read. -/
theorem attributeValue?_written (isName : IsAttributeName name)
    (plain : ∀ name ∈ listed, IsPlain name) (nonempty : join ", " listed ≠ []) (after : Text) :
    attributeValue? name before (written name listed ++ after) = some (join ", " listed) := by
  have listedSome : listed ≠ [] := by
    rintro rfl
    exact nonempty rfl
  have shape : written name listed ++ after =
      ' ' :: (name ++ ("=\"" ++ join ", " listed ++ "\"" ++ after)) := by
    simp [written, listedSome]
  have value := assignment?_quoted (fun c => not_isQuote_of_mem_join plain) after
  rw [if_neg (by simpa using nonempty)] at value
  rw [shape, attributeValue?_cons_of_not_mem isName (isName.not_mem (by decide))]
  obtain ⟨c, rest, rfl⟩ := List.exists_cons_of_ne_nil isName.nonempty
  have boundary : atWordBoundary (some ' ')
      (c :: (rest ++ ("=\"" ++ join ", " listed ++ "\"" ++ after))) = true := by
    simp [atWordBoundary, isName.isWord c (List.mem_cons_self ..), show isWord ' ' = false by decide]
  have stands : (c :: rest).isPrefixOf
      (c :: rest ++ ("=\"" ++ join ", " listed ++ "\"" ++ after)) = true :=
    List.isPrefixOf_iff_prefix.mpr (List.prefix_append ..)
  rw [List.cons_append] at stands ⊢
  rw [attributeValue?, boundary, stands, ← List.cons_append, List.drop_left, value]
  rfl

/-- What follows an attribute also follows the text before it. -/
theorem IsApart.written (isName : IsAttributeName name) (apart : IsApart after) :
    IsApart (written name listed ++ after) := by
  unfold Markup.written
  split
  · exact apart
  · obtain ⟨c, word, rfl⟩ := List.exists_cons_of_ne_nil isName.nonempty
    have different : c ≠ '=' := by
      rintro rfl
      exact isName.not_mem (by decide) (List.mem_cons_self ..)
    have detached := (detached_cons (isName.solid c (List.mem_cons_self ..)) different
      (word ++ "=\"" ++ join ", " listed ++ "\"" ++ after)).cons_blank
    exact ⟨by simpa using detached, ' ', _, rfl, by decide⟩

/-- What the attribute of a name lists, where it comes first and nothing is read behind it. -/
theorem attributeItems_eq_trimmed {opening : Text} (isName : IsAttributeName name)
    (plain : ∀ name ∈ listed, IsPlain name)
    (reached : attributeValue? name none opening =
      attributeValue? name before (written name listed ++ after))
    (unread : ∀ last, attributeValue? name last after = none) :
    attributeItems name opening = trimmed listed := by
  have free : ∀ name ∈ listed, ',' ∉ name := fun name mem comma => (plain name mem _ comma).1 rfl
  rw [attributeItems, reached, ← trimmedPieces_join free]
  by_cases empty : join ", " listed = []
  · obtain ⟨last, passed⟩ := attributeValue?_written_of_idle before isName isName plain
      (fun _ => empty) after
    rw [passed, unread, empty]
    rfl
  · rw [attributeValue?_written isName plain empty]

end Markup

end DocWeave
