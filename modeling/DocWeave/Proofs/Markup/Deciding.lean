import DocWeave.Proofs.Markup.Spelling
import Mathlib.Data.List.TakeWhile

/-! # Which attribute decides

A tag lists attributes in any order, and one of them is asked for by its name. Reading goes from
left to right and takes the first place where the name begins a word and an assignment follows. Such
a place may be the end of an attribute's name, so an attribute whose name only ends with the asked
one, behind a hyphen, decides like one of that very name. It may also be the end of a value that
looks like the beginning of an assignment: then what stands up to the next quote decides. Where
neither comes first, the attribute of the asked name decides, and no other.
-/

namespace DocWeave

namespace Text

/-- The blanks, by number. -/
def blankNumbers : List Nat :=
  [0x09, 0x0A, 0x0B, 0x0C, 0x0D, 0x1C, 0x1D, 0x1E, 0x1F, 0x20, 0x85, 0xA0, 0x1680, 0x2000, 0x2001,
    0x2002, 0x2003, 0x2004, 0x2005, 0x2006, 0x2007, 0x2008, 0x2009, 0x200A, 0x2028, 0x2029, 0x202F,
    0x205F, 0x3000]

theorem toNat_mem_blankNumbers {c : Char} (blank : isBlank c = true) : c.toNat ∈ blankNumbers := by
  simp only [isBlank, Bool.or_eq_true, Bool.and_eq_true, decide_eq_true_eq, beq_iff_eq] at blank
  simp only [blankNumbers, List.mem_cons, List.not_mem_nil, or_false]
  omega

/-- No blank belongs to a word. -/
theorem isWord_of_isBlank {c : Char} (blank : isBlank c = true) : isWord c = false := by
  have table : ∀ n ∈ blankNumbers, isWord (Char.ofNat n) = false := by decide +kernel
  have foreign := table _ (toNat_mem_blankNumbers blank)
  rwa [Char.ofNat_toNat] at foreign

end Text

namespace Markup

open Text

/-- An attribute as it stands in a tag. Its name is made of word characters and hyphens, and its
value stands between two quotes of one kind. -/
structure Attribute where
  /-- The blanks before it. -/
  before : Text := " "
  name : Text
  /-- The blanks before the equals sign. -/
  left : Text := []
  /-- The blanks behind the equals sign. -/
  right : Text := []
  quote : Char := '"'
  value : Text
  parted : before ≠ [] := by decide
  blank : (before ++ left ++ right).all isBlank = true := by decide
  named : name ≠ [] ∧ name.all (fun c => isWord c || c == '-') = true := by decide
  quotes : isQuote quote = true := by decide
  filled : value ≠ [] := by decide
  quoteless : value.all (fun c => !isQuote c) = true := by decide

namespace Attribute

/-- What stands before the value. -/
def front (a : Attribute) : Text := a.before ++ (a.name ++ (a.left ++ '=' :: a.right))

/-- The text of an attribute. -/
def render (a : Attribute) : Text := a.front ++ a.quote :: (a.value ++ [a.quote])

/-- The opening tag that lists attributes, with blanks before its end. -/
def openingTag (tag : Text) (attributes : List Attribute) (blanks : Text) : Text :=
  Region.opener tag ++ (attributes.flatMap render ++ (blanks ++ ['>']))

end Attribute

variable {name text after rest : Text} {before : Option Char}

/-! ## One attribute after another -/

theorem isWord_of_isQuote {c : Char} (quote : isQuote c = true) : Text.isWord c = false := by
  simp only [isQuote, Bool.or_eq_true, beq_iff_eq] at quote
  rcases quote with rfl | rfl <;> decide

theorem not_isQuote_of_isBlank {c : Char} (blank : isBlank c = true) : isQuote c = false := by
  rw [← Bool.not_eq_true]
  exact fun quote => by simp [isBlank_of_isQuote quote] at blank

/-- A text that is an equals sign with blanks around it. -/
def isEquals (text : Text) : Bool :=
  match trimLeft text with
  | '=' :: rest => (trimLeft rest).isEmpty
  | _ => false

theorem quotedValue?_of_not_isQuote {c : Char} (plain : isQuote c = false) (after : Text) :
    quotedValue? (c :: after) = none := by
  simp only [quotedValue?, plain, Bool.false_and, Bool.false_eq_true, if_false]
  split <;> rfl

/-- Behind a text without quotes, a value is read only if the text is blank. -/
theorem quotedValue?_of_quoteless {q : Char} (quote : isQuote q = true)
    (quoteless : ∀ c ∈ text, isQuote c = false) (after : Text) :
    quotedValue? (trimLeft (text ++ q :: after)) =
      if (trimLeft text).isEmpty then quotedValue? (q :: after) else none := by
  have solid := trimLeft_cons_of_solid (isBlank_of_isQuote quote) after
  rw [trimLeft, List.dropWhile_append, ← trimLeft, ← trimLeft, solid]
  cases trimmed : trimLeft text with
  | nil => rfl
  | cons c more =>
    have suffix : c :: more <:+ text := trimmed ▸ List.dropWhile_suffix isBlank
    exact quotedValue?_of_not_isQuote (quoteless c (suffix.subset List.mem_cons_self)) _

/-- Behind a text without quotes, an assignment is read only if the text is an equals sign. -/
theorem assignment?_of_quoteless {q : Char} (quote : isQuote q = true)
    (quoteless : ∀ c ∈ text, isQuote c = false) (after : Text) :
    assignment? (text ++ q :: after) =
      if isEquals text then quotedValue? (q :: after) else none := by
  have solid := trimLeft_cons_of_solid (isBlank_of_isQuote quote) after
  rw [assignment?, isEquals, trimLeft, List.dropWhile_append, ← trimLeft, ← trimLeft, solid]
  cases trimmed : trimLeft text with
  | nil =>
    have different : q ≠ '=' := by
      rintro rfl
      cases quote
    simp [different]
  | cons c more =>
    have suffix : c :: more <:+ text := trimmed ▸ List.dropWhile_suffix isBlank
    simp only [List.isEmpty_cons, Bool.false_eq_true, if_false, List.cons_append]
    by_cases equals : c = '='
    · subst equals
      exact quotedValue?_of_quoteless quote
        (fun d mem => quoteless d (suffix.subset (List.mem_cons_of_mem _ mem))) after
    · simp [equals]

variable {a : Attribute} {attributes : List Attribute} {blanks : Text}

theorem IsAttributeName.not_mem_of_isBlank {c : Char} (isName : IsAttributeName name)
    (blank : isBlank c = true) : c ∉ name :=
  isName.not_mem (isWord_of_isBlank blank)

theorem IsAttributeName.not_mem_of_isQuote {c : Char} (isName : IsAttributeName name)
    (quote : isQuote c = true) : c ∉ name :=
  isName.not_mem (isWord_of_isQuote quote)

namespace Attribute

theorem blanks_of (a : Attribute) : (∀ c ∈ a.before, isBlank c = true) ∧
    (∀ c ∈ a.left, isBlank c = true) ∧ ∀ c ∈ a.right, isBlank c = true := by
  have blank := a.blank
  simp only [List.all_append, Bool.and_eq_true, List.all_eq_true] at blank
  exact ⟨blank.1.1, blank.1.2, blank.2⟩

theorem not_isQuote_of_mem_value {c : Char} (mem : c ∈ a.value) : isQuote c = false := by
  simpa using List.all_eq_true.1 a.quoteless c mem

theorem solid_of_mem_name {c : Char} (mem : c ∈ a.name) : isBlank c = false ∧ c ≠ '=' := by
  have sign := List.all_eq_true.1 a.named.2 c mem
  simp only [Bool.or_eq_true, beq_iff_eq] at sign
  rcases sign with word | rfl
  · refine ⟨?_, ?_⟩
    · rw [← Bool.not_eq_true]
      exact fun blank => by simp [isWord_of_isBlank blank] at word
    · rintro rfl
      exact absurd word (by decide)
  · decide

/-- The name of the attribute ends with `name`, as a word of its own. -/
def IsNamed (name : Text) (a : Attribute) : Prop := HoldsWord none name List.isEmpty a.name

/-- The value of the attribute ends with `name`, as a word of its own, and an equals sign. -/
def Assigns (name : Text) (a : Attribute) : Prop := HoldsWord none name isEquals a.value

instance : Decidable (a.IsNamed name) := inferInstanceAs (Decidable (HoldsWord ..))

instance : Decidable (a.Assigns name) := inferInstanceAs (Decidable (HoldsWord ..))

/-- What decides when `name` is asked for: the value of the first attribute that is named so, unless
a value before it assigns, and then what follows that value up to the next quote. -/
def deciding (name : Text) : List Attribute → Option Text
  | [] => none
  | a :: rest =>
    if a.IsNamed name then some a.value
    else if a.Assigns name then rest.head?.map front
    else deciding name rest

end Attribute

/-- Where the name of an attribute ends, its value is assigned. -/
theorem assignment?_of_suffix (a : Attribute) (after : Text) {rest : Text}
    (suffix : rest <:+ a.name) :
    assignment? (rest ++ (a.left ++ '=' :: (a.right ++ a.quote :: (a.value ++ a.quote :: after)))) =
      if rest.isEmpty then some (a.value, after) else none := by
  obtain ⟨_, blankLeft, blankRight⟩ := a.blanks_of
  cases rest with
  | nil =>
    exact assignment?_spelled blankLeft blankRight a.quotes a.quotes a.filled
      (fun _ => a.not_isQuote_of_mem_value) after
  | cons c rest =>
    obtain ⟨solid, different⟩ := a.solid_of_mem_name (suffix.subset List.mem_cons_self)
    exact assignment?_cons_eq_none solid different _

/-- Up to its value, an attribute holds reading up only by its name. -/
theorem attributeValue?_front (isName : IsAttributeName name) (a : Attribute) (after : Text) :
    attributeValue? name before (a.front ++ a.quote :: (a.value ++ a.quote :: after)) =
      (if a.IsNamed name then some a.value else none).or
        (attributeValue? name (some a.quote) (a.value ++ a.quote :: after)) := by
  obtain ⟨blankBefore, blankLeft, blankRight⟩ := a.blanks_of
  let sign := a.left ++ '=' :: (a.right ++ [a.quote])
  have shape : a.front ++ a.quote :: (a.value ++ a.quote :: after) =
      a.before ++ (a.name ++ (sign ++ (a.value ++ a.quote :: after))) := by
    simp [Attribute.front, sign]
  have unsigned : ∀ c ∈ sign, c ∉ name := by
    simp only [sign, List.forall_mem_append, List.forall_mem_cons]
    exact ⟨fun c mem => isName.not_mem_of_isBlank (blankLeft c mem), isName.not_mem (by decide),
      fun c mem => isName.not_mem_of_isBlank (blankRight c mem),
      isName.not_mem_of_isQuote a.quotes, nofun⟩
  have apart : ∀ c ∈ (sign ++ (a.value ++ a.quote :: after)).head?, c ∉ name := by
    obtain ⟨d, more, whole⟩ := List.exists_cons_of_ne_nil (show sign ≠ [] by simp [sign])
    rw [whole] at unsigned ⊢
    simpa using unsigned d List.mem_cons_self
  have last : sign.getLast? = some a.quote := by
    simp [sign, List.getLast?_append, List.getLast?_cons]
  have parted : (a.before.getLast?.or before).any Text.isWord = false := by
    rw [List.getLast?_eq_some_getLast a.parted]
    exact isWord_of_isBlank (blankBefore _ (List.getLast_mem a.parted))
  have assigned (rest : Text) (suffix : rest <:+ a.name) :
      assignment? (rest ++ (sign ++ (a.value ++ a.quote :: after))) =
        if rest.isEmpty then some (a.value, after) else none := by
    simpa [sign] using assignment?_of_suffix a after suffix
  rw [shape,
    attributeValue?_foreign isName fun c mem => isName.not_mem_of_isBlank (blankBefore c mem),
    attributeValue?_through List.isEmpty (some (a.value, after)) isName apart assigned,
    attributeValue?_foreign isName unsigned, last]
  simp only [holdsWord_of_foreign parted, Attribute.IsNamed]
  rfl

/-- A value holds reading up only if it looks like the beginning of an assignment. -/
theorem attributeValue?_value (isName : IsAttributeName name) (a : Attribute) (after : Text) :
    attributeValue? name (some a.quote) (a.value ++ a.quote :: after) =
      (if a.Assigns name then (quotedValue? (a.quote :: after)).map Prod.fst else none).or
        (attributeValue? name (some a.quote) after) := by
  have unquoted := isName.not_mem_of_isQuote a.quotes
  have quoted : (some a.quote).any Text.isWord = false := isWord_of_isQuote a.quotes
  have assigned (rest : Text) (suffix : rest <:+ a.value) : assignment? (rest ++ a.quote :: after) =
      if isEquals rest then quotedValue? (a.quote :: after) else none :=
    assignment?_of_quoteless a.quotes
      (fun c mem => a.not_isQuote_of_mem_value (suffix.subset mem)) after
  rw [attributeValue?_through isEquals (quotedValue? (a.quote :: after)) isName
    (by simpa using unquoted) assigned, attributeValue?_cons_of_not_mem isName unquoted]
  simp only [holdsWord_of_foreign quoted, Attribute.Assigns]
  rfl

/-- Reading goes through an attribute unless its name or its value holds it up. -/
theorem attributeValue?_render (isName : IsAttributeName name) (a : Attribute) (after : Text) :
    attributeValue? name before (a.render ++ after) =
      (if a.IsNamed name then some a.value else none).or
        ((if a.Assigns name then (quotedValue? (a.quote :: after)).map Prod.fst else none).or
          (attributeValue? name (some a.quote) after)) := by
  have shape : a.render ++ after = a.front ++ a.quote :: (a.value ++ a.quote :: after) := by
    simp [Attribute.render]
  rw [shape, attributeValue?_front isName, attributeValue?_value isName]

/-! ## The whole tag -/

theorem Attribute.not_isQuote_of_mem_front {c : Char} (mem : c ∈ a.front) : isQuote c = false := by
  obtain ⟨blankBefore, blankLeft, blankRight⟩ := a.blanks_of
  simp only [front, List.mem_append, List.mem_cons] at mem
  rcases mem with mem | mem | mem | rfl | mem
  · exact not_isQuote_of_isBlank (blankBefore c mem)
  · have sign := List.all_eq_true.1 a.named.2 c mem
    rw [← Bool.not_eq_true]
    rintro quote
    rw [isWord_of_isQuote quote, Bool.false_or, beq_iff_eq] at sign
    simp [sign, isQuote] at quote
  · exact not_isQuote_of_isBlank (blankLeft c mem)
  · rfl
  · exact not_isQuote_of_isBlank (blankRight c mem)

/-- Behind a quote that opens where a value has ended, what is read is what stands before the next
value. -/
theorem quotedValue?_attributes {q : Char} (quote : isQuote q = true)
    (blank : ∀ c ∈ blanks, isBlank c = true) (attributes : List Attribute) :
    (quotedValue? (q :: (attributes.flatMap Attribute.render ++ (blanks ++ ['>'])))).map Prod.fst =
      attributes.head?.map Attribute.front := by
  cases attributes with
  | nil =>
    have quoteless : ∀ c ∈ blanks ++ ['>'], (!isQuote c) = true := by
      simp only [List.forall_mem_append, List.forall_mem_singleton, Bool.not_eq_true']
      exact ⟨fun c mem => not_isQuote_of_isBlank (blank c mem), rfl⟩
    have whole : (blanks ++ ['>']).takeWhile (fun c => !isQuote c) = blanks ++ ['>'] :=
      List.takeWhile_eq_self_iff.2 quoteless
    rw [List.flatMap_nil, List.nil_append, quotedValue?, whole, List.drop_length]
    rfl
  | cons b rest =>
    have filled : b.front ≠ [] := by simp [Attribute.front]
    have shape : q :: ((b :: rest).flatMap Attribute.render ++ (blanks ++ ['>'])) =
        q :: (b.front ++ b.quote :: (b.value ++ b.quote ::
          (rest.flatMap Attribute.render ++ (blanks ++ ['>'])))) := by
      simp [Attribute.render]
    rw [shape,
      quotedValue?_spelled quote b.quotes filled fun _ => Attribute.not_isQuote_of_mem_front]
    rfl

/-- Reading goes through all attributes to the one that decides. -/
theorem attributeValue?_attributes (isName : IsAttributeName name)
    (blank : ∀ c ∈ blanks, isBlank c = true) (before : Option Char) (attributes : List Attribute) :
    attributeValue? name before (attributes.flatMap Attribute.render ++ (blanks ++ ['>'])) =
      Attribute.deciding name attributes := by
  induction attributes generalizing before with
  | nil =>
    have foreign : ∀ c ∈ blanks ++ ['>'], c ∉ name := by
      simp only [List.forall_mem_append, List.forall_mem_singleton]
      exact ⟨fun c mem => isName.not_mem_of_isBlank (blank c mem), isName.not_mem (by decide)⟩
    have through : attributeValue? name before (blanks ++ ['>'] ++ []) =
        attributeValue? name ((blanks ++ ['>']).getLast?.or before) [] :=
      attributeValue?_foreign isName foreign
    rw [List.append_nil] at through
    exact through
  | cons a rest ih =>
    rw [List.flatMap_cons, List.append_assoc, attributeValue?_render isName,
      quotedValue?_attributes a.quotes blank, ih, Attribute.deciding]
    split
    · rfl
    · split
      · cases rest <;> rfl
      · rfl

/-- An attribute does not run into what stands before it. -/
theorem Attribute.isApart_render (a : Attribute) (after : Text) : IsApart (a.render ++ after) := by
  obtain ⟨blank, -, -⟩ := a.blanks_of
  obtain ⟨c, blanks, begins⟩ := List.exists_cons_of_ne_nil a.parted
  obtain ⟨d, letters, named⟩ := List.exists_cons_of_ne_nil a.named.1
  obtain ⟨solid, different⟩ := a.solid_of_mem_name (named ▸ List.mem_cons_self)
  rw [render, front, List.append_assoc, List.append_assoc]
  refine ⟨?_, c, _, by rw [begins, List.cons_append], ?_⟩
  · rw [Detached, trimLeft_append_of_blank blank, named]
    exact detached_cons solid different _
  · exact isWord_of_isBlank (blank c (begins ▸ List.mem_cons_self))

/-- Nor does a list of attributes with the end of the tag. -/
theorem isApart_attributes (blank : ∀ c ∈ blanks, isBlank c = true) (attributes : List Attribute) :
    IsApart (attributes.flatMap Attribute.render ++ (blanks ++ ['>'])) := by
  cases attributes with
  | nil =>
    refine ⟨⟨'>', [], trimLeft_append_of_blank blank _, by decide⟩, ?_⟩
    cases blanks with
    | nil => exact ⟨'>', [], rfl, by decide⟩
    | cons c blanks => exact ⟨c, _, rfl, isWord_of_isBlank (blank c List.mem_cons_self)⟩
  | cons a rest =>
    rw [List.flatMap_cons, List.append_assoc]
    exact a.isApart_render _

/-- The tag itself is passed over. -/
theorem attributeValue?_openingAttributes {tag : Text} (isTagName : IsTagName tag)
    (isName : IsAttributeName name) (blank : ∀ c ∈ blanks, isBlank c = true)
    (attributes : List Attribute) :
    attributeValue? name none (Attribute.openingTag tag attributes blanks) =
      Attribute.deciding name attributes := by
  have unassigned : '=' ∉ Region.opener tag := by
    intro mem
    have inTag : '=' ∈ tag := by simpa [Region.opener] using mem
    exact isTagName.plain _ inTag (by decide)
  rw [Attribute.openingTag, attributeValue?_append isName unassigned (isApart_attributes blank _),
    attributeValue?_attributes isName blank]

/-- The attribute of the asked name decides, unless something before it does. -/
theorem Attribute.deciding_eq_find?
    (clear : ∀ a ∈ attributes.takeWhile (fun a => a.name ≠ name),
      ¬ a.IsNamed name ∧ ¬ a.Assigns name) :
    deciding name attributes = (attributes.find? fun a => a.name = name).map value := by
  induction attributes with
  | nil => rfl
  | cons a rest ih =>
    by_cases named : a.name = name
    · have isNamed : a.IsNamed name := ⟨[], [], by simp [named], rfl, rfl⟩
      rw [deciding, if_pos isNamed, List.find?_cons_of_pos (by simpa using named), Option.map_some]
    · rw [List.takeWhile_cons_of_pos (by simpa using named), List.forall_mem_cons] at clear
      rw [deciding, if_neg clear.1.1, if_neg clear.1.2,
        List.find?_cons_of_neg (by simpa using named)]
      exact ih clear.2

/-- The items that are read are those of what decides. Where no name before the asked one ends with
it and no value before it assigns, these are the items of the attribute of exactly that name, and
there are none if no attribute has it. -/
theorem attributeItems_openingTag {tag : Text} (isTagName : IsTagName tag)
    (isName : IsAttributeName name) (blank : ∀ c ∈ blanks, isBlank c = true)
    (attributes : List Attribute) :
    attributeItems name (Attribute.openingTag tag attributes blanks) =
        (Attribute.deciding name attributes).elim [] (trimmedPieces ',') ∧
      ((∀ a ∈ attributes.takeWhile (fun a => a.name ≠ name),
          ¬ a.IsNamed name ∧ ¬ a.Assigns name) →
        attributeItems name (Attribute.openingTag tag attributes blanks) =
          (attributes.find? fun a => a.name = name).elim []
            fun a => trimmedPieces ',' a.value) := by
  have read : attributeItems name (Attribute.openingTag tag attributes blanks) =
      (Attribute.deciding name attributes).elim [] (trimmedPieces ',') := by
    rw [attributeItems, attributeValue?_openingAttributes isTagName isName blank]
    cases Attribute.deciding name attributes <;> rfl
  refine ⟨read, fun clear => ?_⟩
  rw [read, Attribute.deciding_eq_find? clear]
  cases attributes.find? fun a => a.name = name <;> rfl

/-- Names and values that resemble the asked name do not decide. -/
theorem attributeItems_openingTag_among_others :
    let tag := Settings.default.filterTag
    let attributes : List Attribute :=
      [{ name := "title", value := "include me" }, { name := "xinclude", value := "d" },
        { before := "\n", name := "include", left := " ", quote := '\'', value := "a, ,b" },
        { name := "exclude", right := " ", value := "c" }, { name := "data-include", value := "e" }]
    let opening := Attribute.openingTag tag attributes " "
    (IsTagName tag ∧ IsAttributeName "include" ∧ IsAttributeName "exclude" ∧
      ∀ c ∈ (" " : Text), isBlank c = true) ∧
    attributeItems "include" opening = ["a", "b"].map String.toList ∧
      attributeItems "exclude" opening = ["c"].map String.toList := by
  intro tag attributes opening
  have blank : ∀ c ∈ (" " : Text), isBlank c = true := by simp; decide
  refine ⟨⟨isTagName_default, isAttributeName_include, isAttributeName_exclude, blank⟩, ?_, ?_⟩
  · exact ((attributeItems_openingTag isTagName_default isAttributeName_include blank attributes).2
      (by decide +kernel)).trans (by decide)
  · exact ((attributeItems_openingTag isTagName_default isAttributeName_exclude blank attributes).2
      (by decide +kernel)).trans (by decide)

/-- Behind a hyphen the asked name begins a word, so an attribute of a longer name decides. -/
theorem attributeItems_hyphenated :
    let attributes : List Attribute :=
      [{ name := "data-include", value := "a" }, { name := "include", value := "b" }]
    (attributes.map Attribute.name).Nodup ∧
      (attributes.find? fun a => a.name = ("include" : Text)).map Attribute.value = some "b" ∧
      attributeItems "include" (Attribute.openingTag Settings.default.filterTag attributes []) =
        ["a"].map String.toList := by
  decide +kernel

end Markup

end DocWeave
