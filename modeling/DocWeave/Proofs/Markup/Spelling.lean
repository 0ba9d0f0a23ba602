import DocWeave.Proofs.Markup.Directive
import DocWeave.Proofs.Markup.Visibility

/-! # How directives are spelled

A directive is a bracket and the tag, the attribute with the path, perhaps one with a pipeline, and
an ending. Blanks stand before every attribute, any more may stand around its equals sign and before
the ending, and either quote opens and closes a value. Reading gives back the path and the pipeline
that are spelled. A text that spells one directive has no other, and the filter lets it pass.
-/

namespace DocWeave

open Text Markup

namespace Markup

/-- An attribute as it may stand in a tag, with the blanks before it. -/
inductive SpellsAttribute (name value : Text) : Text → Prop where
  | intro {before left right : Text} {opening closing : Char} (parted : before ≠ [])
      (blank : ∀ c ∈ before ++ left ++ right, isBlank c = true)
      (opens : isQuote opening = true) (closes : isQuote closing = true)
      (filled : value ≠ []) (quoteless : ∀ c ∈ value, isQuote c = false) :
      SpellsAttribute name value
        (before ++ name ++ left ++ ['='] ++ right ++ [opening] ++ value ++ [closing])

end Markup

namespace Directive

/-- The ways in which a directive may end. -/
def endings (tag : Text) : List Text := ["/>", "></" ++ tag ++ ">"]

/-- The attributes of a directive. -/
inductive SpellsAttributes (path : Text) : Option Text → Text → Prop where
  | plain {first : Text} (named : SpellsAttribute "path" path first) :
      SpellsAttributes path none first
  | piped {first second spec : Text} (named : SpellsAttribute "path" path first)
      (specified : SpellsAttribute "pipelines" spec second) :
      SpellsAttributes path (some spec) (first ++ second)

/-- A text that is one directive. -/
inductive Spells (tag path : Text) (pipelines : Option Text) : Text → Prop where
  | intro {attributes blanks ending : Text}
      (attributed : SpellsAttributes path pipelines attributes)
      (blank : ∀ c ∈ blanks, isBlank c = true) (ends : ending ∈ endings tag) :
      Spells tag path pipelines ('<' :: tag ++ attributes ++ blanks ++ ending)

/-! ## Reading what is spelled -/

variable {tag path name value text : Text} {pipelines : Option Text}

theorem after?_append (expected rest : Text) : after? expected (expected ++ rest) = some rest := by
  rw [after?, if_pos (List.isPrefixOf_iff_prefix.mpr (List.prefix_append expected rest)),
    List.drop_left]

/-- Reading an attribute of a name that begins a word gives its value and what follows it. -/
theorem attribute?_of_spells {c : Char} {letters : Text} (spells : SpellsAttribute name value text)
    (named : name = c :: letters) (solid : isBlank c = false) (rest : Text) :
    attribute? name (text ++ rest) = some (value, rest) := by
  obtain @⟨before, left, right, opening, closing, parted, blank, opens, closes, filled,
    quoteless⟩ := spells
  simp only [List.forall_mem_append] at blank
  obtain ⟨⟨blankBefore, blankLeft⟩, blankRight⟩ := blank
  let assigned := left ++ '=' :: (right ++ opening :: (value ++ closing :: rest))
  have shape : before ++ name ++ left ++ ['='] ++ right ++ [opening] ++ value ++ [closing] ++ rest =
      before ++ (name ++ assigned) := by simp [assigned]
  have reached : afterBlanks? (before ++ (name ++ assigned)) = some (name ++ assigned) := by
    obtain ⟨b, more, rfl⟩ := List.exists_cons_of_ne_nil parted
    rw [List.forall_mem_cons] at blankBefore
    rw [List.cons_append, afterBlanks?, if_pos blankBefore.1,
      trimLeft_append_of_blank blankBefore.2, named, List.cons_append, trimLeft_cons_of_solid solid]
  have assignment : assignment? assigned = some (value, rest) :=
    assignment?_spelled blankLeft blankRight opens closes filled quoteless rest
  simp only [attribute?, shape, reached, after?_append, assignment, Option.bind_eq_bind,
    Option.bind_some]

/-- Where an ending comes next, there is no further attribute. -/
theorem attribute?_of_ends {blanks ending : Text} (blank : ∀ c ∈ blanks, isBlank c = true)
    (ends : ending ∈ endings tag) (rest : Text) :
    attribute? "pipelines" (blanks ++ ending ++ rest) = none := by
  obtain ⟨c, more, rfl, solid, foreign⟩ : ∃ c more, ending = c :: more ∧ isBlank c = false ∧
      c ≠ 'p' := by
    simp only [endings, List.mem_cons, List.not_mem_nil, or_false] at ends
    rcases ends with rfl | rfl
    · exact ⟨'/', [ '>'], rfl, by decide, by decide⟩
    · exact ⟨'>', _, rfl, by decide, by decide⟩
  have unnamed : after? "pipelines" (c :: (more ++ rest)) = none := by
    rw [after?, if_neg]
    intro occurs
    exact foreign (List.cons_prefix_cons.mp (List.isPrefixOf_iff_prefix.mp occurs)).1.symm
  rw [List.append_assoc, List.cons_append]
  cases blanks with
  | nil => simp [attribute?, afterBlanks?, solid]
  | cons b blanks =>
    rw [List.forall_mem_cons] at blank
    simp only [attribute?, List.cons_append, afterBlanks?, blank.1, if_true,
      trimLeft_append_of_blank blank.2, trimLeft_cons_of_solid solid, Option.bind_eq_bind,
      Option.bind_some, unnamed, Option.bind_none]

theorem afterEnd?_of_ends {blanks ending : Text} (blank : ∀ c ∈ blanks, isBlank c = true)
    (ends : ending ∈ endings tag) (rest : Text) :
    afterEnd? tag (blanks ++ ending ++ rest) = some rest := by
  rw [afterEnd?, List.append_assoc, trimLeft_append_of_blank blank]
  simp only [endings, List.mem_cons, List.not_mem_nil, or_false] at ends
  rcases ends with rfl | rfl
  · rw [show trimLeft ("/>".toList ++ rest) = "/>".toList ++ rest from
      trimLeft_cons_of_solid (by decide) _, after?_append]
    rfl
  · have trimmed : trimLeft ("></" ++ tag ++ ">" ++ rest : Text) = "></" ++ tag ++ ">" ++ rest :=
      trimLeft_cons_of_solid (by decide) _
    have other : after? "/>" ("></" ++ tag ++ ">" ++ rest : Text) = none := rfl
    rw [trimmed, other, after?_append]
    rfl

/-- Reading a directive gives the path and the pipeline that it spells, and what follows it. -/
theorem read?_of_spells (spells : Spells tag path pipelines text) (rest : Text) :
    read? tag (text ++ rest) = some (path, pipelines, rest) := by
  obtain @⟨attributes, blanks, ending, attributed, blank, ends⟩ := spells
  have shape : '<' :: tag ++ attributes ++ blanks ++ ending ++ rest =
      '<' :: tag ++ (attributes ++ (blanks ++ ending ++ rest)) := by simp
  rw [shape, read?, after?_append, Option.bind_eq_bind, Option.bind_some]
  cases attributed with
  | plain named =>
    simp only [attribute?_of_spells named rfl (by decide), attribute?_of_ends blank ends,
      afterEnd?_of_ends blank ends, Option.bind_eq_bind, Option.bind_some, Option.pure_def]
  | piped named specified =>
    simp only [List.append_assoc _ _ (blanks ++ ending ++ rest),
      attribute?_of_spells named rfl (by decide), attribute?_of_spells specified rfl (by decide),
      afterEnd?_of_ends blank ends, Option.bind_eq_bind, Option.bind_some, Option.pure_def]

theorem findFrom_skip (tag : Text) (position : Nat) (text : Text) :
    findFrom tag position text.length text = [] := by
  induction text generalizing position with
  | nil => rfl
  | cons c text ih => exact ih (position + 1)

/-- A text that spells a directive has this directive alone. -/
theorem findAll_of_spells (spells : Spells tag path pipelines text) :
    findAll tag text = [⟨path, pipelines, text, 0, text.length⟩] := by
  have read := read?_of_spells spells []
  obtain ⟨body, rfl⟩ : ∃ body, text = '<' :: body := by
    obtain ⟨_, _, _⟩ := spells
    exact ⟨_, rfl⟩
  rw [List.append_nil] at read
  rw [findAll, findFrom, read]
  simp [findFrom_skip]

/-! ## Spelled directives and the filter -/

end Directive

/-- The tags cannot be taken for each other: a filter tag is a name without blanks, and no include
tag begins with it or holds a bracket. -/
structure Settings.TagsApart (settings : Settings) : Prop where
  isTagName : IsTagName settings.filterTag
  solid : ∀ c ∈ settings.filterTag, isBlank c = false
  unbracketed : '<' ∉ settings.includeTag
  different : ¬ settings.filterTag <+: settings.includeTag

theorem Settings.tagsApart_default : Settings.default.TagsApart := by
  have solid : Settings.default.filterTag.any isBlank = false := by decide
  refine ⟨isTagName_default, fun c mem => ?_, by decide, by decide⟩
  exact Bool.eq_false_iff.mpr (List.any_eq_false.mp solid c mem)

namespace Directive

variable {tag path text attributes : Text} {pipelines : Option Text}

/-- No bracket stands in an attribute whose value has none. -/
theorem not_mem_of_spellsAttribute {name value : Text} (spells : SpellsAttribute name value text)
    (unnamed : '<' ∉ name) (unbracketed : '<' ∉ value) : '<' ∉ text := by
  obtain @⟨before, left, right, opening, closing, parted, blank, opens, closes, filled,
    quoteless⟩ := spells
  intro mem
  have unblank : '<' ∉ before ++ left ++ right := fun mem => absurd (blank _ mem) (by decide)
  have unopened : '<' ≠ opening := by rintro rfl; simp [isQuote] at opens
  have unclosed : '<' ≠ closing := by rintro rfl; simp [isQuote] at closes
  simp_all

theorem not_mem_of_spellsAttributes (spells : SpellsAttributes path pipelines attributes)
    (unbracketed : '<' ∉ path) (plain : ∀ spec ∈ pipelines, '<' ∉ spec) : '<' ∉ attributes := by
  cases spells with
  | plain named => exact not_mem_of_spellsAttribute named (by decide) unbracketed
  | piped named specified =>
    rw [List.mem_append, not_or]
    exact ⟨not_mem_of_spellsAttribute named (by decide) unbracketed,
      not_mem_of_spellsAttribute specified (by decide) (plain _ rfl)⟩

/-- Attributes begin with a blank. -/
theorem exists_blank_of_spellsAttributes (spells : SpellsAttributes path pipelines attributes) :
    ∃ c rest, attributes = c :: rest ∧ isBlank c = true := by
  have first {name value text : Text} (spells : SpellsAttribute name value text) :
      ∃ c rest, text = c :: rest ∧ isBlank c = true := by
    obtain ⟨parted, blank, _, _, _, _⟩ := spells
    obtain ⟨c, more, rfl⟩ := List.exists_cons_of_ne_nil parted
    exact ⟨c, _, rfl, blank c (by simp)⟩
  cases spells with
  | plain named => exact first named
  | piped named _ =>
    obtain ⟨c, rest, rfl, blank⟩ := first named
    exact ⟨c, _, rfl, blank⟩

/-- The filter passes over a spelled directive whose values hold no brackets. -/
theorem find?_opener_of_spells {settings : Settings} (tags : settings.TagsApart)
    (spells : Spells settings.includeTag path pipelines text) (unbracketed : '<' ∉ path)
    (plain : ∀ spec ∈ pipelines, '<' ∉ spec) :
    find? (Region.opener settings.filterTag) text = none := by
  obtain @⟨attributes, blanks, ending, attributed, blank, ends⟩ := spells
  obtain ⟨b, more, rfl, isBlank⟩ := exists_blank_of_spellsAttributes attributed
  have unmarked : '<' ∉ settings.includeTag ++ (b :: more) ++ blanks := by
    have unattributed := not_mem_of_spellsAttributes attributed unbracketed plain
    have unblank : '<' ∉ blanks := fun mem => absurd (blank _ mem) (by decide)
    simp only [List.mem_append, not_or]
    exact ⟨⟨tags.unbracketed, unattributed⟩, unblank⟩
  have foreign : b ∉ settings.filterTag := fun mem => by simp [tags.solid b mem] at isBlank
  -- The first bracket is followed by the include tag, which the filter tag does not begin.
  have front : Skips (Region.opener settings.filterTag)
      ('<' :: (settings.includeTag ++ (b :: more) ++ blanks)) ending := by
    refine .cons (fun occurs => ?_) (skips_of_not_mem _ unmarked)
    have begins := (List.cons_prefix_cons.mp occurs).2
    rw [List.append_assoc, List.append_assoc] at begins
    exact tags.different (prefix_of_prefix_append begins (by simpa using foreign))
  have back : Skips (Region.opener settings.filterTag) ending [] := by
    simp only [endings, List.mem_cons, List.not_mem_nil, or_false] at ends
    rcases ends with rfl | rfl
    · exact skips_of_not_mem _ (by decide)
    · rw [show ("></" ++ settings.includeTag ++ ">" : Text) =
        '>' :: '<' :: '/' :: (settings.includeTag ++ ['>']) from rfl]
      refine .cons (fun occurs => ?_) (.cons (fun occurs => ?_) (skips_of_not_mem _ ?_))
      · exact absurd (List.cons_prefix_cons.mp occurs).1 (by decide)
      · -- A closing tag goes on with a slash, which no filter tag begins with.
        have begins := (List.cons_prefix_cons.mp occurs).2
        obtain ⟨c, letters, named⟩ := List.exists_cons_of_ne_nil tags.isTagName.nonempty
        rw [named] at begins
        obtain rfl := (List.cons_prefix_cons.mp begins).1
        exact tags.isTagName.opens (by rw [named]; rfl)
      · simpa using tags.unbracketed
  have shape : '<' :: settings.includeTag ++ (b :: more) ++ blanks ++ ending =
      '<' :: (settings.includeTag ++ (b :: more) ++ blanks) ++ (ending ++ []) := by simp
  have nothing : find? (Region.opener settings.filterTag) [] = none :=
    find?_nil (List.cons_ne_nil _ _)
  rw [shape, find?_append_of_skips (by simpa using front), find?_append_of_skips back, nothing]
  rfl

end Directive

end DocWeave
