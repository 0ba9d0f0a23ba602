import DocWeave.Proofs.Markup.Forest
import DocWeave.Settings.Basic

/-! # Regions of printed forests

Counting levels over a printed forest comes back to the level it started from, but for the opening
markers that stand in its leaves. Where there are none, the closing tag that matches an opening tag
is the one that was printed for it. The opening tag ends at its first
bracket and its attributes are read as they were listed. A search from a later place sees only what
is left of the text there.
-/

namespace DocWeave

namespace Markup

/-- A tag name holds no sign of a tag and does not make an opening tag look like a closing one. -/
structure IsTagName (tag : Text) : Prop where
  nonempty : tag ≠ []
  plain : ∀ c ∈ tag, c ∉ ['<', '>', '=']
  opens : tag.head? ≠ some '/'

instance : DecidablePred IsTagName := fun tag =>
  have := List.decidableBAll (fun c => c ∉ ['<', '>', '=']) tag
  decidable_of_iff (tag ≠ [] ∧ (∀ c ∈ tag, c ∉ ['<', '>', '=']) ∧ tag.head? ≠ some '/')
    ⟨fun ⟨nonempty, plain, opens⟩ => ⟨nonempty, plain, opens⟩,
      fun isTagName => ⟨isTagName.nonempty, isTagName.plain, isTagName.opens⟩⟩

theorem isTagName_default : IsTagName Settings.default.filterTag := by decide

theorem isAttributeName_include : IsAttributeName "include" := by decide

theorem isAttributeName_exclude : IsAttributeName "exclude" := by decide

end Markup

open Markup Text

namespace Region

variable {tag text leaf after : Text} {depth : Int}

theorem isMarker_opener (isTagName : IsTagName tag) : IsMarker (opener tag) :=
  ⟨tag, rfl, fun mem => isTagName.plain _ mem (by decide)⟩

theorem isMarker_closer (isTagName : IsTagName tag) : IsMarker (closer tag) := by
  refine ⟨'/' :: tag ++ ['>'], by simp [closer], ?_⟩
  intro mem
  have inTag : '<' ∈ tag := by simpa using mem
  exact isTagName.plain _ inTag (by decide)

/-! ## Counting levels -/

/-- An opening marker goes one level down. -/
theorem closeOffset?_opener (isTagName : IsTagName tag) (after : Text) :
    closeOffset? (opener tag) (closer tag) 0 depth (opener tag ++ after) =
      (closeOffset? (opener tag) (closer tag) 0 (depth + 1) after).map
        (· + (opener tag).length) := by
  have notCloser : (closer tag).isPrefixOf (opener tag ++ after) = false := by
    obtain ⟨c, name, rfl⟩ := List.exists_cons_of_ne_nil isTagName.nonempty
    have different : c ≠ '/' := fun slash => isTagName.opens (by rw [slash]; rfl)
    simp [closer, opener, List.isPrefixOf, beq_false_of_ne (Ne.symm different)]
  have stands : (opener tag).isPrefixOf (opener tag ++ after) = true :=
    List.isPrefixOf_iff_prefix.mpr (List.prefix_append ..)
  rw [opener, List.cons_append] at stands notCloser ⊢
  rw [closeOffset?, if_neg (by simp [notCloser]), if_pos stands, List.length_cons,
    Nat.add_sub_cancel, closeOffset?_skip, Option.map_map]
  rfl

/-- A closing tag comes back one level. -/
theorem closeOffset?_closer (tag after : Text) :
    closeOffset? (opener tag) (closer tag) 0 depth (closer tag ++ after) =
      if depth = 1 then some 0
      else (closeOffset? (opener tag) (closer tag) 0 (depth - 1) after).map
        (· + (closer tag).length) := by
  have length : (closer tag).length = ('/' :: tag ++ ['>']).length + 1 := by simp [closer]
  have whole : closer tag ++ after = '<' :: ('/' :: tag ++ ['>'] ++ after) := by simp [closer]
  have stands : (closer tag).isPrefixOf (closer tag ++ after) = true :=
    List.isPrefixOf_iff_prefix.mpr (List.prefix_append ..)
  rw [whole] at stands ⊢
  rw [closeOffset?, if_pos stands, length, Nat.add_sub_cancel, closeOffset?_skip, Option.map_map]
  rfl

/-- A leaf without closing tags goes down by the markers that it holds. -/
theorem closeOffset?_leaf (isTagName : IsTagName tag) (noCloser : ¬ closer tag <:+: leaf)
    (bracketed : ∀ c ∈ after.head?, c = '<') :
    closeOffset? (opener tag) (closer tag) 0 depth (leaf ++ after) =
      (closeOffset? (opener tag) (closer tag) 0 (depth + openings tag leaf) after).map
        (· + leaf.length) := by
  induction leaf generalizing depth with
  | nil => simp [openings, occurrences]
  | cons c leaf ih =>
    have unclosed : ¬ closer tag <+: c :: (leaf ++ after) := fun occurs =>
      noCloser ((isMarker_closer isTagName).prefix_cons bracketed occurs).isInfix
    have opens : opener tag <+: c :: (leaf ++ after) ↔ opener tag <+: c :: leaf :=
      ⟨(isMarker_opener isTagName).prefix_cons bracketed,
        fun stands => stands.trans (List.prefix_append (c :: leaf) after)⟩
    have level : depth + turn (opener tag) (closer tag) (c :: (leaf ++ after)) + openings tag leaf =
        depth + openings tag (c :: leaf) := by
      rw [turn, openings_cons, if_neg unclosed]
      simp only [opens]
      split <;> omega
    rw [List.cons_append, closeOffset?_cons (isMarker_opener isTagName) (isMarker_closer isTagName)
        (fun both => unclosed both.2), if_neg (fun closes => unclosed closes.1),
      ih (fun occurs => noCloser (List.infix_cons occurs)), level, Option.map_map]
    rfl

/-! ## Printed forests -/

variable {audience : Audience}

theorem not_mem_listing {c : Char} (plain : ∀ name ∈ audience.names, IsPlain name)
    (bracket : c = '<' ∨ c = '>') : c ∉ audience.listing := by
  intro mem
  rcases List.mem_append.mp mem with shown | hidden
  · exact not_mem_written isAttributeName_include
      (fun name mem => plain name (List.mem_append_left _ mem)) bracket shown
  · exact not_mem_written isAttributeName_exclude
      (fun name mem => plain name (List.mem_append_right _ mem)) bracket hidden

/-- A whole opening tag goes one level down. -/
theorem closeOffset?_openingTag (isTagName : IsTagName tag)
    (plain : ∀ name ∈ audience.names, IsPlain name) (after : Text) :
    closeOffset? (opener tag) (closer tag) 0 depth (audience.openingTag tag ++ after) =
      (closeOffset? (opener tag) (closer tag) 0 (depth + 1) after).map
        (· + (audience.openingTag tag).length) := by
  have unbracketed : '<' ∉ audience.listing ++ ['>'] := by
    simp [not_mem_listing plain (.inl rfl)]
  rw [Audience.openingTag, List.append_assoc, closeOffset?_opener isTagName,
    closeOffset?_append_of_skips ((isMarker_opener isTagName).skips unbracketed)
      ((isMarker_closer isTagName).skips unbracketed), Option.map_map]
  congr 1
  funext offset
  simp only [Function.comp_apply, List.length_append]
  omega

theorem head?_render {forest : Forest} (separate : forest.startsWithText = false)
    (bracketed : ∀ c ∈ after.head?, c = '<') : ∀ c ∈ (forest.render tag ++ after).head?, c = '<' := by
  cases forest with
  | nil => exact bracketed
  | text leaf rest => cases separate
  | region audience children rest =>
    intro c first
    have opens : '<' = c := by
      simpa [Forest.render, Audience.openingTag, opener] using first
    exact opens.symm

/-- A printed forest that begins with no leaf begins with a bracket, if with anything. -/
theorem head?_render_of_separate {forest : Forest} (separate : forest.startsWithText = false) :
    ∀ c ∈ (forest.render tag).head?, c = '<' := by
  have bracketed : ∀ c ∈ (forest.render tag ++ []).head?, c = '<' := head?_render separate (by simp)
  rwa [List.append_nil] at bracketed

/-- Within a region, a printed forest goes down by the stray markers in its leaves. -/
theorem closeOffset?_strays (isTagName : IsTagName tag) {forest : Forest}
    (obeys : forest.Obeys (Forest.ClosesNothing tag) IsPlain) (inside : 1 ≤ depth)
    (bracketed : ∀ c ∈ after.head?, c = '<') :
    closeOffset? (opener tag) (closer tag) 0 depth (forest.render tag ++ after) =
      (closeOffset? (opener tag) (closer tag) 0 (depth + forest.strays tag) after).map
        (· + (forest.render tag).length) := by
  induction forest generalizing depth after with
  | nil => simp [Forest.render, Forest.strays]
  | text leaf rest ih =>
    obtain ⟨noCloser, separate, obeys⟩ := obeys
    rw [Forest.render, List.append_assoc,
      closeOffset?_leaf isTagName noCloser (head?_render separate bracketed),
      ih obeys (by omega) bracketed, Option.map_map, Forest.strays, Int.natCast_add, Int.add_assoc]
    congr 1
    funext offset
    simp only [Function.comp_apply, List.length_append]
    omega
  | region audience children rest ihChildren ihRest =>
    obtain ⟨plain, obeysChildren, obeysRest⟩ := obeys
    have closes : ∀ c ∈ (closer tag ++ (rest.render tag ++ after)).head?, c = '<' := by
      simp [closer]
    have level : depth + 1 + children.strays tag - 1 + rest.strays tag =
        depth + (Forest.region audience children rest).strays tag := by
      rw [Forest.strays]
      omega
    simp only [Forest.render, List.append_assoc]
    rw [closeOffset?_openingTag isTagName plain, ihChildren obeysChildren (by omega) closes,
      closeOffset?_closer, if_neg (by omega), ihRest obeysRest (by omega) bracketed, level]
    simp only [Option.map_map]
    congr 1
    funext offset
    simp only [Function.comp_apply, List.length_append]
    omega

/-- Within a region, a well-formed forest leaves the level as it was. -/
theorem closeOffset?_render (isTagName : IsTagName tag) {forest : Forest}
    (wellFormed : forest.WellFormed tag IsPlain) (inside : 1 ≤ depth)
    (bracketed : ∀ c ∈ after.head?, c = '<') :
    closeOffset? (opener tag) (closer tag) 0 depth (forest.render tag ++ after) =
      (closeOffset? (opener tag) (closer tag) 0 depth after).map
        (· + (forest.render tag).length) := by
  obtain ⟨obeys, unstrayed⟩ := wellFormed.obeys
  rw [closeOffset?_strays isTagName obeys inside bracketed, unstrayed, Int.natCast_zero,
    Int.add_zero]

/-- The closing tag that matches an opening tag is the one that was printed for it. -/
theorem closeOffset?_region (isTagName : IsTagName tag) {children : Forest}
    (plain : ∀ name ∈ audience.names, IsPlain name)
    (wellFormed : children.WellFormed tag IsPlain) (after : Text) :
    closeOffset? (opener tag) (closer tag) 0 0
        (audience.openingTag tag ++ (children.render tag ++ (closer tag ++ after))) =
      some (audience.openingTag tag ++ children.render tag).length := by
  have closes : ∀ c ∈ (closer tag ++ after).head?, c = '<' := by simp [closer]
  rw [closeOffset?_openingTag isTagName plain, Int.zero_add,
    closeOffset?_render isTagName wellFormed (Int.le_refl 1) closes, closeOffset?_closer, if_pos rfl]
  simp only [Option.map_some, Nat.zero_add, List.length_append, Option.some.injEq]
  omega

/-! ## Reading an opening tag -/

theorem attributeValue?_close {name : Text} (isName : IsAttributeName name) (last : Option Char) :
    attributeValue? name last ['>'] = none := by
  rw [attributeValue?_cons_of_not_mem isName (isName.not_mem (by decide))]
  rfl

/-- The marker of an opening tag is passed over by every search for an attribute. -/
theorem attributeValue?_openingTag {name : Text} (isTagName : IsTagName tag)
    (isName : IsAttributeName name) (audience : Audience) : ∃ last,
    attributeValue? name none (audience.openingTag tag) =
      attributeValue? name last (written "include" audience.shownTo ++
        (written "exclude" audience.hiddenFrom ++ ['>'])) := by
  have unassigned : '=' ∉ opener tag := by
    intro mem
    have inTag : '=' ∈ tag := by simpa [opener] using mem
    exact isTagName.plain _ inTag (by decide)
  have apart : IsApart ['>'] := isApart_cons (by decide) (by decide) (by decide)
  rw [Audience.openingTag, Audience.listing, List.append_assoc,
    attributeValue?_append isName unassigned
      ((apart.written isAttributeName_exclude).written isAttributeName_include)]
  exact ⟨_, rfl⟩

theorem attributeItems_include (isTagName : IsTagName tag)
    (plain : ∀ name ∈ audience.names, IsPlain name) :
    attributeItems "include" (audience.openingTag tag) = trimmed audience.shownTo := by
  obtain ⟨last, reached⟩ := attributeValue?_openingTag isTagName isAttributeName_include audience
  refine attributeItems_eq_trimmed isAttributeName_include
    (fun name mem => plain name (List.mem_append_left _ mem)) reached fun last => ?_
  obtain ⟨last, passed⟩ := attributeValue?_written_of_idle last isAttributeName_include
    isAttributeName_exclude (fun name mem => plain name (List.mem_append_right _ mem))
    (fun ends => absurd ends (by decide)) ['>']
  rw [passed, attributeValue?_close isAttributeName_include]

theorem attributeItems_exclude (isTagName : IsTagName tag)
    (plain : ∀ name ∈ audience.names, IsPlain name) :
    attributeItems "exclude" (audience.openingTag tag) = trimmed audience.hiddenFrom := by
  obtain ⟨first, reached⟩ := attributeValue?_openingTag isTagName isAttributeName_exclude audience
  obtain ⟨last, passed⟩ := attributeValue?_written_of_idle first isAttributeName_exclude
    isAttributeName_include (fun name mem => plain name (List.mem_append_left _ mem))
    (fun ends => absurd ends (by decide)) (written "exclude" audience.hiddenFrom ++ ['>'])
  exact attributeItems_eq_trimmed isAttributeName_exclude
    (fun name mem => plain name (List.mem_append_right _ mem)) (reached.trans passed)
    (attributeValue?_close isAttributeName_exclude)

/-! ## Finding the region -/

/-- The region that a printed tag opens. -/
def printed (tag : Text) (audience : Audience) (children : Forest) : Region where
  shownTo := Ascending.ofList (trimmed audience.shownTo)
  hiddenFrom := Ascending.ofList (trimmed audience.hiddenFrom)
  inner := children.render tag
  start := 0
  stop := (audience.openingTag tag ++ children.render tag).length + (closer tag).length

theorem keeps_printed (children : Forest) (tool : Text) :
    (printed tag audience children).keeps tool = audience.trimmed.admits tool := by
  have nil_iff (names : List Text) : (Ascending.ofList names).isEmpty = names.isEmpty := by
    rw [Bool.eq_iff_iff, List.isEmpty_iff, List.isEmpty_iff, Ascending.ofList_eq_nil_iff]
  have contains_iff (names : List Text) :
      (Ascending.ofList names).contains tool = names.contains tool := by
    rw [Bool.eq_iff_iff, List.contains_iff_mem, List.contains_iff_mem, Ascending.mem_ofList]
  simp only [keeps, printed, Audience.admits, Audience.trimmed, nil_iff, contains_iff]

theorem length_openingTag (tag : Text) (audience : Audience) :
    (audience.openingTag tag).length = (opener tag ++ audience.listing).length + 1 := by
  simp [Audience.openingTag, Nat.add_assoc]

/-- The first closing bracket of an opening tag is its last character. -/
theorem find?_bracket (isTagName : IsTagName tag) (plain : ∀ name ∈ audience.names, IsPlain name)
    (after : Text) :
    find? ">" (audience.openingTag tag ++ after) = some (opener tag ++ audience.listing).length := by
  have unclosed : '>' ∉ opener tag ++ audience.listing := by
    intro mem
    rcases List.mem_append.mp mem with marker | listed
    · have inTag : '>' ∈ tag := by simpa [opener] using marker
      exact isTagName.plain _ inTag (by decide)
    · exact not_mem_listing plain (.inr rfl) listed
  have shape : audience.openingTag tag ++ after =
      (opener tag ++ audience.listing) ++ '>' :: after := by
    simp [Audience.openingTag]
  rw [shape]
  refine (find?_append_of_skips (skips_of_not_mem [] unclosed)).trans ?_
  rw [find?_of_starts (by simp), Option.map_some, Nat.zero_add]

/-- At an opening tag, the region that was printed there is found. -/
theorem findFrom?_printed (isTagName : IsTagName tag) {children : Forest}
    (plain : ∀ name ∈ audience.names, IsPlain name)
    (wellFormed : children.WellFormed tag IsPlain) (after : Text) :
    findFrom? tag (audience.openingTag tag ++ (children.render tag ++ (closer tag ++ after))) 0 =
      some (printed tag audience children) := by
  have closes := closeOffset?_region isTagName plain wellFormed after
  have bracket := find?_bracket isTagName plain (children.render tag ++ (closer tag ++ after))
  have opening := slice_between [] (audience.openingTag tag)
    (children.render tag ++ (closer tag ++ after))
  have inner := slice_between (audience.openingTag tag) (children.render tag) (closer tag ++ after)
  have ordered : ¬ (audience.openingTag tag ++ children.render tag).length <
      (opener tag ++ audience.listing).length := by
    rw [List.length_append, length_openingTag]
    omega
  have opens : opener tag <+:
      audience.openingTag tag ++ (children.render tag ++ (closer tag ++ after)) := by
    simp [Audience.openingTag]
  rw [List.append_assoc, ← List.length_append] at inner
  simp only [List.nil_append, List.length_nil, Nat.zero_add] at opening
  simp only [findFrom?, closeFrom?, findFrom?_zero, find?_of_starts opens, List.drop_zero, closes,
    bracket, bind, Option.bind_some, Option.map_some, Nat.add_zero]
  rw [if_neg ordered, ← length_openingTag, opening, inner, attributeItems_include isTagName plain,
    attributeItems_exclude isTagName plain]
  rfl

/-! ## Moving a search -/

theorem closeFrom?_append (tag before text : Text) (start : Nat) :
    closeFrom? tag (before ++ text) (before.length + start) =
      (closeFrom? tag text start).map (before.length + ·) := by
  have rest : (before ++ text).drop (before.length + start) = text.drop start := by
    simp [List.drop_append, List.drop_eq_nil_of_le]
  rw [closeFrom?, closeFrom?, rest, Option.map_map]
  congr 1
  funext offset
  simp only [Function.comp_apply]
  omega

/-- A region further on in a text. -/
def behind (offset : Nat) (region : Region) : Region :=
  { region with start := offset + region.start, stop := offset + region.stop }

/-- Regions behind a first part are those of what follows it, further on by its length. -/
theorem findFrom?_append (tag before text : Text) (start : Nat) :
    findFrom? tag (before ++ text) (before.length + start) =
      (findFrom? tag text start).map (behind before.length) := by
  simp only [findFrom?, bind, Text.findFrom?_append]
  cases Text.findFrom? (opener tag) text start with
  | none => rfl
  | some first =>
    simp only [Option.map_some, Option.bind_some, closeFrom?_append, Text.findFrom?_append]
    cases closeFrom? tag text first with
    | none => rfl
    | some last =>
      simp only [Option.map_some, Option.bind_some]
      cases Text.findFrom? ">" text first with
      | none => rfl
      | some bracket =>
        simp only [Option.map_some, Option.bind_some, Nat.add_lt_add_iff_left, Nat.add_assoc,
          slice_append]
        split <;> rfl

/-- A region opens where its marker is found. -/
theorem exists_opener {region : Region} (found : findFrom? tag text 0 = some region) :
    ∃ first, find? (opener tag) text = some first := by
  simp only [findFrom?, bind, Option.bind_eq_some_iff, findFrom?_zero] at found
  obtain ⟨first, opens, -⟩ := found
  exact ⟨first, opens⟩

/-- The first region is found from its opening marker as well as from the start. -/
theorem findFrom?_first {first : Nat} (opens : find? (opener tag) text = some first) :
    findFrom? tag text first = findFrom? tag text 0 := by
  have here : Text.findFrom? (opener tag) text first = some first := findFrom?_of_find? opens
  simp only [findFrom?, here, findFrom?_zero, opens]

end Region

end DocWeave
