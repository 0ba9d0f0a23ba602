import DocWeave.Proofs.Markup.Visibility

/-! # Opening markers in leaves

An opening marker is looked for letter by letter, so it also stands where an element begins whose
name only starts with the filter tag. Such a stray marker goes one level down like any other, and no
closing tag comes back up for it. So a region around it is not closed by the tag that was printed
for it, nor by any other, and outside of regions the marker itself counts as a tag that nothing
closes.

The filter therefore works up to the first leaf or region, among those that are in no other, that
holds a stray marker. From there on the text stays as it is, with the tags and with all that they
hide, and one tag is reported.
-/

namespace DocWeave

open Text Markup

namespace Forest

/-- What comes before the first leaf or region that holds a stray marker. -/
def beforeStray (tag : Text) : Forest → Forest
  | nil => nil
  | text leaf rest =>
    if Region.openings tag leaf = 0 then text leaf (rest.beforeStray tag) else nil
  | region audience children rest =>
    if children.strays tag = 0 then region audience children (rest.beforeStray tag) else nil

/-- The first leaf or region that holds a stray marker, and what comes behind it. -/
def fromStray (tag : Text) : Forest → Forest
  | nil => nil
  | text leaf rest => if Region.openings tag leaf = 0 then rest.fromStray tag else text leaf rest
  | region audience children rest =>
    if children.strays tag = 0 then rest.fromStray tag else region audience children rest

/-- Whether a forest is made of leaves alone. -/
def isText : Forest → Bool
  | nil => true
  | text _ rest => rest.isText
  | region .. => false

/-- The leaves whose enclosing regions are all meant for the tool, in order. -/
def leavesFor (tool : Text) (forest : Forest) : Text :=
  ((forest.leaves []).filter fun leaf =>
    leaf.1.all fun audience => audience.admits tool).flatMap Prod.snd

variable {tag : Text} {isName : Text → Prop} {keeps : Audience → Bool} {forest : Forest}

theorem leavesFor_eq_visible (tool : Text) (forest : Forest) :
    forest.leavesFor tool = forest.visible fun audience => audience.admits tool :=
  (visible_eq_leaves forest).symm

theorem startsWithText_beforeStray (separate : forest.startsWithText = false) :
    (forest.beforeStray tag).startsWithText = false := by
  cases forest with
  | nil => rfl
  | text leaf rest => cases separate
  | region audience children rest =>
    unfold beforeStray
    split <;> rfl

theorem Obeys.wellFormed_beforeStray (obeys : forest.Obeys (ClosesNothing tag) isName) :
    (forest.beforeStray tag).WellFormed tag isName := by
  induction forest with
  | nil => trivial
  | text leaf rest ih =>
    obtain ⟨noCloser, separate, obeys⟩ := obeys
    unfold beforeStray
    split
    · rename_i unopened
      exact ⟨⟨Region.openings_eq_zero_iff.1 unopened, noCloser⟩,
        startsWithText_beforeStray separate, ih obeys⟩
    · trivial
  | region audience children rest ihChildren ihRest =>
    obtain ⟨named, obeysChildren, obeysRest⟩ := obeys
    unfold beforeStray
    split
    · rename_i unstrayed
      exact ⟨named, obeysChildren.wellFormed unstrayed, ihRest obeysRest⟩
    · trivial

theorem visible_split (tag : Text) (keeps : Audience → Bool) (forest : Forest) :
    forest.visible keeps =
      (forest.beforeStray tag).visible keeps ++ (forest.fromStray tag).visible keeps := by
  induction forest with
  | nil => rfl
  | text leaf rest ih =>
    unfold beforeStray fromStray
    split
    · rw [visible, visible, ih, List.append_assoc]
    · rfl
  | region audience children rest ihChildren ihRest =>
    unfold beforeStray fromStray
    split
    · rw [visible, visible, ihRest, List.append_assoc]
    · rfl

theorem length_visible_le (tag : Text) (keeps : Audience → Bool) (forest : Forest) :
    (forest.visible keeps).length ≤ (forest.render tag).length := by
  induction forest with
  | nil => exact Nat.le_refl 0
  | text leaf rest ih => simpa [visible, render] using ih
  | region audience children rest ihChildren ihRest =>
    simp only [visible, render, List.length_append]
    split
    · omega
    · simp only [List.length_nil]
      omega

/-- What is visible is shorter than the text, unless no tags stand in it. -/
theorem visible_eq_render_iff :
    forest.visible keeps = forest.render tag ↔ forest.isText = true := by
  induction forest with
  | nil => exact ⟨fun _ => rfl, fun _ => rfl⟩
  | text leaf rest ih => rw [visible, render, List.append_cancel_left_eq, ih, isText]
  | region audience children rest ihChildren ihRest =>
    refine iff_of_false (fun same => ?_) Bool.false_ne_true
    have inner := length_visible_le tag keeps children
    have behind := length_visible_le tag keeps rest
    have closing : 0 < (Region.closer tag).length := by simp [Region.closer]
    have shorter : ((if keeps audience then children.visible keeps else []) : Text).length ≤
        (children.visible keeps).length := by
      split <;> simp
    have lengths := congrArg List.length same
    simp only [visible, render, List.length_append] at lengths
    omega

end Forest

namespace Region

variable {tag : Text} {depth : Int} {forest : Forest}

/-- Once inside, a printed forest never comes back out. -/
theorem closeOffset?_render_eq_none (isTagName : IsTagName tag)
    (obeys : forest.Obeys (Forest.ClosesNothing tag) IsPlain) (inside : 1 ≤ depth) :
    closeOffset? (opener tag) (closer tag) 0 depth (forest.render tag) = none := by
  have ends : closeOffset? (opener tag) (closer tag) 0 depth (forest.render tag ++ []) =
      (closeOffset? (opener tag) (closer tag) 0 (depth + forest.strays tag) []).map
        (· + (forest.render tag).length) :=
    closeOffset?_strays isTagName obeys inside (by simp)
  rw [List.append_nil] at ends
  rw [ends]
  rfl

/-- The opening tag of a region with a stray marker is not closed. -/
theorem closeOffset?_region_eq_none (isTagName : IsTagName tag) {audience : Audience}
    {children rest : Forest}
    (obeys : (Forest.region audience children rest).Obeys (Forest.ClosesNothing tag) IsPlain)
    (strayed : children.strays tag ≠ 0) :
    closeOffset? (opener tag) (closer tag) 0 0
      ((Forest.region audience children rest).render tag) = none := by
  obtain ⟨plain, obeysChildren, obeysRest⟩ := obeys
  have closes : ∀ c ∈ (closer tag ++ rest.render tag).head?, c = '<' := by simp [closer]
  simp only [Forest.render, List.append_assoc]
  rw [closeOffset?_openingTag isTagName plain,
    closeOffset?_strays isTagName obeysChildren (by omega) closes, closeOffset?_closer,
    if_neg (by omega), closeOffset?_render_eq_none isTagName obeysRest (by omega)]
  rfl

/-- Nor is a stray marker outside of regions. -/
theorem closeOffset?_leaf_eq_none (isTagName : IsTagName tag) {leaf : Text}
    (noCloser : ¬ closer tag <:+: leaf) (opens : opener tag <+: leaf)
    (bracketed : ∀ c ∈ (forest.render tag).head?, c = '<')
    (obeys : forest.Obeys (Forest.ClosesNothing tag) IsPlain) :
    closeOffset? (opener tag) (closer tag) 0 0 (leaf ++ forest.render tag) = none := by
  have strayed : openings tag leaf ≠ 0 := fun none => openings_eq_zero_iff.1 none opens.isInfix
  rw [closeOffset?_leaf isTagName noCloser bracketed,
    closeOffset?_render_eq_none isTagName obeys (by omega)]
  rfl

end Region

namespace Visibility

variable {tag tool text : Text} {forest : Forest}

/-- An opening tag at the start that is not closed is reported, and the text stays as it is. -/
theorem filter_of_unreturned (opens : Region.opener tag <+: text)
    (unreturned : Region.closeOffset? (Region.opener tag) (Region.closer tag) 0 0 text = none) :
    filter tag tool text = (text, [unclosed tag]) := by
  have first := find?_of_starts opens
  refine filter_of_unclosed first ?_
  simp only [Region.findFrom?, Region.closeFrom?, findFrom?_zero, first, bind, Option.bind_some,
    List.drop_zero, unreturned, Option.map_none, Option.bind_none]

theorem filter_render_split (isTagName : IsTagName tag)
    (obeys : forest.Obeys (Forest.ClosesNothing tag) IsPlain) (tool : Text) :
    filter tag tool (forest.render tag) =
      (((forest.beforeStray tag).visible fun audience => audience.trimmed.admits tool) ++
          (forest.fromStray tag).render tag,
        if forest.strays tag = 0 then [] else [unclosed tag]) := by
  induction forest with
  | nil => rw [Forest.render, filter_of_none (find?_nil (List.cons_ne_nil _ _))]; rfl
  | text leaf rest ih =>
    obtain ⟨noCloser, separate, obeys⟩ := obeys
    have next : ∀ c ∈ (rest.render tag).head?, c = '<' := Region.head?_render_of_separate separate
    have marker := Region.isMarker_opener isTagName
    by_cases holds : Region.opener tag <:+: leaf
    · have opened : ¬ Region.openings tag leaf = 0 := fun none =>
        Region.openings_eq_zero_iff.1 none holds
      have strayed : ¬ (Forest.text leaf rest).strays tag = 0 := fun none =>
        opened (Nat.add_eq_zero_iff.1 none).1
      obtain ⟨front, back, rfl, stands, skips⟩ := marker.exists_first holds next
      have unreturned := Region.closeOffset?_leaf_eq_none isTagName
        (fun closes => noCloser (closes.trans (List.suffix_append front back).isInfix)) stands next
        obeys
      have opens : Region.opener tag <+: back ++ rest.render tag :=
        stands.trans (List.prefix_append ..)
      rw [Forest.beforeStray, Forest.fromStray, if_neg opened, if_neg opened, if_neg strayed,
        Forest.render, List.append_assoc, filter_append_of_skips skips,
        filter_of_unreturned opens unreturned]
      rfl
    · have skips := skips_of_absent marker holds next
      simp only [Forest.render, Forest.beforeStray, Forest.fromStray, Forest.strays,
        Region.openings_eq_zero_iff.2 holds, if_true, Nat.zero_add, filter_append_of_skips skips,
        ih obeys, Forest.visible, List.append_assoc]
  | region audience children rest ihChildren ihRest =>
    by_cases unstrayed : children.strays tag = 0
    · obtain ⟨plain, obeysChildren, obeysRest⟩ := obeys
      have wellFormed := obeysChildren.wellFormed unstrayed
      have seen := filter_region isTagName plain wellFormed
        (filter_render isTagName wellFormed tool) (rest.render tag)
      simp only [Forest.render, Forest.beforeStray, Forest.fromStray, Forest.strays, unstrayed,
        if_true, Nat.zero_add, List.append_assoc, seen, ihRest obeysRest, Forest.visible]
    · have strayed : ¬ (Forest.region audience children rest).strays tag = 0 := fun none =>
        unstrayed (Nat.add_eq_zero_iff.1 none).1
      have opens : Region.opener tag <+: (Forest.region audience children rest).render tag := by
        simp [Forest.render, Audience.openingTag]
      rw [Forest.beforeStray, Forest.fromStray, if_neg unstrayed, if_neg unstrayed, if_neg strayed,
        filter_of_unreturned opens
          (Region.closeOffset?_region_eq_none isTagName obeys unstrayed)]
      rfl

/-- Whatever opening markers the leaves hold, as long as they close nothing: up to the first leaf or
region with a stray marker the leaves meant for the tool are left, from there on the whole text is,
and one tag is reported. So the leaves meant for the tool are what is left exactly if there is no
region at that place or behind it. -/
theorem filter_render_of_strays (isTagName : IsTagName tag) (forest : Forest)
    (obeys : forest.Obeys (Forest.ClosesNothing tag) IsIdentifier) (tool : Text) :
    filter tag tool (forest.render tag) =
        ((forest.beforeStray tag).leavesFor tool ++ (forest.fromStray tag).render tag,
          if forest.strays tag = 0 then [] else [unclosed tag]) ∧
      ((filter tag tool (forest.render tag)).1 = forest.leavesFor tool ↔
        (forest.fromStray tag).isText = true) := by
  have plain := obeys.mono fun _ identifier => identifier.2
  have filtered := filter_render_split isTagName plain tool
  rw [visible_trimmed obeys.wellFormed_beforeStray, ← Forest.leavesFor_eq_visible] at filtered
  refine ⟨filtered, ?_⟩
  rw [filtered, Forest.leavesFor_eq_visible, Forest.leavesFor_eq_visible,
    Forest.visible_split tag _ forest, List.append_cancel_left_eq, eq_comm,
    Forest.visible_eq_render_iff]

/-- The first region is dropped. The second one is hidden from the tool too, but a stray marker
stands in it, so it is left with all that it hides. -/
theorem filter_render_of_strays_within :
    let tag := Settings.default.filterTag
    let forest : Forest := .region ⟨["roo"], []⟩ (.text "dropped" .nil) <| .text "a " <|
      .region ⟨[], ["claude"]⟩ (.text "hidden <content-factory-filter-note/>" .nil) <|
      .text " z" .nil
    (IsTagName tag ∧ forest.Obeys (Forest.ClosesNothing tag) IsIdentifier) ∧
      filter tag "claude" (forest.render tag) =
        ("a <content-factory-filter exclude=\"claude\">hidden <content-factory-filter-note/>" ++
          Region.closer tag ++ " z", [unclosed tag]) := by
  intro tag forest
  have obeys : forest.Obeys (Forest.ClosesNothing tag) IsIdentifier := by decide +kernel
  have filtered := (filter_render_of_strays isTagName_default forest obeys "claude").1
  exact ⟨⟨isTagName_default, obeys⟩, filtered.trans (by decide +kernel)⟩

/-- Whether a character goes on with a name. -/
def isNameSign (c : Char) : Bool := c.isAlphanum || c == '-' || c == '_'

/-- Every opening marker of a leaf is the beginning of a longer name. -/
def IsLookalike (tag leaf : Text) : Prop :=
  ∀ i < leaf.length, Region.opener tag <+: leaf.drop i →
    leaf[i + (Region.opener tag).length]?.any isNameSign = true

instance : DecidablePred (IsLookalike tag) := fun leaf =>
  inferInstanceAs (Decidable (∀ i < leaf.length, Region.opener tag <+: leaf.drop i →
    leaf[i + (Region.opener tag).length]?.any isNameSign = true))

/-- An element of a longer name is taken for a region that nothing closes, and what the region
behind it hides from the tool is left with its tags. -/
theorem filter_render_lookalike :
    let tag := Settings.default.filterTag
    let leaf : Text := "<content-factory-filters>x</content-factory-filters> "
    let forest : Forest := .text leaf (.region ⟨["roo"], []⟩ (.text "secret" .nil) .nil)
    forest.Obeys (fun leaf => Forest.ClosesNothing tag leaf ∧ IsLookalike tag leaf) IsIdentifier ∧
      forest.leavesFor "claude" = leaf ∧
      filter tag "claude" (forest.render tag) = (forest.render tag, [unclosed tag]) := by
  intro tag leaf forest
  exact ⟨by decide +kernel, by decide +kernel,
    filter_of_unreturned (by decide +kernel) (by decide +kernel)⟩

end Visibility

end DocWeave
