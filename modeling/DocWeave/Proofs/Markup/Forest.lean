import DocWeave.Proofs.Ascending
import DocWeave.Proofs.Markup.Attribute
import DocWeave.Proofs.Markup.Level

/-! # Forests of regions

A well-formed document is a forest: text leaves and regions side by side, and a forest again within
each region. It is printed with an opening and a closing tag around every region. What a tool is
meant to see of it is said of the leaves alone, each with the audiences of the regions around it.

Nothing here says what a filter makes of the printed text.
-/

namespace DocWeave

/-- Whom a region is meant for, as its opening tag lists it. -/
structure Audience where
  shownTo : List Text
  hiddenFrom : List Text
  deriving DecidableEq, Repr

namespace Audience

/-- Whether a tool belongs to the audience: it is shown to all or to this tool, and not hidden from
it. -/
def admits (audience : Audience) (tool : Text) : Bool :=
  (audience.shownTo.isEmpty || audience.shownTo.contains tool) &&
    !audience.hiddenFrom.contains tool

/-- The audience as a reader of its lists understands it. -/
def trimmed (audience : Audience) : Audience :=
  ⟨Text.trimmed audience.shownTo, Text.trimmed audience.hiddenFrom⟩

/-- The names that the opening tag lists. -/
def names (audience : Audience) : List Text := audience.shownTo ++ audience.hiddenFrom

/-- The attributes of the opening tag. -/
def listing (audience : Audience) : Text :=
  Markup.written "include" audience.shownTo ++ Markup.written "exclude" audience.hiddenFrom

/-- The opening tag of a region for the audience. -/
def openingTag (tag : Text) (audience : Audience) : Text :=
  Region.opener tag ++ (audience.listing ++ ['>'])

end Audience

/-- Text leaves and regions, side by side and nested. -/
inductive Forest where
  | nil
  | text (leaf : Text) (rest : Forest)
  | region (audience : Audience) (children rest : Forest)
  deriving DecidableEq, Repr

namespace Forest

/-- The text of a forest. -/
def render (tag : Text) : Forest → Text
  | nil => []
  | text leaf rest => leaf ++ rest.render tag
  | region audience children rest =>
    audience.openingTag tag ++ children.render tag ++ Region.closer tag ++ rest.render tag

/-- The leaves in order, each with the audiences of the regions around it. -/
def leaves (enclosing : List Audience) : Forest → List (List Audience × Text)
  | nil => []
  | text leaf rest => (enclosing, leaf) :: rest.leaves enclosing
  | region audience children rest =>
    children.leaves (audience :: enclosing) ++ rest.leaves enclosing

/-- The leaves one after another, without those of regions that are not kept. -/
def visible (keeps : Audience → Bool) : Forest → Text
  | nil => []
  | text leaf rest => leaf ++ rest.visible keeps
  | region audience children rest =>
    (if keeps audience then children.visible keeps else []) ++ rest.visible keeps

/-- Whether a forest begins with a text leaf. -/
def startsWithText : Forest → Bool
  | text .. => true
  | _ => false

/-- The rules of a well-formed document: no two leaves are adjacent, no leaf holds a marker, and the
names that regions list are names. -/
def WellFormed (tag : Text) (isName : Text → Prop) : Forest → Prop
  | nil => True
  | text leaf rest =>
    (¬ Region.opener tag <:+: leaf ∧ ¬ Region.closer tag <:+: leaf) ∧
      rest.startsWithText = false ∧ rest.WellFormed tag isName
  | region audience children rest =>
    (∀ name ∈ audience.names, isName name) ∧
      children.WellFormed tag isName ∧ rest.WellFormed tag isName

instance decidableWellFormed (tag : Text) (isName : Text → Prop) [DecidablePred isName] :
    (forest : Forest) → Decidable (forest.WellFormed tag isName)
  | nil => .isTrue trivial
  | text leaf rest =>
    have := decidableWellFormed tag isName rest
    inferInstanceAs (Decidable ((¬ Region.opener tag <:+: leaf ∧ ¬ Region.closer tag <:+: leaf) ∧
      rest.startsWithText = false ∧ rest.WellFormed tag isName))
  | region audience children rest =>
    have := decidableWellFormed tag isName children
    have := decidableWellFormed tag isName rest
    inferInstanceAs (Decidable ((∀ name ∈ audience.names, isName name) ∧
      children.WellFormed tag isName ∧ rest.WellFormed tag isName))

/-- A document whose leaves are as asked: no two of them are adjacent, and the names that regions
list are names. -/
def Obeys (isLeaf isName : Text → Prop) : Forest → Prop
  | nil => True
  | text leaf rest => isLeaf leaf ∧ rest.startsWithText = false ∧ rest.Obeys isLeaf isName
  | region audience children rest =>
    (∀ name ∈ audience.names, isName name) ∧
      children.Obeys isLeaf isName ∧ rest.Obeys isLeaf isName

instance decidableObeys (isLeaf isName : Text → Prop) [DecidablePred isLeaf]
    [DecidablePred isName] : (forest : Forest) → Decidable (forest.Obeys isLeaf isName)
  | nil => .isTrue trivial
  | text leaf rest =>
    have := decidableObeys isLeaf isName rest
    inferInstanceAs (Decidable (isLeaf leaf ∧ rest.startsWithText = false ∧
      rest.Obeys isLeaf isName))
  | region audience children rest =>
    have := decidableObeys isLeaf isName children
    have := decidableObeys isLeaf isName rest
    inferInstanceAs (Decidable ((∀ name ∈ audience.names, isName name) ∧
      children.Obeys isLeaf isName ∧ rest.Obeys isLeaf isName))

/-- A leaf that closes no region. -/
def ClosesNothing (tag leaf : Text) : Prop := ¬ Region.closer tag <:+: leaf

instance {tag : Text} : DecidablePred (ClosesNothing tag) := fun leaf =>
  inferInstanceAs (Decidable (¬ Region.closer tag <:+: leaf))

/-- How many opening markers the leaves hold. -/
def strays (tag : Text) : Forest → Nat
  | nil => 0
  | text leaf rest => Region.openings tag leaf + rest.strays tag
  | region _ children rest => children.strays tag + rest.strays tag

variable {tag : Text} {keeps : Audience → Bool} {isLeaf isName isOther : Text → Prop}
  {forest : Forest}

theorem WellFormed.mono {isName isOther : Text → Prop} (weaker : ∀ name, isName name → isOther name)
    {forest : Forest} (wellFormed : forest.WellFormed tag isName) :
    forest.WellFormed tag isOther := by
  induction forest with
  | nil => trivial
  | text leaf rest ih => exact ⟨wellFormed.1, wellFormed.2.1, ih wellFormed.2.2⟩
  | region audience children rest ihChildren ihRest =>
    obtain ⟨named, children, rest⟩ := wellFormed
    exact ⟨fun name mem => weaker name (named name mem), ihChildren children, ihRest rest⟩

theorem Obeys.mono (weaker : ∀ name, isName name → isOther name)
    (obeys : forest.Obeys isLeaf isName) : forest.Obeys isLeaf isOther := by
  induction forest with
  | nil => trivial
  | text leaf rest ih => exact ⟨obeys.1, obeys.2.1, ih obeys.2.2⟩
  | region audience children rest ihChildren ihRest =>
    obtain ⟨named, children, rest⟩ := obeys
    exact ⟨fun name mem => weaker name (named name mem), ihChildren children, ihRest rest⟩

/-- Without stray markers a document is well-formed. -/
theorem Obeys.wellFormed (obeys : forest.Obeys (ClosesNothing tag) isName)
    (unstrayed : forest.strays tag = 0) : forest.WellFormed tag isName := by
  induction forest with
  | nil => trivial
  | text leaf rest ih =>
    obtain ⟨noCloser, separate, obeys⟩ := obeys
    obtain ⟨unopened, unstrayed⟩ := Nat.add_eq_zero_iff.1 unstrayed
    exact ⟨⟨Region.openings_eq_zero_iff.1 unopened, noCloser⟩, separate, ih obeys unstrayed⟩
  | region audience children rest ihChildren ihRest =>
    obtain ⟨named, obeysChildren, obeysRest⟩ := obeys
    obtain ⟨within, behind⟩ := Nat.add_eq_zero_iff.1 unstrayed
    exact ⟨named, ihChildren obeysChildren within, ihRest obeysRest behind⟩

/-- A well-formed document has no stray markers. -/
theorem WellFormed.obeys (wellFormed : forest.WellFormed tag isName) :
    forest.Obeys (ClosesNothing tag) isName ∧ forest.strays tag = 0 := by
  induction forest with
  | nil => exact ⟨trivial, rfl⟩
  | text leaf rest ih =>
    obtain ⟨⟨noOpener, noCloser⟩, separate, wellFormed⟩ := wellFormed
    obtain ⟨obeys, unstrayed⟩ := ih wellFormed
    exact ⟨⟨noCloser, separate, obeys⟩,
      Nat.add_eq_zero_iff.2 ⟨Region.openings_eq_zero_iff.2 noOpener, unstrayed⟩⟩
  | region audience children rest ihChildren ihRest =>
    obtain ⟨named, wellChildren, wellRest⟩ := wellFormed
    obtain ⟨obeysChildren, within⟩ := ihChildren wellChildren
    obtain ⟨obeysRest, behind⟩ := ihRest wellRest
    exact ⟨⟨named, obeysChildren, obeysRest⟩, Nat.add_eq_zero_iff.2 ⟨within, behind⟩⟩

/-- What is visible are the leaves that every region around them keeps. -/
theorem visible_eq_leaves (forest : Forest) :
    forest.visible keeps =
      ((forest.leaves []).filter fun leaf => leaf.1.all keeps).flatMap Prod.snd := by
  have within (enclosing : List Audience) :
      ((forest.leaves enclosing).filter fun leaf => leaf.1.all keeps).flatMap Prod.snd =
        if enclosing.all keeps then forest.visible keeps else [] := by
    induction forest generalizing enclosing with
    | nil => simp [leaves, visible]
    | text leaf rest ih =>
      by_cases kept : enclosing.all keeps = true
      · simp [leaves, visible, kept, ih]
      · simp [leaves, kept, ih]
    | region audience children rest ihChildren ihRest =>
      by_cases kept : enclosing.all keeps = true
      · by_cases here : keeps audience = true
        · simp [leaves, visible, kept, here, ihChildren, ihRest]
        · simp [leaves, visible, kept, here, ihChildren, ihRest]
      · simp [leaves, kept, ihChildren, ihRest]
  simpa using (within []).symm

/-- Two forests agree for a tool when they differ only inside regions that are not meant for it. -/
inductive AgreeFor (tool : Text) : Forest → Forest → Prop where
  | nil : AgreeFor tool nil nil
  | text {rest rest' : Forest} (leaf : Text) (behind : AgreeFor tool rest rest') :
      AgreeFor tool (text leaf rest) (text leaf rest')
  | kept {children children' rest rest' : Forest} (audience : Audience)
      (within : AgreeFor tool children children') (behind : AgreeFor tool rest rest') :
      AgreeFor tool (region audience children rest) (region audience children' rest')
  | dropped {rest rest' : Forest} (audience : Audience) (children children' : Forest)
      (refused : audience.trimmed.admits tool = false) (behind : AgreeFor tool rest rest') :
      AgreeFor tool (region audience children rest) (region audience children' rest')

/-- Forests that agree for a tool show it the same. -/
theorem AgreeFor.visible_eq {tool : Text} {forest forest' : Forest}
    (agree : AgreeFor tool forest forest') :
    (forest.visible fun audience => audience.trimmed.admits tool) =
      forest'.visible fun audience => audience.trimmed.admits tool := by
  induction agree with
  | nil => rfl
  | text leaf behind ih => rw [visible, visible, ih]
  | kept audience within behind ihWithin ihBehind => rw [visible, visible, ihWithin, ihBehind]
  | dropped audience children children' refused behind ih => rw [visible, visible, refused, ih]; rfl

end Forest

end DocWeave
