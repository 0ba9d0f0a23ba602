import DocWeave.Proofs.Expansion.Alike
import DocWeave.Proofs.Expansion.Walk
import DocWeave.Proofs.Markup.Visibility
import Mathlib.Data.List.Forall2

/-! # Dropped regions

Two stores that show the tool the same make for the same resolution. Documents that differ only
inside regions that are not meant for the tool are shown the same, and no directive inside such a
region is ever looked at.
-/

namespace DocWeave.Weaver

variable {w : Weaver} {store : Store} {content other : Text}

/-! ## Stores that show the same -/

/-- The same way to resolve documents, with the documents of another store. -/
def withStore (w : Weaver) (store : Store) : Weaver := { w with store := store }

/-- What the two stores show to the tool at a path is the same, reports included. -/
def ShowsSame (w : Weaver) (store : Store) : Prop :=
  ∀ path, (w.store.read path).map w.filtered = (store.read path).map w.filtered

theorem alike_withStore (shows : w.ShowsSame store) : w.Alike (w.withStore store) where
  settings := rfl
  root := rfl
  shows := shows
  piped := rfl

/-- A resolution depends on documents only through what they show to the tool. -/
theorem weave_withStore (shows : w.ShowsSame store) (visited : Visitation) (current : Path)
    (same : w.filtered content = w.filtered other) :
    w.weave visited current content = (w.withStore store).weave visited current other :=
  (alike_withStore shows).weave visited current same

/-! ## Documents that agree -/

/-- Two answers of a store agree for a tool: the same failure, or well-formed documents that agree
for it. -/
inductive AnswersAgree (tag tool : Text) : Except Failure Text → Except Failure Text → Prop where
  | failed (failure : Failure) : AnswersAgree tag tool (.error failure) (.error failure)
  | printed {forest forest' : Forest} (wellFormed : forest.WellFormed tag Markup.IsPlain)
      (wellFormed' : forest'.WellFormed tag Markup.IsPlain)
      (agree : forest.AgreeFor tool forest') :
      AnswersAgree tag tool (.ok (forest.render tag)) (.ok (forest'.render tag))

theorem filtered_render (isTagName : Markup.IsTagName w.settings.filterTag) {forest : Forest}
    (wellFormed : forest.WellFormed w.settings.filterTag Markup.IsPlain) :
    w.filtered (forest.render w.settings.filterTag) =
      Trace.done (forest.visible fun audience => audience.trimmed.admits w.tool) := by
  rw [filtered, Visibility.filter_render isTagName wellFormed]
  rfl

theorem showsSame_of_agree (isTagName : Markup.IsTagName w.settings.filterTag)
    (answers : ∀ path, AnswersAgree w.settings.filterTag w.tool (w.store.read path)
      (store.read path)) : w.ShowsSame store := by
  intro path
  have agree := answers path
  generalize w.store.read path = answer, store.read path = answer' at agree ⊢
  cases agree with
  | failed failure => rfl
  | printed wellFormed wellFormed' agree =>
    rw [Except.map, Except.map, filtered_render isTagName wellFormed,
      filtered_render isTagName wellFormed', agree.visible_eq]

/-- What stands in regions that are not meant for the tool influences nothing: neither the outcome
nor any event, at no depth of inclusion. What is asked for and what is missed is named by directives
that the tool sees. -/
theorem weave_eq_of_agree (w : Weaver) (store : Store)
    (isTagName : Markup.IsTagName w.settings.filterTag)
    (pure : ∀ registry, w.registry = some registry → registry.IsPure)
    (answers : ∀ path, AnswersAgree w.settings.filterTag w.tool (w.store.read path)
      (store.read path))
    (forest forest' : Forest) (wellFormed : forest.WellFormed w.settings.filterTag Markup.IsPlain)
    (wellFormed' : forest'.WellFormed w.settings.filterTag Markup.IsPlain)
    (agree : forest.AgreeFor w.tool forest') (visited : Visitation) (current : Path) :
    w.weave visited current (forest.render w.settings.filterTag) =
        (w.withStore store).weave visited current (forest'.render w.settings.filterTag) ∧
      ∀ event ∈ (w.weave visited current (forest.render w.settings.filterTag)).events,
        event.isAboutInclude = true →
        ∃ walk last left, w.Leads current.normalize (w.directives
            (forest.visible fun audience => audience.trimmed.admits w.tool)) walk last left ∧
          ∃ directive ∈ left, event = .asked (w.target last directive) ∨
            event = .reported (missing directive (w.target last directive)) := by
  have shown := filtered_render isTagName wellFormed
  constructor
  · apply weave_withStore (showsSame_of_agree isTagName answers)
    rw [shown, filtered_render isTagName wellFormed', agree.visible_eq]
  · intro event happens about
    obtain ⟨inside, _, within⟩ := about_of_weave about happens
    have visible : w.seen (forest.render w.settings.filterTag) =
        forest.visible fun audience => audience.trimmed.admits w.tool :=
      Except.ok.inj (congrArg Trace.outcome shown)
    rw [visible] at within
    exact exists_leads_of_event pure about within

theorem answersAgree_ofList {tag tool : Text} {answers answers' : List (Path × Except Failure Text)}
    (agree : List.Forall₂ (fun answer answer' => answer.1 = answer'.1 ∧
      AnswersAgree tag tool answer.2 answer'.2) answers answers') (path : Path) :
    AnswersAgree tag tool ((Store.ofList answers).read path)
      ((Store.ofList answers').read path) := by
  induction agree with
  | nil => exact .failed _
  | @cons answer answer' _ _ same rest ih =>
    obtain ⟨name, raw⟩ := answer
    obtain ⟨name', raw'⟩ := answer'
    obtain ⟨rfl, same⟩ := same
    by_cases here : path = name
    · simpa [Store.ofList, List.lookup_cons, here] using same
    · simpa [Store.ofList, List.lookup_cons, beq_false_of_ne here] using ih

/-- A document that includes another after a region for another tool. -/
def outer (children : Forest) : Forest :=
  .region ⟨["cline"], []⟩ children (.text "<content-factory-include-file path='./b.md' />" .nil)

/-- A document with a region that is hidden from the tool. -/
def inner (children : Forest) : Forest := .region ⟨[], ["claude"]⟩ children (.text "shown" .nil)

/-- A leaf with a directive. -/
def secret : Forest := .text "<content-factory-include-file path='./secret.md' />" .nil

/-- Documents that include what the tool must not see resolve like documents without it. -/
theorem weave_eq_of_agree_secret :
    let w := ofStore (.ofList [(.ofText "/b.md",
      .ok ((inner secret).render Settings.default.filterTag))])
    let store := Store.ofList [(.ofText "/b.md",
      .ok ((inner .nil).render Settings.default.filterTag))]
    w.weave .empty (.ofText "/a.md") ((outer secret).render w.settings.filterTag) =
      (w.withStore store).weave .empty (.ofText "/a.md")
        ((outer .nil).render w.settings.filterTag) := by
  intro w store
  have innerAgree : (inner secret).AgreeFor "claude" (inner .nil) :=
    .dropped _ _ _ (by decide) (.text _ .nil)
  have outerAgree : (outer secret).AgreeFor w.tool (outer .nil) :=
    .dropped _ _ _ (by decide) (.text _ .nil)
  have printed : AnswersAgree Settings.default.filterTag "claude"
      (.ok ((inner secret).render Settings.default.filterTag))
      (.ok ((inner .nil).render Settings.default.filterTag)) :=
    .printed (by decide +kernel) (by decide +kernel) innerAgree
  have answers : ∀ path, AnswersAgree Settings.default.filterTag "claude" (w.store.read path)
      (store.read path) :=
    answersAgree_ofList (.cons ⟨rfl, printed⟩ .nil)
  have wellFormed : (outer secret).WellFormed w.settings.filterTag Markup.IsPlain := by
    show (outer secret).WellFormed Settings.default.filterTag Markup.IsPlain
    decide +kernel
  have wellFormed' : (outer .nil).WellFormed w.settings.filterTag Markup.IsPlain := by
    show (outer .nil).WellFormed Settings.default.filterTag Markup.IsPlain
    decide +kernel
  exact (weave_eq_of_agree w store Markup.isTagName_default (by rintro _ ⟨⟩) answers (outer secret)
    (outer .nil) wellFormed wellFormed' outerAgree .empty (.ofText "/a.md")).1

end DocWeave.Weaver
