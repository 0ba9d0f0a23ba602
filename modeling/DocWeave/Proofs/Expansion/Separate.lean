import DocWeave.Proofs.Chain.Run
import DocWeave.Proofs.Expansion.Walk
import DocWeave.Proofs.Markup.Scan
import Mathlib

/-! # Included documents on their own

What is in expansion decides whether a resolution ends in a cycle and nothing else: with less in
expansion, a resolution that ends well does the same. So a directive contributes what its document
resolves to on its own, wherever and however often the document is included, and the documents asked
for are those of these separate resolutions in order.
-/

namespace DocWeave.Weaver

variable {w : Weaver} {visited fewer : Visitation} {node current : Path} {text result : Text}
  {position : Nat} {ds : List Directive}

/-- The text that a directive in `node` stands for, judged by itself: the marker of its literal when
its document cannot be read, and otherwise what the document resolves to with nothing in expansion,
after the pipeline of the directive. -/
def Contributes (w : Weaver) (node : Path) (directive : Directive) (piece : Text) : Prop :=
  match w.store.read (w.target node directive) with
  | .error _ => w.settings.missingMarker directive.path = .ok piece
  | .ok raw => ∃ resolved, (w.weave .empty (w.target node directive) raw).outcome = .ok resolved ∧
      (w.piped directive resolved).outcome = .ok piece

/-- The documents asked for on behalf of a directive, judged by itself. -/
def asksFor (w : Weaver) (node : Path) (directive : Directive) : List Path :=
  w.target node directive ::
    match w.store.read (w.target node directive) with
    | .error _ => []
    | .ok raw => (w.weave .empty (w.target node directive) raw).asked

/-- An expansion that ends well puts the contents of its directives between the gaps, and asks for
what they ask for. -/
theorem expandFrom_eq_interleave
    (ended : (w.expandFrom visited node text position ds).outcome = .ok result) :
    ∃ pieces, List.Forall₂
        (fun directive piece => (w.included visited node directive).outcome = .ok piece) ds pieces ∧
      result = Text.interleave (Directive.gaps text position ds) pieces ∧
      (w.expandFrom visited node text position ds).asked =
        ds.flatMap fun directive => (w.included visited node directive).asked := by
  induction ds generalizing position result with
  | nil =>
    rw [expandFrom_nil] at ended ⊢
    cases ended
    exact ⟨[], .nil, rfl, rfl⟩
  | cons directive rest ih =>
    rw [expandFrom_cons] at ended ⊢
    rw [Trace.outcome_andThen_eq_ok_iff] at ended
    obtain ⟨piece, included, ended⟩ := ended
    rw [Trace.outcome_andThen_eq_ok_iff] at ended
    obtain ⟨after, later, ended⟩ := ended
    cases ended
    obtain ⟨pieces, contents, rfl, asked⟩ := ih later
    refine ⟨piece :: pieces, .cons included contents, rfl, ?_⟩
    rw [Trace.asked_andThen_of_ok included, Trace.asked_andThen_of_ok later, asked,
      Trace.asked_done, List.append_nil, List.flatMap_cons]

/-- A directive that is expanded well is expanded the same with less in expansion, if this holds
below it. -/
theorem included_of_subset {directive : Directive} {content : Text}
    (below : ∀ path raw inside, w.store.read path = .ok raw →
      visited.enter path.normalize = .ok inside →
      ∀ {fewer : Visitation} {node text position ds result}, fewer.chain ⊆ inside.chain →
        (w.expandFrom inside node text position ds).outcome = .ok result →
        w.expandFrom fewer node text position ds = w.expandFrom inside node text position ds)
    (subset : fewer.chain ⊆ visited.chain)
    (ended : (w.included visited node directive).outcome = .ok content) :
    w.included fewer node directive = w.included visited node directive := by
  cases answer : w.store.read (w.target node directive) with
  | error failure => rw [included_of_error answer, included_of_error answer]
  | ok raw =>
    obtain ⟨inside, resolved, entered, ended⟩ := enter_of_included ended answer
    obtain ⟨chain, fresh⟩ := Visitation.chain_enter entered
    cases lighter : fewer.enter (w.target node directive).normalize with
    | error cycle =>
      have inChain := (Visitation.enter_eq_error_iff.1 lighter).1
      exact absurd (subset inChain) fresh
    | ok inner =>
      have nested : inner.chain ⊆ inside.chain := by
        rw [chain, (Visitation.chain_enter lighter).1]
        exact List.append_subset.2
          ⟨List.subset_append_of_subset_left _ subset, List.subset_append_right _ _⟩
      rw [included_of_ok answer, included_of_ok answer, weave, weave]
      simp only [Trace.bind_eq, Trace.andThen_of_ok (outcome_filtered raw)]
      rw [expand_of_enter entered, expand_of_enter lighter, below _ _ _ answer entered nested ended]

/-- An expansion that ends well does the same with less in expansion. -/
theorem expandFrom_of_subset :
    ∀ {visited fewer : Visitation} {node : Path} {text : Text} {position : Nat}
      {ds : List Directive} {result : Text}, fewer.chain ⊆ visited.chain →
      (w.expandFrom visited node text position ds).outcome = .ok result →
      w.expandFrom fewer node text position ds = w.expandFrom visited node text position ds := by
  intro visited
  induction visited using expansion_induction w.store with
  | step visited below =>
    intro fewer node text position ds result subset ended
    induction ds generalizing position result with
    | nil => rw [expandFrom_nil, expandFrom_nil]
    | cons directive rest ih =>
      rw [expandFrom_cons, Trace.outcome_andThen_eq_ok_iff] at ended
      obtain ⟨piece, included, ended⟩ := ended
      rw [Trace.outcome_andThen_eq_ok_iff] at ended
      obtain ⟨after, later, _⟩ := ended
      rw [expandFrom_cons, expandFrom_cons, included_of_subset below subset included, ih later]

/-- With nothing in expansion, a directive that is expanded well contributes by itself and asks for
what it asks for by itself. -/
theorem contributes_of_included {directive : Directive} {piece : Text}
    (pure : ∀ registry, w.registry = some registry → registry.IsPure)
    (ended : (w.included .empty node directive).outcome = .ok piece) :
    w.Contributes node directive piece ∧
      (w.included .empty node directive).asked = w.asksFor node directive := by
  unfold Contributes asksFor
  cases answer : w.store.read (w.target node directive) with
  | error failure =>
    rw [included_of_error answer, Trace.andThen_of_ok rfl] at ended
    rw [included_of_error answer, Trace.asked_andThen_of_ok rfl]
    cases unreadable : failure.isUnreadable with
    | false => simp [unreadable, Trace.fail] at ended
    | true =>
      simp only [unreadable, if_true] at ended ⊢
      exact ⟨outcome_marker_eq_ok_iff.1 ended, rfl⟩
  | ok raw =>
    rw [included_of_ok answer, Trace.andThen_of_ok rfl, Trace.outcome_andThen_eq_ok_iff] at ended
    obtain ⟨resolved, woven, piped⟩ := ended
    refine ⟨⟨resolved, woven, piped⟩, ?_⟩
    rw [included_of_ok answer, Trace.asked_andThen_of_ok rfl, Trace.asked_andThen_of_ok woven,
      (quiet_piped pure directive resolved).asked, List.append_nil]
    rfl

/-- A resolution that ends well puts between the gaps of what the tool sees what each directive
stands for by itself, and asks for what each directive asks for by itself, from left to right. -/
theorem weave_eq_interleave (w : Weaver) (visited : Visitation) (current : Path)
    (content result : Text) (pure : ∀ registry, w.registry = some registry → registry.IsPure)
    (ended : (w.weave visited current content).outcome = .ok result) :
    w.seen content = Text.interleave
      (Directive.gaps (w.seen content) 0 (w.directives (w.seen content)))
      ((w.directives (w.seen content)).map Directive.span) ∧
    (∃ pieces,
      List.Forall₂ (w.Contributes current.normalize) (w.directives (w.seen content)) pieces ∧
      result = Text.interleave
        (Directive.gaps (w.seen content) 0 (w.directives (w.seen content))) pieces) ∧
    (w.weave visited current content).asked =
      (w.directives (w.seen content)).flatMap (w.asksFor current.normalize) := by
  refine ⟨(Directive.laid_findAll _ _).interleave_gaps.symm, ?_⟩
  have separate {inside : Visitation} {directive : Directive} {piece : Text}
      (included : (w.included inside current.normalize directive).outcome = .ok piece) :
      w.Contributes current.normalize directive piece ∧
        (w.included inside current.normalize directive).asked =
          w.asksFor current.normalize directive := by
    have lighter : w.included .empty current.normalize directive =
        w.included inside current.normalize directive :=
      included_of_subset (fun _ _ _ _ _ => expandFrom_of_subset) (List.nil_subset _) included
    rw [← lighter] at included ⊢
    exact contributes_of_included pure included
  rw [weave, Trace.bind_eq, Trace.andThen_of_ok (outcome_filtered content)] at ended
  rw [weave, Trace.bind_eq, Trace.asked_andThen_of_ok (outcome_filtered content),
    (quiet_filtered content).asked]
  cases entered : visited.enter current.normalize with
  | error cycle =>
    rw [expand_of_cycle entered] at ended
    cases ended
  | ok inside =>
    rw [expand_of_enter entered] at ended ⊢
    obtain ⟨pieces, contents, rfl, asked⟩ := expandFrom_eq_interleave ended
    refine ⟨⟨pieces, contents.imp fun _ _ included => (separate included).1, rfl⟩, ?_⟩
    rw [Trace.asked_visiting, asked, List.nil_append]
    apply List.flatMap_congr
    intro directive listed
    obtain ⟨piece, included⟩ := outcome_included_of_mem ended listed
    exact (separate included).2

/-- A readable document after its pipeline, and a missing one. -/
def pair : Text :=
  "<content-factory-include-file path='./b.md' pipelines='trim' />,".toList ++
    "<content-factory-include-file path='./c.md' />".toList

/-- Resolving the pair with the stages that are always there. -/
def pairWeaver : Weaver :=
  { ofStore (.ofList [(.ofText "/b.md", .ok " B ")]) with registry := some .builtin }

set_option maxRecDepth 100000 in
theorem weave_eq_interleave_pair :
    (pairWeaver.weave .empty (.ofText "/a.md") pair).outcome =
        .ok "B,[MISSING FILE: ./c.md]".toList ∧
      (pairWeaver.weave .empty (.ofText "/a.md") pair).asked =
        (pairWeaver.directives (pairWeaver.seen pair)).flatMap
          (pairWeaver.asksFor (Path.ofText "/a.md").normalize) := by
  have ended : (pairWeaver.weave .empty (.ofText "/a.md") pair).outcome =
      .ok "B,[MISSING FILE: ./c.md]".toList := by
    cbv
  have pure : ∀ registry, pairWeaver.registry = some registry → registry.IsPure := by
    rintro _ ⟨⟩
    exact Registry.isPure_builtin
  exact ⟨ended, (weave_eq_interleave _ _ _ _ _ pure ended).2.2⟩

end DocWeave.Weaver
