import DocWeave.Proofs.Expansion.Walk
import DocWeave.Proofs.Markup.Visibility
import DocWeave.Proofs.Store
import Mathlib.Data.List.Chain
import Mathlib.Data.List.Nodup

/-! # Cycles

Documents and what they include are a graph. Resolving a document ends in a cycle exactly when a
walk in the graph comes to a document twice; a cycle further right is not hidden by what stands
before it, and a document that is included twice without being in expansion is no cycle. When every
read fails as a file may fail, nothing but a cycle ends the resolution.
-/

namespace DocWeave

namespace Settings

/-- The default template has only the field that is filled. -/
theorem missingMarker_of_default {settings : Settings}
    (template : settings.missingTemplate = default.missingTemplate) (literal : Text) :
    settings.missingMarker literal =
      .ok ("[MISSING FILE: ".toList ++ literal ++ "]".toList) := by
  rw [missingMarker, template]
  rfl

end Settings

namespace Weaver

variable {w : Weaver} {start node last : Path} {content text : Text} {walk : List Path}
  {left : List Directive}

/-- What stands at a node of the inclusion graph: at its start the given content, elsewhere what
can be read there. -/
def label (w : Weaver) (start : Path) (content : Text) (node : Path) : Option Text :=
  if node = start then some content else (w.store.read node).toOption

/-- One node includes another: what the tool sees of it has a directive whose target can be read
and collapses to the other. -/
def Includes (w : Weaver) (start : Path) (content : Text) (node other : Path) : Prop :=
  ∃ text, w.label start content node = some text ∧
    ∃ directive ∈ w.directives (w.seen text), (w.target node directive).normalize = other ∧
      ∃ raw, w.store.read (w.target node directive) = .ok raw

/-- As long as a walk does not come back to the start, it follows the directives from document to
document. -/
theorem isChain_includes_iff (spelling : w.store.IgnoresSpelling)
    (labelled : w.label start content node = some text) (away : start ∉ walk.dropLast) :
    List.IsChain (w.Includes start content) (node :: walk) ↔
      ∃ last left, w.Leads node (w.directives (w.seen text)) walk last left := by
  induction walk generalizing node text with
  | nil => exact ⟨fun _ => ⟨_, _, .here _ _⟩, fun _ => List.isChain_singleton node⟩
  | cons next rest ih =>
    have further {raw : Text} {directive : Directive}
        (read : w.store.read (w.target node directive) = .ok raw)
        (reached : (w.target node directive).normalize = next) :
        List.IsChain (w.Includes start content) (next :: rest) ↔
          ∃ last left, w.Leads next (w.directives (w.seen raw)) rest last left := by
      cases rest with
      | nil => exact ⟨fun _ => ⟨_, _, .here _ _⟩, fun _ => List.isChain_singleton next⟩
      | cons after rest =>
        rw [List.dropLast_cons_of_ne_nil (List.cons_ne_nil _ _), List.mem_cons, not_or] at away
        apply ih _ away.2
        rw [label, if_neg (Ne.symm away.1), ← reached, spelling, read]
        rfl
    rw [List.isChain_cons_cons]
    constructor
    · rintro ⟨⟨text', labelled', directive, listed, reached, raw, read⟩, chained⟩
      obtain rfl : text' = text := by simpa [labelled] using labelled'.symm
      obtain ⟨last, left, leads⟩ := (further read reached).1 chained
      subst reached
      exact ⟨last, left, .down directive listed read leads⟩
    · rintro ⟨last, left, leads⟩
      cases leads with
      | down directive listed read leads =>
        exact ⟨⟨text, labelled, directive, listed, rfl, _, read⟩,
          (further read rfl).2 ⟨last, left, leads⟩⟩

/-- A document that is resolved well starts no walk that comes to a document twice. -/
theorem nodup_of_isChain (spelling : w.store.IgnoresSpelling) {current : Path} {result : Text}
    (ended : (w.weave .empty current content).outcome = .ok result)
    (chained : List.IsChain (w.Includes current.normalize content) (current.normalize :: walk)) :
    (current.normalize :: walk).Nodup := by
  induction walk using List.reverseRecOn with
  | nil => exact List.nodup_singleton _
  | append_singleton walk last ih =>
    have split : List.IsChain (w.Includes current.normalize content)
        ((current.normalize :: walk) ++ [last]) := by simpa using chained
    have distinct := ih split.left_of_append
    have away : current.normalize ∉ (walk ++ [last]).dropLast := by
      rw [List.dropLast_concat]
      exact (List.nodup_cons.1 distinct).1
    obtain ⟨stop, left, leads⟩ := (isChain_includes_iff spelling (if_pos rfl) away).1 chained
    exact nodup_of_leads leads (outcome_weave_empty (w := w) current content ▸ ended)

/-- What ends the resolution of a document, where reads fail only as a file may fail, is a walk
that comes to a document twice. -/
theorem exists_isChain_of_error (spelling : w.store.IgnoresSpelling)
    (unreadable : w.store.FailsUnreadable)
    (template : w.settings.missingTemplate = Settings.default.missingTemplate) {current : Path}
    {failure : Failure} (ended : (w.weave .empty current content).outcome = .error failure) :
    (∃ cycle, failure = .cycle cycle) ∧
      ∃ walk, List.IsChain (w.Includes current.normalize content) (current.normalize :: walk) ∧
        ¬ (current.normalize :: walk).Nodup := by
  obtain ⟨walk, last, left, leads, distinct, directive, listed, fails⟩ :=
    exists_leads_of_weave_error ended
  cases fails with
  | read _ unread given =>
    rw [unreadable _ _ unread] at given
    cases given
  | marker _ fault unread unfilled =>
    rw [Settings.missingMarker_of_default template] at unfilled
    cases unfilled
  | cycle raw read inChain =>
    refine ⟨⟨_, rfl⟩, walk ++ [(w.target last directive).normalize], ?_, ?_⟩
    · apply (isChain_includes_iff spelling (if_pos rfl) _).2 ⟨_, _, leads.concat listed read⟩
      rw [List.dropLast_concat]
      exact (List.nodup_cons.1 distinct).1
    · rw [← List.cons_append, List.nodup_append]
      exact fun apart => apart.2.2 _ inChain _ (List.mem_singleton_self _) rfl

/-- Cycles are detected, and only cycles: a resolution ends in one exactly when a walk from the
document comes to some document twice, and otherwise it ends well. -/
theorem weave_cycle_iff (w : Weaver) (current : Path) (content : Text)
    (spelling : w.store.IgnoresSpelling) (unreadable : w.store.FailsUnreadable)
    (template : w.settings.missingTemplate = Settings.default.missingTemplate) :
    ((∃ cycle, (w.weave .empty current content).outcome = .error (.cycle cycle)) ↔
      ∃ walk, List.IsChain (w.Includes current.normalize content) (current.normalize :: walk) ∧
        ¬ (current.normalize :: walk).Nodup) ∧
    ((¬ ∃ cycle, (w.weave .empty current content).outcome = .error (.cycle cycle)) →
      ∃ text, (w.weave .empty current content).outcome = .ok text) := by
  cases ended : (w.weave .empty current content).outcome with
  | ok result =>
    refine ⟨⟨?_, ?_⟩, fun _ => ⟨result, rfl⟩⟩
    · rintro ⟨cycle, failed⟩
      cases failed
    · rintro ⟨walk, chained, repeated⟩
      exact absurd (nodup_of_isChain spelling ended chained) repeated
  | error failure =>
    obtain ⟨⟨cycle, rfl⟩, walk⟩ := exists_isChain_of_error spelling unreadable template ended
    exact ⟨⟨fun _ => walk, fun _ => ⟨cycle, rfl⟩⟩, fun none => absurd ⟨cycle, rfl⟩ none⟩

/-- A document that includes itself. -/
def loop : Text := "<content-factory-include-file path='./a.md' />"

theorem weave_cycle_iff_loop :
    (ofStore (.collapsed (.ofList [(.ofText "/a.md", .ok loop)]))).store.IgnoresSpelling ∧
    (ofStore (.collapsed (.ofList [(.ofText "/a.md", .ok loop)]))).store.FailsUnreadable ∧
    ∃ cycle, ((ofStore (.collapsed (.ofList [(.ofText "/a.md", .ok loop)]))).weave .empty
      (.ofText "/a.md") loop).outcome = .error (.cycle cycle) := by
  have spelling := Store.ignoresSpelling_collapsed (.ofList [(.ofText "/a.md", .ok loop)])
  have unreadable : (Store.ofList [(.ofText "/a.md", .ok loop)]).FailsUnreadable :=
    Store.failsUnreadable_ofList (by simp)
  have unreadable := Store.failsUnreadable_collapsed unreadable
  refine ⟨spelling, unreadable, ?_⟩
  apply (weave_cycle_iff _ _ _ spelling unreadable rfl).1.2
  refine ⟨[(Path.ofText "/a.md").normalize], ?_, by simp⟩
  rw [List.isChain_cons_cons]
  refine ⟨⟨loop, if_pos rfl, ?_⟩, List.isChain_singleton _⟩
  have plain : (ofStore (.collapsed (.ofList [(.ofText "/a.md", .ok loop)]))).seen loop = loop := by
    rw [seen, Visibility.filter_of_none (by decide +kernel)]
  rw [plain]
  exact ⟨⟨"./a.md", none, loop, 0, 46⟩, by decide +kernel, by decide +kernel, loop,
    by decide +kernel⟩

end Weaver

end DocWeave
