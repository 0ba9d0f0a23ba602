import DocWeave.Proofs.Chain.Run
import DocWeave.Proofs.Expansion.Threaded
import DocWeave.Project.Basic
import Mathlib

/-! # The visitation after a resolution

Resolving a document visits documents one within another, whether it ends well or fails, at
whatever depth and for whatever reason. So the documents in expansion are the same before and after,
in the same order, and in between only more of them are open. Documents that are resolved one after
another in one visitation therefore do not notice each other, also when some of them fail. Stages
that request documents do so apart: their requests visit nothing here, and a project's never do.
-/

namespace DocWeave

namespace Visitation

variable {α β : Type} {v : Visitation} {steps : List Step} {t : Trace α} {next : α → Trace β}

/-- A history leaves the visitation as it was, only adds to it in between, and has no entry
refused. -/
structure Restored (v : Visitation) (steps : List Step) : Prop where
  replay_eq : v.replay steps = v
  chain_replay : ∀ before, before <+: steps → ∃ opened,
    (v.replay before).chain = v.chain ++ opened ∧ (v.chain ++ opened).Nodup
  accepted : ∀ before path, before ++ [.enter path] <+: steps → path ∉ (v.replay before).chain

theorem Nested.restored (nested : Nested v steps) : Restored v steps where
  replay_eq := nested.replay_eq
  chain_replay before start := by
    obtain ⟨later, rfl⟩ := start
    obtain ⟨opened, chain⟩ := (nested.moment rfl).1
    exact ⟨opened, chain, chain ▸ (v.replay before).nodup⟩
  accepted before path start := by
    obtain ⟨later, rfl⟩ := start
    exact (nested.moment (List.append_assoc ..)).2 path later rfl

theorem nested_of_apart (apart : t.Avoids Event.isVisit) : Nested v t.visits := by
  rw [apart.visits]
  exact .nil v

theorem Nested.andThen (first : Nested v t.visits)
    (later : ∀ value, t.outcome = .ok value → Nested v (next value).visits) :
    Nested v (t.andThen next).visits := by
  cases ended : t.outcome with
  | error failure => rwa [Trace.visits_andThen_of_error ended]
  | ok value =>
    rw [Trace.visits_andThen_of_ok ended]
    exact first.append (later value ended)

end Visitation

namespace Weaver

open Visitation

variable {w : Weaver} {visited inside : Visitation} {current node : Path}

/-- What answers the requests of stages visits nothing here. -/
def AnswersApart (w : Weaver) : Prop :=
  ∀ library, w.library = some library → library.Avoids Event.isVisit

theorem apart_filtered (content : Text) : (w.filtered content).Avoids Event.isVisit :=
  Trace.avoids_tell fun _ _ => rfl

theorem apart_marker (directive : Directive) (path : Path) :
    (w.marker directive path).Avoids Event.isVisit :=
  (Trace.avoids_tell fun _ _ => rfl).andThen fun _ => Trace.avoids_ofOutcome _

theorem apart_piped (apart : w.AnswersApart) (directive : Directive) (content : Text) :
    (w.piped directive content).Avoids Event.isVisit := by
  unfold piped
  split
  · apply Chain.apart_run
    cases present : w.library with
    | none => exact Library.avoids_absent _
    | some library => exact apart library present
  · exact Trace.avoids_done content

/-- A document is visited around its expansion, or not at all. -/
theorem nested_expand
    (below : ∀ inside, visited.enter current.normalize = .ok inside → ∀ text position ds,
      Nested inside (w.expandFrom inside current.normalize text position ds).visits)
    (text : Text) : Nested visited (w.expand visited current text).visits := by
  cases entered : visited.enter current.normalize with
  | error cycle =>
    rw [expand_of_cycle entered]
    exact .nil visited
  | ok inside =>
    rw [expand_of_enter entered, Trace.visits_visiting]
    exact .around entered (below inside entered text 0 _)

theorem nested_weave
    (below : ∀ inside, visited.enter current.normalize = .ok inside → ∀ text position ds,
      Nested inside (w.expandFrom inside current.normalize text position ds).visits)
    (content : Text) : Nested visited (w.weave visited current content).visits :=
  (nested_of_apart (apart_filtered content)).andThen fun seen _ => nested_expand below seen

theorem nested_included (apart : w.AnswersApart) {directive : Directive}
    (below : ∀ raw inside, w.store.read (w.target node directive) = .ok raw →
      visited.enter (w.target node directive).normalize = .ok inside →
      ∀ node text position ds, Nested inside (w.expandFrom inside node text position ds).visits) :
    Nested visited (w.included visited node directive).visits := by
  apply (nested_of_apart (t := Trace.emit [.asked (w.target node directive)]) _).andThen
  · intro _ _
    cases answer : w.store.read (w.target node directive) with
    | error failure =>
      dsimp only
      split
      · exact nested_of_apart (apart_marker directive _)
      · exact nested_of_apart (Trace.avoids_fail failure)
    | ok raw =>
      apply (nested_weave (fun inside entered => below raw inside answer entered _) raw).andThen
      intro resolved _
      exact nested_of_apart (apart_piped apart directive resolved)
  · intro event mem
    rw [List.mem_singleton.1 mem]
    rfl

theorem nested_expandFrom (apart : w.AnswersApart) :
    ∀ (visited : Visitation) (node : Path) (text : Text) (position : Nat) (ds : List Directive),
      Nested visited (w.expandFrom visited node text position ds).visits := by
  intro visited
  induction visited using expansion_induction w.store with
  | step visited below =>
    intro node text position ds
    induction ds generalizing position with
    | nil =>
      rw [expandFrom_nil]
      exact .nil visited
    | cons directive rest ih =>
      rw [expandFrom_cons]
      apply (nested_included apart fun raw inside => below _ raw inside).andThen
      intro content _
      apply (ih directive.stop).andThen
      intro after _
      exact .nil visited

/-- A document to resolve, and what to resolve it with. -/
structure Errand where
  weaver : Weaver
  current : Path
  content : Text

/-- Documents resolved one after another in one visitation, each in what the one before has left
of it. -/
def inTurn (visited : Visitation) : List Errand → List (Trace Text)
  | [] => []
  | errand :: rest =>
    let resolved := errand.weaver.weave visited errand.current errand.content
    resolved :: inTurn (visited.replay resolved.visits) rest

theorem inTurn_eq_map (visited : Visitation) {errands : List Errand}
    (apart : ∀ errand ∈ errands, errand.weaver.AnswersApart) :
    inTurn visited errands =
      errands.map fun errand => errand.weaver.weave visited errand.current errand.content := by
  induction errands with
  | nil => rfl
  | cons errand rest ih =>
    have nested : Nested visited
        (errand.weaver.weave visited errand.current errand.content).visits :=
      nested_weave (fun _ _ => nested_expandFrom (apart errand List.mem_cons_self) _ _) _
    rw [inTurn, nested.replay_eq, ih fun other mem => apart other (List.mem_cons_of_mem errand mem)]
    rfl

/-- However a resolution ends, the documents in expansion are those from before it, and while it
lasts they are those and more, none of them twice. A resolution on one visitation that is handed on,
where every entry is checked against what has been left so far, comes to the same and gives that
visitation back. So documents that are resolved in turn are resolved like each on its own. -/
theorem weave_restores (w : Weaver) (apart : w.AnswersApart) (visited : Visitation)
    (current : Path) (content : Text) :
    visited.Restored (w.weave visited current content).visits ∧
    visited.Restored (w.expand visited current content).visits ∧
    (∃ expander, w.Threads expander) ∧
    (∀ expander, w.Threads expander →
      w.weaveBy expander current content visited = (w.weave visited current content, visited) ∧
      w.expandBy expander current content visited = (w.expand visited current content, visited)) ∧
    ∀ errands : List Errand, (∀ errand ∈ errands, errand.weaver.AnswersApart) →
      inTurn .empty errands =
        errands.map fun errand => errand.weaver.weave .empty errand.current errand.content := by
  have below (inside : Visitation) (_ : visited.enter current.normalize = .ok inside) :=
    nested_expandFrom apart inside current.normalize
  refine ⟨(nested_weave below content).restored, (nested_expand below content).restored,
    exists_threads w, ?_, fun errands all => inTurn_eq_map .empty all⟩
  intro expander threads
  have expands (inside : Visitation) (_ : visited.enter current.normalize = .ok inside) :=
    threads_iff.1 threads inside
  exact ⟨weaveBy_apply expands content, expandBy_apply expands content⟩

/-- A document that includes `./b.md`. -/
def ahead : Text := "<content-factory-include-file path='./b.md' />"

/-- A document that includes `./a.md`. -/
def back : Text := "<content-factory-include-file path='./a.md' />"

/-- Two documents that include each other. -/
def ring : Weaver := ofStore (.ofList [(.ofText "/a.md", .ok ahead), (.ofText "/b.md", .ok back)])

set_option maxRecDepth 100000 in
/-- The resolution fails two documents deep, and a document after it is none the worse. -/
theorem weave_restores_ring :
    (∃ cycle, (ring.weave .empty (.ofText "/a.md") ahead).outcome = .error (.cycle cycle)) ∧
    Visitation.empty.replay (ring.weave .empty (.ofText "/a.md") ahead).visits = .empty ∧
    (∃ expander, ring.weaveBy expander (.ofText "/a.md") ahead .empty =
      (ring.weave .empty (.ofText "/a.md") ahead, .empty)) ∧
    inTurn .empty [⟨ring, .ofText "/a.md", ahead⟩, ⟨ring, .ofText "/b.md", "B".toList⟩] =
      [ring.weave .empty (.ofText "/a.md") ahead, ring.weave .empty (.ofText "/b.md") "B".toList] := by
  have apart : ring.AnswersApart := nofun
  have restores := weave_restores ring apart .empty (.ofText "/a.md") ahead
  obtain ⟨expander, threads⟩ := restores.2.2.1
  have turns := restores.2.2.2.2 [⟨ring, .ofText "/a.md", ahead⟩, ⟨ring, .ofText "/b.md", "B".toList⟩]
  refine ⟨⟨⟨.ofText "/a.md", [.ofText "/a.md", .ofText "/b.md"]⟩, ?_⟩, restores.1.replay_eq,
    ⟨expander, (restores.2.2.2.1 expander threads).1⟩, ?_⟩
  · cbv
  · apply turns
    simpa using apart

end Weaver

namespace Project

variable {p : Project} {tree : FileTree}

theorem apart_read {library : Library} (answers : library.Avoids Event.isVisit) (path : Path)
    (options : ReadOptions) : (p.read tree library path options).Avoids Event.isVisit := by
  unfold read
  apply (Trace.avoids_ofOutcome _).andThen
  intro raw
  apply (Trace.avoids_apart _).andThen
  intro resolved
  cases options.pipelines with
  | none => exact (Trace.avoids_done resolved).andThen fun _ => Trace.avoids_done _
  | some spec =>
    have piped := Chain.apart_run ⟨p.registry, options.tool, options.strategy, some library⟩ answers
      resolved spec
    exact piped.andThen fun _ => Trace.avoids_done _

/-- A document that is requested is resolved apart from whoever requests it. -/
theorem apart_library (p : Project) (tree : FileTree) : (p.library tree).Avoids Event.isVisit := by
  unfold library
  induction p.nesting with
  | zero => exact Library.avoids_exhausted _
  | succ depth ih =>
    constructor
    · intro literal options
      exact apart_read ih _ options
    · intro patterns options
      apply (Trace.avoids_ofOutcome _).andThen
      intro found
      exact Trace.Avoids.mapM fun path _ => apart_read ih path options

theorem answersApart_weaver (tool strategy : Text) :
    (p.weaver tree (p.library tree) tool strategy).AnswersApart := by
  rintro _ ⟨⟩
  exact p.apart_library tree

end Project

end DocWeave
