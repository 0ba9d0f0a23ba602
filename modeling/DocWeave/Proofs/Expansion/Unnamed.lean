import DocWeave.Proofs.Chain.Run
import DocWeave.Proofs.Expansion.Alike
import DocWeave.Proofs.Markup.Named
import DocWeave.Proofs.Store

/-! # Tools that no document names

The requesting tool matters in two places: the filter compares it with what opening tags name, and
stages are told it. Documents are filtered before anything is put in place of their directives, so a
tool that stands in no document is named by no tag, wherever documents are joined. The stages that
are always there do not look at the tool.
-/

namespace DocWeave

variable {content : Text}

/-- No stage depends on the tool that it is told. -/
def Registry.IgnoresTool (registry : Registry) : Prop :=
  ∀ name stage, registry.find? name = some stage →
    ∀ context tool, stage { context with tool := tool } = stage context

theorem Registry.ignoresTool_builtin : Registry.builtin.IgnoresTool := by
  intro name stage found context tool
  obtain ⟨before, after, listed, _⟩ := List.lookup_eq_some_iff.1 found
  have mem : (name, stage) ∈ Registry.builtin.stages := by simp [listed]
  simp only [Registry.builtin, List.mem_cons, Prod.mk.injEq, List.not_mem_nil, or_false] at mem
  rcases mem with ⟨_, rfl⟩ | ⟨_, rfl⟩ | ⟨_, rfl⟩ | ⟨_, rfl⟩ <;> rfl

namespace Chain

variable {env : Environment}

theorem runStage_withTool (ignores : env.registry.IgnoresTool) (tool content : Text)
    (call : StageCall) : runStage { env with tool := tool } content call =
      runStage env content call := by
  unfold runStage
  cases found : env.registry.find? call.name with
  | none => rfl
  | some stage =>
    have same := ignores _ _ found
      ⟨content, call.name, env.tool, env.strategy, call.params, env.library.isSome⟩ tool
    dsimp only at same ⊢
    rw [same]

theorem run_withTool (env : Environment) (ignores : env.registry.IgnoresTool)
    (tool content spec : Text) :
    run { env with tool := tool } content spec = run env content spec := by
  unfold run
  generalize parse spec = calls
  induction calls generalizing content with
  | nil => rfl
  | cons call rest ih =>
    rw [runStages, runStages, runStage_withTool ignores]
    congr 1
    funext left
    exact ih left

end Chain

namespace Weaver

variable {w : Weaver} {a b : Text}

/-- The same way to resolve documents, on behalf of another tool. -/
def withTool (w : Weaver) (tool : Text) : Weaver := { w with tool := tool }

theorem piped_withTool (ignores : ∀ registry, w.registry = some registry → registry.IgnoresTool)
    (tool : Text) : (w.withTool tool).piped = w.piped := by
  funext directive content
  unfold piped
  cases held : w.registry with
  | none => simp only [withTool, held]
  | some registry =>
    cases directive.pipelines with
    | none => simp only [withTool, held]
    | some spec =>
      simp only [withTool, held]
      exact Chain.run_withTool ⟨registry, w.tool, w.strategy, w.library⟩ (ignores registry held)
        tool content spec

theorem filtered_withTool (apartA : ¬ a <:+: content) (apartB : ¬ b <:+: content) :
    (w.withTool a).filtered content = (w.withTool b).filtered content := by
  have same : Visibility.filter (w.withTool a).settings.filterTag (w.withTool a).tool content =
      Visibility.filter (w.withTool b).settings.filterTag (w.withTool b).tool content :=
    Visibility.filter_eq_of_unnamed apartA apartB
  rw [filtered, filtered, same]

theorem alike_withTool (ignores : ∀ registry, w.registry = some registry → registry.IgnoresTool)
    (unnamed : ∀ path raw, w.store.read path = .ok raw → ¬ a <:+: raw ∧ ¬ b <:+: raw) :
    (w.withTool a).Alike (w.withTool b) where
  settings := rfl
  root := rfl
  shows path := by
    show (w.store.read path).map _ = (w.store.read path).map _
    cases answer : w.store.read path with
    | error failure => rfl
    | ok raw =>
      obtain ⟨apartA, apartB⟩ := unnamed path raw answer
      exact congrArg Except.ok (filtered_withTool apartA apartB)
  piped := (piped_withTool ignores a).trans (piped_withTool ignores b).symm

/-- Two tools that stand neither in a document nor in any other that can be read get the same
resolution of it: the same text or failure, the same requests and the same reports. -/
theorem weave_eq_of_unnamed (w : Weaver) (a b content : Text)
    (builtin : ∀ registry, w.registry = some registry → registry = Registry.builtin)
    (apartA : ¬ a <:+: content) (apartB : ¬ b <:+: content)
    (unnamed : ∀ path raw, w.store.read path = .ok raw → ¬ a <:+: raw ∧ ¬ b <:+: raw)
    (visited : Visitation) (current : Path) :
    (w.withTool a).weave visited current content =
      (w.withTool b).weave visited current content := by
  have ignores : ∀ registry, w.registry = some registry → registry.IgnoresTool := by
    intro registry held
    rw [builtin registry held]
    exact Registry.ignoresTool_builtin
  exact (alike_withTool ignores unnamed).weave visited current (filtered_withTool apartA apartB)

/-- A document with a part for one tool that includes another document through a pipeline. -/
def addressed : Text :=
  "<content-factory-filter include='claude'>for claude</content-factory-filter>" ++
    "<content-factory-include-file path='./b.md' pipelines='trim' />"

/-- A document with a part that is hidden from that tool, and a tag that nothing closes. -/
def withheld : Text :=
  " <content-factory-filter exclude='claude'>for others</content-factory-filter>" ++
    "<content-factory-filter"

/-- Two tools other than the one that the documents name. -/
theorem weave_eq_of_unnamed_others :
    let w : Weaver := { ofStore (.ofList [(.ofText "/b.md", .ok withheld)]) with
      registry := some Registry.builtin }
    (w.withTool "roo").weave .empty (.ofText "/a.md") addressed =
      (w.withTool "cline").weave .empty (.ofText "/a.md") addressed := by
  intro w
  apply weave_eq_of_unnamed w "roo" "cline" addressed
  · rintro registry ⟨⟩
    rfl
  · decide +kernel
  · decide +kernel
  · intro path raw read
    have listed := Store.mem_of_read_ofList read
    simp only [List.mem_singleton, Prod.mk.injEq, Except.ok.injEq] at listed
    obtain ⟨-, rfl⟩ := listed
    exact ⟨by decide +kernel, by decide +kernel⟩

end Weaver

end DocWeave
