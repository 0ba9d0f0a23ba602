import DocWeave.Proofs.Expansion.Walk
import DocWeave.Proofs.Store
import Mathlib

/-! # What a reported cycle tells

A cycle is reported with the documents that were in expansion when it was found. They are the
documents from before the resolution, then the resolved document, and then, one below the other,
documents that directives on the way down name: siblings that were expanded before have left again.
The document found again is one of them, and the wording lists them in this order with it at the
end.

A store may fail a read with a cycle of its own making. Such a failure is passed on as it is and
tells nothing about the resolution.
-/

namespace DocWeave.Weaver

variable {w : Weaver} {visited : Visitation} {node last : Path} {ds left : List Directive}
  {walk : List Path} {cycle : Cycle}

/-- A walk stops at the last document on it. -/
theorem Leads.getLast?_eq (leads : w.Leads node ds walk last left) :
    (node :: walk).getLast? = some last := by
  induction leads with
  | here node ds => rfl
  | down directive listed read further ih => rw [List.getLast?_cons_cons, ih]

/-- A directive that fails with a cycle names a document that is read and found in expansion, unless
the read itself has failed so. -/
theorem FailsAt.of_cycle {chain : List Path} {directive : Directive}
    (fails : w.FailsAt chain node directive (.cycle cycle))
    (own : ∀ path, w.store.read path ≠ .error (.cycle cycle)) :
    ((∃ raw, w.store.read (w.target node directive) = .ok raw) ∧
      cycle.path = (w.target node directive).normalize) ∧
      cycle.chain = chain ∧ cycle.path ∈ chain := by
  cases fails with
  | read _ unread given => exact absurd unread (own _)
  | cycle raw read inChain => exact ⟨⟨⟨raw, read⟩, rfl⟩, rfl, inChain⟩

/-- A reported cycle tells a genuine way: what was in expansion before, the resolved document, and a
walk down from it, none of them twice. The document found again is among them, and it is named by a
directive of the last of them that leads to something readable; or else the resolved document itself
was in expansion before. The wording lists the way in this order and the document at its end. -/
theorem chain_of_weave_cycle (w : Weaver) (visited : Visitation) (current : Path) (content : Text)
    (cycle : Cycle) (ended : (w.weave visited current content).outcome = .error (.cycle cycle))
    (own : ∀ path, w.store.read path ≠ .error (.cycle cycle)) :
    (cycle.chain.Nodup ∧ cycle.path ∈ cycle.chain) ∧
    ((cycle.chain = visited.chain ∧ cycle.path = current.normalize) ∨
      ∃ walk last left, w.Leads current.normalize (w.directives (w.seen content)) walk last left ∧
        cycle.chain = visited.chain ++ current.normalize :: walk ∧
        cycle.chain.getLast? = some last ∧
        ∃ directive ∈ left, (∃ raw, w.store.read (w.target last directive) = .ok raw) ∧
          cycle.path = (w.target last directive).normalize) ∧
    (Failure.cycle cycle).message =
      "Circular dependency detected: " ++ cycle.path.toText ++ " is already being processed.\n" ++
        "Include chain: " ++ Text.join " -> " ((cycle.chain ++ [cycle.path]).map Path.toText) := by
  rw [← and_assoc]
  refine ⟨?_, rfl⟩
  cases entered : visited.enter current.normalize with
  | error found =>
    rw [outcome_weave_of_cycle content entered] at ended
    cases ended
    obtain ⟨inChain, rfl⟩ := Visitation.enter_eq_error_iff.1 entered
    exact ⟨⟨visited.nodup, inChain⟩, .inl ⟨rfl, rfl⟩⟩
  | ok inside =>
    rw [outcome_weave_of_enter content entered] at ended
    obtain ⟨walk, last, left, leads, distinct, directive, listed, fails⟩ :=
      exists_leads_of_error ended
    have opened : inside.chain ++ walk = visited.chain ++ current.normalize :: walk := by
      rw [(Visitation.chain_enter entered).1, List.append_assoc, List.singleton_append]
    rw [opened] at distinct fails
    obtain ⟨named, chain, inChain⟩ := fails.of_cycle own
    refine ⟨?_, .inr ⟨walk, last, left, leads, chain, ?_, directive, listed, named⟩⟩
    · rw [chain]
      exact ⟨distinct, inChain⟩
    · rw [chain, List.getLast?_append, leads.getLast?_eq, Option.some_or]

/-- A document that includes a plain one and then one that includes it again. -/
def forked : Text :=
  "<content-factory-include-file path='./c.md' /><content-factory-include-file path='./b.md' />"

/-- What `forked` includes, beside it. -/
def forkedStore : Store :=
  .ofList [(.ofText "/b.md", .ok "<content-factory-include-file path='./a.md' />"),
    (.ofText "/a.md", .ok forked), (.ofText "/c.md", .ok "plain")]

set_option maxRecDepth 100000 in
theorem outcome_weave_forked :
    ((ofStore forkedStore).weave ⟨[.ofText "/x.md"], by simp⟩ (.ofText "/a.md") forked).outcome =
      .error (.cycle ⟨.ofText "/a.md", [.ofText "/x.md", .ofText "/a.md", .ofText "/b.md"]⟩) := by
  cbv

/-- With a document in expansion before, the report lists it first; the plain document, which has
been expanded by then, is not listed. -/
theorem chain_of_weave_cycle_forked :
    let way : List Path := [.ofText "/x.md", .ofText "/a.md", .ofText "/b.md"]
    let cycle : Cycle := ⟨.ofText "/a.md", way⟩
    ((ofStore forkedStore).weave ⟨[.ofText "/x.md"], by simp⟩ (.ofText "/a.md") forked).outcome =
        .error (.cycle cycle) ∧
      (∀ path, forkedStore.read path ≠ .error (.cycle cycle)) ∧
      way.Nodup ∧ (Failure.cycle cycle).message =
        "Circular dependency detected: /a.md is already being processed.\n".toList ++
          "Include chain: /x.md -> /a.md -> /b.md -> /a.md".toList := by
  intro way cycle
  have unreadable : forkedStore.FailsUnreadable := Store.failsUnreadable_ofList (by simp)
  have own : ∀ path, forkedStore.read path ≠ .error (.cycle cycle) := by
    intro path failed
    cases unreadable path _ failed
  obtain ⟨⟨distinct, _⟩, _, message⟩ :=
    chain_of_weave_cycle _ _ _ _ cycle outcome_weave_forked own
  exact ⟨outcome_weave_forked, own, distinct, message.trans (by decide +kernel)⟩

end DocWeave.Weaver
