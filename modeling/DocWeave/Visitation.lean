import DocWeave.Failure

/-! # Documents in expansion

A visitation lists the documents that are being expanded, outermost first and none twice.
Entering a document that is listed is a cycle; leaving one keeps the order of the others. A step
is an entry or an exit, and a history of steps determines the list.
-/

namespace DocWeave

/-- The documents in expansion. -/
structure Visitation where
  chain : List Path
  nodup : chain.Nodup

namespace Visitation

/-- Nothing is in expansion. -/
def empty : Visitation := ⟨[], List.nodup_nil⟩

instance : Inhabited Visitation := ⟨empty⟩

/-- Whether a document is in expansion. -/
def contains (v : Visitation) (path : Path) : Bool := v.chain.contains path

/-- How many documents are in expansion. -/
def length (v : Visitation) : Nat := v.chain.length

/-- The documents in expansion, one after another. -/
def toList (v : Visitation) : List Path := v.chain

/-- The visitation with one more document in expansion; a cycle if it is already. -/
def enter (v : Visitation) (path : Path) : Except Cycle Visitation :=
  if fresh : path ∈ v.chain then .error ⟨path, v.chain⟩
  else .ok ⟨v.chain ++ [path], by
    rw [List.nodup_append]
    exact ⟨v.nodup, by simp, fun _ old _ new => by
      rw [List.mem_singleton.1 new]
      rintro rfl
      exact fresh old⟩⟩

/-- The visitation without one of its documents. -/
def leave (v : Visitation) (path : Path) : Visitation :=
  ⟨v.chain.erase path, v.nodup.erase path⟩

/-- What changes a visitation. A visit that fails ends like any other. -/
inductive Step where
  | enter (path : Path)
  | leave (path : Path)
  | fail (path : Path)
  deriving DecidableEq

/-- The visitation after a step; a refused entry changes nothing. -/
def step (v : Visitation) : Step → Visitation
  | .enter path => (v.enter path).toOption.getD v
  | .leave path => v.leave path
  | .fail path => v.leave path

/-- The visitation after a history of steps. -/
def replay (v : Visitation) (steps : List Step) : Visitation := steps.foldl step v

theorem chain_enter {v inside : Visitation} {path : Path} (entered : v.enter path = .ok inside) :
    inside.chain = v.chain ++ [path] ∧ path ∉ v.chain := by
  unfold enter at entered
  split at entered
  · simp at entered
  · rename_i fresh
    cases entered
    exact ⟨rfl, fresh⟩

theorem enter_empty (path : Path) : empty.enter path = .ok ⟨[path], by simp⟩ := rfl

theorem enter_eq_error_iff {v : Visitation} {path : Path} {cycle : Cycle} :
    v.enter path = .error cycle ↔ path ∈ v.chain ∧ cycle = ⟨path, v.chain⟩ := by
  unfold enter
  split <;> simp_all [eq_comm]

end Visitation

end DocWeave
