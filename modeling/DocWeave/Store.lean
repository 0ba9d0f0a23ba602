import DocWeave.Failure

/-! # Stores of documents

A store answers requests for documents by path. It comes with a finite list that covers every
document it can read, up to the spelling of paths: this is what ends a chain of inclusions.
-/

namespace DocWeave

/-- Documents by path. Readers that answer for infinitely many collapsed paths are left out: a chain
of inclusions through them need not end. A resolution that does end asks for finitely many paths, and
nothing else of the reader counts for it. -/
structure Store where
  read : Path → Except Failure Text
  /-- The collapsed paths of all documents that can be read. -/
  reach : List Path
  normalize_mem_reach : ∀ {path text}, read path = .ok text → path.normalize ∈ reach

namespace Store

/-- The store of listed answers; any other path leads to no file. -/
def ofList (answers : List (Path × Except Failure Text)) : Store where
  read path := (answers.lookup path).getD (.error (.file ⟨.notFound, path.toText⟩))
  reach := answers.map fun answer => answer.1.normalize
  normalize_mem_reach {path text} answered := by
    cases found : answers.lookup path with
    | none => simp [found] at answered
    | some answer =>
      obtain ⟨before, after, listed, _⟩ := List.lookup_eq_some_iff.1 found
      exact List.mem_map.2 ⟨(path, answer), by simp [listed], rfl⟩

/-- How many documents can be read that are not in the chain. -/
def unvisited (store : Store) (chain : List Path) : Nat :=
  (store.reach.filter fun path => path ∉ chain).length

theorem unvisited_append_lt {store : Store} {chain : List Path} {path : Path}
    (readable : path ∈ store.reach) (fresh : path ∉ chain) :
    store.unvisited (chain ++ [path]) < store.unvisited chain := by
  unfold unvisited
  generalize store.reach = paths at readable
  induction paths with
  | nil => simp at readable
  | cons other rest ih =>
    have grows : (rest.filter fun p => p ∉ chain ++ [path]).length ≤
        (rest.filter fun p => p ∉ chain).length := by
      rw [← List.countP_eq_length_filter, ← List.countP_eq_length_filter]
      exact List.countP_mono_left fun p _ => by simp +contextual
    by_cases same : other = path
    · subst same
      simpa [List.filter_cons, fresh] using Nat.lt_succ_of_le (by simpa using grows)
    · have later := ih ((List.mem_cons.1 readable).resolve_left (Ne.symm same))
      by_cases visited : other ∈ chain
      · simpa [List.filter_cons, visited, same] using later
      · simpa [List.filter_cons, visited, same] using later

end Store

end DocWeave
