import DocWeave.Proofs.Path.Normal
import DocWeave.Store

/-! # Stores up to spelling

Two spellings of a path name one document when they collapse to one path. A store may keep to this,
and any store does once paths are collapsed before they are looked up.
-/

namespace DocWeave.Store

/-- What can be read depends only on the collapsed path. -/
def IgnoresSpelling (store : Store) : Prop :=
  ∀ path, (store.read path.normalize).toOption = (store.read path).toOption

/-- A read fails only for reasons that leave a marker in place of the document. -/
def FailsUnreadable (store : Store) : Prop :=
  ∀ path failure, store.read path = .error failure → failure.isUnreadable = true

/-- The store with paths collapsed before they are looked up. -/
def collapsed (store : Store) : Store where
  read path := store.read path.normalize
  reach := store.reach
  normalize_mem_reach answered := by
    simpa using store.normalize_mem_reach answered

theorem ignoresSpelling_collapsed (store : Store) : store.collapsed.IgnoresSpelling := by
  intro path
  simp [collapsed]

theorem failsUnreadable_collapsed {store : Store} (unreadable : store.FailsUnreadable) :
    store.collapsed.FailsUnreadable :=
  fun path => unreadable path.normalize

/-- A store of listed answers gives nothing but these. -/
theorem mem_of_read_ofList {answers : List (Path × Except Failure Text)} {path : Path} {raw : Text}
    (read : (ofList answers).read path = .ok raw) : (path, .ok raw) ∈ answers := by
  cases found : answers.lookup path with
  | none =>
    simp only [ofList, found, Option.getD_none] at read
    cases read
  | some answer =>
    obtain ⟨before, after, split, _⟩ := List.lookup_eq_some_iff.1 found
    simp only [ofList, found, Option.getD_some] at read
    simp [split, read]

theorem failsUnreadable_ofList {answers : List (Path × Except Failure Text)}
    (listed : ∀ answer ∈ answers, ∀ failure, answer.2 = .error failure →
      failure.isUnreadable = true) : (ofList answers).FailsUnreadable := by
  intro path failure failed
  cases found : answers.lookup path with
  | none =>
    simp only [ofList, found, Option.getD_none] at failed
    cases failed
    rfl
  | some answer =>
    obtain ⟨before, after, split, _⟩ := List.lookup_eq_some_iff.1 found
    simp only [ofList, found, Option.getD_some] at failed
    exact listed (path, answer) (by simp [split]) failure failed

end DocWeave.Store
