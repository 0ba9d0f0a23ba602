import DocWeave.Visitation

/-! # Histories of visits

Visits are nested when whatever is entered was not in expansion, and is left again once everything
entered within it has been left. Such a history never has an entry refused. At any moment of it the
documents in expansion are those of its start followed by the ones still open, and at its end they
are those of its start in the same order, so histories one after another do not disturb each other.
-/

namespace DocWeave.Visitation

variable {v inside : Visitation} {path : Path} {steps more before : List Step}

/-- A history leads on from where another ends. -/
theorem replay_append (v : Visitation) (steps more : List Step) :
    v.replay (steps ++ more) = (v.replay steps).replay more :=
  List.foldl_append

theorem replay_cons (v : Visitation) (step : Step) (steps : List Step) :
    v.replay (step :: steps) = (v.step step).replay steps := rfl

theorem step_enter (entered : v.enter path = .ok inside) : v.step (.enter path) = inside := by
  rw [step, entered]
  rfl

/-- Leaving what has just been entered gives the visitation back, order included. -/
theorem leave_of_enter (entered : v.enter path = .ok inside) : inside.leave path = v := by
  obtain ⟨chain, fresh⟩ := chain_enter entered
  have erased : inside.chain.erase path = v.chain := by
    rw [chain, List.erase_append_right _ fresh, List.erase_cons_head, List.append_nil]
  cases v
  simp only [leave, erased]

/-- Visits one within another. -/
inductive Nested : Visitation → List Step → Prop where
  | nil (v : Visitation) : Nested v []
  | visit {v inside : Visitation} {path : Path} {within after : List Step}
      (entered : v.enter path = .ok inside) (inner : Nested inside within)
      (rest : Nested v after) : Nested v (.enter path :: (within ++ .leave path :: after))

/-- Nested visits give the visitation back. -/
theorem Nested.replay_eq (nested : Nested v steps) : v.replay steps = v := by
  induction nested with
  | nil v => rfl
  | visit entered inner rest ihInner ihRest =>
    rw [replay_cons, step_enter entered, replay_append, ihInner, replay_cons, step,
      leave_of_enter entered, ihRest]

theorem Nested.append (first : Nested v steps) (second : Nested v more) :
    Nested v (steps ++ more) := by
  induction first with
  | nil v => exact second
  | visit entered inner rest _ ihRest =>
    rw [List.cons_append, List.append_assoc, List.cons_append]
    exact .visit entered inner (ihRest second)

/-- One visit, and whatever it does within. -/
theorem Nested.around (entered : v.enter path = .ok inside) (inner : Nested inside steps) :
    Nested v (.enter path :: (steps ++ [.leave path])) :=
  .visit entered inner (.nil v)

/-- At any moment of nested visits, what is in expansion is what was at the start, followed by the
documents that are still open; and what is entered next is not among it. -/
theorem Nested.moment (nested : Nested v steps) {later : List Step} (split : steps = before ++ later) :
    (∃ opened, (v.replay before).chain = v.chain ++ opened) ∧
      ∀ path rest, later = .enter path :: rest → path ∉ (v.replay before).chain := by
  induction nested generalizing before later with
  | nil v =>
    obtain ⟨rfl, rfl⟩ := List.append_eq_nil_iff.1 split.symm
    exact ⟨⟨[], (List.append_nil _).symm⟩, nofun⟩
  | @visit v inside first within after entered inner rest ihInner ihRest =>
    obtain ⟨chain, fresh⟩ := chain_enter entered
    rcases List.cons_eq_append_iff.1 split with ⟨rfl, rfl⟩ | ⟨started, rfl, cut⟩
    · refine ⟨⟨[], (List.append_nil _).symm⟩, ?_⟩
      rintro path rest ⟨⟩
      exact fresh
    rw [replay_cons, step_enter entered]
    rcases List.append_eq_append_iff.1 cut with ⟨ending, rfl, leaving⟩ | ⟨left, rfl, rfl⟩
    · -- The first visit has been left, or is just being left.
      rw [replay_append, inner.replay_eq]
      rcases List.cons_eq_append_iff.1 leaving with ⟨rfl, rfl⟩ | ⟨beyond, rfl, behind⟩
      · exact ⟨⟨[first], chain⟩, nofun⟩
      · rw [replay_cons, step, leave_of_enter entered]
        exact ihRest behind
    · obtain ⟨⟨opened, within⟩, unopened⟩ := ihInner rfl
      refine ⟨⟨first :: opened, by rw [within, chain, List.append_assoc]; rfl⟩, ?_⟩
      intro path rest next
      cases left with
      | nil => cases next
      | cons step left =>
        obtain ⟨rfl, -⟩ := List.cons.inj next
        exact unopened path left rfl

end DocWeave.Visitation
