import DocWeave.Proofs.Visitation
import Mathlib.Data.List.Induction
import Mathlib.Order.Bounds.Basic

/-! # What is in expansion after any history

Entries and exits may come in any order, and an entry may be refused. After every history the documents
in expansion are those that have been entered and not left since, each once, in the order in which they
were let in last. An entry that is let in puts its document at the end, and an exit takes one document
out; everything else follows step by step.
-/

namespace DocWeave.Visitation

variable {v : Visitation} {steps : List Step} {step : Step} {path other : Path} {i : Nat}

/-- A step that ends the visit of a document, whether it fails or not. -/
def Step.Ends (path : Path) (step : Step) : Prop := step = .leave path ∨ step = .fail path

/-- A document is open after a history that enters it and does not end its visit afterwards. -/
def IsOpen (steps : List Step) (path : Path) : Prop :=
  ∃ before after, steps = before ++ .enter path :: after ∧ ∀ step ∈ after, ¬ step.Ends path

/-- The step at a place of a history enters a document, and the document was not open before. -/
def LetsIn (steps : List Step) (path : Path) (i : Nat) : Prop :=
  steps[i]? = some (.enter path) ∧ ¬ IsOpen (steps.take i) path

/-- The last entry of one document that was let in comes before that of another. -/
def Precedes (steps : List Step) (path other : Path) : Prop :=
  ∃ i j, IsGreatest {i | LetsIn steps path i} i ∧ IsGreatest {j | LetsIn steps other j} j ∧ i < j

/-! ## One step -/

theorem Step.enter_or_ends (step : Step) :
    (∃ path, step = .enter path) ∨ ∃ path, step.Ends path := by
  cases step with
  | enter path => exact .inl ⟨path, rfl⟩
  | leave path => exact .inr ⟨path, .inl rfl⟩
  | fail path => exact .inr ⟨path, .inr rfl⟩

theorem Step.not_ends_enter : ¬ (Step.enter other).Ends path := by
  rintro (same | same)
  · cases same
  · cases same

/-- A step ends the visit of one document only. -/
theorem Step.Ends.iff (ends : step.Ends path) : step.Ends other ↔ other = path := by
  constructor
  · rcases ends with rfl | rfl
    · rintro (same | same) <;> cases same
      rfl
    · rintro (same | same) <;> cases same
      rfl
  · rintro rfl
    exact ends

theorem chain_step_enter (v : Visitation) (path : Path) :
    (v.step (.enter path)).chain = if path ∈ v.chain then v.chain else v.chain ++ [path] := by
  by_cases held : path ∈ v.chain
  · have refused := enter_eq_error_iff.2 ⟨held, rfl⟩
    rw [Visitation.step, refused, if_pos held]
    rfl
  · cases entered : v.enter path with
    | error cycle => exact absurd (enter_eq_error_iff.1 entered).1 held
    | ok inside => rw [step_enter entered, (chain_enter entered).1, if_neg held]

/-- Leaving takes one document out and keeps the order of the others. -/
theorem chain_leave (v : Visitation) (path : Path) :
    (v.leave path).chain = v.chain.filter (· ≠ path) := by
  refine (v.nodup.erase_eq_filter path).trans (List.filter_congr fun other _ => ?_)
  exact (decide_not (p := other = path)).symm

theorem step_of_ends (ends : step.Ends path) (v : Visitation) : v.step step = v.leave path := by
  rcases ends with rfl | rfl
  · rfl
  · rfl

theorem mem_chain_step_iff :
    path ∈ (v.step step).chain ↔ step = .enter path ∨ (path ∈ v.chain ∧ ¬ step.Ends path) := by
  rcases step.enter_or_ends with ⟨entered, rfl⟩ | ⟨left, ends⟩
  · rw [chain_step_enter, Step.enter.injEq, and_iff_left Step.not_ends_enter]
    split
    · rename_i held
      exact ⟨.inr, fun either => either.elim (fun same => same ▸ held) id⟩
    · rw [List.mem_append, List.mem_singleton, or_comm, eq_comm]
  · have other : step ≠ .enter path := by
      rintro rfl
      exact Step.not_ends_enter ends
    rw [step_of_ends ends, chain_leave, List.mem_filter, decide_eq_true_iff, ends.iff,
      or_iff_right other]

/-! ## Open visits -/

theorem not_isOpen_nil : ¬ IsOpen [] path := by
  rintro ⟨before, after, split, -⟩
  cases before <;> cases split

theorem isOpen_concat_iff :
    IsOpen (steps ++ [step]) path ↔ step = .enter path ∨ (IsOpen steps path ∧ ¬ step.Ends path) := by
  constructor
  · rintro ⟨before, after, split, unended⟩
    rcases List.eq_nil_or_concat after with rfl | ⟨within, last, rfl⟩
    · exact .inl (List.cons.inj (List.append_inj' split rfl).2).1
    · rw [List.concat_eq_append, ← List.cons_append, ← List.append_assoc] at split
      obtain ⟨whole, same⟩ := List.append_inj' split rfl
      obtain rfl := (List.cons.inj same).1
      rw [List.concat_eq_append, List.forall_mem_append] at unended
      exact .inr ⟨⟨before, within, whole, unended.1⟩, unended.2 step List.mem_cons_self⟩
  · rintro (rfl | ⟨⟨before, after, rfl, unended⟩, goesOn⟩)
    · exact ⟨steps, [], rfl, by simp⟩
    · refine ⟨before, after ++ [step], by simp, ?_⟩
      rw [List.forall_mem_append, List.forall_mem_singleton]
      exact ⟨unended, goesOn⟩

theorem replay_concat (v : Visitation) (steps : List Step) (step : Step) :
    v.replay (steps ++ [step]) = (v.replay steps).step step := by
  rw [replay_append]
  rfl

/-- The documents in expansion are the open ones. -/
theorem mem_chain_replay_iff : path ∈ (empty.replay steps).chain ↔ IsOpen steps path := by
  induction steps using List.reverseRecOn with
  | nil => exact iff_of_false List.not_mem_nil not_isOpen_nil
  | append_singleton steps step ih => rw [replay_concat, mem_chain_step_iff, ih, isOpen_concat_iff]

/-! ## The order of entries -/

theorem LetsIn.lt_length (entered : LetsIn steps path i) : i < steps.length :=
  (List.getElem?_eq_some_iff.1 entered.1).1

/-- One more step may let one document in, at its own place. -/
theorem letsIn_concat_iff : LetsIn (steps ++ [step]) path i ↔
    LetsIn steps path i ∨ (i = steps.length ∧ step = .enter path ∧ ¬ IsOpen steps path) := by
  rcases Nat.lt_trichotomy i steps.length with before | rfl | beyond
  · rw [LetsIn, List.getElem?_append_left before, List.take_append_of_le_length before.le,
      or_iff_left fun last => before.ne last.1]
    rfl
  · rw [or_iff_right fun entered : LetsIn .. => entered.lt_length.false, LetsIn,
      List.getElem?_concat_length, List.take_left, Option.some.injEq]
    exact (and_iff_right rfl).symm
  · have short : ¬ i < (steps ++ [step]).length := by
      rw [List.length_append, List.length_singleton]
      omega
    refine iff_of_false (fun entered => short entered.lt_length) ?_
    rintro (entered | ⟨rfl, -⟩)
    · exact beyond.not_gt entered.lt_length
    · exact beyond.false

/-- Nothing lets an open document in, so its last entry stays the last. -/
theorem isGreatest_concat (opened : IsOpen steps path)
    (last : IsGreatest {i | LetsIn steps path i} i) :
    IsGreatest {i | LetsIn (steps ++ [step]) path i} i := by
  have same (j : Nat) : LetsIn (steps ++ [step]) path j ↔ LetsIn steps path j :=
    letsIn_concat_iff.trans (or_iff_left fun fresh => fresh.2.2 opened)
  exact ⟨(same i).2 last.1, fun j entered => last.2 ((same j).1 entered)⟩

theorem isGreatest_enter (fresh : ¬ IsOpen steps path) :
    IsGreatest {i | LetsIn (steps ++ [.enter path]) path i} steps.length := by
  refine ⟨letsIn_concat_iff.2 (.inr ⟨rfl, rfl, fresh⟩), fun j entered => ?_⟩
  have within := LetsIn.lt_length entered
  rw [List.length_append, List.length_singleton] at within
  omega

theorem exists_isGreatest (opened : IsOpen steps path) :
    ∃ i, IsGreatest {i | LetsIn steps path i} i := by
  induction steps using List.reverseRecOn with
  | nil => exact absurd opened not_isOpen_nil
  | append_singleton steps step ih =>
    by_cases already : IsOpen steps path
    · obtain ⟨i, last⟩ := ih already
      exact ⟨i, isGreatest_concat already last⟩
    · obtain rfl := (isOpen_concat_iff.1 opened).resolve_right fun still => already still.1
      exact ⟨_, isGreatest_enter already⟩

theorem Precedes.concat (left : IsOpen steps path) (right : IsOpen steps other)
    (ordered : Precedes steps path other) (step : Step) :
    Precedes (steps ++ [step]) path other := by
  obtain ⟨i, j, first, second, before⟩ := ordered
  exact ⟨i, j, isGreatest_concat left first, isGreatest_concat right second, before⟩

theorem precedes_enter (opened : IsOpen steps path) (fresh : ¬ IsOpen steps other) :
    Precedes (steps ++ [.enter other]) path other := by
  obtain ⟨i, last⟩ := exists_isGreatest opened
  exact ⟨i, steps.length, isGreatest_concat opened last, isGreatest_enter fresh, last.1.lt_length⟩

/-- The documents in expansion are in the order of their last entries. -/
theorem pairwise_replay (steps : List Step) :
    (empty.replay steps).chain.Pairwise (Precedes steps) := by
  induction steps using List.reverseRecOn with
  | nil => exact .nil
  | append_singleton steps step ih =>
    have kept : (empty.replay steps).chain.Pairwise (Precedes (steps ++ [step])) :=
      ih.imp_of_mem fun left right ordered =>
        ordered.concat (mem_chain_replay_iff.1 left) (mem_chain_replay_iff.1 right) step
    rw [replay_concat]
    rcases step.enter_or_ends with ⟨entered, rfl⟩ | ⟨left, ends⟩
    · rw [chain_step_enter]
      split
      · exact kept
      · rename_i fresh
        refine List.pairwise_append.2 ⟨kept, List.pairwise_singleton .., fun path held => ?_⟩
        rw [List.forall_mem_singleton]
        exact precedes_enter (mem_chain_replay_iff.1 held) (mt mem_chain_replay_iff.2 fresh)
    · rw [step_of_ends ends, chain_leave]
      exact kept.filter _

/-- After any history, the documents in expansion are the open ones, each once and in the order of
their last entries, and this list is what is counted, asked and gone through. To enter one of them
again, however it is spelled, is the cycle of its path and of the list, and changes nothing; to leave
or to fail one of them takes it out and keeps the order of the others. -/
theorem replay_ordered (steps : List Step) :
    let v := empty.replay steps
    ((∀ path, path ∈ v.chain ↔ IsOpen steps path) ∧ v.chain.Nodup ∧
      v.chain.Pairwise (Precedes steps)) ∧
    (v.length = v.chain.length ∧ v.toList = v.chain ∧
      ∀ path, v.contains path = true ↔ path ∈ v.chain) ∧
    (∀ path ∈ v.chain, ∀ spelling : Text, Path.ofText spelling = path →
      v.enter (.ofText spelling) = .error ⟨path, v.chain⟩ ∧
        v.step (.enter (.ofText spelling)) = v) ∧
    ∀ path ∈ v.chain, v.step (.leave path) = v.step (.fail path) ∧
      (v.step (.leave path)).chain = v.chain.filter (· ≠ path) := by
  intro v
  refine ⟨⟨fun path => mem_chain_replay_iff, v.nodup, pairwise_replay steps⟩,
    ⟨rfl, rfl, fun path => List.contains_iff_mem⟩, ?_, fun path _ => ⟨rfl, chain_leave v path⟩⟩
  rintro path held spelling rfl
  have refused := enter_eq_error_iff.2 ⟨held, rfl⟩
  refine ⟨refused, ?_⟩
  rw [Visitation.step, refused]
  rfl

/-- The outer document fails out before the inner one is left, after a refused entry, and comes back
behind it. -/
theorem replay_ordered_crossing :
    let outer := Path.ofText "/proj/a.md"
    let inner := Path.ofText "/proj/b.md"
    let steps := [.enter outer, .enter inner, .enter outer, .fail outer, .enter outer]
    let v := empty.replay steps
    v.chain = [inner, outer] ∧ Precedes steps inner outer ∧
      v.enter (.ofText "/proj/./b.md") = .error ⟨inner, [inner, outer]⟩ ∧
      (v.step (.fail inner)).chain = [outer] := by
  intro outer inner steps v
  obtain ⟨⟨-, -, ordered⟩, -, refused, left⟩ := replay_ordered steps
  have chain : v.chain = [inner, outer] := by decide +kernel
  have held : inner ∈ v.chain := by
    rw [chain]
    exact List.mem_cons_self
  refine ⟨chain, ?_, ?_, ?_⟩
  · change v.chain.Pairwise _ at ordered
    rw [chain] at ordered
    exact (List.pairwise_cons.1 ordered).1 outer List.mem_cons_self
  · rw [← chain]
    exact (refused inner held "/proj/./b.md" (by decide +kernel)).1
  · rw [← (left inner held).1, (left inner held).2]
    change v.chain.filter _ = _
    rw [chain]
    decide +kernel

end DocWeave.Visitation
