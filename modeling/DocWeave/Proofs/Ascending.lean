import DocWeave.Ascending
import Mathlib.Data.List.Sort

/-! # Members of ascending lists

Where of two different members one is always the lesser, collecting a list in ascending order
neither loses a member nor adds one. What is collected ascends, so that it lists no member twice.
-/

namespace DocWeave.Ascending

variable {α : Type} [LT α] [DecidableRel (· < · : α → α → Prop)]

theorem mem_of_mem_insert {x y : α} {xs : List α} (mem : y ∈ insert x xs) : y = x ∨ y ∈ xs := by
  induction xs with
  | nil => exact .inl (List.mem_singleton.1 mem)
  | cons z xs ih =>
    unfold insert at mem
    split at mem
    · exact List.mem_cons.1 mem
    · split at mem
      · rcases List.mem_cons.1 mem with rfl | behind
        · exact .inr List.mem_cons_self
        · exact (ih behind).imp_right (List.mem_cons_of_mem z)
      · exact .inr mem

/-- Collecting adds no member. -/
theorem mem_of_mem_ofList {x : α} {xs : List α} (mem : x ∈ ofList xs) : x ∈ xs := by
  induction xs with
  | nil => cases mem
  | cons y xs ih =>
    rcases mem_of_mem_insert mem with rfl | behind
    · exact List.mem_cons_self
    · exact List.mem_cons_of_mem y (ih behind)

section Transitive

variable [Trans (· < · : α → α → Prop) (· < · : α → α → Prop) (· < · : α → α → Prop)]

theorem pairwise_insert {x : α} {xs : List α} (ascends : xs.Pairwise (· < ·)) :
    (insert x xs).Pairwise (· < ·) := by
  induction xs with
  | nil => exact List.pairwise_singleton ..
  | cons y xs ih =>
    obtain ⟨below, further⟩ := List.pairwise_cons.1 ascends
    unfold insert
    split
    · rename_i first
      refine List.pairwise_cons.2 ⟨?_, ascends⟩
      intro z mem
      rcases List.mem_cons.1 mem with rfl | behind
      · exact first
      · exact Trans.trans first (below z behind)
    · split
      · rename_i later
        refine List.pairwise_cons.2 ⟨?_, ih further⟩
        intro z mem
        rcases mem_of_mem_insert mem with rfl | behind
        · exact later
        · exact below z behind
      · exact ascends

/-- What is collected comes out in order. -/
theorem pairwise_ofList (xs : List α) : (ofList xs).Pairwise (· < ·) := by
  induction xs with
  | nil => exact List.Pairwise.nil
  | cons x xs ih => exact pairwise_insert ih

end Transitive

variable [Std.Trichotomous (· < · : α → α → Prop)]

theorem mem_insert {x y : α} {xs : List α} : y ∈ insert x xs ↔ y = x ∨ y ∈ xs := by
  induction xs with
  | nil => simp [insert]
  | cons z xs ih =>
    unfold insert
    split
    · simp
    · rename_i notBelow
      split
      · simp only [List.mem_cons, ih]
        exact or_left_comm
      · rename_i notAbove
        obtain rfl := Std.Trichotomous.trichotomous x z notBelow notAbove
        simp

theorem mem_ofList {x : α} {xs : List α} : x ∈ ofList xs ↔ x ∈ xs := by
  induction xs with
  | nil => simp [ofList]
  | cons y xs ih =>
    simp only [ofList, List.foldr_cons, List.mem_cons] at ih ⊢
    rw [mem_insert, ih]

section Ordered

variable [Trans (· < · : α → α → Prop) (· < · : α → α → Prop) (· < · : α → α → Prop)]
  [Std.Irrefl (· < · : α → α → Prop)] {xs ys : List α}

omit [DecidableRel (· < · : α → α → Prop)] [Std.Trichotomous (· < · : α → α → Prop)] in
/-- Ascending lists with the same members are the same. -/
theorem eq_of_mem_iff (left : xs.Pairwise (· < ·)) (right : ys.Pairwise (· < ·))
    (same : ∀ x, x ∈ xs ↔ x ∈ ys) : xs = ys := by
  have antisymm : Std.Antisymm (· < · : α → α → Prop) :=
    ⟨fun x y below above => absurd (Trans.trans below above) (Std.Irrefl.irrefl x)⟩
  exact left.eq_of_mem_iff right same

/-- Lists are collected to the same exactly if they have the same members. -/
theorem ofList_eq_ofList_iff : ofList xs = ofList ys ↔ ∀ x, x ∈ xs ↔ x ∈ ys := by
  constructor
  · intro same x
    rw [← mem_ofList, same, mem_ofList]
  · intro same
    apply eq_of_mem_iff (pairwise_ofList xs) (pairwise_ofList ys)
    intro x
    rw [mem_ofList, mem_ofList, same]

end Ordered

theorem ofList_eq_nil_iff {xs : List α} : ofList xs = [] ↔ xs = [] := by
  simp only [List.eq_nil_iff_forall_not_mem, mem_ofList]

end DocWeave.Ascending
