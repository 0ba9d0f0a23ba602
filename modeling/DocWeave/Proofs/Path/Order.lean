import DocWeave.Path.Basic

/-! # The order of paths

Paths are ordered by their keys, and a key tells which path it belongs to: no name looks like the
slashes of an anchor. So of two different paths one always comes first.
-/

namespace DocWeave.Path

variable {p q : Path}

/-- No name of a path is a single or a double slash. -/
theorem ne_cons_of_names {anchor : Anchor} {names : List Text} (slashed : '/' ∈ anchor.toText) :
    p.names ≠ anchor.toText :: names := by
  intro same
  have named := p.isName_of_mem anchor.toText (same ▸ List.mem_cons_self)
  simp [isName, slashed] at named

theorem mem_toText_of_ne_relative {anchor : Anchor} (absolute : anchor ≠ .relative) :
    '/' ∈ anchor.toText := by
  cases anchor with
  | relative => exact absurd rfl absolute
  | root => exact List.mem_cons_self
  | doubleRoot => exact List.mem_cons_self

theorem eq_of_key_eq (same : p.key = q.key) : p = q := by
  unfold key at same
  split at same <;> split at same
  · rename_i left right
    exact ext_names (left.trans right.symm) same
  · rename_i left right
    exact absurd same (ne_cons_of_names (mem_toText_of_ne_relative right))
  · rename_i left right
    exact absurd same.symm (ne_cons_of_names (mem_toText_of_ne_relative left))
  · obtain ⟨anchors, names⟩ := List.cons.inj same
    refine ext_names ?_ names
    revert anchors
    cases p.anchor <;> cases q.anchor <;> decide

instance : Std.Trichotomous (· < · : Path → Path → Prop) where
  trichotomous p q notBelow notAbove :=
    eq_of_key_eq (Std.Trichotomous.trichotomous (r := fun a b : List Text => a < b) p.key q.key
      notBelow notAbove)

instance : Trans (· < · : Path → Path → Prop) (· < · : Path → Path → Prop)
    (· < · : Path → Path → Prop) where
  trans below above := List.lt_trans below above

instance : Std.Irrefl (· < · : Path → Path → Prop) where
  irrefl p := List.lt_irrefl p.key

theorem ne_of_lt (below : p < q) : p ≠ q := by
  rintro rfl
  exact List.lt_irrefl _ below

/-- Of two absolute paths with the same names, the one with a single slash comes first. -/
theorem anchors_of_lt (below : p < q) (same : p.names = q.names) (left : p.isAbsolute = true)
    (right : q.isAbsolute = true) : p.anchor = .root ∧ q.anchor = .doubleRoot := by
  have slashed {path : Path} (absolute : path.isAbsolute = true) :
      path.key = path.anchor.toText :: path.names :=
    if_neg (bne_iff_ne.1 absolute)
  have ordered : p.anchor.toText :: p.names < q.anchor.toText :: q.names := by
    rw [← slashed left, ← slashed right]
    exact below
  rw [same] at ordered
  rcases List.cons_lt_cons_iff.1 ordered with first | ⟨-, behind⟩
  · revert left right first
    unfold isAbsolute
    cases p.anchor <;> cases q.anchor <;> decide
  · exact absurd behind (List.lt_irrefl _)

end DocWeave.Path
