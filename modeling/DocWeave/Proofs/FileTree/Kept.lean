import DocWeave.Proofs.FileTree.Step

/-! # What writing keeps

Writing moves no directory, so that a path leads where it has led before. Making directories changes
no file, and putting a file changes no other one.
-/

namespace DocWeave.FileTree

open Relation

variable {tree left : FileTree} {location other : Location} {path : Path} {encoding : Text}
  {bytes : List UInt8} {failure : Failure}

/-! ## Directories stay -/

/-- Where every directory stays, a walk goes on to where it has gone. -/
theorem walk_of_directories {names : List Text} {start finish : Location}
    (kept : ∀ other, tree.node? other = some .directory → left.node? other = some .directory)
    (walked : tree.walk start names = .ok finish) : left.walk start names = .ok finish := by
  induction names generalizing start with
  | nil => exact walked
  | cons name rest ih =>
    rcases stands : tree.node? start with _ | _ | _
    · simp [walk, stands] at walked
    · rw [walk, stands] at walked
      rw [walk, kept start stands]
      dsimp only at walked ⊢
      split_ifs at walked ⊢
      · exact ih walked
      · exact ih walked
    · simp [walk, stands] at walked

theorem Puts.directory_stays (step : Puts encoding tree left)
    (stands : tree.node? other = some .directory) : left.node? other = some .directory := by
  cases step with
  | @directory path location reached free =>
    rw [node?_set (ne_nil_of_node? free (by simp))]
    split
    · rfl
    · exact stands
  | @file path location text reached free =>
    have apart : other ≠ location := fun same => free (same ▸ stands)
    rw [node?_set (ne_nil_of_node? rfl free), if_neg apart, stands]

/-- Writing does not change where a path leads. -/
theorem reach_of_put (step : Puts encoding tree left) (reached : tree.reach path = .ok location) :
    left.reach path = .ok location := by
  unfold reach at reached ⊢
  split at reached
  · cases reached
  · rename_i noNull
    split at reached
    · cases reached
    · rename_i short
      rw [if_neg noNull, if_neg short]
      cases walked : tree.locate path with
      | error cause =>
        rw [walked] at reached
        cases reached
      | ok found =>
        rw [walked] at reached
        rw [locate, walk_of_directories (fun _ => step.directory_stays) walked]
        exact reached

theorem reach_of_puts (steps : ReflTransGen (Puts encoding) tree left)
    (reached : tree.reach path = .ok location) : left.reach path = .ok location := by
  induction steps with
  | refl => exact reached
  | tail _ step ih => exact reach_of_put step ih

/-! ## Files stay -/

/-- The trees have the same files with the same content. -/
def SameFiles (tree left : FileTree) : Prop :=
  ∀ location bytes, left.node? location = some (.file bytes) ↔ tree.node? location = some (.file bytes)

theorem SameFiles.refl (tree : FileTree) : tree.SameFiles tree := fun _ _ => Iff.rfl

/-- Making directories changes no file. -/
theorem sameFiles_of_grows (steps : ReflTransGen Grows tree left) : tree.SameFiles left := by
  induction steps with
  | refl => exact .refl tree
  | tail _ step ih =>
    intro other bytes
    rw [← ih other bytes]
    cases step with
    | @directory path location reached free =>
      rw [node?_set (ne_nil_of_node? free (by simp))]
      split
      · rename_i same
        simp [same, free]
      · rfl

end DocWeave.FileTree
