import DocWeave.FileTree.Access
import DocWeave.Store

/-! # Documents in a file tree

The files of a tree are a store of documents. Walking a path agrees with collapsing it, since a
tree has no links; so every file that can be read has its location among the finitely many
locations of files.
-/

namespace DocWeave

namespace Path

/-- One step of walking and one of collapsing do the same. -/
theorem climb_reverse (location : List Text) (name : Text) (climbs : parentStep ∉ location) :
    (climb true location.reverse name).reverse =
      if name = parentStep then location.dropLast else location ++ [name] := by
  unfold climb
  by_cases up : name = parentStep
  · rcases location.eq_nil_or_concat with rfl | ⟨outer, inner, rfl⟩
    · simp [up]
    · have : inner ≠ parentStep := by
        rintro rfl
        exact climbs (by simp)
      simp [up, this]
  · simp [up]

end Path

namespace FileTree

/-- Where a walk ends is what collapsing the names gives. -/
theorem eq_foldl_climb_of_walk {tree : FileTree} {names : List Text} {start finish : Location}
    (clean : parentStep ∉ start) (walked : tree.walk start names = .ok finish) :
    finish = (names.foldl (Path.climb true) start.reverse).reverse := by
  induction names generalizing start with
  | nil => simpa [walk, eq_comm] using walked
  | cons name rest ih =>
    unfold walk at walked
    split at walked
    · simp at walked
    · simp at walked
    · by_cases up : name = parentStep
      · rw [if_pos up] at walked
        have kept : parentStep ∉ start.dropLast := fun mem => clean (List.dropLast_subset _ mem)
        rw [ih kept walked, List.foldl_cons, ← List.reverse_reverse (Path.climb true start.reverse name),
          Path.climb_reverse start name clean, if_pos up]
      · rw [if_neg up] at walked
        split at walked
        · simp at walked
        · have kept : parentStep ∉ start ++ [name] := by simp [clean, Ne.symm up]
          rw [ih kept walked, List.foldl_cons,
            ← List.reverse_reverse (Path.climb true start.reverse name),
            Path.climb_reverse start name clean, if_neg up]

/-- A path leads to the names of the path collapsed. -/
theorem names_normalize_of_reach {tree : FileTree} {path : Path} {location : Location}
    (reached : tree.reach path = .ok location) : path.normalize.names = location := by
  unfold reach at reached
  split at reached
  · simp at reached
  · split at reached
    · simp at reached
    · have located : tree.walk [] path.names = .ok location := by
        unfold locate at reached
        cases walked : tree.walk [] path.names with
        | error cause =>
          rw [walked] at reached
          cases (show Except.error (refuse cause path) = Except.ok location from reached)
        | ok found =>
          rw [walked] at reached
          exact congrArg Except.ok
            (Except.ok.inj (show Except.ok found = Except.ok location from reached))
      rw [eq_foldl_climb_of_walk (by simp) located]
      unfold Path.normalize Path.normalizeFrom Path.join
      split
      · rename_i absolute
        simp [Path.collapse, absolute]
      · have absolute : (Anchor.root != Anchor.relative) = true := rfl
        simp [Path.collapse, Path.filter_isName_names, Path.root, Path.ofAnchor, Path.isAbsolute,
          absolute]

/-- The collapsed absolute paths of the files. -/
def documents (tree : FileTree) : List Path :=
  tree.files.flatMap fun location =>
    [(Path.ofAnchor .root).extend location, (Path.ofAnchor .doubleRoot).extend location]

theorem normalize_mem_documents {tree : FileTree} {path : Path} {bytes : List UInt8}
    (read : tree.readBytes path = .ok bytes) : path.normalize ∈ tree.documents := by
  unfold readBytes at read
  cases reached : tree.reach path with
  | error failure => simp [reached, bind, Except.bind] at read
  | ok location =>
    simp only [reached, bind, Except.bind] at read
    have names := names_normalize_of_reach reached
    have isFile : tree.node? location = some (.file bytes) := by
      split at read <;> simp_all
    have listed : location ∈ tree.files := by
      unfold node? at isFile
      split at isFile
      · simp at isFile
      · obtain ⟨before, after, nodes, _⟩ := List.lookup_eq_some_iff.1 isFile
        exact List.mem_filterMap.2 ⟨(_, .file bytes), by simp [nodes], rfl⟩
    refine List.mem_flatMap.2 ⟨location, listed, ?_⟩
    have spelled (anchor : Anchor) (same : path.normalize.anchor = anchor) :
        path.normalize = (Path.ofAnchor anchor).extend location := by
      refine Path.ext_names same ?_
      simp [Path.ofAnchor, ← names, Path.filter_isName_names]
    have absolute := path.isAbsolute_normalize
    cases anchor : path.normalize.anchor with
    | relative => simp [Path.isAbsolute, anchor] at absolute
    | root => simp [spelled _ anchor]
    | doubleRoot => simp [spelled _ anchor]

/-- The files of a tree as a store of documents. -/
def store (tree : FileTree) (encoding : Text) : Store where
  read := tree.readText encoding
  reach := tree.documents
  normalize_mem_reach {path text} read := by
    unfold readText at read
    cases found : tree.readBytes path with
    | error failure => simp [found, bind, Except.bind] at read
    | ok bytes => exact normalize_mem_documents found

end FileTree

end DocWeave
