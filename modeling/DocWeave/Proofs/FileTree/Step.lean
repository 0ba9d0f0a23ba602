import DocWeave.Proofs.FileTree.Regular
import DocWeave.Proofs.Text.Codec
import Mathlib.Logic.Relation

/-! # Steps of a file tree

Whatever is done to a tree comes down to three steps: a directory is made where nothing stands, a
file is put where no directory stands, or a file is removed. Every step keeps the tree regular, and
its files legible: what is put is empty, or the encoding has written it. Only removing a file takes
one away.
-/

namespace DocWeave.FileTree

open Relation

variable {tree left : FileTree} {location : Location} {path : Path} {encoding text : Text}
  {known : Encoding} {bytes : List UInt8}

/-- One step of making directories. -/
inductive Grows (tree : FileTree) : FileTree → Prop where
  | directory {path : Path} {location : Location} (reached : tree.reach path = .ok location)
      (free : tree.node? location = none) : Grows tree (tree.set location .directory)

/-- One step of writing. -/
inductive Puts (encoding : Text) (tree : FileTree) : FileTree → Prop where
  | directory {path : Path} {location : Location} (reached : tree.reach path = .ok location)
      (free : tree.node? location = none) : Puts encoding tree (tree.set location .directory)
  | file {path : Path} {location : Location} (text : Text)
      (reached : tree.reach path = .ok location)
      (free : tree.node? location ≠ some .directory) :
      Puts encoding tree (tree.set location (.file ((encodeText encoding text).toOption.getD [])))

theorem Grows.puts (encoding : Text) (step : Grows tree left) : Puts encoding tree left := by
  cases step with
  | directory reached free => exact .directory reached free

/-- One step of deleting. -/
inductive Removes (tree : FileTree) : FileTree → Prop where
  | file {location : Location} {bytes : List UInt8}
      (stands : tree.node? location = some (.file bytes)) : Removes tree (tree.erase location)

/-! ## Operations are steps -/

theorem grows_makeDirectory (made : tree.makeDirectory path = .ok left) : Grows tree left := by
  unfold makeDirectory at made
  cases reached : tree.reach path with
  | error failure =>
    rw [reached] at made
    cases made
  | ok location =>
    simp only [reached, bind, Except.bind] at made
    split at made
    · cases made
    · rename_i free
      cases made
      rw [not_or, Bool.not_eq_true, Option.isSome_eq_false_iff, Option.isNone_iff_eq_none] at free
      exact .directory reached free.2

theorem puts_writeBytes
    (wrote : tree.writeBytes path ((encodeText encoding text).toOption.getD []) = .ok left) :
    Puts encoding tree left := by
  unfold writeBytes at wrote
  cases reached : tree.reach path with
  | error failure =>
    rw [reached] at wrote
    cases wrote
  | ok location =>
    simp only [reached, bind, Except.bind] at wrote
    split at wrote
    · cases wrote
    · rename_i free
      cases wrote
      exact .file text reached free

theorem removes_remove (removed : tree.remove path = .ok left) : Removes tree left := by
  unfold remove at removed
  cases reached : tree.reach path with
  | error failure =>
    rw [reached] at removed
    cases removed
  | ok location =>
    simp only [reached, bind, Except.bind] at removed
    cases stands : tree.node? location with
    | none =>
      rw [stands] at removed
      cases removed
    | some node =>
      rw [stands] at removed
      cases node with
      | directory => cases removed
      | file bytes =>
        dsimp only at removed
        split at removed
        · cases removed
        · cases removed
          exact .file stands

/-- Making directories makes one after another. -/
theorem grows_makeDirectories (depth : Nat) (tree : FileTree) (path : Path) :
    ReflTransGen Grows tree (makeDirectories depth tree path).2 := by
  fun_induction makeDirectories depth tree path with
  | case1 _ _ _ _ made => exact .single (grows_makeDirectory made)
  | case4 _ _ _ _ _ _ _ above _ made ih =>
    rw [above] at ih
    exact ih.tail (grows_makeDirectory made)
  -- In the other cases where there was something to make above, nothing is made but that.
  | case3 _ _ _ _ _ _ _ _ above ih => rwa [above] at ih
  | case5 _ _ _ _ _ _ _ above _ _ _ ih => rwa [above] at ih
  | case6 _ _ _ _ _ _ _ above _ _ _ ih => rwa [above] at ih
  | case7 _ _ _ _ _ _ _ above _ _ _ ih => rwa [above] at ih
  | _ => exact .refl

theorem grows_ensureDirectory (tree : FileTree) (path : Path) :
    ReflTransGen Grows tree (tree.ensureDirectory path).2 :=
  grows_makeDirectories path.names.length tree path

theorem puts_ensureDirectory (encoding : Text) (tree : FileTree) (path : Path) :
    ReflTransGen (Puts encoding) tree (tree.ensureDirectory path).2 :=
  ReflTransGen.mono (fun _ _ step => Grows.puts encoding step) _ _ (tree.grows_ensureDirectory path)

theorem puts_writeText (encoding : Text) (tree : FileTree) (path : Path) (text : Text) :
    ReflTransGen (Puts encoding) tree (tree.writeText encoding path text).2 := by
  unfold writeText
  dsimp only
  split
  · exact .refl
  · rename_i wrote
    exact .single (puts_writeBytes wrote)

/-! ## What steps keep -/

theorem Regular.of_put (regular : tree.Regular) (step : Puts encoding tree left) :
    left.Regular := by
  cases step with
  | directory reached free =>
    exact regular.set (regular.open_of_reach reached) (ne_nil_of_node? free (by simp))
      fun _ => rfl
  | file text reached free =>
    exact regular.set (regular.open_of_reach reached) (ne_nil_of_node? rfl free)
      fun directory => absurd directory free

theorem Regular.of_remove (regular : tree.Regular) (step : Removes tree left) :
    left.Regular := by
  cases step with
  | file stands => exact regular.erase stands

/-- Every file of the tree is text in the encoding. -/
def Legible (known : Encoding) (tree : FileTree) : Prop :=
  ∀ location bytes, tree.node? location = some (.file bytes) →
    ∃ text, Codec.decode known bytes = .ok text

theorem legible_of_nodes
    (each : ∀ entry ∈ tree.nodes, ∀ bytes, entry.2 = .file bytes →
      ∃ text, Codec.decode known bytes = .ok text) : tree.Legible known :=
  fun _ bytes stands => each _ (mem_of_node? stands (ne_nil_of_node? stands (by simp))) bytes rfl

/-- What is put for a text is text, also where the encoding cannot write it. -/
theorem exists_decode_encodeText (named : Encoding.ofName? encoding = some known) (text : Text) :
    ∃ read, Codec.decode known ((encodeText encoding text).toOption.getD []) = .ok read := by
  have encoded : encodeText encoding text = (Codec.encode known text).mapError .encode := by
    rw [encodeText, named]
  rw [encoded]
  cases written : Codec.encode known text with
  | error fault => exact ⟨[], Codec.decode_nil known⟩
  | ok bytes => exact ⟨text, Codec.decode_of_encode written⟩

theorem Legible.of_put (legible : tree.Legible known)
    (named : Encoding.ofName? encoding = some known) (step : Puts encoding tree left) :
    left.Legible known := by
  intro other found stands
  cases step with
  | @directory path location reached free =>
    rw [node?_set (ne_nil_of_node? free (by simp))] at stands
    split at stands
    · cases stands
    · exact legible other found stands
  | @file path location text reached free =>
    rw [node?_set (ne_nil_of_node? rfl free)] at stands
    split at stands
    · cases stands
      exact exists_decode_encodeText named text
    · exact legible other found stands

theorem Legible.of_remove (legible : tree.Legible known) (step : Removes tree left) :
    left.Legible known := by
  intro other found stands
  cases step with
  | @file location bytes isFile =>
    rw [node?_erase (ne_nil_of_node? isFile (by simp))] at stands
    split at stands
    · cases stands
    · exact legible other found stands

/-- A file stands at the location. -/
def HasFile (tree : FileTree) (location : Location) : Prop :=
  ∃ bytes, tree.node? location = some (.file bytes)

/-- Writing takes no file away. -/
theorem HasFile.of_put (stands : tree.HasFile location) (step : Puts encoding tree left) :
    left.HasFile location := by
  obtain ⟨bytes, stands⟩ := stands
  cases step with
  | @directory path other reached free =>
    have placed : other ≠ [] := ne_nil_of_node? free (by simp)
    have apart : location ≠ other := by
      rintro rfl
      rw [stands] at free
      cases free
    exact ⟨bytes, by rw [node?_set placed, if_neg apart, stands]⟩
  | @file path other text reached free =>
    by_cases hit : location = other
    · exact ⟨_, by rw [node?_set (ne_nil_of_node? rfl free), if_pos hit]⟩
    · exact ⟨bytes, by rw [node?_set (ne_nil_of_node? rfl free), if_neg hit, stands]⟩

theorem HasFile.of_puts (stands : tree.HasFile location)
    (steps : ReflTransGen (Puts encoding) tree left) : left.HasFile location := by
  induction steps with
  | refl => exact stands
  | tail _ step ih => exact ih.of_put step

end DocWeave.FileTree
