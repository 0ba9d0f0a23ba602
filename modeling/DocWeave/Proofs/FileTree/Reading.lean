import DocWeave.FileTree.Documents
import DocWeave.Proofs.FileTree.Step

/-! # What reading a file fails with

A read fails because the path holds the null character, because the file system refuses, because
there is no such encoding, or because the bytes are no text. In a tree that is readable the last two
do not happen, and a file can be read by the names of its location.
-/

namespace DocWeave.FileTree

variable {tree : FileTree} {encoding : Text} {path : Path} {failure : Failure}

theorem error_of_reach (failed : tree.reach path = .error failure) :
    (failure = .nullCharacter ∧ hasNull path = true) ∨ ∃ fault, failure = .file fault := by
  unfold reach at failed
  split at failed
  · cases failed
    exact .inl ⟨rfl, ‹_›⟩
  · split at failed
    · cases failed
      exact .inr ⟨_, rfl⟩
    · cases located : tree.locate path with
      | error cause =>
        rw [located] at failed
        cases failed
        exact .inr ⟨_, rfl⟩
      | ok location =>
        rw [located] at failed
        cases failed

theorem error_of_readBytes (failed : tree.readBytes path = .error failure) :
    (failure = .nullCharacter ∧ hasNull path = true) ∨ ∃ fault, failure = .file fault := by
  unfold readBytes at failed
  cases reached : tree.reach path with
  | error cause =>
    rw [reached] at failed
    cases failed
    exact error_of_reach reached
  | ok location =>
    rw [reached] at failed
    cases stands : tree.node? location with
    | none =>
      simp only [stands, bind, Except.bind] at failed
      cases failed
      exact .inr ⟨_, rfl⟩
    | some node =>
      simp only [stands, bind, Except.bind] at failed
      cases node with
      | directory =>
        cases failed
        exact .inr ⟨_, rfl⟩
      | file bytes => cases failed

/-- What is read are the bytes of the file that the path leads to. -/
theorem readBytes_eq_ok_iff {bytes : List UInt8} : tree.readBytes path = .ok bytes ↔
    ∃ location, tree.reach path = .ok location ∧ tree.node? location = some (.file bytes) := by
  unfold readBytes
  cases reached : tree.reach path with
  | error failure => simp [bind, Except.bind]
  | ok location =>
    rcases stands : tree.node? location with _ | _ | _ <;> simp [bind, Except.bind, stands]

theorem error_of_readText (failed : tree.readText encoding path = .error failure) :
    tree.readBytes path = .error failure ∨
      (failure = .unknownEncoding encoding ∧ Encoding.ofName? encoding = none) ∨
      ∃ known bytes fault, Encoding.ofName? encoding = some known ∧
        tree.readBytes path = .ok bytes ∧ Codec.decode known bytes = .error fault ∧
        failure = .decode fault := by
  unfold readText at failed
  cases read : tree.readBytes path with
  | error cause =>
    rw [read] at failed
    cases failed
    exact .inl rfl
  | ok bytes =>
    rw [read] at failed
    cases known : Encoding.ofName? encoding with
    | none =>
      simp only [known, bind, Except.bind] at failed
      cases failed
      exact .inr (.inl ⟨rfl, rfl⟩)
    | some named =>
      simp only [known, bind, Except.bind] at failed
      cases decoded : Codec.decode named bytes with
      | error fault =>
        rw [decoded] at failed
        cases failed
        exact .inr (.inr ⟨named, bytes, fault, rfl, rfl, decoded, rfl⟩)
      | ok text =>
        rw [decoded] at failed
        cases failed

/-- What a read fails for. -/
theorem cause_of_readText (failed : tree.readText encoding path = .error failure) :
    failure = .nullCharacter ∨ (∃ fault, failure = .file fault) ∨
      (∃ name, failure = .unknownEncoding name) ∨ ∃ fault, failure = .decode fault := by
  rcases error_of_readText failed with unread | ⟨same, _⟩ | ⟨_, _, fault, _, _, _, same⟩
  · rcases error_of_readBytes unread with ⟨same, _⟩ | ⟨fault, same⟩
    · exact .inl same
    · exact .inr (.inl ⟨fault, same⟩)
  · exact .inr (.inr (.inl ⟨encoding, same⟩))
  · exact .inr (.inr (.inr ⟨fault, same⟩))

/-- A read never ends in a cycle. -/
theorem readText_ne_cycle (cycle : Cycle) : tree.readText encoding path ≠ .error (.cycle cycle) := by
  intro failed
  rcases cause_of_readText failed with none | ⟨_, none⟩ | ⟨_, none⟩ | ⟨_, none⟩ <;> cases none

/-- A read never fails for a pattern. -/
theorem readText_ne_pattern (fault : PatternFault) :
    tree.readText encoding path ≠ .error (.pattern fault) := by
  intro failed
  rcases cause_of_readText failed with none | ⟨_, none⟩ | ⟨_, none⟩ | ⟨_, none⟩ <;> cases none

/-- The tree is regular and every file of it is text in the encoding, which there is. -/
structure Readable (encoding : Text) (tree : FileTree) : Prop where
  regular : tree.Regular
  legible : ∃ known, Encoding.ofName? encoding = some known ∧ tree.Legible known

namespace Readable

open Relation

theorem of_blank (regular : tree.Regular)
    (blank : ∀ entry ∈ tree.nodes, entry.2 = .directory ∨ entry.2 = .file []) :
    tree.Readable "utf-8" := by
  refine ⟨regular, .utf8, rfl, legible_of_nodes ?_⟩
  intro entry listed bytes isFile
  rcases blank entry listed with directory | file
  · rw [directory] at isFile
    cases isFile
  · rw [file] at isFile
    cases isFile
    exact ⟨[], Codec.decode_nil .utf8⟩

theorem of_puts {left : FileTree} (readable : tree.Readable encoding)
    (steps : ReflTransGen (Puts encoding) tree left) : left.Readable encoding := by
  induction steps with
  | refl => exact readable
  | tail _ step ih =>
    obtain ⟨known, named, legible⟩ := ih.legible
    exact ⟨ih.regular.of_put step, known, named, legible.of_put named step⟩

theorem of_removes {left : FileTree} (readable : tree.Readable encoding)
    (steps : ReflTransGen Removes tree left) : left.Readable encoding := by
  induction steps with
  | refl => exact readable
  | tail _ step ih =>
    obtain ⟨known, named, legible⟩ := ih.legible
    exact ⟨ih.regular.of_remove step, known, named, legible.of_remove step⟩

/-- Only a file that is not there, or that no path leads to, cannot be read. -/
theorem readBytes_of_error (readable : tree.Readable encoding)
    (failed : tree.readText encoding path = .error failure) :
    tree.readBytes path = .error failure := by
  obtain ⟨known, named, legible⟩ := readable.legible
  rcases error_of_readText failed with unread | ⟨_, unknown⟩ | ⟨_, _, _, same, read, undecoded, _⟩
  · exact unread
  · rw [named] at unknown
    cases unknown
  · obtain ⟨location, _, stands⟩ := readBytes_eq_ok_iff.1 read
    obtain ⟨text, decoded⟩ := legible location _ stands
    cases named.symm.trans same
    cases decoded.symm.trans undecoded

/-- A file can be read by the names of its location, unless they are too long together. -/
theorem exists_readBytes (readable : tree.Readable encoding) (stands : tree.HasFile path.names)
    (short : byteLength path.toText ≤ pathLimit) : ∃ bytes, tree.readBytes path = .ok bytes := by
  obtain ⟨bytes, stands⟩ := stands
  have reached : tree.reach path = .ok path.names := by
    rw [reach_of_locate (readable.regular.hasNull_of_node? stands)
      (readable.regular.locate_of_node? stands), if_neg (Nat.not_lt.2 short)]
  exact ⟨bytes, readBytes_eq_ok_iff.2 ⟨_, reached, stands⟩⟩

end Readable

end DocWeave.FileTree
