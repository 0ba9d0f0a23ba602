import DocWeave.Change
import DocWeave.Proofs.FileTree.Step

/-! # Changes file by file

Writing a list of files writes a first part of it, one file after another. It lists the destinations
of exactly these files, and it fails exactly when a file after them cannot be written. Writing and
deleting are steps of the tree.
-/

namespace DocWeave

/-- The diagnostic of a notice that is a report. -/
def Notice.diagnostic? : Notice → Option Diagnostic
  | .progress _ => none
  | .report made => some made.diagnostic

namespace Change

open FileTree Relation

variable {encoding : Text} {outputRoot : Path} {tree left : FileTree} {files : List OutputFile}

/-- Files that are all written in order, from one tree to another. -/
inductive Writes (encoding : Text) (outputRoot : Path) :
    FileTree → List OutputFile → FileTree → Prop where
  | none (tree : FileTree) : Writes encoding outputRoot tree [] tree
  | more {tree grown last : FileTree} {file : OutputFile} {rest : List OutputFile}
      (wrote : writeOne encoding tree (destination outputRoot file) file.content = (.ok (), grown))
      (further : Writes encoding outputRoot grown rest last) :
      Writes encoding outputRoot tree (file :: rest) last

/-- How far writing gets. -/
theorem writes_write (encoding : Text) (outputRoot : Path) (tree : FileTree)
    (files : List OutputFile) :
    ∃ done rest reached, files = done ++ rest ∧
      Writes encoding outputRoot tree done reached ∧
      (write encoding outputRoot tree files).1.paths = done.map (destination outputRoot) ∧
      match rest with
      | [] => (write encoding outputRoot tree files).2 = .ok () ∧
          (write encoding outputRoot tree files).1.tree = reached
      | file :: _ => ∃ failure left,
          writeOne encoding reached (destination outputRoot file) file.content =
            (.error failure, left) ∧
          (write encoding outputRoot tree files).2 = .error failure ∧
          (write encoding outputRoot tree files).1.tree = left := by
  induction files generalizing tree with
  | nil => exact ⟨[], [], tree, rfl, .none tree, rfl, rfl, rfl⟩
  | cons file rest ih =>
    rw [write]
    rcases wrote : writeOne encoding tree (destination outputRoot file) file.content with
      ⟨failure | _, grown⟩
    · exact ⟨[], file :: rest, tree, rfl, .none tree, rfl, failure, grown, wrote, rfl, rfl⟩
    · obtain ⟨done, left, reached, rfl, writes, paths, stop⟩ := ih grown
      exact ⟨file :: done, left, reached, rfl, .more wrote writes, congrArg _ paths, stop⟩

theorem puts_writeOne (encoding : Text) (tree : FileTree) (path : Path) (content : Text) :
    ReflTransGen (Puts encoding) tree (writeOne encoding tree path content).2 := by
  have above := puts_ensureDirectory encoding tree path.parent
  unfold writeOne
  rcases ensured : tree.ensureDirectory path.parent with ⟨failure | _, grown⟩
  · rwa [ensured] at above
  · rw [ensured] at above
    exact above.trans (puts_writeText encoding grown path content)

/-- Writing is steps of writing, however far it gets. -/
theorem puts_write (encoding : Text) (outputRoot : Path) (tree : FileTree)
    (files : List OutputFile) :
    ReflTransGen (Puts encoding) tree (write encoding outputRoot tree files).1.tree := by
  induction files generalizing tree with
  | nil => exact .refl
  | cons file rest ih =>
    have first := puts_writeOne encoding tree (destination outputRoot file) file.content
    rw [write]
    rcases wrote : writeOne encoding tree (destination outputRoot file) file.content with
      ⟨failure | _, grown⟩
    · rwa [wrote] at first
    · rw [wrote] at first
      exact first.trans (ih grown)

theorem Writes.puts (writes : Writes encoding outputRoot tree files left) :
    ReflTransGen (Puts encoding) tree left := by
  induction writes with
  | none tree => exact .refl
  | @more tree grown last file rest wrote _ ih =>
    have first := puts_writeOne encoding tree (destination outputRoot file) file.content
    rw [wrote] at first
    exact first.trans ih

theorem Writes.split {before after : List OutputFile}
    (writes : Writes encoding outputRoot tree (before ++ after) left) :
    ∃ middle, Writes encoding outputRoot tree before middle ∧
      Writes encoding outputRoot middle after left := by
  induction before generalizing tree with
  | nil => exact ⟨tree, .none tree, writes⟩
  | cons file before ih =>
    cases writes with
    | more wrote further =>
      obtain ⟨middle, first, second⟩ := ih further
      exact ⟨middle, .more wrote first, second⟩

/-- A writing that ends well has written every file. -/
theorem writes_of_write (wrote : (write encoding outputRoot tree files).2 = .ok ()) :
    Writes encoding outputRoot tree files (write encoding outputRoot tree files).1.tree ∧
      (write encoding outputRoot tree files).1.paths = files.map (destination outputRoot) := by
  obtain ⟨done, rest, reached, rfl, writes, paths, stop⟩ :=
    writes_write encoding outputRoot tree files
  cases rest with
  | nil =>
    obtain ⟨-, rfl⟩ := stop
    simp only [List.append_nil] at writes paths ⊢
    exact ⟨writes, paths⟩
  | cons file rest =>
    obtain ⟨failure, left, _, failed, _⟩ := stop
    cases wrote.symm.trans failed

theorem removes_removeAll (tree : FileTree) (paths : List Path) :
    ReflTransGen Removes tree (remove tree paths).tree := by
  induction paths generalizing tree with
  | nil => exact .refl
  | cons path rest ih =>
    rw [remove]
    cases removed : tree.remove path with
    | error failure => exact ih tree
    | ok left => exact .head (removes_remove removed) (ih left)

/-- Deleting is steps of deleting. -/
theorem removes_delete {patterns : List Json} {change : Change}
    (deleted : delete outputRoot tree patterns = .ok change) :
    ReflTransGen Removes tree change.tree := by
  unfold delete at deleted
  cases found : targets tree outputRoot patterns with
  | error failure =>
    rw [found] at deleted
    cases deleted
  | ok paths =>
    rw [found] at deleted
    cases paths with
    | nil =>
      cases deleted
      exact .refl
    | cons path rest =>
      cases deleted
      exact removes_removeAll tree (path :: rest)

end Change

end DocWeave
