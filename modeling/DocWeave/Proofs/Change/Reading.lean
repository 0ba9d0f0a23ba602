import DocWeave.Proofs.Change
import DocWeave.Proofs.FileTree.Kept
import DocWeave.Proofs.FileTree.Reading

/-! # Reading what has been written

A file that has been written is read back with its line endings unified: the encoding reads what it
has written, but only reading touches line endings. So a text comes back as it was exactly if it has
no carriage return. What is written later elsewhere changes nothing about this.
-/

namespace DocWeave

namespace Text

theorem not_mem_unifyLineEndings (text : Text) : '\r' ∉ text.unifyLineEndings := by
  fun_induction unifyLineEndings text with
  | case1 => simp
  | case2 rest ih => simpa using ih
  | case3 rest _ ih => simpa using ih
  | case4 c rest _ plain ih => simpa [eq_comm] using ⟨plain, ih⟩

/-- Unifying line endings leaves exactly the texts without carriage returns alone. -/
theorem unifyLineEndings_eq_self_iff {text : Text} :
    text.unifyLineEndings = text ↔ '\r' ∉ text := by
  constructor
  · intro same
    rw [← same]
    exact not_mem_unifyLineEndings text
  · intro free
    fun_induction unifyLineEndings text with
    | case1 => rfl
    | case2 rest ih => simp at free
    | case3 rest _ ih => simp at free
    | case4 c rest _ _ ih => rw [ih (List.not_mem_of_not_mem_cons free)]

end Text

namespace FileTree

open Relation

variable {tree left : FileTree} {location : Location} {path : Path} {encoding text : Text}
  {bytes : List UInt8}

/-- A text that is written to a file is encoded and put where the path leads. -/
theorem exists_of_writeText (wrote : tree.writeText encoding path text = (.ok (), left)) :
    ∃ location bytes, tree.reach path = .ok location ∧
      tree.node? location ≠ some .directory ∧ encodeText encoding text = .ok bytes ∧
      left = tree.set location (.file bytes) := by
  unfold writeText writeBytes at wrote
  cases reached : tree.reach path with
  | error failure => simp [reached, bind, Except.bind] at wrote
  | ok location =>
    cases encoded : encodeText encoding text with
    | error failure =>
      simp only [reached, encoded, bind, Except.bind] at wrote
      split_ifs at wrote
      all_goals cases wrote
    | ok bytes =>
      simp only [reached, encoded, bind, Except.bind] at wrote
      split_ifs at wrote with free
      · cases wrote
      · cases wrote
        exact ⟨location, bytes, rfl, free, rfl, rfl⟩

/-- An encoding reads the bytes that it has written, and the line endings are unified. -/
theorem readText_of_encodeText (encoded : encodeText encoding text = .ok bytes)
    (read : tree.readBytes path = .ok bytes) :
    tree.readText encoding path = .ok text.unifyLineEndings := by
  unfold encodeText at encoded
  cases named : Encoding.ofName? encoding with
  | none => simp [named] at encoded
  | some known =>
    rw [named] at encoded
    dsimp only at encoded
    cases written : Codec.encode known text with
    | error fault =>
      rw [written] at encoded
      cases encoded
    | ok other =>
      rw [written] at encoded
      cases encoded
      rw [readText, read]
      simp only [bind, Except.bind, named, Codec.decode_of_encode written]

end FileTree

namespace Change

open FileTree Relation

variable {encoding content : Text} {outputRoot path : Path} {tree left : FileTree}
  {location : Location} {bytes : List UInt8} {files : List OutputFile}

/-- A file that is written stands, encoded, where its path leads, and every other file is as it
was. -/
theorem exists_of_writeOne (wrote : writeOne encoding tree path content = (.ok (), left)) :
    ∃ location bytes, left.reach path = .ok location ∧ encodeText encoding content = .ok bytes ∧
      left.node? location = some (.file bytes) ∧
      ∀ other, other ≠ location → ∀ more,
        left.node? other = some (.file more) ↔ tree.node? other = some (.file more) := by
  have grows := tree.grows_ensureDirectory path.parent
  unfold writeOne at wrote
  rcases ensured : tree.ensureDirectory path.parent with ⟨failure | _, grown⟩
  · rw [ensured] at wrote
    cases wrote
  · rw [ensured] at wrote grows
    obtain ⟨location, bytes, reached, free, encoded, rfl⟩ := exists_of_writeText wrote
    have placed : location ≠ [] := ne_nil_of_node? rfl free
    have step : Puts encoding grown _ := .file content reached free
    rw [encoded] at step
    refine ⟨location, bytes, reach_of_put step reached, encoded, ?_, fun other apart more => ?_⟩
    · rw [node?_set placed, if_pos rfl]
    · rw [node?_set placed, if_neg apart, sameFiles_of_grows grows]

/-- A file stays as it is while files are written elsewhere. -/
theorem node?_of_writes (writes : Writes encoding outputRoot tree files left)
    (stands : tree.node? location = some (.file bytes))
    (elsewhere : ∀ file ∈ files, left.reach (destination outputRoot file) ≠ .ok location) :
    left.node? location = some (.file bytes) := by
  induction writes with
  | none tree => exact stands
  | @more tree grown last file rest wrote further ih =>
    obtain ⟨here, later⟩ := List.forall_mem_cons.1 elsewhere
    obtain ⟨other, _, reached, _, _, kept⟩ := exists_of_writeOne wrote
    have apart : location ≠ other := by
      rintro rfl
      exact here (reach_of_puts further.puts reached)
    exact ih ((kept location apart bytes).2 stands) later

/-- Every file of a writing that ends well is read back with its line endings unified, as long as no
later one is written where it stands. So its text comes back as it was exactly if it has no carriage
return. -/
theorem readText_of_write {before after : List OutputFile} {file : OutputFile} {change : Change}
    (wrote : write encoding outputRoot tree (before ++ file :: after) = (change, .ok ()))
    (elsewhere : ∀ later ∈ after, change.tree.reach (destination outputRoot later) ≠
      change.tree.reach (destination outputRoot file)) :
    ∃ path, change.paths[before.length]? = some path ∧
      change.tree.readText encoding path = .ok file.content.unifyLineEndings ∧
      (change.tree.readText encoding path = .ok file.content ↔ '\r' ∉ file.content) := by
  obtain ⟨writes, paths⟩ := writes_of_write (congrArg Prod.snd wrote)
  rw [wrote] at writes paths
  dsimp only at writes paths
  obtain ⟨middle, -, further⟩ := writes.split
  cases further with
  | @more _ grown _ _ _ wroteOne further =>
    obtain ⟨location, bytes, reached, encoded, stands, -⟩ := exists_of_writeOne wroteOne
    have reached := reach_of_puts further.puts reached
    have stands := node?_of_writes further stands fun later mem =>
      reached ▸ elsewhere later mem
    have read := readText_of_encodeText encoded (readBytes_eq_ok_iff.2 ⟨_, reached, stands⟩)
    refine ⟨destination outputRoot file, ?_, read, ?_⟩
    · rw [paths]
      simp
    · rw [read, Except.ok.injEq, Text.unifyLineEndings_eq_self_iff]

/-- Between two other files, of which the later one has a parent step in its path, a text with two
kinds of line endings is written in a single-byte encoding. -/
theorem readText_of_write_between :
    let root : Path := .ofText "/proj"
    let before : List OutputFile := [⟨"a.md", "a"⟩]
    let file : OutputFile := ⟨"out/in.md", "é\r\nb\r"⟩
    let after : List OutputFile := [⟨"out/../in.md", "c"⟩]
    let wrote := write "latin-1" root .empty (before ++ file :: after)
    wrote.2 = .ok () ∧
      (∀ later ∈ after, wrote.1.tree.reach (destination root later) ≠
        wrote.1.tree.reach (destination root file)) ∧
      ∃ path, wrote.1.paths[1]? = some path ∧
        wrote.1.tree.readText "latin-1" path = .ok "é\nb\n" := by
  intro root before file after wrote
  have ended : wrote.2 = .ok () := by decide +kernel
  have elsewhere : ∀ later ∈ after, wrote.1.tree.reach (destination root later) ≠
      wrote.1.tree.reach (destination root file) := by decide +kernel
  have unified : file.content.unifyLineEndings = "é\nb\n" := by decide +kernel
  have whole : wrote = (wrote.1, .ok ()) := by rw [← ended]
  obtain ⟨path, listed, read, -⟩ := readText_of_write whole elsewhere
  rw [unified] at read
  exact ⟨ended, elsewhere, path, listed, read⟩

/-- A text that can be encoded and is written comes back another one. -/
theorem readText_of_write_windows :
    let file : OutputFile := ⟨"in.md", "a\r\nb"⟩
    let wrote := write "utf-8" (.ofText "/proj") .empty [file]
    encodeText "utf-8" file.content = .ok [0x61, 0x0D, 0x0A, 0x62] ∧ wrote.2 = .ok () ∧
      wrote.1.paths = [.ofText "/proj/in.md"] ∧
      wrote.1.tree.readText "utf-8" (.ofText "/proj/in.md") = .ok "a\nb" ∧
      wrote.1.tree.readText "utf-8" (.ofText "/proj/in.md") ≠ .ok file.content := by
  intro file wrote
  have encoded : encodeText "utf-8" file.content = .ok [0x61, 0x0D, 0x0A, 0x62] := by
    decide +kernel
  have stands : wrote.1.tree.readBytes (.ofText "/proj/in.md") = .ok [0x61, 0x0D, 0x0A, 0x62] := by
    decide +kernel
  have unified : file.content.unifyLineEndings = "a\nb" := by decide +kernel
  have read := readText_of_encodeText encoded stands
  rw [unified] at read
  refine ⟨encoded, by decide +kernel, by decide +kernel, read, ?_⟩
  rw [read]
  decide +kernel

end Change

end DocWeave
