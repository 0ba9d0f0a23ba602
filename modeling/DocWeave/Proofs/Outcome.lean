import DocWeave.Outcome
import Mathlib.Data.List.Forall2

/-! # One outcome in many forms

A callback may return a record, a mapping with either spelling of the deletions or, at the end of a
tool, a bare list of files, and each file may be a record or a mapping by itself. All forms of the same
files, deletions and metadata are read as the same outcome, item by item and in order; and an outcome
that is returned as a record is read as itself.
-/

namespace DocWeave

/-- Going through a list ends well with what its items give. -/
theorem mapM_of_forall₂ {α β ε : Type} {f : α → Except ε β} {xs : List α} {ys : List β}
    (each : List.Forall₂ (fun x y => f x = .ok y) xs ys) : xs.mapM f = .ok ys := by
  induction each with
  | nil => rfl
  | cons first rest ih =>
    rw [List.mapM_cons, first, ih]
    rfl

/-- The file that an entry is, or that its fields spell out. -/
inductive OutputItem.Describes : OutputItem → OutputFile → Prop where
  | file (output : OutputFile) : Describes (.file output) output
  | fields {fields : List (Text × Json)} {path content : Text}
      (located : Json.entry? "path" fields = some (.text path))
      (filled : Json.entry? "content" fields = some (.text content)) :
      Describes (.data (.object fields)) ⟨path, content⟩

/-- The entries of a field that lists files, whether it is plain data or not. -/
inductive OutputList.Holds : OutputList → List OutputItem → Prop where
  | items (entries : List OutputItem) : Holds (.items entries) entries
  | data (values : List Json) : Holds (.data (.list values)) (values.map .data)

variable {item : OutputItem} {output : OutputFile} {list : OutputList} {entries : List OutputItem}
  {files : List OutputFile} {deletions : List Json} {fields : List (Text × Json)}
  {returned : Returned} {outcome : Outcome}

theorem OutputItem.Describes.read (described : item.Describes output) : item.read = .ok output := by
  cases described with
  | file => rfl
  | fields located filled =>
    rw [OutputItem.read, Json.field, located, Json.field, filled]
    rfl

theorem OutputList.Holds.read (holds : list.Holds entries) :
    list.read = entries.mapM OutputItem.read := by
  cases holds with
  | items => rfl
  | data values =>
    rw [List.mapM_map]
    rfl

theorem OutputList.Holds.readOptional (holds : list.Holds entries) :
    list.readOptional = entries.mapM OutputItem.read := by
  rw [← holds.read]
  cases holds with
  | items => rfl
  | data values =>
    cases values with
    | nil => rfl
    | cons value values => rfl

namespace Returned

/-- A mapping holds deletions under one of their two names, and nothing under the other. -/
def Deletes (deletions : List Json) (fields : List (Text × Json)) : Prop :=
  (Json.entry? "delete_files" fields = some (.list deletions) ∧
    Json.entry? "deleteFiles" fields = none) ∨
  (Json.entry? "deleteFiles" fields = some (.list deletions) ∧
    Json.entry? "delete_files" fields = none)

/-- An empty list of deletions does not count, and then there are none under the other name. -/
theorem deletionsOf_of_deletes (deletes : Deletes deletions fields) :
    deletionsOf fields = .ok deletions := by
  unfold deletionsOf
  dsimp only
  rcases deletes with ⟨here, nowhere⟩ | ⟨here, nowhere⟩
  · rw [here, nowhere]
    cases deletions with
    | nil => rfl
    | cons first rest => rfl
  · rw [here, nowhere]
    cases deletions with
    | nil => rfl
    | cons first rest => rfl

theorem read_record (listed : entries.mapM OutputItem.read = .ok files)
    (holds : list.Holds entries) (deletions : List Json) (metadata : Json) :
    (record list (.list deletions) metadata).read = .ok ⟨files, deletions, metadata⟩ := by
  rw [read, holds.read, listed]
  rfl

theorem read_mapping (listed : entries.mapM OutputItem.read = .ok files)
    (holds : list.Holds entries) (deletes : Deletes deletions fields) :
    (mapping list fields).read =
      .ok ⟨files, deletions, (Json.entry? "metadata" fields).getD .null⟩ := by
  rw [read, holds.readOptional, listed, deletionsOf_of_deletes deletes]
  rfl

theorem readFinish_items (listed : entries.mapM OutputItem.read = .ok files) :
    (items entries).readFinish = .ok ⟨files, [], .null⟩ := by
  rw [readFinish, listed]
  rfl

/-- A last step reads what a transform reads, without the metadata. -/
theorem readFinish_of_read (asked : returned.read = .ok outcome) :
    returned.readFinish = .ok { outcome with metadata := .null } := by
  cases returned with
  | nothing =>
    cases asked
    rfl
  | record list deletions metadata =>
    rw [readFinish, asked]
    · rfl
    · nofun
  | mapping list fields =>
    rw [readFinish, asked]
    · rfl
    · nofun
  | items entries => cases asked
  | other type => cases asked

theorem metadata_of_readFinish (asked : returned.readFinish = .ok outcome) :
    outcome.metadata = .null := by
  -- Every form that can be read ends with an outcome that is built without metadata.
  have ended {α : Type} (first : Except ShapeFault α) (last : α → Outcome)
      (bare : ∀ value, (last value).metadata = .null)
      (ends : (do return last (← first)) = .ok outcome) : outcome.metadata = .null := by
    cases first with
    | error fault => cases ends
    | ok value =>
      cases ends
      exact bare value
  cases returned with
  | nothing =>
    cases asked
    rfl
  | record list deletions metadata => exact ended _ _ (fun _ => rfl) asked
  | mapping list fields => exact ended _ _ (fun _ => rfl) asked
  | items entries => exact ended _ _ (fun _ => rfl) asked
  | other type => cases asked

/-! ## Reading an outcome again -/

theorem read_ofOutcome (outcome : Outcome) : (ofOutcome outcome).read = .ok outcome := by
  refine read_record (mapM_of_forall₂ ?_) (.items _) outcome.deletions outcome.metadata
  rw [List.forall₂_map_left_iff, List.forall₂_same]
  exact fun file _ => rfl

theorem readFinish_ofOutcome (asked : returned.readFinish = .ok outcome) :
    (ofOutcome outcome).readFinish = .ok outcome := by
  rw [readFinish_of_read (read_ofOutcome outcome), ← metadata_of_readFinish asked]

/-- Whatever describes the same files, a record, a mapping with either spelling of the deletions and,
for a last step without deletions, a bare list are read as one outcome, with the files and the
deletions in the order in which they are given; and each outcome is read as itself. -/
theorem read_forms {entries : List OutputItem} {files : List OutputFile}
    (described : List.Forall₂ OutputItem.Describes entries files) {list : OutputList}
    (holds : list.Holds entries) (deletions : List Json) (metadata : Json) :
    ((record list (.list deletions) metadata).read = .ok ⟨files, deletions, metadata⟩ ∧
      ∀ fields, Deletes deletions fields → Json.entry? "metadata" fields = some metadata →
        (mapping list fields).read = .ok ⟨files, deletions, metadata⟩) ∧
    ((record list (.list deletions) metadata).readFinish = .ok ⟨files, deletions, .null⟩ ∧
      (∀ fields, Deletes deletions fields →
        (mapping list fields).readFinish = .ok ⟨files, deletions, .null⟩) ∧
      (items entries).readFinish = .ok ⟨files, [], .null⟩) ∧
    ∀ (returned : Returned) (outcome : Outcome),
      (returned.read = .ok outcome → (ofOutcome outcome).read = .ok outcome) ∧
      (returned.readFinish = .ok outcome → (ofOutcome outcome).readFinish = .ok outcome) := by
  have listed : entries.mapM OutputItem.read = .ok files :=
    mapM_of_forall₂ (described.imp fun _ _ => OutputItem.Describes.read)
  refine ⟨⟨read_record listed holds deletions metadata, ?_⟩, ⟨?_, ?_, readFinish_items listed⟩,
    fun _ outcome => ⟨fun _ => read_ofOutcome outcome, readFinish_ofOutcome⟩⟩
  · intro fields deletes left
    rw [read_mapping listed holds deletes, left]
    rfl
  · exact readFinish_of_read (read_record listed holds deletions metadata)
  · exact fun fields deletes => readFinish_of_read (read_mapping listed holds deletes)

/-- A record and a mapping among the files, in a mapping with the other spelling of the deletions. -/
theorem read_forms_mixed :
    let entries : List OutputItem := [.file ⟨"a.md", "A"⟩,
      .data (.object [("content", .text "B"), ("mode", .int 1), ("path", .text "b.md")])]
    let fields : List (Text × Json) :=
      [("metadata", .int 7), ("deleteFiles", .list [.text "old/*.md"])]
    (mapping (.items entries) fields).read =
        .ok ⟨[⟨"a.md", "A"⟩, ⟨"b.md", "B"⟩], [.text "old/*.md"], .int 7⟩ ∧
      (record (.items entries) (.list [.text "old/*.md"]) (.int 7)).read =
        (mapping (.items entries) fields).read := by
  intro entries fields
  have described : List.Forall₂ OutputItem.Describes entries [⟨"a.md", "A"⟩, ⟨"b.md", "B"⟩] :=
    .cons (.file _) (.cons (.fields rfl rfl) .nil)
  obtain ⟨⟨recorded, mapped⟩, -⟩ :=
    read_forms described (.items entries) [.text "old/*.md"] (.int 7)
  have same := mapped fields (.inr ⟨rfl, rfl⟩) rfl
  exact ⟨same, recorded.trans same.symm⟩

end Returned

end DocWeave
