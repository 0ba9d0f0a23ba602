import DocWeave.Proofs.Discovery.Found
import DocWeave.Proofs.Expansion.Walk
import DocWeave.Proofs.FileTree.Reading
import DocWeave.Proofs.Project.Origin
import Mathlib.Data.List.Nodup

/-! # Documents lost during a run

Where every file is readable at first, every file stays readable: callbacks put only text, and they
take files away only by deleting them. So a run that neither ends well nor in a cycle has come to a
document that is gone, which a callback has deleted since the document was found, or to something
that is amiss in the configuration or in a document: a path with the null character, or a marker that
cannot be filled.
-/

namespace DocWeave

open FileTree Relation

namespace Project

variable {p : Project} {s : Session} {tree : FileTree} {asked : Except Failure Outcome}
  {location : Location} {failure : Failure}

/-- A request leaves the tree as its writing does, unless its deletions are done after that. -/
theorem treeAfter_cases (p : Project) (tree : FileTree) (asked : Except Failure Outcome) :
    p.treeAfter tree asked = (p.writing tree asked).1.tree ∨
      ∃ outcome change, asked = .ok outcome ∧
        Change.delete p.outputRoot (p.writing tree asked).1.tree outcome.deletions = .ok change ∧
        p.treeAfter tree asked = change.tree := by
  unfold treeAfter
  rcases p.writing tree asked with ⟨change, failure | _⟩
  · cases asked <;> exact .inl rfl
  · cases asked with
    | error failure => exact .inl rfl
    | ok outcome =>
      dsimp only
      cases deleted : Change.delete p.outputRoot change.tree outcome.deletions with
      | error failure => exact .inl rfl
      | ok removed => exact .inr ⟨outcome, removed, rfl, deleted, rfl⟩

/-- Whatever a callback asks for, the files of the tree stay readable. -/
theorem readable_treeAfter (readable : tree.Readable p.settings.encoding) :
    (p.treeAfter tree asked).Readable p.settings.encoding := by
  have written : (p.writing tree asked).1.tree.Readable p.settings.encoding :=
    readable.of_puts (Change.puts_write _ _ _ _)
  rcases p.treeAfter_cases tree asked with same | ⟨outcome, change, _, deleted, same⟩
  · rwa [same]
  · rw [same]
    exact written.of_removes (Change.removes_delete deleted)

/-- A request that deletes nothing takes no file away. -/
theorem hasFile_treeAfter (stands : tree.HasFile location)
    (keeps : ∀ outcome, asked = .ok outcome → outcome.deletions = []) :
    (p.treeAfter tree asked).HasFile location := by
  have written : (p.writing tree asked).1.tree.HasFile location :=
    stands.of_puts (Change.puts_write p.settings.encoding _ _ _)
  rcases p.treeAfter_cases tree asked with same | ⟨outcome, change, given, deleted, same⟩
  · rwa [same]
  · rw [keeps outcome given] at deleted
    cases deleted
    rwa [same]

/-- The files stay readable throughout a run. -/
theorem readable_of_mem_moments (readable : s.tree.Readable p.settings.encoding) {m : Moment}
    (mem : m ∈ p.moments s) : m.session.tree.Readable p.settings.encoding := by
  let holds (t : Session) : Prop := t.tree.Readable p.settings.encoding
  refine ((p.course_run s).preserves holds ?_ ?_ readable).1 m mem
  · intro s t alike here
    unfold holds
    rwa [alike.tree]
  · intro other _ here
    unfold holds
    rw [(other.does p).tree]
    exact readable_treeAfter here

/-- Where files are readable, resolving a document fails only with a cycle, for the null character,
or for the marker of a missing document. -/
theorem error_of_resolve {library : Library} {tool strategy raw : Text} {path : Path}
    (readable : tree.Readable p.settings.encoding)
    (ended : (p.resolve tree library tool strategy path raw).outcome = .error failure) :
    (∃ cycle, failure = .cycle cycle) ∨ failure = .nullCharacter ∨
      ∃ fault, failure = .template fault := by
  obtain ⟨walk, last, left, _, _, directive, _, fails⟩ := Weaver.exists_leads_of_weave_error ended
  cases fails with
  | read _ unread given =>
    have unread := readable.readBytes_of_error unread
    rcases error_of_readBytes unread with ⟨null, _⟩ | ⟨fault, rfl⟩
    · exact .inr (.inl null)
    · cases given
  | marker _ fault _ _ => exact .inr (.inr ⟨fault, rfl⟩)
  | cycle _ _ _ => exact .inl ⟨_, rfl⟩

end Project

namespace Moment

/-- What ends a run though it is no cycle. -/
inductive Breaks (p : Project) : Moment → Prop
  /-- A document that is to be prepared cannot be read. -/
  | lost {m : Moment} {tool strategy : Text} {path : Path} {failure : Failure}
      (task : m.task = .prepare tool strategy path)
      (unread : m.session.tree.readBytes path = .error failure) : Breaks p m
  /-- Its directives lead to a path that holds the null character. -/
  | null {m : Moment} {tool strategy raw : Text} {path : Path}
      (task : m.task = .prepare tool strategy path)
      (read : m.session.tree.readText p.settings.encoding path = .ok raw)
      (ended : (p.resolve m.session.tree (p.library m.session.tree) tool strategy path raw).outcome
        = .error .nullCharacter) : Breaks p m
  /-- They lead to a missing document, for which the marker cannot be filled. -/
  | marker {m : Moment} {tool strategy raw : Text} {path : Path} {fault : TemplateFault}
      (task : m.task = .prepare tool strategy path)
      (read : m.session.tree.readText p.settings.encoding path = .ok raw)
      (ended : (p.resolve m.session.tree (p.library m.session.tree) tool strategy path raw).outcome
        = .error (.template fault)) : Breaks p m
  /-- A pattern of the strategy that is discovered starts at the null character. -/
  | pattern {m : Moment} {tool pattern : Text} {strategy : Strategy}
      (task : m.task = .discover tool strategy) (listed : pattern ∈ strategy.patterns)
      (starts : Discovery.StartsAtNull p.scope pattern) : Breaks p m

/-- A callback is handled at the moment that has patterns of files to delete, and the file that the
path leads to is there before and gone after. -/
def Deletes (m : Moment) (p : Project) (path : Path) : Prop :=
  ∃ outcome, m.request p = .ok outcome ∧ outcome.deletions ≠ [] ∧
    m.session.tree.HasFile path.names ∧ ¬ (m.after p).tree.HasFile path.names

end Moment

namespace Project

variable {p : Project} {s : Session}

/-- What loses a file is a callback that deletes it. -/
theorem deletes_of_gone {culprit : Moment} {path : Path}
    (stood : culprit.session.tree.HasFile path.names)
    (gone : ¬ (culprit.after p).tree.HasFile path.names) : culprit.Deletes p path := by
  have kept (none : ∀ outcome, culprit.request p = .ok outcome → outcome.deletions = []) :
      (culprit.after p).tree.HasFile path.names := by
    rw [(culprit.does p).tree]
    exact hasFile_treeAfter stood none
  cases asked : culprit.request p with
  | error cause => exact absurd (kept (by simp [asked])) gone
  | ok outcome =>
    refine ⟨outcome, asked, fun none => gone (kept ?_), stood, gone⟩
    intro other same
    cases asked.symm.trans same
    exact none

/-- A file that stands at one moment of a run and no more at a later one has been deleted by a
callback in between. -/
theorem exists_deletes {before behind : List Moment} {start m : Moment} {path : Path}
    (moments : p.moments s = before ++ start :: behind) (later : m ∈ behind)
    (stood : start.session.tree.HasFile path.names)
    (gone : ¬ m.session.tree.HasFile path.names) :
    ∃ earlier culprit between after,
      p.moments s = earlier ++ culprit :: (between ++ m :: after) ∧ culprit.Deletes p path := by
  obtain ⟨between, after, rfl⟩ := List.append_of_mem later
  have course := p.course_run s
  rw [moments] at course
  obtain ⟨culprit, listed, held, broken⟩ := course.exists_breaks
    (fun t => t.tree.HasFile path.names) (fun _ _ alike here => alike.tree ▸ here) stood gone
  obtain ⟨earlier, left, split⟩ := List.append_of_mem listed
  refine ⟨before ++ earlier, culprit, left, after, ?_, deletes_of_gone held broken⟩
  rw [moments, ← List.cons_append, split]
  simp

/-- What is lost has been deleted before by a callback, or its path is longer than any path that the
file system takes. -/
theorem exists_deletes_of_lost (readable : s.tree.Readable p.settings.encoding) {m : Moment}
    (mem : m ∈ p.moments s) {tool strategy : Text} {path : Path} {failure : Failure}
    (task : m.task = .prepare tool strategy path)
    (lost : m.session.tree.readBytes path = .error failure) :
    pathLimit < byteLength path.toText ∨
      ∃ before culprit between later, p.moments s = before ++ culprit :: (between ++ m :: later) ∧
        culprit.Deletes p path := by
  by_cases short : byteLength path.toText ≤ pathLimit
  · obtain ⟨before, start, between, later, _, found, moments, _, ended, isFound⟩ :=
      p.found_of_mem_moments mem tool strategy path task
    have begins : start ∈ p.moments s := by simp [moments]
    have stood : start.session.tree.HasFile path.names :=
      (Discovery.hasFile_of_mem_find (readable_of_mem_moments readable begins).regular ended
        isFound).1
    have gone : ¬ m.session.tree.HasFile path.names := by
      intro stands
      obtain ⟨bytes, read⟩ := (readable_of_mem_moments readable mem).exists_readBytes stands short
      rw [lost] at read
      cases read
    exact .inr (exists_deletes moments (by simp) stood gone)
  · exact .inl (Nat.not_le.1 short)

/-- Where every pattern compiles, what ends a run is a failure, and no cycle. -/
theorem exists_fails_of_breaks
    (compiles : ∀ tool ∈ p.config.tools, ∀ strategy ∈ tool.strategies,
      ∀ pattern ∈ strategy.patterns, Discovery.Compiles p.scope pattern) {m : Moment}
    (mem : m ∈ p.moments s) (breaks : m.Breaks p) :
    ∃ failure, m.Fails p failure ∧ ∀ cycle, failure ≠ .cycle cycle := by
  have within := p.within_tour s m mem
  obtain ⟨_, t⟩ := m
  cases breaks with
  | @lost _ _ path failure task unread =>
    cases task
    refine ⟨failure, Moment.fails_prepare_iff.2 (.inl ?_), ?_⟩
    · rw [readText, unread]
      rfl
    · rintro cycle rfl
      rcases error_of_readBytes unread with ⟨none, _⟩ | ⟨_, none⟩ <;> cases none
  | null task read ended =>
    cases task
    exact ⟨_, Moment.fails_prepare_iff.2 (.inr ⟨_, read, ended⟩), nofun⟩
  | marker task read ended =>
    cases task
    exact ⟨_, Moment.fails_prepare_iff.2 (.inr ⟨_, read, ended⟩), nofun⟩
  | @pattern name _ strategy task listed starts =>
    cases task
    obtain ⟨tool, configured, offered⟩ := within name strategy rfl
    refine ⟨.nullCharacter, Moment.fails_discover_iff.2 ?_, nofun⟩
    exact Discovery.find_of_startsAtNull (compiles tool configured strategy offered) listed starts

/-- Where every file is readable at first and every pattern compiles, nothing else fails in a run but
with a cycle. -/
theorem exists_cycle_of_fails (readable : s.tree.Readable p.settings.encoding)
    (compiles : ∀ tool ∈ p.config.tools, ∀ strategy ∈ tool.strategies,
      ∀ pattern ∈ strategy.patterns, Discovery.Compiles p.scope pattern) {m : Moment}
    (mem : m ∈ p.moments s) {failure : Failure} (fails : m.Fails p failure)
    (whole : ¬ m.Breaks p) : ∃ cycle, failure = .cycle cycle := by
  have readable := readable_of_mem_moments readable mem
  have within := p.within_tour s m mem
  obtain ⟨task, t⟩ := m
  cases task with
  | discover name strategy =>
    obtain ⟨tool, configured, offered⟩ := within name strategy rfl
    rcases Discovery.error_of_find (Moment.fails_discover_iff.1 fails) with
      ⟨pattern, listed, broken, _⟩ | ⟨pattern, listed, starts, _⟩
    · exact absurd (compiles tool configured strategy offered pattern listed) broken
    · exact absurd (.pattern rfl listed starts) whole
  | prepare tool strategy path =>
    rcases Moment.fails_prepare_iff.1 fails with unread | ⟨raw, read, ended⟩
    · exact absurd (.lost rfl (readable.readBytes_of_error unread)) whole
    · rcases error_of_resolve readable ended with cycle | rfl | ⟨fault, rfl⟩
      · exact cycle
      · exact absurd (.null rfl read ended) whole
      · exact absurd (.marker rfl read ended) whole
  | settle read callback failed => exact absurd fails Moment.not_fails_settle

/-- Where every file is readable at first and every pattern compiles, a run ends well or in a cycle
exactly if nothing breaks it. A document that cannot be read breaks it: a callback has deleted the
document since it was found, unless its path is too long. A run that ends well has run every
strategy. -/
theorem run_ends_iff (p : Project) (s : Session)
    (readable : s.tree.Readable p.settings.encoding)
    (compiles : ∀ tool ∈ p.config.tools, ∀ strategy ∈ tool.strategies,
      ∀ pattern ∈ strategy.patterns, Discovery.Compiles p.scope pattern) :
    (((∃ summary, (p.run s).1 = .ok summary) ∨ ∃ cycle, (p.run s).1 = .error (.cycle cycle)) ↔
      ∀ m ∈ p.moments s, ¬ m.Breaks p) ∧
    (∀ m ∈ p.moments s, ∀ tool strategy path failure, m.task = .prepare tool strategy path →
      m.session.tree.readBytes path = .error failure →
      pathLimit < byteLength path.toText ∨
        ∃ before culprit between later,
          p.moments s = before ++ culprit :: (between ++ m :: later) ∧ culprit.Deletes p path) ∧
    ∀ summary, (p.run s).1 = .ok summary →
      ∀ tool ∈ p.config.tools, ∀ strategy ∈ tool.strategies, p.HasRun s tool.name strategy := by
  refine ⟨⟨?_, ?_⟩, ?_, fun summary => hasRun_of_ok⟩
  · intro ends m mem breaks
    obtain ⟨failure, fails, other⟩ := exists_fails_of_breaks compiles mem breaks
    have failed := run_error_iff.2 ⟨m, mem, fails⟩
    rcases ends with ⟨summary, ended⟩ | ⟨cycle, ended⟩
    · cases failed.symm.trans ended
    · exact other cycle (Except.error.inj (failed.symm.trans ended))
  · intro whole
    cases ended : (p.run s).1 with
    | ok summary => exact .inl ⟨summary, rfl⟩
    | error failure =>
      obtain ⟨m, mem, fails⟩ := run_error_iff.1 ended
      obtain ⟨cycle, rfl⟩ := exists_cycle_of_fails readable compiles mem fails (whole m mem)
      exact .inr ⟨cycle, rfl⟩
  · intro m mem tool strategy path failure task lost
    exact exists_deletes_of_lost readable mem task lost

/-- A strategy that deletes what is in another directory. -/
def deleting : Strategy :=
  ⟨"rules", ["**/*.md"], fun _ => .done (.record (.items []) (.list [.text "b/*.md"]) .null)⟩

theorem compiles_deleting : ∀ tool ∈ (single deleting).config.tools,
    ∀ strategy ∈ tool.strategies, ∀ pattern ∈ strategy.patterns,
      Discovery.Compiles (single deleting).scope pattern := by
  intro tool listed strategy offered pattern given
  rw [List.mem_singleton.1 listed] at offered
  rw [List.mem_singleton.1 offered] at given
  rw [List.mem_singleton.1 given]
  have compiled : (Glob.compile (Glob.split "**/*.md"
      (single deleting).scope.root.normalize).2).isOk = true := by decide +kernel
  unfold Discovery.Compiles
  cases ended : Glob.compile (Glob.split "**/*.md" (single deleting).scope.root.normalize).2 with
  | error fault =>
    rw [ended] at compiled
    cases compiled
  | ok pieces => exact ⟨pieces, rfl⟩

/-- An empty document. -/
def document : FileTree :=
  FileTree.empty.plant ["proj".toList, "a".toList, "x.md".toList] (.file [])

/-- Two empty documents in two directories. -/
def documents : FileTree :=
  document.plant ["proj".toList, "b".toList, "y.md".toList] (.file [])

theorem readable_document : document.Readable (single deleting).settings.encoding :=
  .of_blank (regular_of_nodes (by decide +kernel) (by decide +kernel)) (by decide +kernel)

theorem readable_documents : documents.Readable (single deleting).settings.encoding :=
  .of_blank (regular_of_nodes (by decide +kernel) (by decide +kernel)) (by decide +kernel)

/-- With nothing to delete the run ends well. -/
theorem run_document : ∃ summary,
    ((single deleting).run (.start document (.echoing false) none)).1 = .ok summary := by
  let s := Session.start document (.echoing false) none
  have matched : Discovery.find document (single deleting).scope deleting.patterns =
      .ok [.ofText "/proj/a/x.md"] := by decide +kernel
  have read : document.readText (single deleting).settings.encoding (.ofText "/proj/a/x.md") =
      .ok [] := by decide +kernel
  obtain ⟨t, _, ran, _⟩ := run_of_document (s := s) rfl matched read rfl rfl
  exact ⟨_, ran⟩

/-- The document of the second directory is gone when the run comes to it. -/
theorem run_documents :
    ((single deleting).run (.start documents (.echoing false) none)).1 =
      .error (.file ⟨.notFound, "/proj/b/y.md"⟩) := by
  let s := Session.start documents (.echoing false) none
  have matched : Discovery.find documents (single deleting).scope deleting.patterns =
      .ok [.ofText "/proj/a/x.md", .ofText "/proj/b/y.md"] := by decide +kernel
  have apart : (Path.ofText "/proj/b/y.md").parent ≠ (Path.ofText "/proj/a/x.md").parent := by
    decide +kernel
  have read : documents.readText (single deleting).settings.encoding (.ofText "/proj/a/x.md") =
      .ok [] := by decide +kernel
  let asked : Except Failure Outcome := .ok ⟨[], [.text "b/*.md"], .null⟩
  have gone : ((single deleting).treeAfter documents asked).readText
      (single deleting).settings.encoding (.ofText "/proj/b/y.md") =
        .error (.file ⟨.notFound, "/proj/b/y.md"⟩) := by
    decide +kernel
  exact run_of_unread (s := s) rfl matched apart read rfl rfl gone

/-- Nothing breaks the run over one document, and the strategy has run; something does break the run
over two. -/
theorem run_ends_iff_deleting :
    let one := Session.start document (.echoing false) none
    let two := Session.start documents (.echoing false) none
    ((∀ m ∈ (single deleting).moments one, ¬ m.Breaks (single deleting)) ∧
      (single deleting).HasRun one "claude" deleting) ∧
    ∃ m ∈ (single deleting).moments two, m.Breaks (single deleting) := by
  intro one two
  constructor
  · obtain ⟨ends, _, all⟩ := run_ends_iff (single deleting) one readable_document compiles_deleting
    obtain ⟨summary, ran⟩ := run_document
    exact ⟨ends.1 (.inl ⟨summary, ran⟩), all _ ran _ List.mem_cons_self _ List.mem_cons_self⟩
  · by_contra whole
    obtain ⟨ends, _⟩ := run_ends_iff (single deleting) two readable_documents compiles_deleting
    rcases ends.2 fun m mem breaks => whole ⟨m, mem, breaks⟩ with ⟨_, ran⟩ | ⟨_, ran⟩ <;>
      cases run_documents.symm.trans ran

/-- Files that can be read and patterns that compile do not save the run from what a callback
deletes. -/
theorem run_ends_iff_documents :
    let s := Session.start documents (.echoing false) none
    s.tree.Readable (single deleting).settings.encoding ∧
      (∀ tool ∈ (single deleting).config.tools, ∀ strategy ∈ tool.strategies,
        ∀ pattern ∈ strategy.patterns, Discovery.Compiles (single deleting).scope pattern) ∧
      ((single deleting).run s).1 = .error (.file ⟨.notFound, "/proj/b/y.md"⟩) :=
  ⟨readable_documents, compiles_deleting, run_documents⟩

end Project

end DocWeave
