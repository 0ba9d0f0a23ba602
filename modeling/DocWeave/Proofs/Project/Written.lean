import DocWeave.Proofs.Change
import DocWeave.Proofs.Project.Task
import Mathlib.Algebra.Order.BigOperators.Group.List
import Mathlib.Algebra.Order.Group.Nat
import Mathlib.Data.List.Nodup

/-! # The record of what is written

A run records the files of a callback once all of them are written. So the record lists what whole
writings have written, in order; it misses the files of a writing that fails after the first.
-/

namespace DocWeave

namespace Moment

/-- The writing that the callback of a moment asks for. -/
def writing (m : Moment) (p : Project) : Change × Except Failure Unit :=
  p.writing m.session.tree (m.request p)

/-- The destinations that are written at a moment, in order. -/
def succeeded (m : Moment) (p : Project) : List Path := (m.writing p).1.paths

/-- The destinations that are recorded at a moment. -/
def recorded (m : Moment) (p : Project) : List Path := Project.recorded (m.writing p)

/-- Nothing is written at a moment before a file that cannot be written. -/
def WholeOrNothing (m : Moment) (p : Project) : Prop :=
  (m.writing p).2 = .ok () ∨ m.succeeded p = []

theorem recorded_eq_or_nil (m : Moment) (p : Project) :
    m.recorded p = m.succeeded p ∨ m.recorded p = [] := by
  unfold recorded succeeded Project.recorded
  split
  · rename_i wrote
    exact .inl (congrArg (fun w => w.1.paths) wrote.symm)
  · exact .inr rfl

theorem recorded_eq_succeeded_iff {m : Moment} {p : Project} :
    m.recorded p = m.succeeded p ↔ m.WholeOrNothing p := by
  unfold WholeOrNothing recorded succeeded Project.recorded
  rcases m.writing p with ⟨change, failure | _⟩
  · simp [eq_comm]
  · simp

/-- What is written at a moment is a first part of the files, one after another; there are more of
them only where the next one cannot be written. -/
def WritesPart (m : Moment) (p : Project) (files : List OutputFile) : Prop :=
  ∃ done rest reached, files = done ++ rest ∧
    Change.Writes p.settings.encoding p.outputRoot m.session.tree done reached ∧
    m.succeeded p = done.map (Change.destination p.outputRoot) ∧
    (rest = [] ∨ ∃ file behind failure, rest = file :: behind ∧
      (Change.writeOne p.settings.encoding reached (Change.destination p.outputRoot file)
        file.content).1 = .error failure)

theorem writesPart_of_asked {m : Moment} {p : Project} {outcome : Outcome}
    (asked : m.request p = .ok outcome) : m.WritesPart p outcome.files := by
  obtain ⟨done, rest, reached, files, writes, paths, stop⟩ :=
    Change.writes_write p.settings.encoding p.outputRoot m.session.tree outcome.files
  refine ⟨done, rest, reached, files, writes, ?_, ?_⟩
  · rw [succeeded, writing, asked]
    exact paths
  · cases rest with
    | nil => exact .inl rfl
    | cons file behind =>
      obtain ⟨failure, left, refused, _⟩ := stop
      exact .inr ⟨file, behind, failure, rfl, by rw [refused]⟩

end Moment

/-- Parts of which each is whole or nothing come to the same in a row only if each is whole. -/
theorem flatMap_eq_flatMap_iff {α β : Type} {part whole : α → List β} {xs : List α}
    (each : ∀ x ∈ xs, part x = whole x ∨ part x = []) :
    xs.flatMap part = xs.flatMap whole ↔ ∀ x ∈ xs, part x = whole x := by
  refine ⟨fun same x mem => ?_, List.flatMap_congr⟩
  by_contra differs
  have nothing : part x = [] := (each x mem).resolve_left differs
  have missed : (part x).length < (whole x).length := by
    rw [nothing] at differs ⊢
    exact List.length_pos_iff.2 (Ne.symm differs)
  have shorter : (xs.map fun y => (part y).length).sum < (xs.map fun y => (whole y).length).sum := by
    refine List.sum_lt_sum _ _ (fun y listed => ?_) ⟨x, mem, missed⟩
    rcases each y listed with equal | none
    · rw [equal]
    · simp [none]
  rw [← List.length_flatMap, ← List.length_flatMap, same] at shorter
  exact Nat.lt_irrefl _ shorter

namespace Course

variable {p : Project} {s : Session} {moments : List Moment}
  {ending : Except Failure Unit × Session}

/-- A course adds to the record what each of its moments records. -/
theorem written_eq (course : Course p s moments ending) :
    ending.2.written = s.written ++ moments.flatMap fun m => m.recorded p := by
  have step {m : Moment} {t : Session} {outcome : Except Failure Unit}
      (done : m.task.ending p m.session = (outcome, t)) :
      t.written = m.session.written ++ m.recorded p := by
    have does := (m.does p).written
    rwa [Moment.after, done] at does
  induction course with
  | rest alike => simp [alike.written]
  | go alike done _ ih => rw [ih, step done, alike.written, List.flatMap_cons, List.append_assoc]
  | stop alike failed => simp [step failed, alike.written]

end Course

namespace Project

/-- A run adds to the record what whole writings have written, in order. That is everything written
exactly if no writing stops after its first file; a callback writes a first part of its files. A
summary gives the record. -/
theorem run_written (p : Project) (s : Session) :
    (p.run s).2.written = s.written ++ (p.moments s).flatMap (fun m => m.recorded p) ∧
    ((p.run s).2.written = s.written ++ (p.moments s).flatMap (fun m => m.succeeded p) ↔
      ∀ m ∈ p.moments s, m.WholeOrNothing p) ∧
    (∀ m ∈ p.moments s, ∀ outcome, m.request p = .ok outcome → m.WritesPart p outcome.files) ∧
    ∀ summary, (p.run s).1 = .ok summary → summary.written = (p.run s).2.written := by
  have written : (p.run s).2.written =
      s.written ++ (p.moments s).flatMap (fun m => m.recorded p) := (p.course_run s).written_eq
  refine ⟨written, ?_, fun _ _ _ asked => Moment.writesPart_of_asked asked, ?_⟩
  · rw [written, List.append_cancel_left_eq,
      flatMap_eq_flatMap_iff fun m _ => m.recorded_eq_or_nil p]
    constructor
    · exact fun same m mem => Moment.recorded_eq_succeeded_iff.1 (same m mem)
    · exact fun whole m mem => Moment.recorded_eq_succeeded_iff.2 (whole m mem)
  · intro summary ended
    simp only [run, Work.bind_apply, Work.progress_apply] at ended ⊢
    generalize p.config.tools.mapM p.runTool
      (s.notices [.progress ("Starting engine at " ++ p.root.toText ++ "...")]) = ran at ended ⊢
    rcases ran with ⟨failure | _, t⟩
    · cases ended
    · cases ended
      rfl

/-- A strategy that writes a file, and then one where there is a directory. -/
def blocked : Strategy :=
  ⟨"rules", ["in.md"], fun _ =>
    .done (.record (.items [.file ⟨"first.md", "one"⟩, .file ⟨"taken", "two"⟩]) (.list []) .null)⟩

/-- An empty document beside a directory. -/
def besideDirectory : FileTree :=
  (FileTree.empty.plant ["proj".toList, "taken".toList] .directory).plant
    ["proj".toList, "in.md".toList] (.file [])

/-- The run ends well and has written a file, but neither record nor summary lists one. -/
theorem run_written_blocked :
    let s := Session.start besideDirectory (.echoing false) none
    (∃ summary, ((single blocked).run s).1 = .ok summary ∧ summary.written = []) ∧
      ((single blocked).run s).2.written = [] ∧
      ((single blocked).run s).2.tree.readText "utf-8" (.ofText "/proj/first.md") = .ok "one" := by
  intro s
  have matched : Discovery.find besideDirectory (single blocked).scope blocked.patterns =
      .ok [.ofText "/proj/in.md"] := by decide +kernel
  have read : besideDirectory.readText (single blocked).settings.encoding (.ofText "/proj/in.md") =
      .ok [] := by decide +kernel
  obtain ⟨t, does, run, after⟩ := run_of_document (s := s) rfl matched read rfl rfl
  let asked : Except Failure Outcome := .ok ⟨[⟨"first.md", "one"⟩, ⟨"taken", "two"⟩], [], .null⟩
  have recorded : recorded ((single blocked).writing besideDirectory asked) = [] := by
    decide +kernel
  have left : ((single blocked).treeAfter besideDirectory asked).readText "utf-8"
      (.ofText "/proj/first.md") = .ok "one" := by decide +kernel
  have does : (single blocked).Does asked s t := does
  have start : s.tree = besideDirectory := rfl
  have written : t.written = [] := by
    rw [does.written, start, recorded]
    rfl
  refine ⟨⟨_, run, written⟩, after.written.trans written, ?_⟩
  rw [after.tree, does.tree, start, left]

end Project

end DocWeave
