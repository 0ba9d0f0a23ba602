import DocWeave.Proofs.Project.Work

/-! # Tours

A run does one task after another: it finds the files of a strategy, prepares a document, or
handles a callback. A tour is work that notes each task together with the session in which it is
done. The tour of a project notes the tasks of a run, and what it does is the run itself.
-/

namespace DocWeave

/-- What a run does at one go. -/
inductive Task where
  | discover (tool : Text) (strategy : Strategy)
  | prepare (tool strategy : Text) (path : Path)
  | settle (read : Returned → Except ShapeFault Outcome) (callback : Program Returned)
    (failed : Failure → Report)

/-- A task and the session that it is done in. -/
structure Moment where
  task : Task
  session : Session

/-- How work has ended, whatever its result. -/
def Work.ending {α : Type} (work : Work α) (s : Session) : Except Failure Unit × Session :=
  ((work s).1.map fun _ => (), (work s).2)

/-- How a task ends for a project. -/
def Task.ending (p : Project) : Task → Session → Except Failure Unit × Session
  | discover tool strategy => (p.discover tool strategy).ending
  | prepare tool strategy path => (p.prepare tool strategy path).ending
  | settle read callback failed => (p.settle read callback failed).ending

namespace Moment

/-- The session that the task leaves. -/
def after (m : Moment) (p : Project) : Session := (m.task.ending p m.session).2

/-- The task fails. -/
def Fails (m : Moment) (p : Project) (failure : Failure) : Prop :=
  (m.task.ending p m.session).1 = .error failure

end Moment

/-- Work together with the moments that it consists of. -/
structure Tour (α : Type) where
  work : Work α
  moments : Session → List Moment

namespace Tour

variable {α β γ : Type}

/-- Work that is no task. -/
def aside (work : Work α) : Tour α := ⟨work, fun _ => []⟩

/-- Work that is a task. -/
def doing (task : Task) (work : Work α) : Tour α := ⟨work, fun s => [⟨task, s⟩]⟩

/-- Goes on with the result. -/
def andThen (first : Tour α) (next : α → Tour β) : Tour β where
  work := first.work >>= fun value => (next value).work
  moments s := first.moments s ++
    match first.work s with
    | (.ok value, t) => (next value).moments t
    | (.error _, _) => []

instance : Monad Tour where
  pure value := aside (pure value)
  bind := andThen

/-- A tour for each item in turn. -/
def each (tour : γ → Tour α) : List γ → Tour (List α)
  | [] => pure []
  | x :: xs => do
    let value ← tour x
    let values ← each tour xs
    return value :: values

end Tour

namespace Project

open Tour

variable (p : Project)

/-- The tour of one directory of a strategy. -/
def tourBatch (tool : Text) (strategy : Strategy) (directory : Path) (paths : List Path) :
    Tour (Option Json) := do
  let files ← each (fun path => doing (.prepare tool strategy.name path)
    (p.prepare tool strategy.name path)) paths
  aside (Work.call (.transform tool strategy.name directory p.root files))
  let callback := strategy.transform ⟨directory, p.root, files⟩
  let failed := failedTransform strategy.name directory
  match ← doing (.settle Returned.read callback failed) (p.settle Returned.read callback failed) with
  | .null => return none
  | metadata => return some metadata

/-- The tour of one strategy. -/
def tourStrategy (tool : Text) (strategy : Strategy) : Tour (List Json) := do
  let found ← doing (.discover tool strategy) (p.discover tool strategy)
  let metadata ← each (fun (directory, paths) => p.tourBatch tool strategy directory paths)
    (Discovery.byDirectory found)
  return metadata.filterMap id

/-- The tour of the last step of a tool. -/
def tourFinish (tool : Text) (finish : List Json → Program Returned) (metadata : List Json) :
    Tour Unit := do
  aside (Work.progress ("  > Finalizing " ++ tool ++ "..."))
  aside (Work.call (.finish tool metadata))
  let callback := finish metadata
  let failed := failedFinish tool
  let _ ← doing (.settle Returned.readFinish callback failed)
    (p.settle Returned.readFinish callback failed)

/-- The tour of one tool. -/
def tourTool (tool : Tool) : Tour Unit := do
  aside (Work.progress ("Processing tool: " ++ tool.name))
  let metadata ← each (p.tourStrategy tool.name) tool.strategies
  match tool.finish with
  | none => return
  | some finish => p.tourFinish tool.name finish metadata.flatten

/-- The tour of a run. -/
def tour : Tour Summary := do
  aside (Work.progress ("Starting engine at " ++ p.root.toText ++ "..."))
  let _ ← each p.tourTool p.config.tools
  aside (Work.progress "Done.")
  let session ← aside get
  return ⟨p.config.tools.map Tool.name, session.written, session.sink.records.length⟩

/-- The moments of a run, in order. -/
def moments (s : Session) : List Moment := p.tour.moments s

end Project

namespace Tour

variable {α β γ : Type}

@[simp] theorem work_pure (value : α) : (pure value : Tour α).work = pure value := rfl

@[simp] theorem work_bind (first : Tour α) (next : α → Tour β) :
    (first >>= next).work = first.work >>= fun value => (next value).work := rfl

@[simp] theorem work_aside (work : Work α) : (aside work).work = work := rfl

@[simp] theorem work_doing (task : Task) (work : Work α) : (doing task work).work = work := rfl

theorem moments_bind_of_ok {first : Tour α} {next : α → Tour β} {s t : Session} {value : α}
    (ended : first.work s = (.ok value, t)) :
    (first >>= next).moments s = first.moments s ++ (next value).moments t := by
  show first.moments s ++ _ = _
  rw [ended]

theorem moments_bind_of_error {first : Tour α} {next : α → Tour β} {s t : Session}
    {failure : Failure} (ended : first.work s = (.error failure, t)) :
    (first >>= next).moments s = first.moments s := by
  show first.moments s ++ _ = _
  rw [ended, List.append_nil]

theorem work_each (tour : γ → Tour α) (xs : List γ) :
    (each tour xs).work = xs.mapM fun x => (tour x).work := by
  induction xs with
  | nil => rfl
  | cons x xs ih => rw [List.mapM_cons, ← ih]; rfl

end Tour

namespace Project

variable {p : Project}

theorem work_tourBatch (tool : Text) (strategy : Strategy) (directory : Path) (paths : List Path) :
    (p.tourBatch tool strategy directory paths).work = p.runBatch tool strategy directory paths := by
  unfold tourBatch runBatch
  simp only [Tour.work_bind, Tour.work_each, Tour.work_doing, Tour.work_aside]
  congr
  funext files
  congr
  funext u
  congr
  funext metadata
  cases metadata <;> rfl

theorem work_tourStrategy (tool : Text) (strategy : Strategy) :
    (p.tourStrategy tool strategy).work = p.runStrategy tool strategy := by
  unfold tourStrategy runStrategy
  simp only [Tour.work_bind, Tour.work_each, Tour.work_doing, work_tourBatch]
  rfl

theorem work_tourTool (tool : Tool) : (p.tourTool tool).work = p.runTool tool := by
  unfold tourTool runTool
  simp only [Tour.work_bind, Tour.work_each, Tour.work_aside, work_tourStrategy]
  congr
  funext u
  congr
  funext metadata
  cases tool.finish <;> rfl

/-- The tour of a run does what the run does. -/
theorem work_tour (p : Project) : p.tour.work = p.run := by
  unfold tour run
  simp only [Tour.work_bind, Tour.work_each, Tour.work_aside, work_tourTool]
  rfl

end Project

end DocWeave
