import DocWeave.Proofs.Project.Tour

/-! # The course of a run

Every run has a course: each task starts where the one before it has left tree, sink and record of
what is written, and the run fails exactly when a task does, which is then its last. What every task
of a course preserves therefore holds until the run ends; what no longer holds at a task has been
broken by one of the tasks before it.
-/

namespace DocWeave

/-- The sessions differ at most in the log and in the calls noted. -/
structure Session.Alike (s t : Session) : Prop where
  tree : t.tree = s.tree
  sink : t.sink = s.sink
  written : t.written = s.written

namespace Session.Alike

variable {s t u : Session}

theorem refl (s : Session) : s.Alike s := ⟨rfl, rfl, rfl⟩

theorem symm (alike : s.Alike t) : t.Alike s :=
  ⟨alike.tree.symm, alike.sink.symm, alike.written.symm⟩

theorem trans (first : s.Alike t) (second : t.Alike u) : s.Alike u :=
  ⟨second.tree.trans first.tree, second.sink.trans first.sink, second.written.trans first.written⟩

theorem progress (s : Session) (message : Text) : s.Alike (s.notices [.progress message]) :=
  ⟨rfl, rfl, rfl⟩

theorem remark (s : Session) (level : Int) (message : Text) : s.Alike (s.remark level message) :=
  ⟨rfl, rfl, rfl⟩

end Session.Alike

/-- The moments lead from a session to an ending. -/
inductive Course (p : Project) :
    Session → List Moment → Except Failure Unit × Session → Prop where
  | rest {s t : Session} (alike : s.Alike t) : Course p s [] (.ok (), t)
  | go {s t : Session} {m : Moment} {later : List Moment} {ending : Except Failure Unit × Session}
      (alike : s.Alike m.session) (done : m.task.ending p m.session = (.ok (), t))
      (further : Course p t later ending) : Course p s (m :: later) ending
  | stop {s t : Session} {m : Moment} {failure : Failure} (alike : s.Alike m.session)
      (failed : m.task.ending p m.session = (.error failure, t)) :
      Course p s [m] (.error failure, t)

namespace Course

variable {p : Project} {s t : Session} {m : Moment} {before between later : List Moment}
  {n : Moment} {ending : Except Failure Unit × Session} {failure : Failure}

theorem of_alike (alike : s.Alike t) (course : Course p t later ending) :
    Course p s later ending := by
  cases course with
  | rest further => exact .rest (alike.trans further)
  | go further done rest => exact .go (alike.trans further) done rest
  | stop further failed => exact .stop (alike.trans further) failed

/-- One course after another is a course. -/
theorem append (first : Course p s before (.ok (), t)) (second : Course p t later ending) :
    Course p s (before ++ later) ending := by
  generalize stop : ((.ok (), t) : Except Failure Unit × Session) = reached at first
  induction first with
  | rest alike =>
    cases stop
    exact second.of_alike alike
  | go alike done _ ih => exact .go alike done (ih stop)
  | stop alike failed => cases stop

/-- A course comes to each of its moments well. -/
theorem split (course : Course p s (before ++ m :: later) ending) :
    ∃ t, Course p s before (.ok (), t) ∧ Course p t (m :: later) ending := by
  induction before generalizing s with
  | nil => exact ⟨s, .rest (.refl s), course⟩
  | cons first before ih =>
    rw [List.cons_append] at course
    generalize rest : before ++ m :: later = behind at course
    cases course with
    | go alike done further =>
      subst rest
      obtain ⟨t, reached, onward⟩ := ih further
      exact ⟨t, .go alike done reached, onward⟩
    | stop alike failed => simp at rest

/-- A task starts where the course is. -/
theorem alike_head (course : Course p s (m :: later) ending) : s.Alike m.session := by
  cases course with
  | go alike _ _ => exact alike
  | stop alike _ => exact alike

/-- A course fails exactly when a task of it does. -/
theorem fails_iff (course : Course p s later ending) :
    ending.1 = .error failure ↔ ∃ m ∈ later, m.Fails p failure := by
  induction course with
  | rest alike => simp
  | go alike done _ ih => simp [ih, Moment.Fails, done]
  | stop alike failed => simp [Moment.Fails, failed]

/-- What every task preserves holds throughout. -/
theorem preserves (holds : Session → Prop) (course : Course p s later ending)
    (alike : ∀ s t, s.Alike t → holds s → holds t)
    (step : ∀ m ∈ later, holds m.session → holds (m.after p)) (start : holds s) :
    (∀ m ∈ later, holds m.session) ∧ holds ending.2 := by
  induction course with
  | rest same => exact ⟨nofun, alike _ _ same start⟩
  | go same done _ ih =>
    have here := alike _ _ same start
    have next := step _ List.mem_cons_self here
    rw [Moment.after, done] at next
    obtain ⟨within, finish⟩ := ih (fun m mem => step m (List.mem_cons_of_mem _ mem)) next
    exact ⟨List.forall_mem_cons.2 ⟨here, within⟩, finish⟩
  | stop same failed =>
    have here := alike _ _ same start
    have next := step _ List.mem_cons_self here
    rw [Moment.after, failed] at next
    exact ⟨List.forall_mem_cons.2 ⟨here, nofun⟩, next⟩

/-- What holds after one task and is preserved by all later ones holds in the end. -/
theorem holds_of_after (holds : Session → Prop)
    (course : Course p s (before ++ m :: later) ending)
    (alike : ∀ s t, s.Alike t → holds s → holds t)
    (step : ∀ m ∈ later, holds m.session → holds (m.after p)) (here : holds (m.after p)) :
    holds ending.2 := by
  obtain ⟨t, _, onward⟩ := course.split
  cases onward with
  | go _ done further =>
    rw [Moment.after, done] at here
    exact (further.preserves holds alike step here).2
  | stop _ failed =>
    rw [Moment.after, failed] at here
    exact here

/-- What no longer holds at a moment has been broken by a task in between. -/
theorem exists_breaks (holds : Session → Prop)
    (course : Course p s (before ++ m :: (between ++ n :: later)) ending)
    (alike : ∀ s t, s.Alike t → holds s → holds t) (first : holds m.session)
    (last : ¬ holds n.session) :
    ∃ culprit ∈ m :: between, holds culprit.session ∧ ¬ holds (culprit.after p) := by
  obtain ⟨t, _, onward⟩ := course.split
  have start : holds t := alike _ _ onward.alike_head.symm first
  rw [← List.cons_append] at onward
  obtain ⟨u, window, rest⟩ := onward.split
  apply Classical.byContradiction
  intro none
  have step : ∀ culprit ∈ m :: between, holds culprit.session → holds (culprit.after p) :=
    fun culprit mem kept =>
      Classical.byContradiction fun broken => none ⟨culprit, mem, kept, broken⟩
  exact last (alike _ _ rest.alike_head (window.preserves holds alike step start).2)

end Course

namespace Tour

variable {α β γ : Type} {p : Project}

/-- The moments of a tour are the course of its work. -/
def Follows (p : Project) (tour : Tour α) : Prop :=
  ∀ s, Course p s (tour.moments s) (tour.work.ending s)

theorem follows_aside {work : Work α}
    (quiet : ∀ s, ∃ value t, work s = (.ok value, t) ∧ s.Alike t) : (aside work).Follows p := by
  intro s
  obtain ⟨value, t, ended, alike⟩ := quiet s
  rw [work_aside, Work.ending, ended]
  exact .rest alike

theorem follows_pure (value : α) : (pure value : Tour α).Follows p :=
  follows_aside fun s => ⟨value, s, rfl, .refl s⟩

theorem follows_doing {task : Task} {work : Work α} (same : task.ending p = work.ending) :
    (doing task work).Follows p := by
  intro s
  rw [work_doing, ← same]
  rcases ended : task.ending p s with ⟨_ | _, t⟩
  · exact .stop (.refl s) ended
  · exact .go (.refl s) ended (.rest (.refl t))

theorem Follows.bind {first : Tour α} {next : α → Tour β} (opening : first.Follows p)
    (further : ∀ value, (next value).Follows p) : (first >>= next).Follows p := by
  intro s
  have course := opening s
  rcases ended : first.work s with ⟨failure | value, t⟩
  · rw [moments_bind_of_error ended, work_bind, Work.ending, Work.bind_of_error ended]
    rwa [Work.ending, ended] at course
  · rw [moments_bind_of_ok ended, work_bind, Work.ending, Work.bind_of_ok ended]
    rw [Work.ending, ended] at course
    exact course.append (further value t)

theorem Follows.each {tour : γ → Tour α} (each : ∀ x, (tour x).Follows p) (xs : List γ) :
    (Tour.each tour xs).Follows p := by
  induction xs with
  | nil => exact follows_pure []
  | cons x xs ih => exact (each x).bind fun value => ih.bind fun values => follows_pure _

end Tour

namespace Project

open Tour

variable {p : Project}

theorem follows_progress (message : Text) : (aside (Work.progress message)).Follows p :=
  follows_aside fun s => ⟨(), _, rfl, .progress s message⟩

theorem follows_call (call : Call) : (aside (Work.call call)).Follows p :=
  follows_aside fun _ => ⟨(), _, rfl, rfl, rfl, rfl⟩

theorem follows_tourBatch (tool : Text) (strategy : Strategy) (directory : Path)
    (paths : List Path) : (p.tourBatch tool strategy directory paths).Follows p := by
  apply (Follows.each (fun path => follows_doing rfl) paths).bind
  intro files
  apply (follows_call _).bind
  intro _
  apply (follows_doing rfl).bind
  intro metadata
  cases metadata <;> exact follows_pure _

theorem follows_tourStrategy (tool : Text) (strategy : Strategy) :
    (p.tourStrategy tool strategy).Follows p := by
  apply (follows_doing rfl).bind
  intro found
  apply (Follows.each (fun _ => p.follows_tourBatch tool strategy _ _) _).bind
  intro metadata
  exact follows_pure _

theorem follows_tourFinish (tool : Text) (finish : List Json → Program Returned)
    (metadata : List Json) : (p.tourFinish tool finish metadata).Follows p := by
  apply (follows_progress _).bind
  intro _
  apply (follows_call _).bind
  intro _
  exact (follows_doing rfl).bind fun _ => follows_pure ()

theorem follows_tourTool (tool : Tool) : (p.tourTool tool).Follows p := by
  apply (follows_progress _).bind
  intro _
  apply (Follows.each (p.follows_tourStrategy tool.name) _).bind
  intro metadata
  cases tool.finish with
  | none => exact follows_pure ()
  | some finish => exact p.follows_tourFinish tool.name finish _

theorem follows_tour (p : Project) : p.tour.Follows p := by
  apply (follows_progress _).bind
  intro _
  apply (Follows.each p.follows_tourTool _).bind
  intro _
  apply (follows_progress _).bind
  intro _
  apply (follows_aside fun s => ⟨s, s, rfl, .refl s⟩).bind
  intro session
  exact follows_pure _

/-- The moments of a run are its course. -/
theorem course_run (p : Project) (s : Session) : Course p s (p.moments s) (p.run.ending s) := by
  rw [← p.work_tour]
  exact p.follows_tour s

/-- A run fails exactly when a task of it does. -/
theorem run_error_iff {s : Session} {failure : Failure} :
    (p.run s).1 = .error failure ↔ ∃ m ∈ p.moments s, m.Fails p failure := by
  rw [← (p.course_run s).fails_iff, Work.ending]
  cases (p.run s).1 <;> simp [Except.map]

end Project

end DocWeave
