import DocWeave.Project.Run

/-! # Work in a session

Work in sequence hands the session on from one part to the next. It ends well exactly when every
part does; otherwise it stops in the session that the failing part leaves, and nothing is undone.
That holds whatever a part stops with.
-/

namespace DocWeave

namespace Work

section Sequence

variable {ε α β : Type} {work : ExceptT ε (StateM Session) α}
  {next : α → ExceptT ε (StateM Session) β} {s t u : Session}

theorem bind_apply (work : ExceptT ε (StateM Session) α)
    (next : α → ExceptT ε (StateM Session) β) (s : Session) :
    (work >>= next) s =
      match work s with
      | (.ok value, t) => next value t
      | (.error failure, t) => (.error failure, t) := by
  show ExceptT.bindCont next (work s).1 (work s).2 = _
  rcases work s with ⟨_ | _, t⟩ <;> rfl

theorem bind_of_ok {value : α} (ended : work s = (.ok value, t)) :
    (work >>= next) s = next value t := by
  rw [bind_apply, ended]

theorem bind_of_error {failure : ε} (ended : work s = (.error failure, t)) :
    (work >>= next) s = (.error failure, t) := by
  rw [bind_apply, ended]

/-- Work in sequence ends well only if both parts do. -/
theorem exists_of_bind_ok {result : β} (ended : (work >>= next) s = (.ok result, u)) :
    ∃ value t, work s = (.ok value, t) ∧ next value t = (.ok result, u) := by
  rw [bind_apply] at ended
  rcases first : work s with ⟨failure | value, t⟩
  · rw [first] at ended
    cases ended
  · rw [first] at ended
    exact ⟨value, t, rfl, ended⟩

@[simp] theorem pure_apply (value : α) (s : Session) :
    (pure value : ExceptT ε (StateM Session) α) s = (.ok value, s) := rfl

@[simp] theorem get_apply (s : Session) :
    (get : ExceptT ε (StateM Session) Session) s = (.ok s, s) := rfl

@[simp] theorem modify_apply (change : Session → Session) (s : Session) :
    (modify change : ExceptT ε (StateM Session) Unit) s = (.ok (), change s) := rfl

@[simp] theorem throw_apply (failure : ε) (s : Session) :
    (throw failure : ExceptT ε (StateM Session) α) s = (.error failure, s) := rfl

end Sequence

variable {α : Type}

@[simp] theorem ofOutcome_apply (outcome : Except Failure α) (s : Session) :
    ofOutcome outcome s = (outcome, s) := rfl

@[simp] theorem attempt_apply (work : Work α) (s : Session) :
    work.attempt s = (.ok (work s).1, (work s).2) := rfl

@[simp] theorem observe_apply (trace : Trace α) (s : Session) :
    observe trace s = (trace.outcome, s.notices (trace.reports.map .report)) := rfl

@[simp] theorem progress_apply (message : Text) (s : Session) :
    progress message s = (.ok (), s.notices [.progress message]) := rfl

@[simp] theorem call_apply (c : Call) (s : Session) :
    call c s = (.ok (), { s with calls := s.calls ++ [c] }) := rfl

@[simp] theorem change_apply (c : Change) (s : Session) :
    change c s = (.ok (), s.change c) := rfl

@[simp] theorem report_apply (r : Report) (s : Session) :
    report r s = (.ok (), s.notices [.report r]) := rfl

end Work

end DocWeave
