import DocWeave.Proofs.Chain.Run

/-! # Pipelines one after another

A comma where no parenthesis is open parts a specification into two that know nothing of each
other. So two specifications with a comma between them ask for the stages of both, as long as the
parentheses of the first balance, in whatever order they open and close; the second may be anything.
What the stages of both leave is what the second leaves of what the first has left.
-/

namespace DocWeave.Chain

/-- Every parenthesis moves the level by one, whatever stands between. -/
theorem foldl_levelAfter (level : Int) (text : Text) :
    text.foldl levelAfter level = level + text.count '(' - text.count ')' := by
  induction text generalizing level with
  | nil => simp
  | cons c rest ih =>
    rw [List.foldl_cons, ih, levelAfter]
    by_cases opens : c = '('
    · subst opens
      simp only [if_true, List.count_cons_self, List.count_cons_of_ne (show '(' ≠ ')' by decide)]
      omega
    by_cases closes : c = ')'
    · subst closes
      simp only [opens, if_false, if_true, List.count_cons_self,
        List.count_cons_of_ne (show ')' ≠ '(' by decide)]
      omega
    · simp only [opens, closes, if_false, List.count_cons_of_ne opens,
        List.count_cons_of_ne closes]

theorem segmentsFrom_ne_nil (level : Int) (text : Text) : segmentsFrom level text ≠ [] := by
  cases text with
  | nil => simp [segmentsFrom]
  | cons c rest =>
    unfold segmentsFrom
    split
    · simp
    · split <;> simp

/-- The comma after a text that ends at level nothing parts its segments from those behind. -/
theorem segmentsFrom_append {level : Int} {first : Text} (closed : first.foldl levelAfter level = 0)
    (second : Text) :
    segmentsFrom level (first ++ ',' :: second) =
      segmentsFrom level first ++ segmentsFrom 0 second := by
  induction first generalizing level with
  | nil =>
    obtain rfl : level = 0 := closed
    simp [segmentsFrom]
  | cons c rest ih =>
    have later := @ih (levelAfter level c) closed
    rw [List.cons_append, segmentsFrom, segmentsFrom]
    by_cases parts : c = ',' ∧ level = 0
    · obtain ⟨rfl, rfl⟩ := parts
      have stays : levelAfter 0 ',' = 0 := by decide
      rw [stays] at later
      rw [if_pos ⟨rfl, rfl⟩, if_pos ⟨rfl, rfl⟩, later, List.cons_append]
    · obtain ⟨segment, more, split⟩ :=
        List.exists_cons_of_ne_nil (segmentsFrom_ne_nil (levelAfter level c) rest)
      rw [if_neg parts, if_neg parts, later, split]
      rfl

/-- Two specifications in one ask for the stages of the first and then for those of the second. -/
theorem parse_append {first : Text} (balanced : first.count '(' = first.count ')')
    (second : Text) : parse (first ++ ',' :: second) = parse first ++ parse second := by
  have closed : first.foldl levelAfter 0 = 0 := by
    rw [foldl_levelAfter, balanced]
    omega
  rw [parse, segmentsFrom_append closed, List.filterMap_append]
  rfl

/-- Stages in a row hand on what they leave. -/
theorem runStages_append (env : Environment) (content : Text) (first second : List StageCall) :
    runStages env content (first ++ second) =
      (runStages env content first).andThen fun between => runStages env between second := by
  induction first generalizing content with
  | nil => rw [List.nil_append, runStages, Trace.done_andThen]
  | cons call rest ih =>
    simp only [List.cons_append, runStages, Trace.bind_eq, Trace.andThen_assoc, ih]

/-- A pipeline of two specifications leaves what the second leaves of what the first has left, and
reports what the first reports and then what the second does. -/
theorem run_append (env : Environment) (content first second : Text)
    (balanced : first.count '(' = first.count ')') :
    ∃ between left, (run env content first).outcome = .ok between ∧
      (run env between second).outcome = .ok left ∧
      (run env content (first ++ ',' :: second)).outcome = .ok left ∧
      (run env content (first ++ ',' :: second)).reports =
        (run env content first).reports ++ (run env between second).reports := by
  have both : run env content (first ++ ',' :: second) =
      (run env content first).andThen fun between => run env between second := by
    rw [run, parse_append balanced, runStages_append]
    rfl
  obtain ⟨between, opening⟩ := exists_outcome_run env content first
  obtain ⟨left, closing⟩ := exists_outcome_run env between second
  refine ⟨between, left, opening, closing, ?_, ?_⟩
  · rw [both, Trace.outcome_andThen_eq_ok_iff]
    exact ⟨between, opening, closing⟩
  · rw [both, Trace.reports_andThen_of_ok opening]

/-- What pipelines of the stages that are always there run with. -/
def builtin : Environment := ⟨.builtin, "claude", "rules", none⟩

/-- The level goes below nothing, where a comma parts nothing, and comes back. -/
def uneven : Text := "x),(y, adjust-headings(1)"

/-- A stage between one that says nothing and one that is not there. -/
def ragged : Text := ", wrap-example(md), ("

/-- The first specification closes a parenthesis before it opens one, and the second opens one that
nothing closes. -/
theorem run_append_uneven :
    uneven.count '(' = uneven.count ')' ∧
    (run builtin "# T" (uneven ++ ',' :: ragged)).outcome = .ok "```md\n## T\n```".toList ∧
    (run builtin "# T" (uneven ++ ',' :: ragged)).reports =
      [unknownStage "x),(y", unknownStage "("] := by
  have balanced : uneven.count '(' = uneven.count ')' := by decide
  obtain ⟨between, left, opening, closing, ended, reported⟩ :=
    run_append builtin "# T" uneven ragged balanced
  have first : (run builtin "# T" uneven).outcome = .ok "## T".toList := by rfl
  obtain rfl : "## T".toList = between := Except.ok.inj (first.symm.trans opening)
  refine ⟨balanced, ?_, ?_⟩
  · rw [ended, ← closing]
    rfl
  · rw [reported]
    rfl

end DocWeave.Chain
