import DocWeave.CommandLine.Run
import DocWeave.Proofs.FileTree.Kept
import DocWeave.Proofs.Project.Isolated

/-! # How a command ends

A run goes through its steps in order, and the step that ends the command is the last one that does
anything. So a command ends well exactly when its configuration is there, is loaded, and makes a
project whose run returns; what the run reports on the way does not count. The one exception is a
configuration file that ends the command itself. Until the project runs, nothing but the output
directory is made, and not even that without a configuration; whatever else has changed is the doing
of the configuration file that has been executed.
-/

namespace DocWeave

/-- From one session to the other, no file has been written and no callback called. -/
structure Session.Quiet (s t : Session) : Prop where
  written : t.written = s.written
  calls : t.calls = s.calls

namespace CommandLine

variable {env : Surroundings} {p : Progress} {s t : Session} {prepared : FileTree}

namespace Progress

/-- The path where the configuration file is looked for leads to something. -/
def ConfigExists (env : Surroundings) (p : Progress) (tree : FileTree) : Prop :=
  ∃ node, tree.status (env.current.join p.configSought) = .ok (some node)

/-- What loading the file there comes to, and the tree that it leaves. -/
def load (env : Surroundings) (p : Progress) (tree : FileTree) :
    Except LoadFailure Config × FileTree :=
  ConfigFile.load tree env.execute (Path.normalizeFrom env.current p.configSought)

/-- What is found there is loaded as a configuration. -/
def Loads (env : Surroundings) (p : Progress) (tree : FileTree) (config : Config) : Prop :=
  (p.load env tree).1 = .ok config

/-- What is found there ends the command itself. -/
def Quits (env : Surroundings) (p : Progress) (tree : FileTree) : Prop :=
  ∃ status errors, (p.load env tree).1 = .error (.quits status errors)

end Progress

/-! ## Endings -/

/-- The ending of a step before the report: it leaves the status of a failure, and it is not the
ending of a report on nothing. -/
structure Ending.IsEarly (ending : Ending) : Prop where
  status : exitStatus (.error ending) = 1
  ne_noRun : ending ≠ .exit Step.noRun

namespace Ending.IsEarly

variable {ending : Ending}

/-- The status of such an ending says of whatever has failed that it does not hold. -/
theorem status_iff {holds : Prop} (early : ending.IsEarly) (fails : ¬ holds) :
    (exitStatus (.error ending) = 0 ↔ holds) ∧ (exitStatus (.error ending) = 1 ↔ ¬ holds) := by
  rw [early.status]
  exact ⟨iff_of_false Nat.one_ne_zero fails, iff_of_true rfl fails⟩

theorem error_ne_noRun (early : ending.IsEarly) :
    (.error ending : Except Ending Exit) ≠ .error (.exit Step.noRun) :=
  fun same => early.ne_noRun (Except.error.inj same)

end Ending.IsEarly

namespace Step

theorem isEarly_failure (failure : Failure) : (Ending.failure failure).IsEarly := ⟨rfl, nofun⟩

theorem head?_append_of_some {first : Char} {word : Text} (rest : Text)
    (starts : word.head? = some first) : (word ++ rest).head? = some first := by
  rw [List.head?_append, starts, Option.some_or]

/-- Of all messages that begin alike, only the one of a report on nothing goes on with this
letter. -/
theorem isEarly_error (first : Char) {message : Text} (starts : message.head? = some first)
    (apart : first ≠ 'G') : (Ending.exit (.failure ("Error: " ++ message))).IsEarly := by
  refine ⟨rfl, fun same => apart ?_⟩
  have split : ("Error: Generation failed" : Text) = "Error: ".toList ++ "Generation failed".toList :=
    by decide +kernel
  rw [noRun, Ending.exit.injEq, Exit.failure, Exit.failure, Exit.mk.injEq, split] at same
  rw [List.append_cancel_left (List.append_cancel_right same.2.2)] at starts
  exact Option.some.inj (starts.symm.trans (by decide +kernel))

theorem isEarly_noConfig (p : Progress) : (Ending.exit (noConfig p)).IsEarly := by
  have split : ("Error: Config file not found: " : Text) =
      "Error: ".toList ++ "Config file not found: ".toList := by decide +kernel
  rw [noConfig, split, List.append_assoc]
  exact isEarly_error 'C' (head?_append_of_some _ (by decide +kernel)) (by decide)

theorem isEarly_failedLoad {failure : LoadFailure}
    (stays : ∀ status errors, failure ≠ .quits status errors) : (failedLoad failure).IsEarly := by
  cases failure with
  | notFound path => exact isEarly_error 'C' (head?_append_of_some _ (by decide +kernel)) (by decide)
  | notExecutable path =>
    exact isEarly_error 'F' (head?_append_of_some _ (head?_append_of_some _ (by decide +kernel))) (by decide)
  | fails message => exact isEarly_error 'F' (head?_append_of_some _ (by decide +kernel)) (by decide)
  | definesNone path =>
    exact isEarly_error 'F' (head?_append_of_some _ (head?_append_of_some _ (by decide +kernel))) (by decide)
  | quits status errors => exact absurd rfl (stays status errors)
  | unforeseen failure => exact isEarly_failure failure

theorem isEarly_failedRun (failure : Failure) : (Ending.exit (failedRun failure)).IsEarly := by
  cases failure with
  | cycle cycle =>
    have starts : cycle.message.head? = some 'C' :=
      head?_append_of_some _ (head?_append_of_some _ (head?_append_of_some _ (head?_append_of_some _ (by decide +kernel))))
    exact isEarly_error 'C' starts (by decide)
  | _ =>
    refine ⟨rfl, fun same => ?_⟩
    have first := congrArg List.head? (congrArg Exit.errors (Ending.exit.inj same))
    simp [failedRun, Exit.failure, noRun] at first

/-! ## What a step does -/

section Apply

variable {α : Type}

@[simp] theorem tree_remark (level : Int) (message : Text) (s : Session) :
    (s.remark level message).tree = s.tree := rfl

@[simp] theorem remark_apply (level : Int) (message : Text) (s : Session) :
    remark level message s = (.ok (), s.remark level message) := rfl

@[simp] theorem attempt_apply (work : Work α) (s : Session) :
    attempt work s = (.ok (work s).1, (work s).2) := rfl

@[simp] theorem exit_apply (e : Exit) (s : Session) :
    (exit e : Step α) s = (.error (.exit e), s) := rfl

@[simp] theorem ofOutcome_apply (outcome : Except Failure α) (s : Session) :
    ofOutcome outcome s = (outcome.mapError .failure, s) := by
  cases outcome <;> rfl

@[simp] theorem status_apply (env : Surroundings) (path : Path) (s : Session) :
    status env path s = ((s.tree.status (env.current.join path)).mapError .failure, s) := by
  simp [status, Work.bind_apply]

@[simp] theorem ensureDirectory_apply (env : Surroundings) (path : Path) (s : Session) :
    ensureDirectory env path s =
      ((s.tree.ensureDirectory (env.current.join path)).1.mapError .failure,
        { s with tree := (s.tree.ensureDirectory (env.current.join path)).2 }) := by
  simp [ensureDirectory, Work.bind_apply]

end Apply

/-- Without a configuration file the command ends here, and no directory is made. -/
theorem checkSurroundings_of_absent (absent : ¬ p.ConfigExists env s.tree) :
    ∃ ending t, checkSurroundings env p s = (.error ending, t) ∧ ending.IsEarly ∧
      t.tree = s.tree ∧ s.Quiet t := by
  cases looked : s.tree.status (env.current.join p.configSought) with
  | error failure =>
    refine ⟨.failure failure, (s.remark 2 title).remark 2 "Checking environment...", ?_,
      isEarly_failure failure, rfl, rfl, rfl⟩
    simp only [checkSurroundings, Work.bind_apply, remark_apply, status_apply, tree_remark, looked,
      Except.mapError]
  | ok node =>
    cases node with
    | some node => exact absurd ⟨node, looked⟩ absent
    | none =>
      refine ⟨.exit (noConfig p), (s.remark 2 title).remark 2 "Checking environment...", ?_,
        isEarly_noConfig p, rfl, rfl, rfl⟩
      simp only [checkSurroundings, Work.bind_apply, remark_apply, status_apply, tree_remark,
        looked, Except.mapError, Option.isNone_none, if_true, exit_apply]

/-- With one the output directory is made. -/
theorem checkSurroundings_of_exists (found : p.ConfigExists env s.tree)
    (preparable : s.tree.ensureDirectory (env.current.join p.outputDirectory) = (.ok (), prepared)) :
    ∃ t, checkSurroundings env p s =
        (.ok { p with configPath := p.configSought, isChecked := true }, t) ∧
      t.tree = prepared ∧ s.Quiet t := by
  obtain ⟨node, found⟩ := found
  simp only [checkSurroundings, Work.bind_apply, remark_apply, status_apply, tree_remark, found,
    Except.mapError, Option.isNone_some, Bool.false_eq_true, if_false, Work.pure_apply,
    ensureDirectory_apply, preparable]
  exact ⟨_, rfl, rfl, rfl, rfl⟩

theorem loadConfig_of_error {failure : LoadFailure} {left : FileTree}
    (failed : ConfigFile.load s.tree env.execute (Path.normalizeFrom env.current p.configPath) =
      (.error failure, left)) :
    ∃ t, loadConfig env p s = (.error (failedLoad failure), t) ∧ t.tree = left ∧ s.Quiet t := by
  simp only [loadConfig, Work.bind_apply, remark_apply, Work.get_apply, tree_remark, failed,
    Work.modify_apply, Work.throw_apply]
  exact ⟨_, rfl, rfl, rfl, rfl⟩

theorem loadConfig_of_ok {config : Config} {left : FileTree}
    (loaded : ConfigFile.load s.tree env.execute (Path.normalizeFrom env.current p.configPath) =
      (.ok config, left)) :
    ∃ t, loadConfig env p s = (.ok { p with config := some config }, t) ∧ t.tree = left := by
  simp only [loadConfig, Work.bind_apply, remark_apply, Work.get_apply, tree_remark, loaded,
    Work.modify_apply, Work.pure_apply]
  exact ⟨_, rfl, rfl⟩

/-- The project runs from the tree as it is, and how its run ends is how the step does. -/
theorem runProject_of_config (env : Surroundings) (s : Session) {config : Config}
    (loaded : p.config = some config) :
    ∃ opening, opening.tree = s.tree ∧ runProject env p s =
      match (p.project env config).run opening with
      | (.ok summary, t) => (.ok { p with summary := some summary }, t)
      | (.error failure, t) => (.error (.exit (failedRun failure)), t) := by
  refine ⟨{ s.remark 1 "Generating tool documents..." with
    sink := (p.project env config).sink (2 ≤ p.verbosity) }, rfl, ?_⟩
  simp only [runProject, Work.bind_apply, remark_apply, loaded, Work.modify_apply, attempt_apply]
  rcases (p.project env config).run _ with ⟨failure | summary, t⟩ <;> rfl

theorem runProject_of_not_returns {config : Config} (loaded : p.config = some config)
    (fails : ¬ (p.project env config).Returns s.tree) :
    ∃ failure t, runProject env p s = (.error (.exit (failedRun failure)), t) := by
  obtain ⟨opening, same, ran⟩ := runProject_of_config env s loaded
  rw [← same, Project.returns_tree_iff] at fails
  rcases whole : (p.project env config).run opening with ⟨failure | summary, t⟩
  · rw [whole] at ran
    exact ⟨failure, t, ran⟩
  · exact absurd ⟨summary, congrArg Prod.fst whole⟩ fails

theorem remarks_ok (lines : List (Int × Text)) (s : Session) :
    ∃ t, (lines.forM fun (level, line) => remark level line) s = (.ok (), t) := by
  induction lines generalizing s with
  | nil => exact ⟨s, rfl⟩
  | cons line lines ih =>
    obtain ⟨t, told⟩ := ih (s.remark line.1 line.2)
    refine ⟨t, ?_⟩
    show (remark line.1 line.2 >>= fun _ => lines.forM fun (level, line) => remark level line) s = _
    rw [Work.bind_apply, remark_apply]
    exact told

/-- There is a report on every run that has returned. -/
theorem reportRun_of_summary {summary : Summary} (ran : p.summary = some summary) :
    ∃ t, reportRun p s = (.ok p, t) := by
  obtain ⟨t, told⟩ : ∃ t, report p summary.tools (summary.written.map Path.toText)
      summary.diagnostics s = (.ok (), t) := by
    unfold report
    split
    · exact remarks_ok _ s
    · exact ⟨s, rfl⟩
  refine ⟨t, ?_⟩
  rw [reportRun, ran]
  exact Work.bind_of_ok told

/-- A run that returns is reported. -/
theorem runProject_reportRun_of_returns {config : Config} (loaded : p.config = some config)
    (returns : (p.project env config).Returns s.tree) :
    ∃ q t, (runProject env p >>= reportRun) s = (.ok q, t) := by
  obtain ⟨opening, same, ran⟩ := runProject_of_config env s loaded
  obtain ⟨summary, ended⟩ := returns opening same
  rcases whole : (p.project env config).run opening with ⟨outcome, t⟩
  rw [whole] at ended ran
  dsimp only at ended
  subst ended
  obtain ⟨u, told⟩ := reportRun_of_summary (p := { p with summary := some summary }) (s := t) rfl
  exact ⟨_, u, (Work.bind_of_ok ran).trans told⟩

/-! ## The run of the steps -/

/-- How a run ends, with what it has come through before and what it leaves. -/
inductive Ends (env : Surroundings) (p : Progress) (s : Session) (prepared : FileTree) :
    Except Ending Exit × Session → Prop where
  | unfound {ending : Ending} {t : Session} (absent : ¬ p.ConfigExists env s.tree)
      (early : ending.IsEarly) (tree : t.tree = s.tree) (quiet : s.Quiet t) :
      Ends env p s prepared (.error ending, t)
  | quit {exit : Exit} {t : Session} (found : p.ConfigExists env s.tree)
      (quits : p.Quits env prepared) (tree : t.tree = (p.load env prepared).2) (quiet : s.Quiet t) :
      Ends env p s prepared (.error (.quit exit), t)
  | unloaded {ending : Ending} {t : Session} (found : p.ConfigExists env s.tree)
      (missing : ∀ config, ¬ p.Loads env prepared config) (early : ending.IsEarly)
      (tree : t.tree = (p.load env prepared).2) (quiet : s.Quiet t) :
      Ends env p s prepared (.error ending, t)
  | stopped {config : Config} {ending : Ending} {t : Session}
      (found : p.ConfigExists env s.tree) (loads : p.Loads env prepared config)
      (fails : ¬ (p.project env config).Returns (p.load env prepared).2) (early : ending.IsEarly) :
      Ends env p s prepared (.error ending, t)
  | finished {config : Config} {t : Session} (found : p.ConfigExists env s.tree)
      (loads : p.Loads env prepared config)
      (returns : (p.project env config).Returns (p.load env prepared).2) :
      Ends env p s prepared (.ok .success, t)

theorem generate_apply (env : Surroundings) (p : Progress) (s : Session) :
    generate env p s =
      (checkSurroundings env p >>= fun checked => loadConfig env checked >>= fun ready =>
        (runProject env ready >>= reportRun) >>= fun _ => pure Exit.success)
          { s with verbosity := some p.verbosity } := by
  rw [generate, Work.bind_of_ok (Work.modify_apply _ s)]
  simp only [stages, List.foldlM_cons, List.foldlM_nil, bind_assoc, pure_bind]

/-- Without a configuration the run has ended by quitting or by a failure to load. -/
theorem ends_of_failedLoad {failure : LoadFailure} {t : Session}
    (found : p.ConfigExists env s.tree) (failed : (p.load env prepared).1 = .error failure)
    (tree : t.tree = (p.load env prepared).2) (quiet : s.Quiet t) :
    Ends env p s prepared (.error (failedLoad failure), t) := by
  by_cases quits : p.Quits env prepared
  · obtain ⟨status, errors, quits⟩ := quits
    cases failed.symm.trans quits
    exact .quit found ⟨status, errors, quits⟩ tree quiet
  · have missing (config : Config) : ¬ p.Loads env prepared config := by
      rw [Progress.Loads, failed]
      nofun
    have stays (status : Nat) (errors : Text) : failure ≠ .quits status errors :=
      fun same => quits ⟨status, errors, same ▸ failed⟩
    exact .unloaded found missing (isEarly_failedLoad stays) tree quiet

/-- Each step that passes something on leads to the next, and the run to one of its ends. -/
theorem ends_generate
    (preparable : s.tree.ensureDirectory (env.current.join p.outputDirectory) = (.ok (), prepared)) :
    Ends env p s prepared (generate env p s) := by
  let watched : Session := { s with verbosity := some p.verbosity }
  let checked : Progress := { p with configPath := p.configSought, isChecked := true }
  rw [generate_apply]
  by_cases found : p.ConfigExists env s.tree
  · obtain ⟨t, ran, tree, quiet⟩ := checkSurroundings_of_exists (s := watched) found preparable
    rw [Work.bind_of_ok ran]
    subst tree
    rcases loaded : p.load env t.tree with ⟨failure | config, left⟩
    · obtain ⟨u, ran, same, still⟩ := loadConfig_of_error (p := checked) loaded
      rw [Work.bind_of_error ran]
      exact ends_of_failedLoad found (congrArg Prod.fst loaded)
        (same.trans (congrArg Prod.snd loaded).symm)
        ⟨still.written.trans quiet.written, still.calls.trans quiet.calls⟩
    · let ready : Progress := { checked with config := some config }
      obtain ⟨u, ran, same⟩ := loadConfig_of_ok (p := checked) loaded
      rw [Work.bind_of_ok ran]
      have loads : p.Loads env t.tree config := congrArg Prod.fst loaded
      have same : u.tree = (p.load env t.tree).2 := same.trans (congrArg Prod.snd loaded).symm
      by_cases returns : (p.project env config).Returns u.tree
      · obtain ⟨q, v, ran⟩ := runProject_reportRun_of_returns (p := ready) (s := u) rfl returns
        rw [Work.bind_of_ok ran]
        exact .finished found loads (same ▸ returns)
      · obtain ⟨failure, v, ran⟩ := runProject_of_not_returns (p := ready) (s := u) rfl returns
        rw [Work.bind_of_error (Work.bind_of_error ran)]
        exact .stopped found loads (same ▸ returns) (isEarly_failedRun failure)
  · obtain ⟨ending, t, ran, early, tree, quiet⟩ := checkSurroundings_of_absent (s := watched) found
    rw [Work.bind_of_error ran]
    exact .unfound found early tree ⟨quiet.written, quiet.calls⟩

/-- A run whose output directory is there or can be made, and whose configuration file does not end
the command itself, ends with status zero exactly when that file exists, is loaded, and makes a
project whose run returns, whatever is reported on the way; otherwise it ends with status one. If it
ends before the project runs, no callback has been called, every file has been as it was until the
configuration file was executed, and nothing has changed since; without a configuration file the
whole tree is as it was. It never comes to its report without a run. -/
theorem exitStatus_generate (env : Surroundings) (p : Progress) (s : Session)
    (preparable : s.tree.ensureDirectory (env.current.join p.outputDirectory) = (.ok (), prepared)) :
    let ended := generate env p s
    let loaded := p.load env prepared
    let starts := p.ConfigExists env s.tree ∧ ∃ config, loaded.1 = .ok config
    let succeeds := p.ConfigExists env s.tree ∧
      ∃ config, loaded.1 = .ok config ∧ (p.project env config).Returns loaded.2
    (¬ (p.ConfigExists env s.tree ∧ p.Quits env prepared) →
        (exitStatus ended.1 = 0 ↔ succeeds) ∧ (exitStatus ended.1 = 1 ↔ ¬ succeeds)) ∧
      (¬ starts → s.Quiet ended.2 ∧ s.tree.SameFiles prepared ∧
        (p.ConfigExists env s.tree → ended.2.tree = loaded.2)) ∧
      (¬ p.ConfigExists env s.tree → ended.2.tree = s.tree) ∧
      ended.1 ≠ .error (.exit noRun) := by
  intro ended loaded starts succeeds
  have ends : Ends env p s prepared ended := ends_generate preparable
  have made : s.tree.SameFiles prepared := by
    have grows := s.tree.grows_ensureDirectory (env.current.join p.outputDirectory)
    rw [preparable] at grows
    exact FileTree.sameFiles_of_grows grows
  clear_value ended
  cases ends with
  | unfound absent early tree quiet =>
    have fails : ¬ succeeds := fun holds => absent holds.1
    exact ⟨fun _ => early.status_iff fails, fun _ => ⟨quiet, made, fun found => absurd found absent⟩,
      fun _ => tree, early.error_ne_noRun⟩
  | quit found quits tree quiet =>
    exact ⟨fun stays => absurd ⟨found, quits⟩ stays, fun _ => ⟨quiet, made, fun _ => tree⟩,
      fun absent => absurd found absent, nofun⟩
  | unloaded found missing early tree quiet =>
    have fails : ¬ succeeds := fun ⟨_, config, loads, _⟩ => missing config loads
    exact ⟨fun _ => early.status_iff fails, fun _ => ⟨quiet, made, fun _ => tree⟩,
      fun absent => absurd found absent, early.error_ne_noRun⟩
  | @stopped config _ _ found loads stops early =>
    have fails : ¬ succeeds := by
      rintro ⟨_, other, loaded, returns⟩
      cases loads.symm.trans loaded
      exact stops returns
    exact ⟨fun _ => early.status_iff fails, fun before => absurd ⟨found, config, loads⟩ before,
      fun absent => absurd found absent, early.error_ne_noRun⟩
  | @finished config _ found loads returns =>
    have holds : succeeds := ⟨found, config, loads, returns⟩
    exact ⟨fun _ => ⟨iff_of_true rfl holds, iff_of_false Nat.zero_ne_one (not_not_intro holds)⟩,
      fun before => absurd ⟨found, config, loads⟩ before, fun absent => absurd found absent, nofun⟩

/-! ## A configuration file that is executed -/

/-- A configuration file beside a document. -/
def configured : FileTree := Project.blank.plant ["proj".toList, "conf.py".toList] (.file [])

/-- The run with that configuration file. -/
def configuredRun : Progress :=
  { Progress.start (.ofText "/proj") (.ofText "/out") with configFile := "conf.py" }

/-- Where the compiled form of the configuration file is kept. -/
def compiledLocation : Location :=
  ["proj".toList, "__pycache__".toList, "conf.cpython-311.pyc".toList]

/-- Surroundings where executing the configuration file comes to an end, and a compiled form of it is
kept. -/
def compiling (execution : Execution) : Surroundings where
  current := .root
  settings := .default
  execute tree _ := (execution, tree.plant compiledLocation (.file [0xA7, 0x0D, 0x0D, 0x0A]))
  nesting := 1

/-- The configuration file is found and executed, and its compiled form is left. -/
theorem load_compiling (execution : Execution) :
    configuredRun.load (compiling execution) (configured.ensureDirectory (.ofText "/out")).2 =
      (execution.config (.ofText "/proj/conf.py"),
        (configured.ensureDirectory (.ofText "/out")).2.plant compiledLocation
          (.file [0xA7, 0x0D, 0x0D, 0x0A])) := by
  have sought : Path.normalizeFrom Path.root configuredRun.configSought = .ofText "/proj/conf.py" :=
    by decide +kernel
  have stands : (configured.ensureDirectory (.ofText "/out")).2.status (.ofText "/proj/conf.py") =
    .ok (some (.file [])) := by decide +kernel
  have executable : ConfigFile.isExecutable (Path.ofText "/proj/conf.py").name = true := by
    decide +kernel
  show ConfigFile.load _ _ (Path.normalizeFrom Path.root configuredRun.configSought) = _
  rw [sought, ConfigFile.load, stands]
  simp only [executable, if_true]
  rfl

/-- The status of a run is zero even though its transform fails, which is reported. -/
theorem exitStatus_generate_failing :
    let env := compiling (.defines (Project.single Project.failing).config)
    let s := Session.start configured (.echoing false) none
    let project := configuredRun.project env (Project.single Project.failing).config
    let prepared := (configured.ensureDirectory (.ofText "/out")).2
    (configured.ensureDirectory (.ofText "/out")).1 = .ok () ∧
      (project.run (.start (configuredRun.load env prepared).2 (.echoing false) none)).1 =
        .ok ⟨["claude"], [], 1⟩ ∧
      exitStatus (generate env configuredRun s).1 = 0 := by
  intro env s project prepared
  have preparable : (configured.ensureDirectory (.ofText "/out")).1 = .ok () := by decide +kernel
  have found : configuredRun.ConfigExists env configured := ⟨.file [], by decide +kernel⟩
  have loaded : configuredRun.load env prepared = _ := load_compiling _
  have loads : (configuredRun.load env prepared).1 = .ok (Project.single Project.failing).config :=
    congrArg Prod.fst loaded
  have stays : ¬ configuredRun.Quits env prepared := by
    rintro ⟨status, errors, quits⟩
    cases loads.symm.trans quits
  have ran : (project.run (.start (configuredRun.load env prepared).2 (.echoing false) none)).1 =
      .ok ⟨["claude"], [], 1⟩ := by
    rw [loaded]
    set left := prepared.plant compiledLocation (.file [0xA7, 0x0D, 0x0D, 0x0A])
    have matched : Discovery.find left project.scope Project.failing.patterns =
        .ok [.ofText "/proj/in.md"] := by decide +kernel
    have read : left.readText project.settings.encoding (.ofText "/proj/in.md") = .ok [] := by
      decide +kernel
    exact Project.run_of_failing (s := .start left (.echoing false) none) rfl matched read rfl rfl
  refine ⟨preparable, ran, ?_⟩
  have ends := (exitStatus_generate env configuredRun s (Prod.ext preparable rfl)).1
    fun both => stays both.2
  exact ends.1.2 ⟨found, _, loads, (project.returns_tree_iff _).2 ⟨_, ran⟩⟩

/-- A configuration file that ends the command with status zero: the status is zero although nothing
is loaded, and before any project runs there is a file that was not there. -/
theorem exitStatus_generate_quitting :
    let env := compiling (.quits 0 [])
    let s := Session.start configured (.echoing false) none
    let ended := generate env configuredRun s
    let prepared := (configured.ensureDirectory (.ofText "/out")).2
    (configured.ensureDirectory (.ofText "/out")).1 = .ok () ∧
      (∀ config, ¬ configuredRun.Loads env prepared config) ∧ exitStatus ended.1 = 0 ∧
      configured.node? compiledLocation = none ∧
      ended.2.tree.node? compiledLocation = some (.file [0xA7, 0x0D, 0x0D, 0x0A]) := by
  intro env s ended prepared
  have loaded : configuredRun.load env prepared = _ := load_compiling _
  refine ⟨by decide +kernel, ?_, by decide +kernel, by decide +kernel, by decide +kernel⟩
  intro config loads
  cases (congrArg Prod.fst loaded).symm.trans loads

end Step

end CommandLine

end DocWeave
