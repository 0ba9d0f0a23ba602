import DocWeave.Proofs.Markup.Visibility
import DocWeave.Proofs.Trace
import DocWeave.Weave

/-! # Expansion step by step

What a directive contributes is one step: the document it names is asked for, and then resolved
like any document, or a marker stands in its place. Expanding a text is these steps in order. An
expansion only leads to readable documents that are not yet in expansion, which is the one induction
that everything about expansions goes by.
-/

namespace DocWeave

namespace Weaver

variable {w : Weaver} {visited inside : Visitation} {current : Path} {raw : Text}

/-- Documents of a store resolved with the default settings and without pipelines. -/
def ofStore (store : Store) : Weaver where
  settings := .default
  tool := "claude"
  strategy := "rules"
  root := .root
  registry := none
  library := none
  store := store

/-- What a filtered content shows to the requesting tool. -/
def seen (w : Weaver) (content : Text) : Text :=
  (Visibility.filter w.settings.filterTag w.tool content).1

@[simp] theorem outcome_filtered (content : Text) :
    (w.filtered content).outcome = .ok (w.seen content) := rfl

/-- Filtering is no work on includes. -/
theorem quiet_filtered (content : Text) : (w.filtered content).Quiet := by
  apply Trace.quiet_tell
  intro report mem
  rw [Visibility.eq_unclosed_of_mem_filter mem]
  simp [Visibility.unclosed, Report.warning]

theorem outcome_marker_eq_ok_iff {directive : Directive} {path : Path} {literal : Text} :
    (w.marker directive path).outcome = .ok literal ↔
      w.settings.missingMarker directive.path = .ok literal := by
  rw [marker, Trace.bind_eq, Trace.andThen_of_ok rfl]
  cases filled : w.settings.missingMarker directive.path with
  | ok text =>
    constructor
    · rintro ⟨⟩
      rfl
    · rintro ⟨⟩
      rfl
  | error fault => exact ⟨nofun, nofun⟩

theorem outcome_marker_eq_error_iff {directive : Directive} {path : Path} {failure : Failure} :
    (w.marker directive path).outcome = .error failure ↔
      ∃ fault, w.settings.missingMarker directive.path = .error fault ∧
        failure = .template fault := by
  rw [marker, Trace.bind_eq, Trace.andThen_of_ok rfl]
  cases filled : w.settings.missingMarker directive.path with
  | ok text => exact ⟨nofun, nofun⟩
  | error fault =>
    constructor
    · intro failed
      exact ⟨fault, rfl, (Except.error.inj failed).symm⟩
    · rintro ⟨_, ⟨⟩, rfl⟩
      rfl

theorem events_marker (directive : Directive) (path : Path) :
    (w.marker directive path).events = [.reported (missing directive path)] := rfl

/-- What stands in place of a directive, where `visited` is in expansion. -/
def included (w : Weaver) (visited : Visitation) (current : Path) (directive : Directive) :
    Trace Text :=
  (Trace.emit [.asked (w.target current directive)]).andThen fun _ =>
    match w.store.read (w.target current directive) with
    | .error failure =>
      if failure.isUnreadable then w.marker directive (w.target current directive)
      else Trace.fail failure
    | .ok raw => (w.weave visited (w.target current directive) raw).andThen (w.piped directive)

theorem included_of_error {directive : Directive} {failure : Failure}
    (unread : w.store.read (w.target current directive) = .error failure) :
    w.included visited current directive =
      (Trace.emit [.asked (w.target current directive)]).andThen fun _ =>
        if failure.isUnreadable then w.marker directive (w.target current directive)
        else Trace.fail failure := by
  rw [included, unread]

theorem included_of_ok {directive : Directive}
    (read : w.store.read (w.target current directive) = .ok raw) :
    w.included visited current directive =
      (Trace.emit [.asked (w.target current directive)]).andThen fun _ =>
        (w.weave visited (w.target current directive) raw).andThen (w.piped directive) := by
  rw [included, read]

theorem expandFrom_nil (visited : Visitation) (current : Path) (text : Text) (position : Nat) :
    w.expandFrom visited current text position [] = Trace.done (text.drop position) := by
  rw [expandFrom]

/-- The first directive is expanded before the ones behind it. -/
theorem expandFrom_cons (visited : Visitation) (current : Path) (text : Text) (position : Nat)
    (directive : Directive) (rest : List Directive) :
    w.expandFrom visited current text position (directive :: rest) =
      (w.included visited current directive).andThen fun content =>
        (w.expandFrom visited current text directive.stop rest).andThen fun after =>
          Trace.done (text.slice position directive.start ++ content ++ after) := by
  rw [expandFrom]
  simp only [Trace.bind_eq]
  congr 1
  split
  · rename_i failure unread
    rw [included_of_error unread]
    rfl
  · rename_i raw read
    rw [included_of_ok read, weave]
    simp only [Trace.bind_eq, Trace.andThen_assoc]
    congr 1
    funext _
    congr 1
    funext seen
    split
    · rename_i cycle entered
      rw [expand, entered, Trace.fail_andThen]
    · rename_i inside entered
      rw [expand, entered]

/-- A document is expanded once it can be entered. -/
theorem expand_of_enter (entered : visited.enter current.normalize = .ok inside) (text : Text) :
    w.expand visited current text =
      (w.expandFrom inside current.normalize text 0 (w.directives text)).visiting
        current.normalize := by
  rw [expand, entered]

theorem expand_of_cycle {cycle : Cycle}
    (entered : visited.enter current.normalize = .error cycle) (text : Text) :
    w.expand visited current text = Trace.fail (.cycle cycle) := by
  rw [expand, entered]

/-- The induction on expansions: what is entered next is readable and not yet in expansion. -/
theorem expansion_induction (store : Store) {motive : Visitation → Prop}
    (step : ∀ visited : Visitation, (∀ path raw inside, store.read path = .ok raw →
      visited.enter path.normalize = .ok inside → motive inside) → motive visited) :
    ∀ visited, motive visited := by
  intro visited
  induction left : store.unvisited visited.chain using Nat.strongRecOn generalizing visited with
  | _ left ih =>
    apply step
    intro path raw inside read entered
    obtain ⟨chain, fresh⟩ := Visitation.chain_enter entered
    have fewer := Store.unvisited_append_lt (store.normalize_mem_reach read) fresh
    rw [← chain, left] at fewer
    exact ih _ fewer inside rfl

end Weaver

end DocWeave
