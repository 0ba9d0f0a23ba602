import DocWeave.Proofs.Expansion.Basic
import DocWeave.Proofs.Chain.Run

/-! # Walks along directives

A directive leads on when the document it names can be read, and a walk leads on from document to
document. An expansion that ends well has entered every document of every walk, so no walk comes
back to what is in expansion. An expansion that fails has failed at a directive at the end of a
walk, and what is in expansion there is the walk. Likewise a document is only asked for, or missed,
for a directive at the end of a walk.
-/

namespace DocWeave.Weaver

variable {w : Weaver} {visited inside : Visitation} {node last : Path} {text raw : Text}
  {position : Nat} {ds left : List Directive} {walk : List Path} {failure : Failure}

/-- The documents read one after another, from the directives of one document to those of
another. -/
inductive Leads (w : Weaver) :
    Path → List Directive → List Path → Path → List Directive → Prop where
  | here (node : Path) (ds : List Directive) : Leads w node ds [] node ds
  | down {node last : Path} {ds left : List Directive} {walk : List Path} {raw : Text}
      (directive : Directive) (listed : directive ∈ ds)
      (read : w.store.read (w.target node directive) = .ok raw)
      (further : Leads w (w.target node directive).normalize (w.directives (w.seen raw)) walk
        last left) :
      Leads w node ds ((w.target node directive).normalize :: walk) last left

/-- How a directive of `node` fails where the documents of `chain` are in expansion. -/
inductive FailsAt (w : Weaver) (chain : List Path) (node : Path) (directive : Directive) :
    Failure → Prop where
  | read (failure : Failure) (unread : w.store.read (w.target node directive) = .error failure)
      (given : failure.isUnreadable = false) : FailsAt w chain node directive failure
  | marker (failure : Failure) (fault : TemplateFault)
      (unread : w.store.read (w.target node directive) = .error failure)
      (unfilled : w.settings.missingMarker directive.path = .error fault) :
      FailsAt w chain node directive (.template fault)
  | cycle (raw : Text) (read : w.store.read (w.target node directive) = .ok raw)
      (inChain : (w.target node directive).normalize ∈ chain) :
      FailsAt w chain node directive (.cycle ⟨(w.target node directive).normalize, chain⟩)

/-- A walk may go on to what the last document on it names. -/
theorem Leads.concat (leads : w.Leads node ds walk last left) {directive : Directive}
    (listed : directive ∈ left) (read : w.store.read (w.target last directive) = .ok raw) :
    w.Leads node ds (walk ++ [(w.target last directive).normalize])
      (w.target last directive).normalize (w.directives (w.seen raw)) := by
  induction leads with
  | here node ds => exact .down directive listed read (.here _ _)
  | down first mem opened further ih => exact .down first mem opened (ih listed read)

theorem exists_outcome_piped (directive : Directive) (content : Text) :
    ∃ result, (w.piped directive content).outcome = .ok result := by
  unfold piped
  split
  · exact Chain.exists_outcome_run _ _ _
  · exact ⟨content, rfl⟩

theorem quiet_piped (pure : ∀ registry, w.registry = some registry → registry.IsPure)
    (directive : Directive) (content : Text) : (w.piped directive content).Quiet := by
  unfold piped
  split
  · rename_i registry spec present _
    exact Chain.quiet_run (pure registry present) content spec
  · exact Trace.quiet_done content

theorem outcome_weave_of_enter {current : Path} (content : Text)
    (entered : visited.enter current.normalize = .ok inside) :
    (w.weave visited current content).outcome =
      (w.expandFrom inside current.normalize (w.seen content) 0
        (w.directives (w.seen content))).outcome := by
  rw [weave, Trace.bind_eq, Trace.andThen_of_ok (outcome_filtered content),
    expand_of_enter entered, Trace.outcome_visiting]

theorem outcome_weave_empty (current : Path) (content : Text) :
    (w.weave .empty current content).outcome =
      (w.expandFrom ⟨[current.normalize], by simp⟩ current.normalize (w.seen content) 0
        (w.directives (w.seen content))).outcome :=
  outcome_weave_of_enter content (Visitation.enter_empty _)

theorem outcome_weave_of_cycle {current : Path} {cycle : Cycle} (content : Text)
    (entered : visited.enter current.normalize = .error cycle) :
    (w.weave visited current content).outcome = .error (.cycle cycle) := by
  rw [weave, Trace.bind_eq, Trace.andThen_of_ok (outcome_filtered content),
    expand_of_cycle entered]
  rfl

/-- An expansion ends well only if the expansions of its directives do. -/
theorem outcome_included_of_mem {result : Text} {directive : Directive}
    (ended : (w.expandFrom visited node text position ds).outcome = .ok result)
    (listed : directive ∈ ds) :
    ∃ content, (w.included visited node directive).outcome = .ok content := by
  induction ds generalizing position result with
  | nil => cases listed
  | cons first rest ih =>
    rw [expandFrom_cons, Trace.outcome_andThen_eq_ok_iff] at ended
    obtain ⟨content, included, ended⟩ := ended
    rw [Trace.outcome_andThen_eq_ok_iff] at ended
    obtain ⟨after, later, _⟩ := ended
    rcases List.mem_cons.1 listed with rfl | behind
    · exact ⟨content, included⟩
    · exact ih later behind

/-- A readable document is entered for a directive that is expanded well, and is expanded well. -/
theorem enter_of_included {content : Text} {directive : Directive}
    (ended : (w.included visited node directive).outcome = .ok content)
    (read : w.store.read (w.target node directive) = .ok raw) :
    ∃ inside resolved, visited.enter (w.target node directive).normalize = .ok inside ∧
      (w.expandFrom inside (w.target node directive).normalize (w.seen raw) 0
        (w.directives (w.seen raw))).outcome = .ok resolved := by
  rw [included_of_ok read, Trace.andThen_of_ok rfl, Trace.outcome_andThen_eq_ok_iff] at ended
  obtain ⟨resolved, ended, _⟩ := ended
  cases entered : visited.enter (w.target node directive).normalize with
  | error cycle =>
    rw [outcome_weave_of_cycle raw entered] at ended
    cases ended
  | ok inside =>
    rw [outcome_weave_of_enter raw entered] at ended
    exact ⟨inside, resolved, rfl, ended⟩

/-- No walk comes back to what is in expansion, where the expansion ends well. -/
theorem nodup_of_leads {result : Text} (leads : w.Leads node ds walk last left)
    (ended : (w.expandFrom visited node text position ds).outcome = .ok result) :
    (visited.chain ++ walk).Nodup := by
  induction leads generalizing visited text position result with
  | here node ds => simpa using visited.nodup
  | down directive listed read further ih =>
    obtain ⟨content, included⟩ := outcome_included_of_mem ended listed
    obtain ⟨inside, resolved, entered, ended⟩ := enter_of_included included read
    have distinct := ih ended
    rw [(Visitation.chain_enter entered).1] at distinct
    simpa using distinct

/-- An expansion fails only where one of its directives does. -/
theorem exists_mem_of_error
    (ended : (w.expandFrom visited node text position ds).outcome = .error failure) :
    ∃ directive ∈ ds, (w.included visited node directive).outcome = .error failure := by
  induction ds generalizing position with
  | nil =>
    rw [expandFrom_nil] at ended
    cases ended
  | cons first rest ih =>
    rw [expandFrom_cons, Trace.outcome_andThen_eq_error_iff] at ended
    rcases ended with failed | ⟨content, _, ended⟩
    · exact ⟨first, List.mem_cons_self, failed⟩
    · rw [Trace.outcome_andThen_eq_error_iff] at ended
      rcases ended with failed | ⟨after, _, ended⟩
      · obtain ⟨directive, listed, failed⟩ := ih failed
        exact ⟨directive, List.mem_cons_of_mem first listed, failed⟩
      · cases ended

/-- A directive fails by itself, or the document it names is entered and fails to expand. -/
theorem fails_of_included {directive : Directive}
    (ended : (w.included visited node directive).outcome = .error failure) :
    w.FailsAt visited.chain node directive failure ∨
      ∃ raw inside, w.store.read (w.target node directive) = .ok raw ∧
        visited.enter (w.target node directive).normalize = .ok inside ∧
        (w.expandFrom inside (w.target node directive).normalize (w.seen raw) 0
          (w.directives (w.seen raw))).outcome = .error failure := by
  cases answer : w.store.read (w.target node directive) with
  | error fault =>
    left
    rw [included_of_error answer, Trace.andThen_of_ok rfl] at ended
    cases unreadable : fault.isUnreadable with
    | false =>
      simp only [unreadable, Bool.false_eq_true, if_false] at ended
      cases ended
      exact .read _ answer unreadable
    | true =>
      simp only [unreadable, if_true] at ended
      obtain ⟨reason, unfilled, rfl⟩ := outcome_marker_eq_error_iff.1 ended
      exact .marker _ reason answer unfilled
  | ok raw =>
    rw [included_of_ok answer, Trace.andThen_of_ok rfl, Trace.outcome_andThen_eq_error_iff] at ended
    rcases ended with failed | ⟨resolved, _, failed⟩
    · cases entered : visited.enter (w.target node directive).normalize with
      | error cycle =>
        left
        obtain ⟨inChain, rfl⟩ := Visitation.enter_eq_error_iff.1 entered
        rw [outcome_weave_of_cycle raw entered] at failed
        cases failed
        exact .cycle raw answer inChain
      | ok inside =>
        right
        rw [outcome_weave_of_enter raw entered] at failed
        exact ⟨raw, inside, rfl, rfl, failed⟩
    · obtain ⟨result, piped⟩ := exists_outcome_piped (w := w) directive resolved
      rw [piped] at failed
      cases failed

/-- What fails in an expansion is a directive at the end of a walk, and then the documents of the
walk are in expansion. -/
theorem exists_leads_of_error :
    ∀ {visited : Visitation} {node : Path} {text : Text} {position : Nat} {ds : List Directive},
      (w.expandFrom visited node text position ds).outcome = .error failure →
      ∃ walk last left, w.Leads node ds walk last left ∧ (visited.chain ++ walk).Nodup ∧
        ∃ directive ∈ left, w.FailsAt (visited.chain ++ walk) last directive failure := by
  intro visited
  induction visited using expansion_induction w.store with
  | step visited ih =>
    intro node text position ds ended
    obtain ⟨directive, listed, failed⟩ := exists_mem_of_error ended
    rcases fails_of_included failed with fails | ⟨raw, inside, read, entered, failed⟩
    · refine ⟨[], node, ds, .here node ds, by simpa using visited.nodup, directive, listed, ?_⟩
      simpa using fails
    · obtain ⟨walk, last, left, leads, distinct, culprit, fails⟩ := ih _ _ _ read entered failed
      rw [(Visitation.chain_enter entered).1, List.append_assoc] at distinct fails
      exact ⟨_, last, left, .down directive listed read leads, distinct, culprit, fails⟩

/-- What fails when a document is resolved is a directive at the end of a walk from the document. -/
theorem exists_leads_of_weave_error {current : Path} {content : Text}
    (ended : (w.weave .empty current content).outcome = .error failure) :
    ∃ walk last left, w.Leads current.normalize (w.directives (w.seen content)) walk last left ∧
      (current.normalize :: walk).Nodup ∧
      ∃ directive ∈ left, w.FailsAt (current.normalize :: walk) last directive failure := by
  rw [outcome_weave_empty] at ended
  exact exists_leads_of_error ended

/-- What happens in an expansion happens for one of its directives. -/
theorem exists_mem_of_event {event : Event}
    (happens : event ∈ (w.expandFrom visited node text position ds).events) :
    ∃ directive ∈ ds, event ∈ (w.included visited node directive).events := by
  induction ds generalizing position with
  | nil =>
    rw [expandFrom_nil] at happens
    cases happens
  | cons first rest ih =>
    rw [expandFrom_cons, Trace.mem_events_andThen_iff] at happens
    rcases happens with here | ⟨content, _, happens⟩
    · exact ⟨first, List.mem_cons_self, here⟩
    · rcases Trace.mem_events_andThen_iff.1 happens with behind | ⟨after, _, nothing⟩
      · obtain ⟨directive, listed, here⟩ := ih behind
        exact ⟨directive, List.mem_cons_of_mem first listed, here⟩
      · cases nothing

/-- A document is asked for or missed in a resolution only once the content is being expanded. -/
theorem about_of_weave {current : Path} {content : Text} {event : Event}
    (about : event.isAboutInclude = true)
    (happens : event ∈ (w.weave visited current content).events) :
    ∃ inside, visited.enter current.normalize = .ok inside ∧
      event ∈ (w.expandFrom inside current.normalize (w.seen content) 0
        (w.directives (w.seen content))).events := by
  rcases Trace.mem_events_andThen_iff.1 happens with filtered | ⟨seen, shown, expanded⟩
  · exact absurd filtered ((quiet_filtered content).not_mem about)
  cases shown
  cases entered : visited.enter current.normalize with
  | error cycle =>
    rw [expand_of_cycle entered] at expanded
    cases expanded
  | ok inside =>
    rw [expand_of_enter entered] at expanded
    rcases Trace.mem_events_visiting_iff.1 expanded with rfl | within | rfl
    · cases about
    · exact ⟨inside, rfl, within⟩
    · cases about

/-- A document is asked for or missed for the directive that names it, or else for a directive in
the document that it names. -/
theorem about_of_included {directive : Directive} {event : Event}
    (pure : ∀ registry, w.registry = some registry → registry.IsPure)
    (about : event.isAboutInclude = true)
    (happens : event ∈ (w.included visited node directive).events) :
    (event = .asked (w.target node directive) ∨
        event = .reported (missing directive (w.target node directive))) ∨
      ∃ raw inside, w.store.read (w.target node directive) = .ok raw ∧
        visited.enter (w.target node directive).normalize = .ok inside ∧
        event ∈ (w.expandFrom inside (w.target node directive).normalize (w.seen raw) 0
          (w.directives (w.seen raw))).events := by
  rw [included] at happens
  rcases Trace.mem_events_andThen_iff.1 happens with asked | ⟨_, _, happens⟩
  · exact .inl (.inl (List.mem_singleton.1 asked))
  cases answer : w.store.read (w.target node directive) with
  | error failure =>
    simp only [answer] at happens
    split at happens
    · rw [events_marker] at happens
      exact .inl (.inr (List.mem_singleton.1 happens))
    · cases happens
  | ok raw =>
    simp only [answer] at happens
    rcases Trace.mem_events_andThen_iff.1 happens with woven | ⟨resolved, _, piped⟩
    · obtain ⟨inside, entered, within⟩ := about_of_weave about woven
      exact .inr ⟨raw, inside, rfl, entered, within⟩
    · exact absurd piped ((quiet_piped pure directive resolved).not_mem about)

/-- Every document that is asked for, and every one that is missed, is named by a directive at the
end of a walk. -/
theorem exists_leads_of_event {event : Event}
    (pure : ∀ registry, w.registry = some registry → registry.IsPure)
    (about : event.isAboutInclude = true) :
    ∀ {visited : Visitation} {node : Path} {text : Text} {position : Nat} {ds : List Directive},
      event ∈ (w.expandFrom visited node text position ds).events →
      ∃ walk last left, w.Leads node ds walk last left ∧ ∃ directive ∈ left,
        event = .asked (w.target last directive) ∨
          event = .reported (missing directive (w.target last directive)) := by
  intro visited
  induction visited using expansion_induction w.store with
  | step visited ih =>
    intro node text position ds happens
    obtain ⟨directive, listed, happens⟩ := exists_mem_of_event happens
    rcases about_of_included pure about happens with here | ⟨raw, inside, read, entered, happens⟩
    · exact ⟨[], node, ds, .here node ds, directive, listed, here⟩
    · obtain ⟨walk, last, left, leads, named⟩ := ih _ _ _ read entered happens
      exact ⟨_, last, left, .down directive listed read leads, named⟩

end DocWeave.Weaver
