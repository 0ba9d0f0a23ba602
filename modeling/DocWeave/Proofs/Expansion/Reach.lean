import DocWeave.Proofs.Expansion.Walk

/-! # Documents in expansion that are not reached

What is in expansion matters to a resolution only if a directive leads there. So a resolution that
ends well does the same with more in expansion, as long as its directives lead to none of what is
there in addition.
-/

namespace DocWeave.Weaver

variable {w : Weaver} {visited more : Visitation} {node current other : Path}
  {ds fewer : List Directive}

/-- The directives of a document lead, from document to document, to another. -/
def Reaches (w : Weaver) (node : Path) (ds : List Directive) (other : Path) : Prop :=
  ∃ walk last left, w.Leads node ds walk last left ∧ other ∈ walk

theorem Reaches.here {directive : Directive} {raw : Text} (listed : directive ∈ ds)
    (read : w.store.read (w.target node directive) = .ok raw) :
    w.Reaches node ds (w.target node directive).normalize :=
  ⟨_, _, _, .down directive listed read (.here _ _), List.mem_singleton_self _⟩

theorem Reaches.down {directive : Directive} {raw : Text} (listed : directive ∈ ds)
    (read : w.store.read (w.target node directive) = .ok raw)
    (further : w.Reaches (w.target node directive).normalize (w.directives (w.seen raw)) other) :
    w.Reaches node ds other := by
  obtain ⟨walk, last, left, leads, met⟩ := further
  exact ⟨_, last, left, .down directive listed read leads, List.mem_cons_of_mem _ met⟩

/-- What directives lead to is what one of them includes, or is led to from there. -/
theorem reaches_iff :
    w.Reaches node ds other ↔ ∃ directive ∈ ds, ∃ raw,
      w.store.read (w.target node directive) = .ok raw ∧
        (other = (w.target node directive).normalize ∨
          w.Reaches (w.target node directive).normalize (w.directives (w.seen raw)) other) := by
  constructor
  · rintro ⟨walk, last, left, leads, met⟩
    cases leads with
    | here => cases met
    | down directive listed read further =>
      refine ⟨directive, listed, _, read, ?_⟩
      rcases List.mem_cons.1 met with first | behind
      · exact .inl first
      · exact .inr ⟨_, last, left, further, behind⟩
  · rintro ⟨directive, listed, raw, read, rfl | further⟩
    · exact .here listed read
    · exact .down listed read further

/-- Where directives lead, they lead among more directives as well. -/
theorem Reaches.mono (reaches : w.Reaches node fewer other) (subset : fewer ⊆ ds) :
    w.Reaches node ds other := by
  obtain ⟨directive, listed, leads⟩ := reaches_iff.1 reaches
  exact reaches_iff.2 ⟨directive, subset listed, leads⟩

/-- What more there is in expansion is not reached from the directives of a document. -/
def Unreached (w : Weaver) (visited more : Visitation) (node : Path) (ds : List Directive) : Prop :=
  ∀ path ∈ more.chain, path ∈ visited.chain ∨ ¬ w.Reaches node ds path

theorem Unreached.mono (unreached : w.Unreached visited more node ds) (subset : fewer ⊆ ds) :
    w.Unreached visited more node fewer :=
  fun path mem => (unreached path mem).imp_right fun apart reaches => apart (reaches.mono subset)

/-- A document that is entered with less in expansion is entered with more as well, and what more
there is stays unreached from within it. -/
theorem Unreached.enter {inside : Visitation} {directive : Directive} {raw : Text}
    (unreached : w.Unreached visited more node ds) (listed : directive ∈ ds)
    (read : w.store.read (w.target node directive) = .ok raw)
    (entered : visited.enter (w.target node directive).normalize = .ok inside) :
    ∃ inner, more.enter (w.target node directive).normalize = .ok inner ∧
      w.Unreached inside inner (w.target node directive).normalize
        (w.directives (w.seen raw)) := by
  obtain ⟨chain, fresh⟩ := Visitation.chain_enter entered
  cases heavier : more.enter (w.target node directive).normalize with
  | error cycle =>
    have inChain := (Visitation.enter_eq_error_iff.1 heavier).1
    rcases unreached _ inChain with old | apart
    · exact absurd old fresh
    · exact absurd (.here listed read) apart
  | ok inner =>
    refine ⟨inner, rfl, fun path mem => ?_⟩
    rw [(Visitation.chain_enter heavier).1, List.mem_append] at mem
    rw [chain, List.mem_append]
    rcases mem with earlier | entered
    · exact (unreached path earlier).imp .inl fun apart reaches => apart (.down listed read reaches)
    · exact .inl (.inr entered)

/-- A directive that is expanded well is expanded the same with more in expansion that is not
reached, if this holds below it. -/
theorem included_of_unreached {directive : Directive} {content : Text}
    (below : ∀ path raw inside, w.store.read path = .ok raw →
      visited.enter path.normalize = .ok inside →
      ∀ {more : Visitation} {node text position ds result}, w.Unreached inside more node ds →
        (w.expandFrom inside node text position ds).outcome = .ok result →
        w.expandFrom more node text position ds = w.expandFrom inside node text position ds)
    (unreached : w.Unreached visited more node ds) (listed : directive ∈ ds)
    (ended : (w.included visited node directive).outcome = .ok content) :
    w.included more node directive = w.included visited node directive := by
  cases answer : w.store.read (w.target node directive) with
  | error failure => rw [included_of_error answer, included_of_error answer]
  | ok raw =>
    obtain ⟨inside, resolved, entered, ended⟩ := enter_of_included ended answer
    obtain ⟨inner, heavier, apart⟩ := unreached.enter listed answer entered
    rw [included_of_ok answer, included_of_ok answer, weave, weave]
    simp only [Trace.bind_eq, Trace.andThen_of_ok (outcome_filtered raw)]
    rw [expand_of_enter entered, expand_of_enter heavier, below _ _ _ answer entered apart ended]

/-- An expansion that ends well does the same with more in expansion that is not reached. -/
theorem expandFrom_of_unreached :
    ∀ {visited more : Visitation} {node : Path} {text : Text} {position : Nat}
      {ds : List Directive} {result : Text}, w.Unreached visited more node ds →
      (w.expandFrom visited node text position ds).outcome = .ok result →
      w.expandFrom more node text position ds = w.expandFrom visited node text position ds := by
  intro visited
  -- By what is left to be entered: below a directive there is more in expansion on either side.
  induction visited using expansion_induction w.store with
  | step visited below =>
    intro more node text position ds result unreached ended
    induction ds generalizing position result with
    | nil => rw [expandFrom_nil, expandFrom_nil]
    | cons directive rest ih =>
      rw [expandFrom_cons, Trace.outcome_andThen_eq_ok_iff] at ended
      obtain ⟨piece, included, ended⟩ := ended
      rw [Trace.outcome_andThen_eq_ok_iff] at ended
      obtain ⟨after, later, _⟩ := ended
      rw [expandFrom_cons, expandFrom_cons,
        included_of_unreached below unreached List.mem_cons_self included,
        ih (unreached.mono (List.subset_cons_self _ _)) later]

/-- A document that resolves well on its own resolves the same within another one that it does not
lead to. -/
theorem weave_of_unreached {raw result : Text} (apart : current.normalize ≠ other.normalize)
    (unreached : ¬ w.Reaches current.normalize (w.directives (w.seen raw)) other.normalize)
    (ended : (w.weave .empty current raw).outcome = .ok result) :
    w.weave ⟨[other.normalize], by simp⟩ current raw = w.weave .empty current raw := by
  have entered : (⟨[other.normalize], by simp⟩ : Visitation).enter current.normalize =
      .ok ⟨[other.normalize, current.normalize], by simp [apart.symm]⟩ := by
    simp [Visitation.enter, apart]
  have within : w.Unreached ⟨[current.normalize], by simp⟩
      ⟨[other.normalize, current.normalize], by simp [apart.symm]⟩ current.normalize
      (w.directives (w.seen raw)) := by
    intro path mem
    simp only [List.mem_cons, List.not_mem_nil, or_false] at mem ⊢
    rcases mem with rfl | rfl
    · exact .inr unreached
    · exact .inl rfl
  rw [outcome_weave_empty] at ended
  simp only [weave, Trace.bind_eq, Trace.andThen_of_ok (outcome_filtered raw)]
  rw [expand_of_enter entered, expand_of_enter (Visitation.enter_empty _),
    expandFrom_of_unreached within ended]

end DocWeave.Weaver
