import DocWeave.Proofs.Expansion.Basic

/-! # Resolutions that go alike

A resolution sees every document through the filter alone, and leaves the rest to what stands in
place of a document that is missing and to pipelines. Two ways to resolve documents that agree on
these make for the same resolution: the same events in the same order and the same outcome.
-/

namespace DocWeave.Weaver

variable {w w' : Weaver} {visited : Visitation} {current : Path}

/-- Two ways to resolve documents see the same of every document and do the same with it. -/
structure Alike (w w' : Weaver) : Prop where
  settings : w.settings = w'.settings
  root : w.root = w'.root
  shows : ∀ path, (w.store.read path).map w.filtered = (w'.store.read path).map w'.filtered
  piped : w.piped = w'.piped

theorem Alike.target (alike : w.Alike w') : w.target = w'.target := by
  funext current directive
  rw [Weaver.target, Weaver.target, alike.settings, alike.root]

theorem Alike.marker (alike : w.Alike w') : w.marker = w'.marker := by
  funext directive path
  rw [Weaver.marker, Weaver.marker, alike.settings]

theorem Alike.expand (alike : w.Alike w')
    (below : ∀ inside, visited.enter current.normalize = .ok inside →
      ∀ node text position ds, w.expandFrom inside node text position ds =
        w'.expandFrom inside node text position ds) :
    w.expand visited current = w'.expand visited current := by
  funext text
  cases entered : visited.enter current.normalize with
  | error cycle => rw [expand_of_cycle entered, expand_of_cycle entered]
  | ok inside =>
    have directives : w.directives text = w'.directives text := by
      rw [Weaver.directives, Weaver.directives, alike.settings]
    rw [expand_of_enter entered, expand_of_enter entered, below inside entered, directives]

theorem Alike.included (alike : w.Alike w') {directive : Directive}
    (below : ∀ raw inside, w.store.read (w.target current directive) = .ok raw →
      visited.enter (w.target current directive).normalize = .ok inside →
      ∀ node text position ds, w.expandFrom inside node text position ds =
        w'.expandFrom inside node text position ds) :
    w.included visited current directive = w'.included visited current directive := by
  have same := alike.shows (w.target current directive)
  have path := congrFun (congrFun alike.target current) directive
  cases answer : w.store.read (w.target current directive) with
  | error failure =>
    cases answer' : w'.store.read (w.target current directive) with
    | ok raw => rw [answer, answer'] at same; cases same
    | error failure' =>
      rw [answer, answer'] at same
      cases same
      rw [included_of_error answer, included_of_error (path ▸ answer'), path, alike.marker]
  | ok raw =>
    cases answer' : w'.store.read (w.target current directive) with
    | error failure => rw [answer, answer'] at same; cases same
    | ok raw' =>
      rw [answer, answer'] at same
      have filtered : w.filtered raw = w'.filtered raw' := Except.ok.inj same
      rw [included_of_ok answer, included_of_ok (path ▸ answer'), weave, weave, filtered,
        alike.expand (below raw · answer), path, alike.piped]

theorem Alike.expandFrom (alike : w.Alike w') :
    ∀ (visited : Visitation) (node : Path) (text : Text) (position : Nat) (ds : List Directive),
      w.expandFrom visited node text position ds = w'.expandFrom visited node text position ds := by
  intro visited
  induction visited using expansion_induction w.store with
  | step visited below =>
    intro node text position ds
    induction ds generalizing position with
    | nil => rw [expandFrom_nil, expandFrom_nil]
    | cons directive rest ih =>
      have first : w.included visited node directive = w'.included visited node directive :=
        alike.included fun raw inside => below (w.target node directive) raw inside
      rw [expandFrom_cons, expandFrom_cons, first, ih]

/-- Documents that are seen the same resolve the same, if what they include does. -/
theorem Alike.weave (alike : w.Alike w') (visited : Visitation) (current : Path)
    {content other : Text} (same : w.filtered content = w'.filtered other) :
    w.weave visited current content = w'.weave visited current other := by
  rw [Weaver.weave, Weaver.weave, same, alike.expand fun inside _ => alike.expandFrom inside]

end DocWeave.Weaver
