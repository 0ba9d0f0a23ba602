import DocWeave.Proofs.Expansion.Basic
import DocWeave.Proofs.Visitation

/-! # One visitation handed on

An expansion is given the documents in expansion and hands them to everything below it. Here one
visitation is handed on instead: every entry is checked against what has been left of it so far, and
leaving a document takes it off what the work within has left. Equations say how texts are expanded
that way, directive by directive. They have exactly one solution, which is the expansion together
with the visitation it was given.
-/

namespace DocWeave

/-- Work on a visitation that is handed on. -/
abbrev Threaded (α : Type) := Visitation → Trace α × Visitation

namespace Threaded

variable {α β : Type} {t : Trace α} {first : Threaded α} {visited : Visitation}

/-- Work that does not concern the visitation. -/
def ofTrace (t : Trace α) : Threaded α := fun visited => (t, visited)

/-- Goes on with the result, in what the first part has left of the visitation. -/
def andThen (first : Threaded α) (next : α → Threaded β) : Threaded β := fun visited =>
  let (t, left) := first visited
  match t.outcome with
  | .ok value =>
    let (rest, last) := next value left
    (⟨t.events ++ rest.events, rest.outcome⟩, last)
  | .error failure => (⟨t.events, .error failure⟩, left)

/-- The work between entering and leaving a document, which is taken off whatever visitation the work
has left. -/
def visiting (path : Path) (work : Threaded α) : Threaded α := fun visited =>
  match visited.enter path with
  | .error cycle => (Trace.fail (.cycle cycle), visited)
  | .ok inside =>
    let (t, left) := work inside
    (t.visiting path, left.leave path)

/-- Parts that give the visitation back are one such part together. -/
theorem andThen_apply {next : α → Threaded β} {later : α → Trace β}
    (done : first visited = (t, visited))
    (goes : ∀ value, next value visited = (later value, visited)) :
    first.andThen next visited = (t.andThen later, visited) := by
  rw [andThen, done]
  cases ended : t.outcome with
  | error failure => simp only [ended, Trace.andThen_of_error ended]
  | ok value => simp only [ended, goes, Trace.andThen_of_ok ended]

end Threaded

namespace Weaver

variable {w : Weaver} {visited : Visitation} {current : Path} {text : Text}

/-- A way to expand the directives of a text. -/
abbrev Expander := Path → Text → Nat → List Directive → Threaded Text

/-- A filtered text, expanded in a way, as the content of `current`. -/
def expandBy (w : Weaver) (expander : Expander) (current : Path) (text : Text) : Threaded Text :=
  Threaded.visiting current.normalize (expander current.normalize text 0 (w.directives text))

/-- A content, filtered and expanded in a way, as the content of `current`. -/
def weaveBy (w : Weaver) (expander : Expander) (current : Path) (content : Text) : Threaded Text :=
  (Threaded.ofTrace (w.filtered content)).andThen (w.expandBy expander current)

/-- What stands in place of a directive, where the document it names is expanded in a way. -/
def includedBy (w : Weaver) (expander : Expander) (current : Path) (directive : Directive) :
    Threaded Text :=
  (Threaded.ofTrace (Trace.emit [.asked (w.target current directive)])).andThen fun _ =>
    match w.store.read (w.target current directive) with
    | .error failure =>
      Threaded.ofTrace (if failure.isUnreadable then w.marker directive (w.target current directive)
        else Trace.fail failure)
    | .ok raw =>
      (w.weaveBy expander (w.target current directive) raw).andThen fun content =>
        Threaded.ofTrace (w.piped directive content)

/-- A way that takes the directives of a text one after another, each in what the ones before have
left of the visitation, and the documents they name likewise. -/
structure Threads (w : Weaver) (expander : Expander) : Prop where
  nil : ∀ current text position,
    expander current text position [] = Threaded.ofTrace (Trace.done (text.drop position))
  cons : ∀ current text position directive rest,
    expander current text position (directive :: rest) =
      (w.includedBy expander current directive).andThen fun content =>
        (expander current text directive.stop rest).andThen fun after =>
          Threaded.ofTrace (Trace.done (text.slice position directive.start ++ content ++ after))

variable {expander : Expander}

/-- A way comes to the expansion, and gives the visitation back. -/
def Expands (w : Weaver) (expander : Expander) (visited : Visitation) : Prop :=
  ∀ current text position ds, expander current text position ds visited =
    (w.expandFrom visited current text position ds, visited)

theorem expandBy_apply
    (below : ∀ inside, visited.enter current.normalize = .ok inside → w.Expands expander inside)
    (text : Text) :
    w.expandBy expander current text visited = (w.expand visited current text, visited) := by
  rw [expandBy, Threaded.visiting]
  cases entered : visited.enter current.normalize with
  | error cycle => simp only [expand_of_cycle entered]
  | ok inside =>
    have ran := below inside entered current.normalize text 0 (w.directives text)
    simp only [ran, expand_of_enter entered, Visitation.leave_of_enter entered]

theorem weaveBy_apply
    (below : ∀ inside, visited.enter current.normalize = .ok inside → w.Expands expander inside)
    (content : Text) :
    w.weaveBy expander current content visited = (w.weave visited current content, visited) :=
  Threaded.andThen_apply rfl (expandBy_apply below)

theorem includedBy_apply (directive : Directive)
    (below : ∀ raw inside, w.store.read (w.target current directive) = .ok raw →
      visited.enter (w.target current directive).normalize = .ok inside →
        w.Expands expander inside) :
    w.includedBy expander current directive visited =
      (w.included visited current directive, visited) := by
  apply Threaded.andThen_apply rfl
  intro _
  cases answer : w.store.read (w.target current directive) with
  | error failure => rfl
  | ok raw =>
    apply Threaded.andThen_apply (weaveBy_apply (fun inside => below raw inside answer) raw)
    intro content
    rfl

/-- The expansion is the one way that hands the visitation on, and it gives the visitation back. -/
theorem threads_iff : w.Threads expander ↔ ∀ visited, w.Expands expander visited := by
  constructor
  · intro threads visited
    induction visited using expansion_induction w.store with
    | step visited below =>
      intro current text position ds
      induction ds generalizing position with
      | nil => rw [threads.nil, expandFrom_nil, Threaded.ofTrace]
      | cons directive rest ih =>
        rw [threads.cons, expandFrom_cons]
        apply Threaded.andThen_apply (includedBy_apply directive (below _))
        intro content
        apply Threaded.andThen_apply (ih directive.stop)
        intro after
        rfl
  · intro expands
    constructor
    · intro current text position
      funext visited
      rw [expands visited, expandFrom_nil, Threaded.ofTrace]
    · intro current text position directive rest
      funext visited
      rw [expands visited, expandFrom_cons]
      symm
      apply Threaded.andThen_apply (includedBy_apply directive fun _ inside _ _ => expands inside)
      intro content
      apply Threaded.andThen_apply (expands visited current text directive.stop rest)
      intro after
      rfl

/-- There is such a way. -/
theorem exists_threads (w : Weaver) : ∃ expander, w.Threads expander :=
  ⟨fun current text position ds visited => (w.expandFrom visited current text position ds, visited),
    threads_iff.2 fun _ _ _ _ _ => rfl⟩

end Weaver

end DocWeave
