import DocWeave.Proofs.Project.Task

/-! # Where the moments of a run come from

Every document that a run prepares has been found before, when the run discovered the files of the
strategy that the document is prepared for. A run that ends well has run every strategy of every
tool, from its discovery to a good end.
-/

namespace DocWeave

namespace Tour

variable {α β γ : Type} {allowed : Task → Prop}

/-- Every task of the tour is allowed. -/
def Within (allowed : Task → Prop) (tour : Tour α) : Prop :=
  ∀ s, ∀ m ∈ tour.moments s, allowed m.task

theorem within_aside (work : Work α) : (aside work).Within allowed := fun _ => nofun

theorem within_pure (value : α) : (pure value : Tour α).Within allowed := within_aside (pure value)

theorem within_doing {task : Task} (work : Work α) (fits : allowed task) :
    (doing task work).Within allowed := by
  intro s m mem
  rw [List.mem_singleton.1 mem]
  exact fits

theorem Within.bind {first : Tour α} {next : α → Tour β} (opening : first.Within allowed)
    (further : ∀ value, (next value).Within allowed) : (first >>= next).Within allowed := by
  intro s m mem
  rcases ended : first.work s with ⟨failure | value, t⟩
  · rw [moments_bind_of_error ended] at mem
    exact opening s m mem
  · rw [moments_bind_of_ok ended] at mem
    rcases List.mem_append.1 mem with here | later
    · exact opening s m here
    · exact further value t m later

theorem Within.each {tour : γ → Tour α} {xs : List γ}
    (each : ∀ x ∈ xs, (tour x).Within allowed) : (Tour.each tour xs).Within allowed := by
  induction xs with
  | nil => exact within_pure []
  | cons x xs ih =>
    have others := ih fun y mem => each y (List.mem_cons_of_mem x mem)
    exact (each x List.mem_cons_self).bind fun value => others.bind fun values => within_pure _

end Tour

/-- The moment comes after the discovery that has found its document. -/
def Found (p : Project) (moments : List Moment) (m : Moment) : Prop :=
  ∀ tool name path, m.task = .prepare tool name path →
    ∃ before start between later strategy found,
      moments = before ++ start :: (between ++ m :: later) ∧
      start.task = .discover tool strategy ∧
      Discovery.find start.session.tree p.scope strategy.patterns = .ok found ∧ path ∈ found

namespace Tour

variable {α β γ : Type} {p : Project}

/-- Every document of the tour has been found before. -/
def Grounded (p : Project) (tour : Tour α) : Prop :=
  ∀ s, ∀ m ∈ tour.moments s, Found p (tour.moments s) m

theorem Within.grounded {tour : Tour α}
    (within : tour.Within fun task => ∀ tool name path, task ≠ .prepare tool name path) :
    tour.Grounded p := by
  intro s m mem tool name path task
  exact absurd task (within s m mem tool name path)

theorem Grounded.bind {first : Tour α} {next : α → Tour β} (opening : first.Grounded p)
    (further : ∀ value, (next value).Grounded p) : (first >>= next).Grounded p := by
  intro s m mem
  rcases ended : first.work s with ⟨failure | value, t⟩
  · rw [moments_bind_of_error ended] at mem ⊢
    exact opening s m mem
  · rw [moments_bind_of_ok ended] at mem ⊢
    intro tool name path task
    rcases List.mem_append.1 mem with here | later
    · obtain ⟨before, start, between, later, strategy, found, moments, rest⟩ :=
        opening s m here tool name path task
      exact ⟨before, start, between, later ++ (next value).moments t, strategy, found,
        by simp [moments], rest⟩
    · obtain ⟨before, start, between, later, strategy, found, moments, rest⟩ :=
        further value t m later tool name path task
      exact ⟨first.moments s ++ before, start, between, later, strategy, found,
        by simp [moments], rest⟩

theorem Grounded.each {tour : γ → Tour α} (each : ∀ x, (tour x).Grounded p) (xs : List γ) :
    (Tour.each tour xs).Grounded p := by
  induction xs with
  | nil => exact (within_pure _).grounded
  | cons x xs ih => exact (each x).bind fun value => ih.bind fun values => (within_pure _).grounded

end Tour

namespace Project

open Tour

variable {p : Project} {s : Session}

/-- One directory of a strategy prepares its documents and handles a callback. -/
theorem within_tourBatch (tool : Text) (strategy : Strategy) (directory : Path)
    (paths : List Path) :
    (p.tourBatch tool strategy directory paths).Within fun task =>
      ∀ tool' name path, task = .prepare tool' name path → tool' = tool ∧ path ∈ paths := by
  refine Within.bind (Within.each ?_) fun files => Within.bind (within_aside _) fun _ =>
    Within.bind (within_doing _ nofun) fun metadata => ?_
  · intro path mem
    apply within_doing
    rintro _ _ _ ⟨⟩
    exact ⟨rfl, mem⟩
  · cases metadata <;> exact within_pure _

theorem mem_of_mem_byDirectory {paths batch : List Path} {directory path : Path}
    (listed : (directory, batch) ∈ Discovery.byDirectory paths) (mem : path ∈ batch) :
    path ∈ paths := by
  obtain ⟨_, _, same⟩ := List.mem_map.1 listed
  cases same
  exact (List.mem_filter.1 mem).1

theorem grounded_tourStrategy (tool : Text) (strategy : Strategy) :
    (p.tourStrategy tool strategy).Grounded p := by
  intro s m mem tool' name path task
  unfold tourStrategy at mem ⊢
  rcases ended : p.discover tool strategy s with ⟨failure | found, t⟩
  · rw [moments_bind_of_error ended] at mem
    rw [List.mem_singleton.1 mem] at task
    cases task
  · rw [moments_bind_of_ok ended] at mem ⊢
    rcases List.mem_append.1 mem with here | later
    · rw [List.mem_singleton.1 here] at task
      cases task
    · have within : ((each (fun batch => p.tourBatch tool strategy batch.1 batch.2)
          (Discovery.byDirectory found)) >>= fun metadata =>
            (pure (metadata.filterMap id) : Tour (List Json))).Within fun task =>
          ∀ tool' name path, task = .prepare tool' name path → tool' = tool ∧ path ∈ found := by
        refine Within.bind (Within.each ?_) fun _ => within_pure _
        intro batch listed u m' mem' tool'' name' path' task'
        obtain ⟨same, within⟩ :=
          p.within_tourBatch tool strategy batch.1 batch.2 u m' mem' tool'' name' path' task'
        exact ⟨same, mem_of_mem_byDirectory listed within⟩
      obtain ⟨rfl, isFound⟩ := within t m later tool' name path task
      obtain ⟨between, behind, split⟩ := List.append_of_mem later
      refine ⟨[], ⟨.discover tool' strategy, s⟩, between, behind, strategy, found, ?_, rfl, ?_,
        isFound⟩
      · rw [split]
        rfl
      · have outcome := p.outcome_discover tool' strategy (s := s)
        rw [ended] at outcome
        exact outcome.symm

theorem grounded_tour (p : Project) : p.tour.Grounded p := by
  have aside' {α : Type} (work : Work α) : (aside work).Grounded p := (within_aside work).grounded
  apply (aside' _).bind
  intro _
  apply Grounded.bind
  · apply Grounded.each
    intro tool
    apply (aside' _).bind
    intro _
    apply (Grounded.each (p.grounded_tourStrategy tool.name) _).bind
    intro metadata
    cases tool.finish with
    | none => exact aside' _
    | some finish =>
      apply (aside' _).bind
      intro _
      apply (aside' _).bind
      intro _
      exact Grounded.bind (within_doing _ nofun).grounded fun _ => aside' _
  · intro _
    apply (aside' _).bind
    intro _
    apply (aside' _).bind
    intro session
    exact aside' _

/-- A run discovers the files of its tools' strategies only. -/
theorem within_tour (p : Project) : p.tour.Within fun task =>
    ∀ name strategy, task = .discover name strategy →
      ∃ tool ∈ p.config.tools, strategy ∈ tool.strategies := by
  refine Within.bind (within_aside _) fun _ => Within.bind (Within.each ?_) fun _ =>
    Within.bind (within_aside _) fun _ => Within.bind (within_aside _) fun _ => within_aside _
  intro tool listed
  refine Within.bind (within_aside _) fun _ => Within.bind (Within.each ?_) fun metadata => ?_
  · intro strategy offered
    refine Within.bind (within_doing _ ?_) fun found => Within.bind (Within.each ?_) fun _ =>
      within_aside _
    · rintro _ _ ⟨⟩
      exact ⟨tool, listed, offered⟩
    · intro batch _
      refine Within.bind (Within.each fun _ _ => within_doing _ nofun) fun _ =>
        Within.bind (within_aside _) fun _ => Within.bind (within_doing _ nofun) fun left => ?_
      cases left <;> exact within_aside _
  · cases tool.finish with
    | none => exact within_aside _
    | some finish =>
      exact Within.bind (within_aside _) fun _ => Within.bind (within_aside _) fun _ =>
        Within.bind (within_doing _ nofun) fun _ => within_aside _

/-- Every document that a run prepares has been found before. -/
theorem found_of_mem_moments {m : Moment} (mem : m ∈ p.moments s) : Found p (p.moments s) m :=
  p.grounded_tour s m mem

end Project

namespace Tour

variable {α β γ : Type} {s t u : Session}

/-- A tour in sequence that ends well has gone through both parts. -/
theorem exists_of_bind_ok {first : Tour α} {next : α → Tour β} {result : β}
    (ended : (first >>= next).work s = (.ok result, u)) :
    ∃ value t, first.work s = (.ok value, t) ∧ (next value).work t = (.ok result, u) ∧
      (first >>= next).moments s = first.moments s ++ (next value).moments t := by
  obtain ⟨value, t, opening, further⟩ := Work.exists_of_bind_ok ended
  exact ⟨value, t, opening, further, moments_bind_of_ok opening⟩

/-- A tour of each item that ends well has gone through every item, to a good end. -/
theorem exists_of_each_ok {tour : γ → Tour α} {xs : List γ} {values : List α}
    (ended : (each tour xs).work s = (.ok values, u)) :
    ∀ x ∈ xs, ∃ v value w, (tour x).work v = (.ok value, w) ∧
      (tour x).moments v ⊆ (each tour xs).moments s := by
  induction xs generalizing s u values with
  | nil => exact nofun
  | cons x xs ih =>
    obtain ⟨value, t, first, others, moments⟩ := exists_of_bind_ok ended
    obtain ⟨rest, w, further, _, behind⟩ := exists_of_bind_ok others
    rw [behind] at moments
    intro y mem
    rcases List.mem_cons.1 mem with rfl | later
    · exact ⟨s, value, t, first, moments ▸ List.subset_append_left _ _⟩
    · obtain ⟨v, value, w, ran, within⟩ := ih further y later
      refine ⟨v, value, w, ran, fun m mem => ?_⟩
      rw [each, moments]
      exact List.mem_append_right _ (List.mem_append_left _ (within mem))

end Tour

namespace Project

open Tour

variable {p : Project} {s : Session}

/-- The strategy has been discovered at a moment of the run, and from there it has ended well. -/
def HasRun (p : Project) (s : Session) (tool : Text) (strategy : Strategy) : Prop :=
  ∃ m ∈ p.moments s, m.task = .discover tool strategy ∧
    ∃ metadata t, p.runStrategy tool strategy m.session = (.ok metadata, t)

/-- A run that ends well has run every strategy of every tool. -/
theorem hasRun_of_ok {summary : Summary} (ended : (p.run s).1 = .ok summary) :
    ∀ tool ∈ p.config.tools, ∀ strategy ∈ tool.strategies, p.HasRun s tool.name strategy := by
  intro tool listed strategy offered
  have ended : p.tour.work s = (.ok summary, (p.run s).2) := by
    rw [p.work_tour]
    exact Prod.ext ended rfl
  obtain ⟨_, t, _, ended, outermost⟩ := exists_of_bind_ok ended
  obtain ⟨_, u, tools, _, outer⟩ := exists_of_bind_ok ended
  obtain ⟨v, _, w, ran, ofTool⟩ := exists_of_each_ok tools tool listed
  obtain ⟨_, v', _, ran, inner⟩ := exists_of_bind_ok ran
  obtain ⟨_, _, strategies, _, innermost⟩ := exists_of_bind_ok ran
  obtain ⟨start, metadata, finish, ran, ofStrategy⟩ :=
    exists_of_each_ok strategies strategy offered
  rw [p.work_tourStrategy] at ran
  refine ⟨⟨.discover tool.name strategy, start⟩, ?_, rfl, metadata, finish, ran⟩
  -- The moment is the first of the strategy's, whose moments are among the tool's and the run's.
  have first : ⟨.discover tool.name strategy, start⟩ ∈
      (p.tourStrategy tool.name strategy).moments start :=
    List.mem_append_left _ (List.mem_singleton_self _)
  have within : ⟨.discover tool.name strategy, start⟩ ∈ (p.tourTool tool).moments v := by
    unfold tourTool
    rw [inner, innermost]
    exact List.mem_append_right _ (List.mem_append_left _ (ofStrategy first))
  unfold moments tour
  rw [outermost, outer]
  exact List.mem_append_right _ (List.mem_append_left _ (ofTool within))

end Project

end DocWeave
