import DocWeave.Proofs.Glob.Fixed

/-! # What the pieces of a pattern take

Matching asks each piece whether the rest of the pattern accepts what the piece leaves. The answer is
yes exactly if the piece can take a first part of the path whose remainder the rest accepts. So a
piece is known by the texts that it takes, and two rows of pieces match a path together if the path
is cut into a text for either.
-/

namespace DocWeave.Glob

variable {taken : Char → Bool} {next : Text → Bool} {path : Text}

/-! ## Steps -/

theorem oneThen_iff : oneThen taken next path = true ↔
    ∃ text left, path = text ++ left ∧ (∃ c, taken c = true ∧ text = [c]) ∧ next left = true := by
  cases path with
  | nil =>
    constructor
    · nofun
    · rintro ⟨_, _, cut, ⟨c, -, rfl⟩, -⟩
      cases cut
  | cons c rest =>
    rw [oneThen, Bool.and_eq_true]
    constructor
    · rintro ⟨member, accepted⟩
      exact ⟨[c], rest, rfl, ⟨c, member, rfl⟩, accepted⟩
    · rintro ⟨_, left, cut, ⟨d, member, rfl⟩, accepted⟩
      obtain ⟨rfl, rfl⟩ := List.cons.inj cut
      exact ⟨member, accepted⟩

theorem manyThen_iff : manyThen taken next path = true ↔
    ∃ run left, path = run ++ left ∧ (∀ c ∈ run, taken c = true) ∧ next left = true := by
  induction path with
  | nil =>
    simp only [manyThen, List.nil_eq_append_iff]
    constructor
    · intro accepted
      exact ⟨[], [], ⟨rfl, rfl⟩, nofun, accepted⟩
    · rintro ⟨_, _, ⟨rfl, rfl⟩, _, accepted⟩
      exact accepted
  | cons c rest ih =>
    rw [manyThen, Bool.or_eq_true, Bool.and_eq_true, ih]
    constructor
    · rintro (here | ⟨first, run, left, rfl, further, accepted⟩)
      · exact ⟨[], c :: rest, rfl, nofun, here⟩
      · exact ⟨c :: run, left, rfl, List.forall_mem_cons.2 ⟨first, further⟩, accepted⟩
    · rintro ⟨run, left, cut, all, accepted⟩
      cases run with
      | nil =>
        left
        rwa [show c :: rest = left from cut]
      | cons d run =>
        obtain ⟨rfl, rfl⟩ := List.cons.inj cut
        obtain ⟨first, further⟩ := List.forall_mem_cons.1 all
        exact .inr ⟨first, run, left, rfl, further, accepted⟩

/-- Names that directories can have in a path. -/
def AreNames (names : List Text) : Prop := ∀ name ∈ names, name ≠ [] ∧ '/' ∉ name

theorem areNames_nil : AreNames [] := fun _ mem => absurd mem List.not_mem_nil

/-- Before a name, directories are passed over by whole names; within one, its end comes first. -/
theorem directoriesThen_iff (path : Text) :
    (directoriesThen next false path = true ↔
      ∃ names left, path = Scope.slashed names ++ left ∧ AreNames names ∧ next left = true) ∧
    (directoriesThen next true path = true ↔
      ∃ more names left, path = more ++ '/' :: (Scope.slashed names ++ left) ∧ '/' ∉ more ∧
        AreNames names ∧ next left = true) := by
  induction path with
  | nil =>
    constructor
    · simp only [directoriesThen, Bool.not_false, Bool.true_and, List.nil_eq_append_iff]
      constructor
      · intro accepted
        exact ⟨[], [], ⟨rfl, rfl⟩, areNames_nil, accepted⟩
      · rintro ⟨_, _, ⟨-, rfl⟩, -, accepted⟩
        exact accepted
    · simp [directoriesThen]
  | cons c rest ih =>
    obtain ⟨before, within⟩ := ih
    constructor
    · rw [directoriesThen, Bool.not_false, Bool.true_and, Bool.false_and, Bool.or_eq_true]
      constructor
      · rintro (here | further)
        · exact ⟨[], c :: rest, rfl, areNames_nil, here⟩
        · split at further
          · cases further
          · rename_i other
            obtain ⟨more, names, left, rfl, free, are, accepted⟩ := within.1 further
            refine ⟨(c :: more) :: names, left, ?_, ?_, accepted⟩
            · simp [Scope.slashed]
            · exact List.forall_mem_cons.2
                ⟨⟨List.cons_ne_nil c more, by simp [free, Ne.symm other]⟩, are⟩
      · rintro ⟨names, left, cut, are, accepted⟩
        cases names with
        | nil =>
          left
          rwa [show c :: rest = left from cut]
        | cons name names =>
          right
          obtain ⟨⟨nonempty, free⟩, further⟩ := List.forall_mem_cons.1 are
          obtain ⟨d, more, rfl⟩ := List.exists_cons_of_ne_nil nonempty
          have spelled : c :: rest = d :: (more ++ '/' :: (Scope.slashed names ++ left)) := by
            rw [cut]
            simp [Scope.slashed]
          obtain ⟨rfl, rfl⟩ := List.cons.inj spelled
          rw [if_neg (Ne.symm (List.ne_of_not_mem_cons free))]
          exact within.2 ⟨more, names, left, rfl, List.not_mem_of_not_mem_cons free, further, accepted⟩
    · rw [directoriesThen, Bool.not_true, Bool.false_and, Bool.false_or, Bool.true_and]
      constructor
      · intro further
        split at further
        · rename_i slash
          obtain ⟨names, left, rfl, are, accepted⟩ := before.1 further
          exact ⟨[], names, left, by rw [slash]; rfl, List.not_mem_nil, are, accepted⟩
        · rename_i other
          obtain ⟨more, names, left, rfl, free, are, accepted⟩ := within.1 further
          exact ⟨c :: more, names, left, rfl, by simp [free, Ne.symm other], are, accepted⟩
      · rintro ⟨more, names, left, cut, free, are, accepted⟩
        cases more with
        | nil =>
          obtain ⟨rfl, rfl⟩ := List.cons.inj cut
          rw [if_pos rfl]
          exact before.2 ⟨names, left, rfl, are, accepted⟩
        | cons d more =>
          obtain ⟨rfl, rfl⟩ := List.cons.inj cut
          rw [if_neg (Ne.symm (List.ne_of_not_mem_cons free))]
          exact within.2 ⟨more, names, left, rfl, List.not_mem_of_not_mem_cons free, are, accepted⟩

/-! ## Pieces -/

/-- What a piece takes of a path. -/
def Piece.Takes : Piece → Text → Prop
  | literal c, text => text = [c]
  | one, text => ∃ c, c ≠ '/' ∧ text = [c]
  | many, text => '/' ∉ text
  | set s, text => ∃ c, s.contains c = true ∧ text = [c]
  | setMany s, text => ∀ c ∈ text, s.contains c = true
  | slash, text => text = ['/']
  | directories, text => ∃ names, AreNames names ∧ text = Scope.slashed names
  | anything, text => '\n' ∉ text

theorem forall_mem_ne_iff {c : Char} {text : Text} :
    (∀ d ∈ text, (d != c) = true) ↔ c ∉ text := by
  constructor
  · intro all mem
    simpa using all c mem
  · intro free d mem
    exact bne_iff_ne.2 fun same => free (same ▸ mem)

/-- A piece lets the rest of a pattern go on where the rest accepts what it leaves. -/
theorem Piece.andThen_iff (piece : Piece) : piece.andThen next path = true ↔
    ∃ text left, path = text ++ left ∧ piece.Takes text ∧ next left = true := by
  cases piece with
  | literal c => simp only [andThen, Takes, oneThen_iff, beq_iff_eq, exists_eq_left]
  | one => simp only [andThen, Takes, oneThen_iff, bne_iff_ne]
  | many => simp only [andThen, Takes, manyThen_iff, forall_mem_ne_iff]
  | set s => simp only [andThen, Takes, oneThen_iff]
  | setMany s => simp only [andThen, Takes, manyThen_iff]
  | slash => simp only [andThen, Takes, oneThen_iff, beq_iff_eq, exists_eq_left]
  | directories =>
    simp only [andThen, Takes, (directoriesThen_iff path).1]
    constructor
    · rintro ⟨names, left, rfl, are, accepted⟩
      exact ⟨_, left, rfl, ⟨names, are, rfl⟩, accepted⟩
    · rintro ⟨_, left, rfl, ⟨names, are, rfl⟩, accepted⟩
      exact ⟨names, left, rfl, are, accepted⟩
  | anything => simp only [andThen, Takes, manyThen_iff, forall_mem_ne_iff]

theorem matchesAll_nil : matchesAll [] path = true ↔ path = [] := List.isEmpty_iff

theorem matchesAll_cons {piece : Piece} {rest : List Piece} :
    matchesAll (piece :: rest) path = true ↔
      ∃ text left, path = text ++ left ∧ piece.Takes text ∧ matchesAll rest left = true :=
  piece.andThen_iff

/-- Pieces one after another match what is cut into a text for the first and one for the others. -/
theorem matchesAll_append {first others : List Piece} :
    matchesAll (first ++ others) path = true ↔
      ∃ front back, path = front ++ back ∧ matchesAll first front = true ∧
        matchesAll others back = true := by
  induction first generalizing path with
  | nil =>
    simp only [List.nil_append, matchesAll_nil]
    constructor
    · intro accepted
      exact ⟨[], path, rfl, rfl, accepted⟩
    · rintro ⟨_, back, rfl, rfl, accepted⟩
      exact accepted
  | cons piece rest ih =>
    simp only [List.cons_append, matchesAll_cons, ih]
    constructor
    · rintro ⟨text, _, rfl, takes, front, back, rfl, matched, accepted⟩
      exact ⟨text ++ front, back, by rw [List.append_assoc], ⟨text, front, rfl, takes, matched⟩,
        accepted⟩
    · rintro ⟨_, back, rfl, ⟨text, front, rfl, takes, matched⟩, accepted⟩
      exact ⟨text, front ++ back, by rw [List.append_assoc], takes, front, back, rfl, matched,
        accepted⟩

/-- A slash between two rows of pieces stands in the path between what they match. -/
theorem matchesAll_append_slash {first others : List Piece} :
    matchesAll (first ++ .slash :: others) path = true ↔
      ∃ front back, path = front ++ '/' :: back ∧ matchesAll first front = true ∧
        matchesAll others back = true := by
  rw [matchesAll_append]
  constructor
  · rintro ⟨front, _, rfl, matched, behind⟩
    obtain ⟨_, back, rfl, rfl, accepted⟩ := matchesAll_cons.1 behind
    exact ⟨front, back, rfl, matched, accepted⟩
  · rintro ⟨front, back, rfl, matched, accepted⟩
    exact ⟨front, '/' :: back, rfl, matched, matchesAll_cons.2 ⟨['/'], back, rfl, rfl, accepted⟩⟩

end DocWeave.Glob
