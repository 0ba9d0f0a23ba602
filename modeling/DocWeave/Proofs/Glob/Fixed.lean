import DocWeave.Discovery
import DocWeave.Proofs.Glob.Position
import DocWeave.Proofs.Path.Normal
import DocWeave.Proofs.Text.Pieces

/-! # What the fixed part of a pattern matches

The fixed part of a pattern is read character by character, and its slashes stand between its
segments. So a pattern matches exactly the paths that begin with the fixed part and go on with what
the rest of the pattern matches, and it compiles exactly if the rest does.
-/

namespace DocWeave

/-- The segments of a pattern are names, and none of them is a parent step. -/
def Glob.IsPlain (pattern : Text) : Prop :=
  ∀ segment ∈ pattern.splitOn '/', isName segment = true ∧ segment ≠ parentStep

instance (pattern : Text) : Decidable (Glob.IsPlain pattern) :=
  inferInstanceAs (Decidable (∀ segment ∈ _, _))

namespace Scope

variable {fixed below : List Text} {left : Text}

/-- A directory comes before what lies below it. -/
theorem join_append (below_ne : below ≠ []) :
    Text.join "/" (fixed ++ below) = slashed fixed ++ Text.join "/" below := by
  induction fixed with
  | nil => rfl
  | cons name rest ih =>
    obtain ⟨next, more, split⟩ := List.exists_cons_of_ne_nil (List.append_ne_nil_of_right_ne_nil rest
      below_ne)
    rw [List.cons_append, split, Text.join, List.intercalate_cons_cons, ← split]
    show name ++ "/".toList ++ Text.join "/" (rest ++ below) = _
    rw [ih, slashed, slashed, List.flatMap_cons, List.append_assoc (name ++ _)]

theorem splitOn_slashed_append (free : ∀ name ∈ fixed, '/' ∉ name) (left : Text) :
    Text.splitOn '/' (slashed fixed ++ left) = fixed ++ Text.splitOn '/' left := by
  induction fixed with
  | nil => rfl
  | cons name rest ih =>
    obtain ⟨clean, further⟩ := List.forall_mem_cons.1 free
    have cut : slashed (name :: rest) ++ left = name ++ '/' :: (slashed rest ++ left) := by
      simp [slashed]
    rw [cut, Text.splitOn_append_cons clean, ih further, List.cons_append]

/-- A path that begins with the names of a directory leads below it. -/
theorem exists_of_join_eq (free : ∀ name ∈ below, '/' ∉ name) (clean : ∀ name ∈ fixed, '/' ∉ name)
    (below_ne : below ≠ []) (begins : Text.join "/" below = slashed fixed ++ left) :
    ∃ further, further ≠ [] ∧ below = fixed ++ further ∧ left = Text.join "/" further := by
  refine ⟨Text.splitOn '/' left, Text.splitWhere_ne_nil _ left, ?_, (Text.join_splitOn '/' left).symm⟩
  rw [← splitOn_slashed_append clean, ← begins]
  exact (Text.splitOn_join_of_free below_ne free).symm

end Scope

namespace Glob

variable {segment : Text} {fixed wild : List Text}

/-! ## Segments -/

theorem splitSegments_append (segments : List Text) :
    (splitSegments segments).1 ++ (splitSegments segments).2 = segments := by
  fun_induction splitSegments segments with
  | case1 => rfl
  | case2 last => rfl
  | case3 s rest behind magic => rfl
  | case4 s rest behind plain fixed wild split ih =>
    rw [split] at ih
    exact congrArg (s :: ·) ih

theorem isWild_of_mem_splitSegments {segments : List Text}
    (mem : segment ∈ (splitSegments segments).1) : isWild segment = false := by
  fun_induction splitSegments segments with
  | case1 => cases mem
  | case2 last => cases mem
  | case3 s rest behind magic => cases mem
  | case4 s rest behind plain fixed wild split ih =>
    rw [split] at ih
    rcases List.mem_cons.1 mem with rfl | inner
    · exact Bool.not_eq_true _ ▸ plain
    · exact ih inner

theorem splitSegments_snd_ne_nil {segments : List Text} (listed : segments ≠ []) :
    (splitSegments segments).2 ≠ [] := by
  fun_induction splitSegments segments with
  | case1 => exact listed
  | case2 last => exact List.cons_ne_nil last []
  | case3 s rest behind magic => exact listed
  | case4 s rest behind plain fixed wild split ih =>
    rw [split] at ih
    exact ih behind

/-! ## Tokens -/

/-- The tokens of the fixed part of a pattern. -/
def fixedTokens (fixed : List Text) : List Token :=
  fixed.flatMap fun segment => segment.map .literal ++ [.slash]

/-- The token of a character outside of bracket expressions. -/
def wildToken (c : Char) : Token := if c = '*' then .many else if c = '?' then .one else .literal c

/-- Outside of bracket expressions every character is a token. -/
theorem segmentTokens_eq_map (unbracketed : '[' ∉ segment) :
    segmentTokens 0 segment = segment.map wildToken := by
  induction segment with
  | nil => rfl
  | cons c rest ih =>
    have later := ih (List.not_mem_of_not_mem_cons unbracketed)
    rw [List.map_cons, ← later]
    by_cases star : c = '*'
    · subst star
      rfl
    · by_cases mark : c = '?'
      · subst mark
        rfl
      · rw [segmentTokens, wildToken, if_neg star, if_neg mark]
        · exact star
        · exact mark
        · exact Ne.symm (List.ne_of_not_mem_cons unbracketed)

theorem segmentTokens_of_fixed (fixed : isWild segment = false) :
    segmentTokens 0 segment = segment.map .literal := by
  have plain : ∀ c ∈ segment, c ≠ '*' ∧ c ≠ '?' ∧ c ≠ '[' := by
    simpa [isWild, and_assoc] using fixed
  rw [segmentTokens_eq_map fun mem => (plain _ mem).2.2 rfl]
  apply List.map_congr_left
  intro c mem
  rw [wildToken, if_neg (plain c mem).1, if_neg (plain c mem).2.1]

theorem tokensOf_append (fixed_plain : ∀ segment ∈ fixed, isWild segment = false)
    (wild_ne : wild ≠ []) : tokensOf (fixed ++ wild) = fixedTokens fixed ++ tokensOf wild := by
  induction fixed with
  | nil => rfl
  | cons s rest ih =>
    obtain ⟨plain, further⟩ := List.forall_mem_cons.1 fixed_plain
    have other : s ≠ spanning := by
      rintro rfl
      cases plain
    have more : rest ++ wild ≠ [] := List.append_ne_nil_of_right_ne_nil rest wild_ne
    rw [List.cons_append, tokensOf, if_neg other, segmentTokens_of_fixed plain, ih further]
    · simp [fixedTokens]
    · exact more

/-! ## Pieces -/

/-- The pieces that match one text. -/
def exactly (text : Text) : List Piece := text.map fun c => if c = '/' then .slash else .literal c

theorem matchesAll_exactly_append (text : Text) (pieces : List Piece) (path : Text) :
    matchesAll (exactly text ++ pieces) path = true ↔
      ∃ left, path = text ++ left ∧ matchesAll pieces left = true := by
  induction text generalizing path with
  | nil => simp [exactly]
  | cons c rest ih =>
    have first : matchesAll (exactly (c :: rest) ++ pieces) path =
        oneThen (· == c) (matchesAll (exactly rest ++ pieces)) path := by
      simp only [exactly, List.map_cons, List.cons_append]
      split
      · rename_i slash
        subst slash
        rfl
      · rfl
    rw [first]
    cases path with
    | nil => simp [oneThen]
    | cons d path =>
      rw [oneThen, Bool.and_eq_true, beq_iff_eq, ih]
      constructor
      · rintro ⟨rfl, left, rfl, accepted⟩
        exact ⟨left, rfl, accepted⟩
      · rintro ⟨left, begins, accepted⟩
        obtain ⟨rfl, rfl⟩ := List.cons.inj begins
        exact ⟨rfl, left, rfl, accepted⟩

theorem toOption_piecesFrom_literals (free : '/' ∉ segment) (offset : Nat) (rest : List Token) :
    (piecesFrom offset 0 (segment.map .literal ++ rest)).toOption =
      (piecesFrom 0 0 rest).toOption.map (exactly segment ++ ·) := by
  induction segment generalizing offset with
  | nil =>
    simp only [List.map_nil, List.nil_append, exactly, Option.map_id']
    exact toOption_piecesFrom ..
  | cons c segment ih =>
    have other : c ≠ '/' := Ne.symm (List.ne_of_not_mem_cons free)
    rw [List.map_cons, List.cons_append, piecesFrom, toOption_bind,
      ih (List.not_mem_of_not_mem_cons free), Option.bind_map]
    simp only [exactly, List.map_cons, if_neg other]
    cases (piecesFrom 0 0 rest).toOption <;> rfl

theorem toOption_piecesFrom_fixed (clean : ∀ segment ∈ fixed, '/' ∉ segment) (offset : Nat)
    (rest : List Token) : (piecesFrom offset 0 (fixedTokens fixed ++ rest)).toOption =
      (piecesFrom 0 0 rest).toOption.map (exactly (Scope.slashed fixed) ++ ·) := by
  induction fixed generalizing offset with
  | nil =>
    simp only [fixedTokens, Scope.slashed, List.flatMap_nil, List.nil_append, exactly, List.map_nil,
      Option.map_id']
    exact toOption_piecesFrom ..
  | cons segment fixed ih =>
    obtain ⟨free, further⟩ := List.forall_mem_cons.1 clean
    have cut : fixedTokens (segment :: fixed) ++ rest =
        segment.map .literal ++ (.slash :: (fixedTokens fixed ++ rest)) := by
      simp [fixedTokens]
    rw [cut, toOption_piecesFrom_literals free, piecesFrom, toOption_bind, ih further]
    cases (piecesFrom 0 0 rest).toOption with
    | none => rfl
    | some pieces => simp [exactly, Scope.slashed, Except.toOption, pure, Except.pure]

/-! ## Patterns -/

theorem compile_eq_ok_iff {pattern : Text} {pieces : List Piece} :
    compile pattern = .ok pieces ↔ (piecesFrom 0 0 (tokens pattern)).toOption = some pieces := by
  unfold compile
  cases read : piecesFrom 0 0 (tokens pattern) with
  | ok found => simp [read, Except.toOption]
  | error fault => simp [read, Except.toOption]

theorem segments_of_isName {pattern : Text}
    (named : ∀ segment ∈ pattern.splitOn '/', isName segment = true) :
    segments pattern = pattern.splitOn '/' := by
  rw [segments, List.filter_eq_self]
  intro segment mem
  have name := named segment mem
  rw [isName, Bool.and_eq_true] at name
  exact name.1

/-- The fixed part and the rest of a pattern, segment by segment. -/
def parts (pattern : Text) : List Text × List Text := splitSegments (pattern.splitOn '/')

variable {pattern : Text}

theorem parts_append (pattern : Text) : (parts pattern).1 ++ (parts pattern).2 = pattern.splitOn '/' :=
  splitSegments_append _

theorem mem_splitOn_of_mem_fixed (mem : segment ∈ (parts pattern).1) :
    segment ∈ pattern.splitOn '/' :=
  parts_append pattern ▸ List.mem_append_left _ mem

theorem mem_splitOn_of_mem_rest (mem : segment ∈ (parts pattern).2) :
    segment ∈ pattern.splitOn '/' :=
  parts_append pattern ▸ List.mem_append_right _ mem

theorem IsPlain.anchor (plain : IsPlain pattern) : Anchor.ofText pattern = .relative := by
  cases pattern with
  | nil => rfl
  | cons c rest =>
    have other : c ≠ '/' := by
      rintro rfl
      have empty := (plain [] List.mem_cons_self).1
      cases empty
    unfold Anchor.ofText
    split <;> simp_all

/-- The search for a plain pattern starts in the directory that its fixed part names, and matches
what is left of its segments. -/
theorem IsPlain.split (plain : IsPlain pattern) {base : Path} (absolute : base.isAbsolute = true)
    (stepless : parentStep ∉ base.names) :
    Glob.split pattern base = (base.extend (parts pattern).1, Text.join "/" (parts pattern).2) := by
  have way : parentStep ∉ (base.extend (parts pattern).1).names := by
    rw [Path.names_extend, List.mem_append, List.mem_filter]
    rintro (inBase | ⟨inFixed, -⟩)
    · exact stepless inBase
    · exact (plain _ (mem_splitOn_of_mem_fixed inFixed)).2 rfl
  have normal : (base.extend (parts pattern).1).normalize = base.extend (parts pattern).1 :=
    Path.normalize_of_stepless absolute way
  unfold Glob.split
  simp only [plain.anchor, Anchor.toText, List.length_nil, List.drop_zero, if_true,
    ← Text.splitOn_eq]
  exact congrArg (·, Text.join "/" (parts pattern).2) normal

/-- A plain pattern compiles only if what is left of it does, and then it matches its fixed part
before that. -/
theorem IsPlain.compile_rest (plain : IsPlain pattern) {pieces : List Piece}
    (compiled : compile pattern = .ok pieces) :
    ∃ behind, compile (Text.join "/" (parts pattern).2) = .ok behind ∧
      pieces = exactly (Scope.slashed (parts pattern).1) ++ behind := by
  have rest_ne : (parts pattern).2 ≠ [] :=
    splitSegments_snd_ne_nil (Text.splitWhere_ne_nil _ pattern)
  have left : Text.splitOn '/' (Text.join "/" (parts pattern).2) = (parts pattern).2 :=
    Text.splitOn_join_of_free rest_ne fun _ mem =>
      Text.not_mem_of_mem_splitOn (mem_splitOn_of_mem_rest mem)
  have behind : tokens (Text.join "/" (parts pattern).2) = tokensOf (parts pattern).2 := by
    rw [tokens, segments_of_isName, left]
    intro segment mem
    exact (plain segment (mem_splitOn_of_mem_rest (left ▸ mem))).1
  have whole : tokens pattern = fixedTokens (parts pattern).1 ++ tokensOf (parts pattern).2 := by
    rw [tokens, segments_of_isName fun segment mem => (plain segment mem).1, ← parts_append]
    exact tokensOf_append (fun _ => isWild_of_mem_splitSegments) rest_ne
  rw [compile_eq_ok_iff, whole, toOption_piecesFrom_fixed fun _ mem =>
    Text.not_mem_of_mem_splitOn (mem_splitOn_of_mem_fixed mem), Option.map_eq_some_iff] at compiled
  obtain ⟨found, read, rfl⟩ := compiled
  exact ⟨found, by rwa [compile_eq_ok_iff, behind], rfl⟩

end Glob

end DocWeave
