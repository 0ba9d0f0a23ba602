import DocWeave.Proofs.Glob.Segment

/-! # Patterns that span directories

A pattern without bracket expressions always compiles, and its segments correspond to those of the
paths that it matches. An ordinary segment takes one segment of the path, a spanning one takes any
number of them, and at the end at least one.
-/

namespace DocWeave.Glob

variable {pattern segment name path : Text} {all rest names : List Text} {pieces own : List Piece}

/-! ## One segment -/

/-- A segment without bracket expressions fits a name: a star takes any run of characters, a question
mark takes one, and any other character itself. -/
inductive Fits : Text → Text → Prop
  | nil : Fits [] []
  | literal {c : Char} {segment name : Text} (star : c ≠ '*') (mark : c ≠ '?')
      (behind : Fits segment name) : Fits (c :: segment) (c :: name)
  | one {segment name : Text} (c : Char) (behind : Fits segment name) :
      Fits ('?' :: segment) (c :: name)
  | many {segment name : Text} (run : Text) (behind : Fits segment name) :
      Fits ('*' :: segment) (run ++ name)

/-- The piece of a character outside of bracket expressions. -/
def wildPiece (c : Char) : Piece := if c = '*' then .many else if c = '?' then .one else .literal c

theorem firstPiece?_wildToken (c : Char) (tokens : List Token) :
    firstPiece? (wildToken c :: tokens) = some (wildPiece c, tokens) := by
  unfold wildToken wildPiece
  split
  · rfl
  · split <;> rfl

theorem readAs_map_wildToken (segment : Text) :
    ReadAs (segment.map wildToken) (segment.map wildPiece) := by
  induction segment with
  | nil => exact .nil
  | cons c rest ih => exact .cons (firstPiece?_wildToken c _) ih

/-- A segment without bracket expressions compiles to a piece for each of its characters. -/
theorem compile_segment_wild (mem : segment ∈ segments pattern) (ordinary : segment ≠ spanning)
    (unbracketed : '[' ∉ segment) : compile segment = .ok (segment.map wildPiece) := by
  rw [compile_segment_iff mem ordinary, segmentTokens_eq_map unbracketed]
  exact readAs_map_wildToken segment

/-- The pieces match the texts that the segment fits, as long as these hold no slash. -/
theorem matchesAll_map_wildPiece (free : '/' ∉ segment) (text : Text) :
    matchesAll (segment.map wildPiece) text = true ↔ Fits segment text ∧ '/' ∉ text := by
  induction segment generalizing text with
  | nil =>
    rw [List.map_nil, matchesAll_nil]
    constructor
    · rintro rfl
      exact ⟨.nil, List.not_mem_nil⟩
    · rintro ⟨⟨⟩, -⟩
      rfl
  | cons c rest ih =>
    have later := ih (List.not_mem_of_not_mem_cons free)
    have other : c ≠ '/' := Ne.symm (List.ne_of_not_mem_cons free)
    simp only [List.map_cons, matchesAll_cons, later]
    by_cases star : c = '*'
    · subst star
      constructor
      · rintro ⟨run, left, rfl, clean, fits, behind⟩
        have clean : '/' ∉ run := clean
        exact ⟨.many run fits, by simp [clean, behind]⟩
      · rintro ⟨fits, clean⟩
        cases fits with
        | literal star => exact absurd rfl star
        | many run fits =>
          rw [List.mem_append, not_or] at clean
          exact ⟨run, _, rfl, clean.1, fits, clean.2⟩
    · by_cases mark : c = '?'
      · subst mark
        constructor
        · rintro ⟨_, left, rfl, ⟨d, differs, rfl⟩, fits, behind⟩
          exact ⟨.one d fits, by simp [Ne.symm differs, behind]⟩
        · rintro ⟨fits, clean⟩
          cases fits with
          | literal _ mark => exact absurd rfl mark
          | one d fits =>
            exact ⟨[d], _, rfl, ⟨d, Ne.symm (List.ne_of_not_mem_cons clean), rfl⟩, fits,
              List.not_mem_of_not_mem_cons clean⟩
      · have itself : wildPiece c = .literal c := by
          rw [wildPiece, if_neg star, if_neg mark]
        rw [itself]
        constructor
        · rintro ⟨_, left, rfl, rfl, fits, behind⟩
          exact ⟨.literal star mark fits, by simp [Ne.symm other, behind]⟩
        · rintro ⟨fits, clean⟩
          cases fits with
          | literal _ _ fits =>
            exact ⟨[c], _, rfl, rfl, fits, List.not_mem_of_not_mem_cons clean⟩
          | one => exact absurd rfl mark
          | many => exact absurd rfl star

/-! ## All segments -/

/-- The segments of a pattern correspond to those of a path. -/
inductive Corresponds : List Text → List Text → Prop
  | nil : Corresponds [] []
  | segment {segment name : Text} {rest names : List Text} (ordinary : segment ≠ spanning)
      (first : Fits segment name) (behind : Corresponds rest names) :
      Corresponds (segment :: rest) (name :: names)
  | directories {rest names : List Text} (taken : List Text) (more : rest ≠ [])
      (behind : Corresponds rest names) : Corresponds (spanning :: rest) (taken ++ names)
  | anything {names : List Text} (some' : names ≠ []) : Corresponds [spanning] names

/-- Segments take at least one segment of the path. -/
theorem Corresponds.ne_nil (corresponds : Corresponds all names) (some' : all ≠ []) : names ≠ [] := by
  induction corresponds with
  | nil => exact absurd rfl some'
  | segment ordinary first behind ih => exact List.cons_ne_nil _ _
  | directories taken more behind ih => exact List.append_ne_nil_of_right_ne_nil taken (ih more)
  | anything taken => exact taken

theorem corresponds_singleton (ordinary : segment ≠ spanning) :
    Corresponds [segment] names ↔ ∃ name, names = [name] ∧ Fits segment name := by
  constructor
  · intro corresponds
    cases corresponds with
    | segment _ first behind =>
      cases behind
      exact ⟨_, rfl, first⟩
    | directories => exact absurd rfl ordinary
    | anything => exact absurd rfl ordinary
  · rintro ⟨name, rfl, fits⟩
    exact .segment ordinary fits .nil

theorem corresponds_cons (ordinary : segment ≠ spanning) :
    Corresponds (segment :: rest) names ↔
      ∃ name further, names = name :: further ∧ Fits segment name ∧ Corresponds rest further := by
  constructor
  · intro corresponds
    cases corresponds with
    | segment _ first behind => exact ⟨_, _, rfl, first, behind⟩
    | directories => exact absurd rfl ordinary
    | anything => exact absurd rfl ordinary
  · rintro ⟨name, further, rfl, fits, behind⟩
    exact .segment ordinary fits behind

theorem corresponds_spanning_cons (more : rest ≠ []) :
    Corresponds (spanning :: rest) names ↔
      ∃ taken further, names = taken ++ further ∧ Corresponds rest further := by
  constructor
  · intro corresponds
    cases corresponds with
    | segment ordinary => exact absurd rfl ordinary
    | directories taken _ behind => exact ⟨taken, _, rfl, behind⟩
    | anything => exact absurd rfl more
  · rintro ⟨taken, further, rfl, behind⟩
    exact .directories taken more behind

/-- What comes before the first slash of a path is its first segment. -/
theorem join_eq_append_slash_iff (are : AreNames names) (some' : names ≠ []) {front back : Text}
    (free : '/' ∉ front) : Text.join "/" names = front ++ '/' :: back ↔
      ∃ further, further ≠ [] ∧ names = front :: further ∧ back = Text.join "/" further := by
  constructor
  · intro cut
    have begins : Text.join "/" names = Scope.slashed [front] ++ back := by
      rw [cut]
      simp [Scope.slashed]
    exact Scope.exists_of_join_eq (fun name mem => (are name mem).2) (by simpa using free) some' begins
  · rintro ⟨further, more, rfl, rfl⟩
    exact (@Scope.join_append [front] further more).trans (by simp [Scope.slashed])

/-- A path without a slash is a single name. -/
theorem eq_singleton_of_slash_not_mem (some' : names ≠ []) (are : AreNames names)
    (free : '/' ∉ Text.join "/" names) : names = [Text.join "/" names] := by
  have cut := Text.splitOn_join_of_free some' fun name mem => (are name mem).2
  have whole : ∀ name ∈ [Text.join "/" names], '/' ∉ name := by
    simpa using free
  have single := Text.splitOn_join_of_free (List.cons_ne_nil _ _) whole
  rw [Text.join, List.intercalate_singleton] at single
  exact cut.symm.trans single

/-- Where every segment matches the names that it fits, the pieces match the paths whose segments
correspond to those of the pattern. -/
theorem Reads.matchesAll_iff_corresponds (reads : Reads all pieces)
    (matches_iff : ∀ segment ∈ all, segment ≠ spanning → ∀ own, compile segment = .ok own →
      ∀ text, matchesAll own text = true ↔ Fits segment text ∧ '/' ∉ text)
    (some' : names ≠ []) (are : AreNames names) (single : ∀ name ∈ names, '\n' ∉ name) :
    matchesAll pieces (Text.join "/" names) = true ↔ Corresponds all names := by
  induction reads generalizing names with
  | nil =>
    rw [matchesAll_nil]
    constructor
    · intro empty
      have none := eq_singleton_of_slash_not_mem some' are (empty ▸ List.not_mem_nil)
      rw [empty] at none
      exact absurd rfl (are [] (none ▸ List.mem_cons_self)).1
    · intro corresponds
      cases corresponds
      exact absurd rfl some'
  | last ordinary read =>
    rw [matches_iff _ List.mem_cons_self ordinary _ read, corresponds_singleton ordinary]
    constructor
    · rintro ⟨fits, free⟩
      exact ⟨_, eq_singleton_of_slash_not_mem some' are free, fits⟩
    · rintro ⟨name, rfl, fits⟩
      rw [Text.join, List.intercalate_singleton]
      exact ⟨fits, (are name List.mem_cons_self).2⟩
  | anything =>
    constructor
    · exact fun _ => .anything some'
    · intro _
      have free : '\n' ∉ Text.join "/" names := by
        intro mem
        rcases Text.mem_or_mem_of_mem_join mem with between | ⟨name, listed, inside⟩
        · cases between with
          | tail _ rest => cases rest
        · exact single name listed inside
      exact matchesAll_cons.2 ⟨_, [], (List.append_nil _).symm, free, rfl⟩
  | @segment s own pieces rest ordinary read more behind ih =>
    have own_iff := matches_iff s List.mem_cons_self ordinary own read
    have later {further : List Text} :=
      @ih further fun segment mem => matches_iff segment (List.mem_cons_of_mem _ mem)
    rw [matchesAll_append_slash, corresponds_cons ordinary]
    constructor
    · rintro ⟨front, back, cut, first, matched⟩
      -- What the segment matches holds no slash, so it ends where the first name does.
      obtain ⟨fits, free⟩ := (own_iff front).1 first
      obtain ⟨further, below, rfl, rfl⟩ := (join_eq_append_slash_iff are some' free).1 cut
      exact ⟨front, further, rfl, fits, (later below (List.forall_mem_cons.1 are).2
        (List.forall_mem_cons.1 single).2).1 matched⟩
    · rintro ⟨name, further, rfl, fits, corresponds⟩
      obtain ⟨here, beyond⟩ := List.forall_mem_cons.1 are
      have below := corresponds.ne_nil more
      exact ⟨name, Text.join "/" further, (join_eq_append_slash_iff are some' here.2).2
        ⟨further, below, rfl, rfl⟩, (own_iff name).2 ⟨fits, here.2⟩,
        (later below beyond (List.forall_mem_cons.1 single).2).2 corresponds⟩
  | @directories pieces rest more behind ih =>
    have later {further : List Text} :=
      @ih further fun segment mem => matches_iff segment (List.mem_cons_of_mem _ mem)
    rw [matchesAll_cons, corresponds_spanning_cons more]
    constructor
    · rintro ⟨_, left, cut, ⟨taken, passed, rfl⟩, matched⟩
      obtain ⟨further, below, rfl, rfl⟩ := Scope.exists_of_join_eq (fun name mem => (are name mem).2)
        (fun name mem => (passed name mem).2) some' cut
      exact ⟨taken, further, rfl, (later below (List.forall_mem_append.1 are).2
        (List.forall_mem_append.1 single).2).1 matched⟩
    · rintro ⟨taken, further, rfl, corresponds⟩
      have below := corresponds.ne_nil more
      exact ⟨_, _, Scope.join_append below, ⟨taken, (List.forall_mem_append.1 are).1, rfl⟩,
        (later below (List.forall_mem_append.1 are).2 (List.forall_mem_append.1 single).2).2
          corresponds⟩

/-- A pattern without bracket expressions compiles, and it matches exactly the paths whose segments
correspond to its own. -/
theorem accepts_iff_corresponds (unbracketed : ∀ segment ∈ segments pattern, '[' ∉ segment) :
    ∃ pieces, compile pattern = .ok pieces ∧
      ∀ names, names ≠ [] → (∀ name ∈ names, name ≠ [] ∧ '/' ∉ name ∧ '\n' ∉ name) →
        (accepts pieces (Text.join "/" names) = true ↔ Corresponds (segments pattern) names) := by
  obtain ⟨pieces, read, reads⟩ := exists_reads (fun _ mem => mem) fun segment mem ordinary =>
    ⟨_, compile_segment_wild mem ordinary (unbracketed segment mem)⟩
  refine ⟨pieces, compile_eq_ok_iff.2 read, fun names some' named => ?_⟩
  rw [accepts_eq_matchesAll]
  refine reads.matchesAll_iff_corresponds (fun segment mem ordinary own compiled text => ?_) some'
    (fun name mem => ⟨(named name mem).1, (named name mem).2.1⟩) fun name mem => (named name mem).2.2
  have wild := compile_segment_wild mem ordinary (unbracketed segment mem)
  obtain rfl := Except.ok.inj (compiled.symm.trans wild)
  exact matchesAll_map_wildPiece (slash_not_mem_of_mem mem) text

/-- Directories are passed over before a segment that fits, and may be none. -/
theorem accepts_iff_corresponds_markdown :
    let pattern : Text := "docs/**/*.md"
    (∀ segment ∈ segments pattern, '[' ∉ segment) ∧
      ∃ pieces, compile pattern = .ok pieces ∧
        (accepts pieces "docs/guide/start/a.md" = true ↔
          Corresponds (segments pattern) ["docs", "guide", "start", "a.md"]) ∧
        accepts pieces "docs/guide/start/a.md" = true ∧ accepts pieces "docs/a.md" = true := by
  intro pattern
  have unbracketed : ∀ segment ∈ segments pattern, '[' ∉ segment := by decide +kernel
  obtain ⟨pieces, compiled, matches'⟩ := accepts_iff_corresponds unbracketed
  refine ⟨unbracketed, pieces, compiled,
    matches' ["docs", "guide", "start", "a.md"] (by decide) (by decide), ?_⟩
  have found : compile pattern = .ok (exactly "docs/" ++ [.directories, .many] ++ exactly ".md") := by
    decide +kernel
  obtain rfl := Except.ok.inj (compiled.symm.trans found)
  decide +kernel

end DocWeave.Glob
