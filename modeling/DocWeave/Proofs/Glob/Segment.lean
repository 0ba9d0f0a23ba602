import DocWeave.Proofs.Glob.Reading
import DocWeave.Proofs.Glob.Taken
import Mathlib.Data.List.Forall2

/-! # Patterns segment by segment

The segments of a pattern are patterns themselves. Where each of them compiles by itself, the pattern
compiles to their pieces, with a slash between neighbours, and a pattern without spanning segments
matches a path exactly if the path is joined from texts that its segments match one by one.

Such a text is one segment of the path as long as it holds no slash, and only a bracket expression
can take one. So a pattern keeps to its segments exactly if they compile by themselves and none of
its bracket expressions takes a slash, unless it matches nothing at all.
-/

namespace DocWeave.Glob

variable {pattern segment text path : Text} {all texts : List Text} {pieces own : List Piece}

/-! ## Segments as patterns -/

/-- A segment matches a text as a pattern by itself. -/
def Accepts (segment text : Text) : Prop :=
  ∃ own, compile segment = .ok own ∧ accepts own text = true

theorem accepts_iff (compiled : compile segment = .ok own) :
    Accepts segment text ↔ matchesAll own text = true := by
  rw [← accepts_eq_matchesAll]
  constructor
  · rintro ⟨other, same, accepted⟩
    obtain rfl := Except.ok.inj (same.symm.trans compiled)
    exact accepted
  · exact fun accepted => ⟨own, compiled, accepted⟩

/-- A segment of a pattern is a pattern of one segment. -/
theorem segments_of_mem (mem : segment ∈ segments pattern) : segments segment = [segment] := by
  obtain ⟨cut, kept⟩ := List.mem_filter.1 mem
  have free : ∀ name ∈ [segment], '/' ∉ name := by
    simpa using Text.not_mem_of_mem_splitOn cut
  have whole := Text.splitOn_join_of_free (List.cons_ne_nil segment []) free
  rw [Text.join, List.intercalate_singleton] at whole
  rw [segments, whole, List.filter_eq_self]
  simpa using kept

theorem slash_not_mem_of_mem (mem : segment ∈ segments pattern) : '/' ∉ segment :=
  Text.not_mem_of_mem_splitOn (List.mem_filter.1 mem).1

/-- An ordinary segment is read by its own tokens. -/
theorem compile_segment_iff (mem : segment ∈ segments pattern) (ordinary : segment ≠ spanning) :
    compile segment = .ok own ↔ ReadAs (segmentTokens 0 segment) own := by
  rw [compile_eq_ok_iff, tokens, segments_of_mem mem, tokensOf, if_neg ordinary,
    toOption_piecesFrom_eq_some_iff (isTidy_segmentTokens 0 segment)]

/-- The pieces of segments in a row, each of them read by itself. -/
inductive Reads : List Text → List Piece → Prop
  | nil : Reads [] []
  | last {segment : Text} {own : List Piece} (ordinary : segment ≠ spanning)
      (read : compile segment = .ok own) : Reads [segment] own
  | anything : Reads [spanning] [.anything]
  | segment {segment : Text} {own pieces : List Piece} {rest : List Text}
      (ordinary : segment ≠ spanning) (read : compile segment = .ok own) (more : rest ≠ [])
      (behind : Reads rest pieces) : Reads (segment :: rest) (own ++ .slash :: pieces)
  | directories {pieces : List Piece} {rest : List Text} (more : rest ≠ [])
      (behind : Reads rest pieces) : Reads (spanning :: rest) (.directories :: pieces)

/-- Segments that compile by themselves are read in a row. -/
theorem exists_reads (listed : ∀ segment ∈ all, segment ∈ segments pattern)
    (alone : ∀ segment ∈ all, segment ≠ spanning → ∃ own, compile segment = .ok own) :
    ∃ pieces, (piecesFrom 0 0 (tokensOf all)).toOption = some pieces ∧ Reads all pieces := by
  fun_induction tokensOf all with
  | case1 => exact ⟨[], rfl, .nil⟩
  | case2 => exact ⟨[.anything], rfl, .anything⟩
  | case3 last ordinary =>
    obtain ⟨own, compiled⟩ := alone last List.mem_cons_self ordinary
    have readOwn := (compile_segment_iff (listed last List.mem_cons_self) ordinary).1 compiled
    exact ⟨own, (toOption_piecesFrom_eq_some_iff (isTidy_segmentTokens 0 last)).2 readOwn,
      .last ordinary compiled⟩
  | case4 segment rest more ih =>
    obtain ⟨pieces, read, reads⟩ := ih (fun other mem => listed other (List.mem_cons_of_mem _ mem))
      (fun other mem => alone other (List.mem_cons_of_mem _ mem))
    by_cases ordinary : segment = spanning
    · subst ordinary
      refine ⟨.directories :: pieces, ?_, .directories more reads⟩
      rw [if_pos rfl, List.singleton_append, toOption_piecesFrom_of_not_isOpen rfl, read]
      rfl
    · obtain ⟨own, compiled⟩ := alone segment List.mem_cons_self ordinary
      have readOwn :=
        (compile_segment_iff (listed segment List.mem_cons_self) ordinary).1 compiled
      refine ⟨own ++ .slash :: pieces, ?_, .segment ordinary compiled more reads⟩
      have tidy : ∀ token ∈ segmentTokens 0 segment ++ .slash :: tokensOf rest, token.IsTidy :=
        List.forall_mem_append.2 ⟨isTidy_segmentTokens 0 segment,
          List.forall_mem_cons.2 ⟨trivial, isTidy_tokensOf rest⟩⟩
      rw [if_neg ordinary, List.append_assoc, List.singleton_append,
        toOption_piecesFrom_append tidy readOwn, toOption_piecesFrom_of_not_isOpen rfl, read]
      rfl

theorem reads_of_compile (compiled : compile pattern = .ok pieces)
    (alone : ∀ segment ∈ segments pattern, segment ≠ spanning → ∃ own, compile segment = .ok own) :
    Reads (segments pattern) pieces := by
  obtain ⟨found, read, reads⟩ := exists_reads (fun _ mem => mem) alone
  obtain rfl : found = pieces := Option.some.inj (read.symm.trans (compile_eq_ok_iff.1 compiled))
  exact reads

/-- A path is matched by segments without spanning ones if it is joined from what they match. -/
theorem Reads.matchesAll_iff (reads : Reads all pieces) (unspanned : spanning ∉ all) (path : Text) :
    matchesAll pieces path = true ↔
      ∃ texts, path = Text.join "/" texts ∧ List.Forall₂ Accepts all texts := by
  induction reads generalizing path with
  | nil =>
    simp only [List.forall₂_nil_left_iff, matchesAll_nil]
    constructor
    · rintro rfl
      exact ⟨[], rfl, rfl⟩
    · rintro ⟨_, rfl, rfl⟩
      rfl
  | last ordinary read =>
    simp only [List.forall₂_cons_left_iff, List.forall₂_nil_left_iff]
    rw [← accepts_iff read]
    constructor
    · intro accepted
      exact ⟨[path], List.intercalate_singleton.symm, path, [], accepted, rfl, rfl⟩
    · rintro ⟨_, rfl, text, _, accepted, rfl, rfl⟩
      rwa [Text.join, List.intercalate_singleton]
  | anything => exact absurd List.mem_cons_self unspanned
  | @segment s own pieces rest ordinary read more behind ih =>
    have further := ih (List.not_mem_of_not_mem_cons unspanned)
    have join_cons (front : Text) {texts : List Text} (matched : List.Forall₂ Accepts rest texts) :
        Text.join "/" (front :: texts) = front ++ '/' :: Text.join "/" texts := by
      obtain ⟨next, others, rfl⟩ := List.exists_cons_of_ne_nil more
      obtain ⟨_, _, _, _, rfl⟩ := List.forall₂_cons_left_iff.1 matched
      exact Text.join_cons_cons ..
    rw [matchesAll_append_slash]
    constructor
    · rintro ⟨front, back, rfl, matched, later⟩
      obtain ⟨texts, rfl, accepted⟩ := (further back).1 later
      exact ⟨front :: texts, (join_cons front accepted).symm,
        .cons ((accepts_iff read).2 matched) accepted⟩
    · rintro ⟨_, rfl, matched⟩
      obtain ⟨front, texts, first, accepted, rfl⟩ := List.forall₂_cons_left_iff.1 matched
      exact ⟨front, _, join_cons front accepted, (accepts_iff read).1 first,
        (further _).2 ⟨texts, rfl, accepted⟩⟩
  | directories more behind ih => exact absurd List.mem_cons_self unspanned

/-! ## Slashes -/

/-- A bracket expression that takes a slash. -/
def Piece.crosses : Piece → Bool
  | set s | setMany s => s.contains '/'
  | _ => false

/-- A piece that a segment can have. -/
def Piece.IsLocal : Piece → Prop
  | literal c => c ≠ '/'
  | one | many | set _ | setMany _ => True
  | slash | directories | anything => False

/-- A token that a segment can have. -/
def Token.IsLocal : Token → Prop
  | literal c => c ≠ '/'
  | one | many | bracket _ => True
  | slash | directories | anything => False

theorem isLocal_segmentTokens (skip : Nat) {segment : Text} (free : '/' ∉ segment) :
    ∀ token ∈ segmentTokens skip segment, token.IsLocal := by
  fun_induction segmentTokens skip segment with
  | case1 =>
    intro token mem
    cases mem
  | case2 skip c rest ih => exact ih (List.not_mem_of_not_mem_cons free)
  | case7 c rest star mark bracket ih =>
    exact List.forall_mem_cons.2
      ⟨Ne.symm (List.ne_of_not_mem_cons free), ih (List.not_mem_of_not_mem_cons free)⟩
  | case5 rest none ih =>
    exact List.forall_mem_cons.2
      ⟨show '[' ≠ '/' by decide, ih (List.not_mem_of_not_mem_cons free)⟩
  | _ =>
    rename_i ih
    exact List.forall_mem_cons.2 ⟨trivial, ih (List.not_mem_of_not_mem_cons free)⟩

theorem Piece.isLocal_of_firstPiece? {tokens behind : List Token} {piece : Piece}
    (confined : ∀ token ∈ tokens, token.IsLocal)
    (first : firstPiece? tokens = some (piece, behind)) : piece.IsLocal := by
  cases tokens with
  | nil => cases first
  | cons token rest =>
    rw [firstPiece?] at first
    split at first
    · simp only [openPiece?, Option.bind_eq_some_iff, Option.map_eq_some_iff] at first
      obtain ⟨closing, -, ranges, -, found, closes, same⟩ := first
      cases same
      unfold closePiece at closes
      split at closes
      · cases closes
        trivial
      · split at closes <;> cases closes
        trivial
    · obtain ⟨found, own, same⟩ := Option.map_eq_some_iff.1 first
      cases same
      have here := confined token List.mem_cons_self
      cases token with
      | bracket body =>
        obtain ⟨set, -, rfl⟩ := Option.map_eq_some_iff.1 own
        trivial
      | slash | directories | anything => exact absurd here id
      | _ =>
        cases own
        exact here

theorem ReadAs.isLocal {tokens : List Token} (readAs : ReadAs tokens own)
    (confined : ∀ token ∈ tokens, token.IsLocal) : ∀ piece ∈ own, piece.IsLocal := by
  induction readAs with
  | nil => nofun
  | cons first later ih =>
    refine List.forall_mem_cons.2 ⟨Piece.isLocal_of_firstPiece? confined first, ih ?_⟩
    obtain ⟨taken, -, rfl⟩ := exists_of_firstPiece? first
    exact (List.forall_mem_append.1 confined).2

theorem Piece.slash_not_mem_of_takes {piece : Piece} (isLocal : piece.IsLocal)
    (stays : piece.crosses = false) (takes : piece.Takes text) : '/' ∉ text := by
  cases piece with
  | literal c =>
    obtain rfl := takes
    simpa using Ne.symm isLocal
  | one =>
    obtain ⟨c, other, rfl⟩ := takes
    simpa using Ne.symm other
  | many => exact takes
  | set s =>
    obtain ⟨c, member, rfl⟩ := takes
    intro mem
    obtain rfl := List.mem_singleton.1 mem
    cases member.symm.trans stays
  | setMany s => exact fun mem => Bool.noConfusion ((takes '/' mem).symm.trans stays)
  | slash | directories | anything => exact absurd isLocal id

/-- Pieces of a segment take a slash only by a bracket expression. -/
theorem slash_not_mem_of_matchesAll (isLocal : ∀ piece ∈ own, piece.IsLocal)
    (stays : ∀ piece ∈ own, piece.crosses = false) (matched : matchesAll own text = true) :
    '/' ∉ text := by
  induction own generalizing text with
  | nil =>
    rw [matchesAll_nil.1 matched]
    exact List.not_mem_nil
  | cons piece rest ih =>
    obtain ⟨front, left, rfl, takes, later⟩ := matchesAll_cons.1 matched
    obtain ⟨hereLocal, restLocal⟩ := List.forall_mem_cons.1 isLocal
    obtain ⟨hereStays, restStays⟩ := List.forall_mem_cons.1 stays
    have first := piece.slash_not_mem_of_takes hereLocal hereStays takes
    simp [first, ih restLocal restStays later]

/-- If a bracket expression takes a slash, pieces that match some text match one with a slash. -/
theorem exists_slash_mem {piece : Piece} (mem : piece ∈ own) (crosses : piece.crosses = true)
    (matched : matchesAll own text = true) :
    ∃ other, matchesAll own other = true ∧ '/' ∈ other := by
  induction own generalizing text with
  | nil => cases mem
  | cons first rest ih =>
    obtain ⟨front, left, rfl, takes, later⟩ := matchesAll_cons.1 matched
    rcases List.mem_cons.1 mem with rfl | behind
    · have slash : piece.Takes ['/'] := by
        cases piece with
        | set s => exact ⟨'/', crosses, rfl⟩
        | setMany s => exact fun c mem => List.mem_singleton.1 mem ▸ crosses
        | _ => cases crosses
      exact ⟨'/' :: left, matchesAll_cons.2 ⟨['/'], left, rfl, slash, later⟩, List.mem_cons_self⟩
    · obtain ⟨other, accepted, slash⟩ := ih behind later
      exact ⟨front ++ other, matchesAll_cons.2 ⟨front, other, rfl, takes, accepted⟩,
        List.mem_append_right _ slash⟩

/-! ## Paths -/

/-- The pieces of a segment are among those of the pattern. -/
theorem Reads.subset_of_mem (reads : Reads all pieces) (mem : segment ∈ all)
    (ordinary : segment ≠ spanning) (compiled : compile segment = .ok own) : own ⊆ pieces := by
  induction reads with
  | nil => cases mem
  | last other read =>
    obtain rfl := List.mem_singleton.1 mem
    obtain rfl := Except.ok.inj (compiled.symm.trans read)
    exact List.Subset.refl own
  | anything => exact absurd (List.mem_singleton.1 mem) ordinary
  | segment other read more behind ih =>
    rcases List.mem_cons.1 mem with rfl | later
    · obtain rfl := Except.ok.inj (compiled.symm.trans read)
      exact List.subset_append_left ..
    · exact fun piece inside => List.mem_append_right _ (List.mem_cons_of_mem _ (ih later inside))
  | directories more behind ih =>
    rcases List.mem_cons.1 mem with rfl | later
    · exact absurd rfl ordinary
    · exact fun piece inside => List.mem_cons_of_mem _ (ih later inside)

/-- A bracket expression that takes a slash is one of a segment. -/
theorem Reads.exists_of_crosses (reads : Reads all pieces) {piece : Piece} (mem : piece ∈ pieces)
    (crosses : piece.crosses = true) :
    ∃ segment ∈ all, ∃ own, compile segment = .ok own ∧ piece ∈ own := by
  induction reads with
  | nil => cases mem
  | last other read => exact ⟨_, List.mem_cons_self, _, read, mem⟩
  | anything =>
    obtain rfl := List.mem_singleton.1 mem
    cases crosses
  | segment other read more behind ih =>
    rcases List.mem_append.1 mem with here | later
    · exact ⟨_, List.mem_cons_self, _, read, here⟩
    · rcases List.mem_cons.1 later with rfl | later
      · cases crosses
      · obtain ⟨segment, listed, found⟩ := ih later
        exact ⟨segment, List.mem_cons_of_mem _ listed, found⟩
  | directories more behind ih =>
    rcases List.mem_cons.1 mem with rfl | later
    · cases crosses
    · obtain ⟨segment, listed, found⟩ := ih later
      exact ⟨segment, List.mem_cons_of_mem _ listed, found⟩

/-- What is matched one by one may be exchanged for one segment. -/
theorem exists_of_accepts (matched : List.Forall₂ Accepts all texts) (mem : segment ∈ all)
    (accepted : Accepts segment text) :
    ∃ others, List.Forall₂ Accepts all others ∧ text ∈ others := by
  induction matched with
  | nil => cases mem
  | cons first later ih =>
    rcases List.mem_cons.1 mem with rfl | behind
    · exact ⟨_, .cons accepted later, List.mem_cons_self⟩
    · obtain ⟨others, matched, listed⟩ := ih behind
      exact ⟨_, .cons first matched, List.mem_cons_of_mem _ listed⟩

theorem exists_accepts_of_mem (matched : List.Forall₂ Accepts all texts) (mem : segment ∈ all) :
    ∃ text, Accepts segment text := by
  induction matched with
  | nil => cases mem
  | cons first later ih =>
    rcases List.mem_cons.1 mem with rfl | behind
    · exact ⟨_, first⟩
    · exact ih behind

theorem exists_mem_of_mem (matched : List.Forall₂ Accepts all texts) (mem : text ∈ texts) :
    ∃ segment ∈ all, Accepts segment text := by
  induction matched with
  | nil => cases mem
  | cons first later ih =>
    rcases List.mem_cons.1 mem with rfl | behind
    · exact ⟨_, List.mem_cons_self, first⟩
    · obtain ⟨segment, listed, accepted⟩ := ih behind
      exact ⟨segment, List.mem_cons_of_mem _ listed, accepted⟩

/-- A path keeps to the segments of a pattern: it has as many of them, and each is matched by the
pattern's segment alone. -/
def KeepsTo (pattern path : Text) : Prop :=
  (path.splitOn '/').length = (segments pattern).length ∧
    List.Forall₂ Accepts (segments pattern) (path.splitOn '/')

/-- A text with a slash stands for more than one segment of the path that it is joined to. -/
theorem not_keepsTo_join (matched : List.Forall₂ Accepts (segments pattern) texts)
    (mem : text ∈ texts) (slash : '/' ∈ text) :
    Text.join "/" texts ≠ [] ∧ ¬ KeepsTo pattern (Text.join "/" texts) := by
  have counted : (Text.join "/" texts).count '/' + 1 =
      texts.length + texts.flatten.count '/' := Text.count_join '/' (List.ne_nil_of_mem mem)
  have further : 0 < texts.flatten.count '/' :=
    List.count_pos_iff.2 (List.mem_flatten.2 ⟨text, mem, slash⟩)
  have some' := List.length_pos_of_mem mem
  constructor
  · intro empty
    rw [empty, List.count_nil] at counted
    omega
  · rintro ⟨length, -⟩
    rw [Text.length_splitOn, matched.length_eq] at length
    omega

/-- Where no bracket expression takes a slash, a segment matches no text that holds one. -/
theorem slash_not_mem_of_accepts (reads : Reads (segments pattern) pieces)
    (stays : ∀ piece ∈ pieces, piece.crosses = false) (mem : segment ∈ segments pattern)
    (ordinary : segment ≠ spanning) (accepted : Accepts segment text) : '/' ∉ text := by
  obtain ⟨own, compiled, accepted⟩ := accepted
  have within := reads.subset_of_mem mem ordinary compiled
  have isLocal := ((compile_segment_iff mem ordinary).1 compiled).isLocal
    (isLocal_segmentTokens 0 (slash_not_mem_of_mem mem))
  rw [accepts_eq_matchesAll] at accepted
  exact slash_not_mem_of_matchesAll isLocal (fun piece listed => stays piece (within listed)) accepted

theorem keepsTo_join (matched : List.Forall₂ Accepts (segments pattern) texts)
    (free : ∀ segment ∈ segments pattern, ∀ text, Accepts segment text → '/' ∉ text)
    (nonempty : Text.join "/" texts ≠ []) : KeepsTo pattern (Text.join "/" texts) := by
  have each : ∀ text ∈ texts, '/' ∉ text := by
    intro text mem
    obtain ⟨segment, listed, accepted⟩ := exists_mem_of_mem matched mem
    exact free segment listed text accepted
  have listed : texts ≠ [] := by
    rintro rfl
    exact nonempty rfl
  have cut : Text.splitOn '/' (Text.join "/" texts) = texts :=
    Text.splitOn_join_of_free listed each
  rw [KeepsTo, cut]
  exact ⟨matched.length_eq.symm, matched⟩

/-- A pattern of segments that compile by themselves, without spanning ones, matches what is joined
from texts that they match. It keeps to its segments exactly if all of them do compile by themselves
and no bracket expression takes a slash, unless it matches nothing. -/
theorem keepsTo_iff (compiled : compile pattern = .ok pieces)
    (unspanned : spanning ∉ segments pattern) :
    ((∀ segment ∈ segments pattern, ∃ own, compile segment = .ok own) →
      ∀ path, accepts pieces path = true ↔
        ∃ texts, path = Text.join "/" texts ∧ List.Forall₂ Accepts (segments pattern) texts) ∧
    ((∀ path, path ≠ [] → accepts pieces path = true → KeepsTo pattern path) ↔
      ((∀ segment ∈ segments pattern, ∃ own, compile segment = .ok own) ∧
        ∀ piece ∈ pieces, piece.crosses = false) ∨
      ∀ path, path ≠ [] → accepts pieces path = false) := by
  have joined (alone : ∀ segment ∈ segments pattern, ∃ own, compile segment = .ok own) (path : Text) :
      accepts pieces path = true ↔
        ∃ texts, path = Text.join "/" texts ∧ List.Forall₂ Accepts (segments pattern) texts := by
    rw [accepts_eq_matchesAll]
    exact (reads_of_compile compiled fun segment mem _ => alone segment mem).matchesAll_iff unspanned
      path
  refine ⟨joined, ?_, ?_⟩
  · intro keeps
    by_cases matches' : ∃ path, path ≠ [] ∧ accepts pieces path = true
    · left
      obtain ⟨path, nonempty, accepted⟩ := matches'
      have alone : ∀ segment ∈ segments pattern, ∃ own, compile segment = .ok own := by
        intro segment mem
        obtain ⟨text, own, read, -⟩ := exists_accepts_of_mem (keeps path nonempty accepted).2 mem
        exact ⟨own, read⟩
      refine ⟨alone, fun piece listed => Bool.eq_false_iff.2 fun crosses => ?_⟩
      obtain ⟨segment, mem, own, read, within⟩ :=
        (reads_of_compile compiled fun segment mem _ => alone segment mem).exists_of_crosses listed
          crosses
      obtain ⟨text, accepts⟩ := exists_accepts_of_mem (keeps path nonempty accepted).2 mem
      obtain ⟨other, matched, slash⟩ := exists_slash_mem within crosses ((accepts_iff read).1 accepts)
      obtain ⟨others, each, listed⟩ :=
        exists_of_accepts (keeps path nonempty accepted).2 mem ((accepts_iff read).2 matched)
      obtain ⟨nonempty, strays⟩ := not_keepsTo_join each listed slash
      exact strays (keeps _ nonempty ((joined alone _).2 ⟨others, rfl, each⟩))
    · right
      intro path nonempty
      exact Bool.eq_false_iff.2 fun accepted => matches' ⟨path, nonempty, accepted⟩
  · rintro (⟨alone, stays⟩ | none) path nonempty accepted
    · obtain ⟨texts, rfl, matched⟩ := (joined alone path).1 accepted
      refine keepsTo_join matched (fun segment mem text accepted => ?_) nonempty
      have ordinary : segment ≠ spanning := by
        rintro rfl
        exact unspanned mem
      exact slash_not_mem_of_accepts
        (reads_of_compile compiled fun segment mem _ => alone segment mem) stays mem ordinary accepted
    · cases accepted.symm.trans (none path nonempty)

/-- A range that stays clear of the slash lets a pattern keep to its segments. -/
theorem keepsTo_iff_numbered :
    let pattern : Text := "*/b[0-9].md"
    let pieces : List Piece :=
      [.many, .slash, .literal 'b', .set ⟨false, [('0', '9')]⟩, .literal '.', .literal 'm', .literal 'd']
    compile pattern = .ok pieces ∧ spanning ∉ segments pattern ∧
      accepts pieces "docs/b1.md" = true ∧
      ∀ path, path ≠ [] → accepts pieces path = true → KeepsTo pattern path := by
  intro pattern pieces
  have compiled : compile pattern = .ok pieces := by decide +kernel
  have unspanned : spanning ∉ segments pattern := by decide +kernel
  have alone : ∀ segment ∈ segments pattern, ∃ own, compile segment = .ok own := by
    have cut : segments pattern = ["*", "b[0-9].md"] := by decide +kernel
    rw [cut]
    exact List.forall_mem_cons.2 ⟨⟨[.many], by decide +kernel⟩, List.forall_mem_singleton.2
      ⟨pieces.drop 2, by decide +kernel⟩⟩
  exact ⟨compiled, unspanned, by decide +kernel,
    (keepsTo_iff compiled unspanned).2.2 (.inl ⟨alone, by decide +kernel⟩)⟩

/-- A bracket expression that lists what it does not match matches a slash. -/
theorem not_keepsTo_of_complement :
    let pattern : Text := "a[!b]c"
    let pieces : List Piece := [.literal 'a', .set ⟨true, [('b', 'b')]⟩, .literal 'c']
    compile pattern = .ok pieces ∧ spanning ∉ segments pattern ∧
      accepts pieces "a/c" = true ∧ ¬ KeepsTo pattern "a/c" := by
  refine ⟨by decide +kernel, by decide +kernel, by decide +kernel, ?_⟩
  rintro ⟨length, -⟩
  revert length
  decide +kernel

end DocWeave.Glob
