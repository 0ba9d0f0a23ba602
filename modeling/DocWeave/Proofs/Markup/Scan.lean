import DocWeave.Proofs.Markup.Spelling
import Mathlib.Data.List.TakeWhile

/-! # What a scan for directives finds

A directive is read exactly where a text begins with one, so the scan is described by the spelling
of directives alone. It takes the first place where a directive begins, goes on behind it, and passes
over every other place: nothing that begins between two of its directives is a directive, whatever
malformed tags and markers stand there. What a directive spells is unambiguous, and no directive
begins with another one.
-/

namespace DocWeave

open Text Markup

namespace Directive

variable {tag name path value span text rest : Text} {pipelines : Option Text} {position : Nat}
  {ds : List Directive}

/-! ## What has been read was spelled -/

theorem after?_eq_some_iff {expected : Text} :
    after? expected text = some rest ↔ text = expected ++ rest := by
  constructor
  · intro read
    rw [after?] at read
    split at read
    · rename_i occurs
      cases read
      exact (List.prefix_iff_eq_append.1 (List.isPrefixOf_iff_prefix.1 occurs)).symm
    · cases read
  · rintro rfl
    exact after?_append expected rest

theorem exists_blanks (text : Text) :
    ∃ blanks, (∀ c ∈ blanks, isBlank c = true) ∧ text = blanks ++ trimLeft text :=
  ⟨text.takeWhile isBlank, fun _ mem => List.mem_takeWhile_imp mem,
    List.takeWhile_append_dropWhile.symm⟩

theorem exists_of_afterBlanks? (read : afterBlanks? text = some rest) :
    ∃ blanks, blanks ≠ [] ∧ (∀ c ∈ blanks, isBlank c = true) ∧ text = blanks ++ rest := by
  cases text with
  | nil => cases read
  | cons c text =>
    rw [afterBlanks?] at read
    split at read
    · rename_i blank
      cases read
      obtain ⟨blanks, blanksOnly, split⟩ := exists_blanks text
      exact ⟨c :: blanks, List.cons_ne_nil _ _, List.forall_mem_cons.2 ⟨blank, blanksOnly⟩,
        congrArg (c :: ·) split⟩
    · cases read

/-- A value that is read stands between quotes and holds none. -/
theorem exists_of_quotedValue? (read : quotedValue? text = some (value, rest)) :
    ∃ opening closing, isQuote opening = true ∧ isQuote closing = true ∧ value ≠ [] ∧
      (∀ c ∈ value, isQuote c = false) ∧ text = opening :: (value ++ closing :: rest) := by
  cases text with
  | nil => cases read
  | cons opening text =>
    have split := List.takeWhile_append_dropWhile (p := fun c => !isQuote c) (l := text)
    have behind : text.drop (text.takeWhile fun c => !isQuote c).length =
        text.dropWhile fun c => !isQuote c :=
      (congrArg (List.drop _) split).symm.trans List.drop_left
    simp only [quotedValue?, behind] at read
    cases left : text.dropWhile (fun c => !isQuote c) with
    | nil =>
      rw [left] at read
      cases read
    | cons closing after =>
      rw [left] at read split
      dsimp only at read
      split at read
      · rename_i accepted
        cases read
        rw [Bool.and_eq_true, Bool.not_eq_true', List.isEmpty_eq_false_iff] at accepted
        have closes : isQuote closing = true := by
          have stopped := List.head?_dropWhile_not (fun c => !isQuote c) text
          rw [left] at stopped
          simpa using stopped
        exact ⟨opening, closing, accepted.1, closes, accepted.2,
          fun c mem => by simpa using List.mem_takeWhile_imp mem, by rw [split]⟩
      · cases read

theorem spellsAttribute_of_attribute? (read : attribute? name text = some (value, rest)) :
    ∃ span, SpellsAttribute name value span ∧ text = span ++ rest := by
  simp only [attribute?, bind, Option.bind_eq_some_iff] at read
  obtain ⟨named, blanks, assigned, expected, assigns⟩ := read
  obtain ⟨before, parted, blankBefore, rfl⟩ := exists_of_afterBlanks? blanks
  obtain rfl := after?_eq_some_iff.1 expected
  obtain ⟨left, blankLeft, split⟩ := exists_blanks assigned
  rw [assignment?] at assigns
  split at assigns
  · rename_i more equals
    obtain ⟨right, blankRight, splitRight⟩ := exists_blanks more
    obtain ⟨opening, closing, opens, closes, filled, quoteless, quoted⟩ :=
      exists_of_quotedValue? assigns
    have blank : ∀ c ∈ before ++ left ++ right, isBlank c = true := by
      simp only [List.forall_mem_append]
      exact ⟨⟨blankBefore, blankLeft⟩, blankRight⟩
    refine ⟨_, .intro parted blank opens closes filled quoteless, ?_⟩
    rw [split, equals, splitRight, quoted]
    simp
  · cases assigns

theorem exists_of_afterEnd? (read : afterEnd? tag text = some rest) :
    ∃ blanks ending, (∀ c ∈ blanks, isBlank c = true) ∧ ending ∈ endings tag ∧
      text = blanks ++ ending ++ rest := by
  obtain ⟨blanks, blank, split⟩ := exists_blanks text
  simp only [afterEnd?, Option.orElse_eq_or, Option.or_eq_some_iff] at read
  rcases read with closed | ⟨_, closed⟩
  · refine ⟨blanks, "/>", blank, by simp [endings], ?_⟩
    rw [List.append_assoc, ← after?_eq_some_iff.1 closed, ← split]
  · refine ⟨blanks, "></" ++ tag ++ ">", blank, by simp [endings], ?_⟩
    rw [List.append_assoc, ← after?_eq_some_iff.1 closed, ← split]

/-- A directive is read exactly where a text begins with one that is spelled. -/
theorem read?_eq_some_iff : read? tag text = some (path, pipelines, rest) ↔
    ∃ span, Spells tag path pipelines span ∧ text = span ++ rest := by
  constructor
  · intro read
    simp only [read?, bind, Option.bind_eq_some_iff] at read
    obtain ⟨opened, tagged, ⟨first, behind⟩, named, read⟩ := read
    obtain rfl := after?_eq_some_iff.1 tagged
    obtain ⟨pathSpan, spellsPath, rfl⟩ := spellsAttribute_of_attribute? named
    dsimp only at read
    split at read
    · rename_i spec further specified
      obtain ⟨specSpan, spellsSpec, rfl⟩ := spellsAttribute_of_attribute? specified
      obtain ⟨_, ended, same⟩ := Option.bind_eq_some_iff.1 read
      cases same
      obtain ⟨blanks, ending, blank, ends, rfl⟩ := exists_of_afterEnd? ended
      exact ⟨_, .intro (.piped spellsPath spellsSpec) blank ends, by simp⟩
    · obtain ⟨_, ended, same⟩ := Option.bind_eq_some_iff.1 read
      cases same
      obtain ⟨blanks, ending, blank, ends, rfl⟩ := exists_of_afterEnd? ended
      exact ⟨_, .intro (.plain spellsPath) blank ends, by simp⟩
  · rintro ⟨span, spells, rfl⟩
    exact read?_of_spells spells rest

theorem Spells.exists_body (spells : Spells tag path pipelines span) :
    ∃ body, span = '<' :: tag ++ body := by
  obtain @⟨attributes, blanks, ending, _, _, _⟩ := spells
  exact ⟨attributes ++ blanks ++ ending, by simp⟩

theorem Spells.length_pos (spells : Spells tag path pipelines span) : 0 < span.length := by
  obtain ⟨body, rfl⟩ := spells.exists_body
  exact Nat.succ_pos _

/-- A text spells at most one directive. -/
theorem Spells.unique {other : Text} {others : Option Text}
    (spells : Spells tag path pipelines span) (again : Spells tag other others span) :
    other = path ∧ others = pipelines := by
  have same := (read?_of_spells again []).symm.trans (read?_of_spells spells [])
  simpa using same

/-! ## One place after another -/

/-- A directive stands in the text where it says, and is spelled there. -/
structure StandsIn (tag text : Text) (directive : Directive) : Prop where
  spells : Spells tag directive.path directive.pipelines directive.span
  splits : text.drop directive.start = directive.span ++ text.drop directive.stop
  ends : directive.stop = directive.start + directive.span.length

/-- What a scan of the text from `position` on comes to: nothing is read before the first directive,
which stands where it is read, and the scan goes on behind it. -/
inductive Scanned (tag text : Text) : Nat → List Directive → Prop where
  | nil {position : Nat} (passed : ∀ i, position ≤ i → read? tag (text.drop i) = none) :
      Scanned tag text position []
  | cons {position : Nat} {directive : Directive} {rest : List Directive}
      (from_position : position ≤ directive.start)
      (passed : ∀ i, position ≤ i → i < directive.start → read? tag (text.drop i) = none)
      (stands : StandsIn tag text directive) (later : Scanned tag text directive.stop rest) :
      Scanned tag text position (directive :: rest)

/-- Where a directive stands, it is read. -/
theorem StandsIn.read? {directive : Directive} (stands : StandsIn tag text directive) :
    read? tag (text.drop directive.start) =
      some (directive.path, directive.pipelines, text.drop directive.stop) :=
  read?_eq_some_iff.2 ⟨directive.span, stands.spells, stands.splits⟩

/-- A directive stands at a place when the cut there is its spelling. -/
theorem standsIn_iff {directive : Directive} : StandsIn tag text directive ↔
    Spells tag directive.path directive.pipelines directive.span ∧
      directive.start < directive.stop ∧ directive.stop ≤ text.length ∧
      text.slice directive.start directive.stop = directive.span := by
  constructor
  · rintro ⟨spells, splits, ends⟩
    have filled := spells.length_pos
    have length := congrArg List.length splits
    rw [List.length_append, List.length_drop, List.length_drop] at length
    refine ⟨spells, by omega, by omega, ?_⟩
    rw [slice, List.drop_take, ends, Nat.add_sub_cancel_left, splits, List.take_left]
  · rintro ⟨spells, ordered, within, cut⟩
    refine ⟨spells, ?_, ?_⟩
    · rw [← cut, slice_append_drop text (Nat.le_of_lt ordered)]
    · rw [← cut, slice, List.length_drop, List.length_take]
      omega

/-- A scan may start earlier as long as nothing is read there. -/
theorem Scanned.earlier {start : Nat} (scanned : Scanned tag text start ds)
    (before : position ≤ start)
    (passed : ∀ i, position ≤ i → i < start → read? tag (text.drop i) = none) :
    Scanned tag text position ds := by
  cases scanned with
  | nil later =>
    refine .nil fun i behind => ?_
    by_cases early : i < start
    · exact passed i behind early
    · exact later i (Nat.le_of_not_lt early)
  | cons from_start later stands rest =>
    refine .cons (Nat.le_trans before from_start) (fun i behind ahead => ?_) stands rest
    by_cases early : i < start
    · exact passed i behind early
    · exact later i (Nat.le_of_not_lt early) ahead

theorem scanned_findFrom (tag before rest : Text) (skip : Nat) :
    Scanned tag (before ++ rest) (before.length + skip) (findFrom tag before.length skip rest) := by
  induction rest generalizing before skip with
  | nil =>
    have done : Scanned tag (before ++ []) (before.length + skip) [] := by
      refine .nil fun i behind => ?_
      rw [List.append_nil, List.drop_eq_nil_of_le (by omega)]
      rfl
    cases skip
    · exact done
    · exact done
  | cons c rest ih =>
    have further (skip : Nat) : Scanned tag (before ++ c :: rest) (before.length + 1 + skip)
        (findFrom tag (before.length + 1) skip rest) := by
      simpa using ih (before ++ [c]) skip
    cases skip with
    | succ skip =>
      rw [findFrom, Nat.add_comm skip 1, ← Nat.add_assoc]
      exact further skip
    | zero =>
      rw [findFrom]
      split
      · rename_i unread
        refine (further 0).earlier (by omega) fun i behind ahead => ?_
        obtain rfl : i = before.length := by omega
        rwa [List.drop_left]
      · rename_i path pipelines after read
        obtain ⟨span, spells, split⟩ := read?_eq_some_iff.1 read
        have size : (c :: rest).length - after.length = span.length := by
          rw [split, List.length_append, Nat.add_sub_cancel]
        have taken : (c :: rest).take span.length = span := by rw [split, List.take_left]
        have here : (before ++ c :: rest).drop before.length = span ++ after := by
          rw [List.drop_left, split]
        have behind : (before ++ c :: rest).drop (before.length + span.length) = after := by
          rw [← List.drop_drop, here, List.drop_left]
        have filled := spells.length_pos
        simp only [size, taken]
        refine .cons (Nat.le_refl _) (fun i from_start ahead => absurd ahead (by dsimp only; omega))
          ⟨spells, by rw [here, behind], rfl⟩ ?_
        have later := further (span.length - 1)
        rwa [show before.length + 1 + (span.length - 1) = before.length + span.length by omega]
          at later

theorem scanned_findAll (tag text : Text) : Scanned tag text 0 (findAll tag text) :=
  scanned_findFrom tag [] text 0

theorem Scanned.laid (scanned : Scanned tag text position ds) : Laid text position ds := by
  induction scanned with
  | nil passed => exact .nil _
  | cons from_position passed stands later ih => exact .cons from_position stands.splits ih

/-- The directives of a text stand one after another. -/
theorem laid_findAll (tag text : Text) : Laid text 0 (findAll tag text) :=
  (scanned_findAll tag text).laid

/-- The scan is determined by what can be read. -/
theorem Scanned.unique {others : List Directive} (scanned : Scanned tag text position ds)
    (again : Scanned tag text position others) : ds = others := by
  induction scanned generalizing others with
  | nil passed =>
    cases again with
    | nil => rfl
    | cons from_position _ stands _ =>
      exact absurd (passed _ from_position) (by simp [stands.read?])
  | @cons position directive rest from_position passed stands later ih =>
    have read := stands.read?
    cases again with
    | nil none => exact absurd (none _ from_position) (by simp [read])
    | @cons _ other more from_position' passed' stands' later' =>
      have read' := stands'.read?
      have start : other.start = directive.start := by
        rcases Nat.lt_trichotomy other.start directive.start with before | same | behind
        · exact absurd (passed _ from_position' before) (by simp [read'])
        · exact same
        · exact absurd (passed' _ from_position behind) (by simp [read])
      rw [start, read] at read'
      simp only [Option.some.injEq, Prod.mk.injEq] at read'
      obtain ⟨path, pipelines, left⟩ := read'
      have span : directive.span = other.span := by
        have splits := stands'.splits
        rw [start, stands.splits, left] at splits
        exact List.append_cancel_right splits
      have stop : directive.stop = other.stop := by rw [stands.ends, stands'.ends, start, span]
      have same : directive = other := by
        cases directive
        cases other
        simp_all
      subst same
      rw [ih later']

/-! ## The whole scan -/

/-- The directives of a text, said without scanning it. The text is its gaps and its directives in
turn; the directives follow one another without overlap; each stands where it says and spells its
path and its pipeline and no others; and no spelling of a directive begins outside of them. -/
structure IsScan (tag text : Text) (ds : List Directive) : Prop where
  text_eq : interleave (gaps text 0 ds) (ds.map Directive.span) = text
  apart : ds.Pairwise fun first second => first.stop ≤ second.start
  stands : ∀ directive ∈ ds, directive.start < directive.stop ∧ directive.stop ≤ text.length ∧
    text.slice directive.start directive.stop = directive.span
  spelled : ∀ directive ∈ ds, ∀ path pipelines,
    Spells tag path pipelines directive.span ↔
      path = directive.path ∧ pipelines = directive.pipelines
  passed : ∀ i, (∀ directive ∈ ds, i < directive.start ∨ directive.stop ≤ i) →
    ∀ path pipelines span, Spells tag path pipelines span → ¬ span <+: text.drop i

theorem Scanned.standsIn {directive : Directive} (scanned : Scanned tag text position ds)
    (listed : directive ∈ ds) : position ≤ directive.start ∧ StandsIn tag text directive := by
  induction scanned with
  | nil passed => cases listed
  | cons from_position passed stands later ih =>
    rcases List.mem_cons.1 listed with rfl | behind
    · exact ⟨from_position, stands⟩
    · obtain ⟨further, found⟩ := ih behind
      have := stands.ends
      exact ⟨by omega, found⟩

theorem Scanned.apart (scanned : Scanned tag text position ds) :
    ds.Pairwise fun first second => first.stop ≤ second.start := by
  induction scanned with
  | nil passed => exact .nil
  | cons from_position passed stands later ih =>
    exact .cons (fun _ behind => (later.standsIn behind).1) ih

/-- Outside of its directives a scan passes over every place. -/
theorem Scanned.unread (scanned : Scanned tag text position ds) {i : Nat} (behind : position ≤ i)
    (outside : ∀ directive ∈ ds, i < directive.start ∨ directive.stop ≤ i) :
    read? tag (text.drop i) = none := by
  induction scanned with
  | nil passed => exact passed i behind
  | cons from_position passed stands later ih =>
    rw [List.forall_mem_cons] at outside
    rcases outside.1 with before | after
    · exact passed i behind before
    · exact ih after outside.2

/-- Directives in order, between which nothing is read, are what a scan comes to. -/
theorem scanned_of_apart (apart : ds.Pairwise fun first second => first.stop ≤ second.start)
    (stands : ∀ directive ∈ ds, position ≤ directive.start ∧ StandsIn tag text directive)
    (unread : ∀ i, position ≤ i → (∀ directive ∈ ds, i < directive.start ∨ directive.stop ≤ i) →
      read? tag (text.drop i) = none) : Scanned tag text position ds := by
  induction ds generalizing position with
  | nil => exact .nil fun i behind => unread i behind (by simp)
  | cons directive rest ih =>
    rw [List.pairwise_cons] at apart
    obtain ⟨⟨from_position, here⟩, others⟩ := List.forall_mem_cons.1 stands
    have ordered := (standsIn_iff.1 here).2.1
    refine .cons from_position (fun i behind before => ?_) here (ih apart.2 ?_ ?_)
    · refine unread i behind (List.forall_mem_cons.2 ⟨.inl before, fun other listed => .inl ?_⟩)
      have := apart.1 other listed
      omega
    · exact fun other listed => ⟨apart.1 other listed, (others other listed).2⟩
    · exact fun i behind outside =>
        unread i (by omega) (List.forall_mem_cons.2 ⟨.inr behind, outside⟩)

/-- Nothing is read at a place exactly if no directive is spelled from there on. -/
theorem read?_eq_none_iff : read? tag text = none ↔
    ∀ path pipelines span, Spells tag path pipelines span → ¬ span <+: text := by
  constructor
  · rintro unread path pipelines span spells ⟨rest, rfl⟩
    simp [read?_of_spells spells rest] at unread
  · intro unspelled
    cases read : read? tag text with
    | none => rfl
    | some found =>
      obtain ⟨path, pipelines, rest⟩ := found
      obtain ⟨span, spells, rfl⟩ := read?_eq_some_iff.1 read
      exact absurd (List.prefix_append span rest) (unspelled _ _ _ spells)

theorem isScan_iff_scanned : IsScan tag text ds ↔ Scanned tag text 0 ds := by
  constructor
  · intro scan
    refine scanned_of_apart scan.apart (fun directive listed => ⟨Nat.zero_le _, ?_⟩)
      fun i _ outside => read?_eq_none_iff.2 (scan.passed i outside)
    have spells := (scan.spelled directive listed _ _).2 ⟨rfl, rfl⟩
    exact standsIn_iff.2 ⟨spells, scan.stands directive listed⟩
  · intro scanned
    refine ⟨scanned.laid.interleave_gaps, scanned.apart, fun directive listed => ?_,
      fun directive listed path pipelines => ?_, fun i outside => read?_eq_none_iff.1 (scanned.unread (Nat.zero_le i) outside)⟩
    · exact (standsIn_iff.1 (scanned.standsIn listed).2).2
    · have spells := (scanned.standsIn listed).2.spells
      exact ⟨spells.unique, fun ⟨path, pipelines⟩ => path ▸ pipelines ▸ spells⟩

/-- Nothing is read from a place in text without the beginning of a directive, if a bracket comes
next. -/
theorem read?_of_unmarked {before after : Text} (single : '<' ∉ tag)
    (unmarked : ¬ '<' :: tag <:+: before) (bracketed : ∀ c ∈ after.head?, c = '<') {i : Nat}
    (within : i < before.length) : read? tag ((before ++ after).drop i) = none := by
  have skips := skips_of_absent ⟨tag, rfl, single⟩ unmarked bracketed
  have unopened : after? ('<' :: tag) (before.drop i ++ after) = none := by
    rw [after?, if_neg]
    rw [List.isPrefixOf_iff_prefix]
    exact skips _ (by simpa using within) (List.drop_suffix i before)
  rw [List.drop_append_of_le_length (Nat.le_of_lt within), read?, unopened]
  rfl

/-- Behind text without the beginning of a directive, a spelled directive is the first one. -/
theorem findAll_of_unmarked {before : Text} (single : '<' ∉ tag)
    (unmarked : ¬ '<' :: tag <:+: before) (spells : Spells tag path pipelines span) (after : Text) :
    findAll tag (before ++ span ++ after) =
      ⟨path, pipelines, span, before.length, before.length + span.length⟩ ::
        findFrom tag (before.length + span.length) 0 after := by
  apply (scanned_findAll tag _).unique
  have bracketed : ∀ c ∈ (span ++ after).head?, c = '<' := by
    obtain ⟨body, rfl⟩ := spells.exists_body
    simp
  have later := scanned_findFrom tag (before ++ span) after 0
  rw [List.length_append, Nat.add_zero] at later
  refine .cons (Nat.zero_le _) (fun i _ within => ?_) ⟨spells, ?_, rfl⟩ later
  · rw [List.append_assoc]
    exact read?_of_unmarked single unmarked bracketed within
  · rw [List.append_assoc, List.drop_left, ← List.drop_drop, List.drop_left, List.drop_left]

/-- A scan finds exactly what is spelled, from left to right: it is the only list of directives in
order that spell what stands in the text and outside of which none is spelled. So a directive that
is spelled behind text without the beginning of one is found with its path and its pipeline. -/
theorem findAll_isScan (tag text : Text) :
    (∀ ds, findAll tag text = ds ↔ IsScan tag text ds) ∧
    ∀ before after path pipelines span, text = before ++ span ++ after →
      '<' ∉ tag → ¬ '<' :: tag <:+: before → Spells tag path pipelines span →
      (findAll tag text).head? =
        some ⟨path, pipelines, span, before.length, before.length + span.length⟩ := by
  have scanned := scanned_findAll tag text
  refine ⟨fun ds => ⟨?_, fun scan => scanned.unique (isScan_iff_scanned.1 scan)⟩, ?_⟩
  · rintro rfl
    exact isScan_iff_scanned.2 scanned
  · rintro before after path pipelines span rfl single unmarked spells
    rw [findAll_of_unmarked single unmarked spells after, List.head?_cons]

/-- Behind an element of another name, a directive is found with blanks of every kind, both quotes
and the long ending. -/
theorem findAll_isScan_spaced :
    let tag := Settings.default.includeTag
    let before : Text := "<content-factory-include path='x' /> "
    let span : Text := "<content-factory-include-file\n path = 'a.md'\tpipelines=\"trim\" >" ++
      "</content-factory-include-file>"
    let text := before ++ span ++ " z"
    ('<' ∉ tag ∧ ¬ '<' :: tag <:+: before ∧ Spells tag "a.md" (some "trim") span) ∧
      IsScan tag text (findAll tag text) ∧
      (findAll tag text).head? =
        some ⟨"a.md", some "trim", span, before.length, before.length + span.length⟩ := by
  intro tag before span text
  have single : '<' ∉ tag := by decide +kernel
  have unmarked : ¬ '<' :: tag <:+: before := by decide +kernel
  have read : read? tag span = some (("a.md" : Text), some ("trim" : Text), []) := by
    decide +kernel
  obtain ⟨spelled, spells, whole⟩ := read?_eq_some_iff.1 read
  obtain rfl : span = spelled := by rw [whole, List.append_nil]
  have scan := findAll_isScan tag text
  exact ⟨⟨single, unmarked, spells⟩, (scan.1 _).1 rfl,
    scan.2 before " z" _ _ span rfl single unmarked spells⟩

/-- A value that would hold a directive ends at its first quote, and the tag around it is none; the
scan goes on within that tag. -/
example : findAll "i" "<i path='<i path=\"b\"/>' />" =
    [⟨"b", none, "<i path=\"b\"/>", 9, 22⟩] := by decide +kernel

end Directive
end DocWeave
