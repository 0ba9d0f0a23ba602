import DocWeave.Proofs.Chain.Compose
import DocWeave.Proofs.Text.Pieces
import DocWeave.Proofs.Text.Search
import DocWeave.Proofs.Text.Trim

/-! # How specifications are spelled

A stage is spelled by its name, or by its name and its parameters in parentheses, with commas between
them. Blanks may stand around every name, parameter and parenthesis, and pieces of blanks among the
parameters and among the stages say nothing. Reading goes over a specification twice: the commas
outside of parentheses part the stages, and then every comma between the outermost parentheses of a
stage parts its parameters. Both agree on what is spelled as long as the parentheses of every single
parameter balance: the level is nothing at the commas between stages, and one at all others.
-/

namespace DocWeave

open Text

namespace Chain

/-- Pieces that spell items, in order and with any number of pieces of blanks among them. -/
inductive Lists {α : Type} (spells : α → Text → Prop) : List α → List Text → Prop where
  | nil : Lists spells [] []
  | blank {piece : Text} {items : List α} {pieces : List Text}
      (blank : ∀ c ∈ piece, isBlank c = true) (rest : Lists spells items pieces) :
      Lists spells items (piece :: pieces)
  | item {item : α} {piece : Text} {items : List α} {pieces : List Text}
      (spelled : spells item piece) (rest : Lists spells items pieces) :
      Lists spells (item :: items) (piece :: pieces)

end Chain

namespace StageCall

/-- A segment that spells a stage. -/
inductive Spells : StageCall → Text → Prop where
  | bare {name segment : Text} (pads : Padded name segment) : Spells ⟨name, []⟩ segment
  | applied {name between segment : Text} {params pieces : List Text}
      (blank : ∀ c ∈ between, isBlank c = true) (listed : Chain.Lists Padded params pieces)
      (pads : Padded (name ++ between ++ '(' :: join [','] pieces ++ [')']) segment) :
      Spells ⟨name, params⟩ segment

/-- A stage whose name and parameters can be told apart once they are spelled. -/
@[mk_iff]
structure IsPlain (call : StageCall) : Prop where
  named : call.name ≠ [] ∧ trim call.name = call.name
  free : ',' ∉ call.name ∧ '(' ∉ call.name ∧ ')' ∉ call.name
  params : ∀ param ∈ call.params, (param ≠ [] ∧ trim param = param) ∧
    ',' ∉ param ∧ param.count '(' = param.count ')'

instance (call : StageCall) : Decidable call.IsPlain := decidable_of_iff _ call.isPlain_iff.symm

end StageCall

namespace Chain

/-- A text that spells stages. -/
def Spells (calls : List StageCall) (spec : Text) : Prop :=
  ∃ segments, Lists StageCall.Spells calls segments ∧ spec = join [','] segments

section

variable {α : Type} {spells : α → Text → Prop} {items : List α} {pieces : List Text}

/-- What holds of blanks and of spelled items holds of all pieces. -/
theorem Lists.forall_mem {holds : Text → Prop} (listed : Lists spells items pieces)
    (blank : ∀ piece, (∀ c ∈ piece, isBlank c = true) → holds piece)
    (item : ∀ item ∈ items, ∀ piece, spells item piece → holds piece) :
    ∀ piece ∈ pieces, holds piece := by
  induction listed with
  | nil => exact fun _ mem => absurd mem List.not_mem_nil
  | blank blanks _ ih => exact List.forall_mem_cons.2 ⟨blank _ blanks, ih item⟩
  | item spelled _ ih =>
    obtain ⟨first, others⟩ := List.forall_mem_cons.1 item
    exact List.forall_mem_cons.2 ⟨first _ spelled, ih others⟩

/-- The items come back when blanks are read as nothing and spelled items as they are. -/
theorem Lists.filterMap_eq {read : Text → Option α} (listed : Lists spells items pieces)
    (blank : ∀ piece, (∀ c ∈ piece, isBlank c = true) → read piece = none)
    (item : ∀ item ∈ items, ∀ piece, spells item piece → read piece = some item) :
    pieces.filterMap read = items := by
  induction listed with
  | nil => rfl
  | blank blanks _ ih => rw [List.filterMap_cons_none (blank _ blanks), ih item]
  | item spelled _ ih =>
    obtain ⟨first, others⟩ := List.forall_mem_cons.1 item
    rw [List.filterMap_cons_some (first _ spelled), ih others]

end

/-! ## The level at commas -/

variable {level between after : Int} {first second text : Text} {pieces segments : List Text}

/-- No comma of a text parts a specification that goes on at a level, and behind the text it goes on
at another level. -/
structure Joins (text : Text) (level after : Int) : Prop where
  level_eq : text.foldl levelAfter level = after
  segments_eq (rest : Text) :
    segmentsFrom level (text ++ rest) = (segmentsFrom after rest).modifyHead (text ++ ·)

theorem joins_nil : Joins [] level level where
  level_eq := rfl
  segments_eq _ := (congrFun List.modifyHead_id _).symm

theorem Joins.append (joins : Joins first level between) (later : Joins second between after) :
    Joins (first ++ second) level after where
  level_eq := by rw [List.foldl_append, joins.level_eq, later.level_eq]
  segments_eq rest := by
    rw [List.append_assoc, joins.segments_eq, later.segments_eq, List.modifyHead_modifyHead]
    congr 1
    funext segment
    exact (List.append_assoc ..).symm

theorem joins_singleton {c : Char} (joins : ¬(c = ',' ∧ level = 0)) :
    Joins [c] level (levelAfter level c) where
  level_eq := rfl
  segments_eq rest := by
    rw [List.singleton_append, segmentsFrom, if_neg joins]
    obtain ⟨segment, more, cut⟩ :=
      List.exists_cons_of_ne_nil (segmentsFrom_ne_nil (levelAfter level c) rest)
    rw [cut]
    rfl

theorem joins_of_free (free : ',' ∉ text) : Joins text level (text.foldl levelAfter level) := by
  induction text generalizing level with
  | nil => exact joins_nil
  | cons c text ih =>
    rw [List.mem_cons, not_or] at free
    exact (joins_singleton fun parts => free.1 parts.1.symm).append (ih free.2)

/-- Text without commas in which the parentheses balance, in whatever order. -/
theorem joins_of_balanced (free : ',' ∉ text) (balanced : text.count '(' = text.count ')') :
    Joins text level level := by
  have back : text.foldl levelAfter level = level := by
    rw [foldl_levelAfter, balanced]
    omega
  have joins : Joins text level (text.foldl levelAfter level) := joins_of_free free
  rwa [back] at joins

/-- Within parentheses, commas join as well. -/
theorem joins_join (inside : level ≠ 0)
    (each : ∀ piece ∈ pieces, ',' ∉ piece ∧ piece.count '(' = piece.count ')') :
    Joins (join [','] pieces) level level := by
  induction pieces with
  | nil => exact joins_nil
  | cons piece pieces ih =>
    obtain ⟨⟨free, balanced⟩, others⟩ := List.forall_mem_cons.1 each
    have joins : Joins piece level level := joins_of_balanced free balanced
    cases pieces with
    | nil => rwa [join, List.intercalate_singleton]
    | cons second pieces =>
      rw [join_cons_cons]
      have comma : Joins [','] level level := joins_singleton fun parts => inside parts.2
      exact joins.append (comma.append (ih others))

/-- Segments come back from the specification that they are joined to. -/
theorem segmentsFrom_join (listed : segments ≠ []) (each : ∀ text ∈ segments, Joins text 0 0) :
    segmentsFrom 0 (join [','] segments) = segments := by
  induction segments with
  | nil => exact absurd rfl listed
  | cons first segments ih =>
    obtain ⟨joins, others⟩ := List.forall_mem_cons.1 each
    cases segments with
    | nil =>
      have whole := joins.segments_eq []
      rw [List.append_nil, segmentsFrom, List.modifyHead_cons, List.append_nil] at whole
      rw [join, List.intercalate_singleton, whole]
    | cons second segments =>
      rw [join_cons_cons, joins.segments_eq, segmentsFrom, if_pos ⟨rfl, rfl⟩,
        ih (List.cons_ne_nil _ _) others, List.modifyHead_cons, List.append_nil]

end Chain

namespace StageCall

open Chain

variable {call : StageCall} {name between segment : Text} {params pieces : List Text}

/-! ## Reading one segment -/

theorem ofSegment?_of_blank (blank : ∀ c ∈ segment, isBlank c = true) : ofSegment? segment = none := by
  rw [ofSegment?, trim_of_blank blank]
  rfl

/-- A piece of a list of parameters as it is read. -/
def param? (piece : Text) : Option Text := (some (trim piece)).filter fun param => !param.isEmpty

theorem trimmedPieces_eq (text : Text) :
    trimmedPieces ',' text = (text.splitOn ',').filterMap param? := by
  rw [trimmedPieces, ← List.filterMap_eq_map, List.filter_filterMap]
  rfl

theorem param?_of_blank (blank : ∀ c ∈ segment, isBlank c = true) : param? segment = none := by
  rw [param?, trim_of_blank blank]
  rfl

theorem param?_of_padded {param piece : Text} (named : param ≠ [] ∧ trim param = param)
    (pads : Padded param piece) : param? piece = some param := by
  simp [param?, pads.trim_eq, named]

theorem balanced_of_blank (blank : ∀ c ∈ segment, isBlank c = true) :
    ',' ∉ segment ∧ segment.count '(' = segment.count ')' := by
  refine ⟨not_mem_of_blank (by decide) blank, ?_⟩
  rw [List.count_eq_zero.2 (not_mem_of_blank (by decide) blank),
    List.count_eq_zero.2 (not_mem_of_blank (by decide) blank)]

theorem balanced_of_padded {text padded : Text} (pads : Padded text padded) (free : ',' ∉ text)
    (balanced : text.count '(' = text.count ')') :
    ',' ∉ padded ∧ padded.count '(' = padded.count ')' := by
  rw [← List.count_eq_zero, pads.count_eq (by decide), pads.count_eq (by decide),
    pads.count_eq (by decide), List.count_eq_zero]
  exact ⟨free, balanced⟩

/-- The pieces between parentheses have no commas, and their parentheses balance. -/
theorem balanced_of_lists (listed : Lists Padded params pieces)
    (plain : ∀ param ∈ params, (param ≠ [] ∧ trim param = param) ∧
      ',' ∉ param ∧ param.count '(' = param.count ')') :
    ∀ piece ∈ pieces, ',' ∉ piece ∧ piece.count '(' = piece.count ')' :=
  listed.forall_mem (fun _ => balanced_of_blank) fun param mem _ pads =>
    balanced_of_padded pads (plain param mem).2.1 (plain param mem).2.2

/-- Reading what stands between the parentheses gives the parameters that it spells. -/
theorem trimmedPieces_of_lists (listed : Lists Padded params pieces) (free : ∀ piece ∈ pieces, ',' ∉ piece)
    (named : ∀ param ∈ params, param ≠ [] ∧ trim param = param) :
    trimmedPieces ',' (join [','] pieces) = params := by
  have read := listed.filterMap_eq (fun _ => param?_of_blank) fun param mem _ =>
    param?_of_padded (named param mem)
  cases pieces with
  | nil => exact read
  | cons piece pieces =>
    rw [trimmedPieces_eq, splitOn_join_of_free (List.cons_ne_nil _ _) free, read]

/-- The first opening parenthesis ends the name, and the last character closes the parameters. -/
theorem ofSegment?_of_trim {front inner : Text} (trimmed : trim segment = front ++ '(' :: inner ++ [')'])
    (absent : '(' ∉ front) :
    ofSegment? segment = some ⟨trim front, trimmedPieces ',' inner⟩ := by
  have opens : find? "(" (front ++ '(' :: inner ++ [')']) = some front.length := by
    rw [List.append_assoc, List.cons_append]
    refine (find?_append_of_skips (skips_of_not_mem [] absent)).trans ?_
    rw [find?_of_starts (by simp), Option.map_some, Nat.zero_add]
  have within : (front ++ '(' :: inner ++ [')']).slice (front.length + 1)
      ((front ++ '(' :: inner ++ [')']).length - 1) = inner := by
    have cut := slice_between (front ++ ['(']) inner [')']
    have stop : (front ++ '(' :: inner ++ [')']).length - 1 = front.length + 1 + inner.length := by
      simp only [List.length_append, List.length_cons, List.length_nil]
      omega
    rw [stop]
    simpa using cut
  rw [ofSegment?]
  simp only [trimmed, opens, within]
  rw [if_neg (by simp), if_pos List.getLast?_concat, List.append_assoc, List.take_left]

/-- Reading a segment gives the stage that it spells. -/
theorem ofSegment?_of_spells (plain : call.IsPlain) (spells : call.Spells segment) :
    ofSegment? segment = some call := by
  cases spells with
  | @bare name _ pads =>
    have trimmed : trim segment = name := pads.trim_eq.trans plain.named.2
    have absent : find? "(" name = none := by
      have skips : Skips "(" name [] := skips_of_not_mem [] plain.free.2.1
      simpa [find?_nil] using find?_append_of_skips skips
    rw [ofSegment?]
    simp only [trimmed, absent]
    rw [if_neg (by simpa using plain.named.1)]
  | @applied name between _ params pieces blank listed pads =>
    obtain ⟨c, rest, rfl⟩ := List.exists_cons_of_ne_nil plain.named.1
    have solid : isBlank c = false := solid_of_trim_eq plain.named.2
    have trimmed : trim segment = c :: rest ++ between ++ '(' :: join [','] pieces ++ [')'] :=
      pads.trim_eq.trans (trim_of_solid rfl List.getLast?_concat solid (by decide))
    have absent : '(' ∉ c :: rest ++ between := by
      rw [List.mem_append, not_or]
      exact ⟨plain.free.2.1, not_mem_of_blank (by decide) blank⟩
    have named : trim (c :: rest ++ between) = c :: rest := by
      have pads : Padded (c :: rest) ([] ++ (c :: rest) ++ between) := .intro blank
      exact pads.trim_eq.trans plain.named.2
    have free := fun piece mem => (balanced_of_lists listed plain.params piece mem).1
    rw [ofSegment?_of_trim trimmed absent, named,
      trimmedPieces_of_lists listed free fun param mem => (plain.params param mem).1]

theorem IsPlain.balanced (plain : call.IsPlain) :
    ',' ∉ call.name ∧ call.name.count '(' = call.name.count ')' := by
  refine ⟨plain.free.1, ?_⟩
  rw [List.count_eq_zero.2 plain.free.2.1,
    List.count_eq_zero.2 plain.free.2.2]

/-- No comma of a segment that spells a stage parts the specification. -/
theorem joins_of_spells (plain : call.IsPlain) (spells : call.Spells segment) :
    Joins segment 0 0 := by
  cases spells with
  | bare pads =>
    obtain ⟨free, balanced⟩ := balanced_of_padded pads plain.balanced.1 plain.balanced.2
    exact joins_of_balanced free balanced
  | @applied name between _ params pieces blank listed pads =>
    obtain @⟨before, after, outer⟩ := pads
    rw [List.forall_mem_append] at outer
    have blanks {text : Text} (blank : ∀ c ∈ text, isBlank c = true) : Joins text 0 0 :=
      joins_of_balanced (balanced_of_blank blank).1 (balanced_of_blank blank).2
    have named : Joins name 0 0 := joins_of_balanced plain.balanced.1 plain.balanced.2
    have opens : Joins ['('] 0 1 := joins_singleton (by decide)
    have inner : Joins (join [','] pieces) 1 1 :=
      joins_join (by decide) (balanced_of_lists listed plain.params)
    have closes : Joins [')'] 1 0 := joins_singleton (by decide)
    exact ((blanks outer.1).append (((named.append (blanks blank)).append
      (opens.append inner)).append closes)).append (blanks outer.2)

end StageCall

namespace Chain

variable {segments : List Text}

/-- Reading segments that are joined gives the stages that they spell. -/
theorem parse_join {calls : List StageCall} (plain : ∀ call ∈ calls, call.IsPlain)
    (listed : Lists StageCall.Spells calls segments) : parse (join [','] segments) = calls := by
  have read : segments.filterMap StageCall.ofSegment? = calls :=
    listed.filterMap_eq (fun _ => StageCall.ofSegment?_of_blank) fun call mem _ =>
      StageCall.ofSegment?_of_spells (plain call mem)
  cases segments with
  | nil => exact read
  | cons first segments =>
    have each : ∀ text ∈ first :: segments, Joins text 0 0 :=
      listed.forall_mem (fun _ blank => joins_of_balanced (StageCall.balanced_of_blank blank).1
        (StageCall.balanced_of_blank blank).2) fun call mem _ =>
          StageCall.joins_of_spells (plain call mem)
    rw [parse, segmentsFrom_join (List.cons_ne_nil _ _) each, read]

/-- Reading a specification gives the stages that it spells, in order. -/
theorem parse_spelled {calls : List StageCall} {spec : Text} (plain : ∀ call ∈ calls, call.IsPlain)
    (spells : Spells calls spec) : parse spec = calls := by
  obtain ⟨segments, listed, rfl⟩ := spells
  exact parse_join plain listed

/-- Parameters with parentheses of their own, one of which goes below its level, and two stages
without parameters. -/
def nestedCalls : List StageCall :=
  [⟨"wrap", ["f(x)", ")(", "a b"]⟩, ⟨"trim", []⟩, ⟨"n", []⟩]

/-- The stages between all kinds of blanks, with empty pieces among them and their parameters. -/
def nestedSpec : Text := " wrap ( f(x),, )(\t,a b ),, \n,trim\n,n( )"

theorem parse_spelled_nested : (∀ call ∈ nestedCalls, call.IsPlain) ∧
    Spells nestedCalls nestedSpec ∧ parse nestedSpec = nestedCalls := by
  have plain : ∀ call ∈ nestedCalls, call.IsPlain := by decide
  have blank {text : Text} (all : text.all isBlank = true) : ∀ c ∈ text, isBlank c = true :=
    List.all_eq_true.1 all
  have listed : Lists Padded ["f(x)".toList, ")(".toList, "a b".toList]
      [" f(x)".toList, [], " )(\t".toList, "a b ".toList] :=
    .item (@Padded.intro _ " ".toList [] (blank rfl)) <|
    .blank (blank rfl) <|
    .item (@Padded.intro _ " ".toList "\t".toList (blank rfl)) <|
    .item (@Padded.intro _ [] " ".toList (blank rfl)) .nil
  have spells : Spells nestedCalls nestedSpec := by
    refine ⟨[" wrap ( f(x),, )(\t,a b )".toList, [], " \n".toList, "trim\n".toList, "n( )".toList],
      ?_, rfl⟩
    refine .item (@StageCall.Spells.applied _ " ".toList _ _ _ (blank rfl) listed ?_) ?_
    · exact @Padded.intro _ " ".toList [] (blank rfl)
    refine .blank (blank rfl) (.blank (blank rfl) (.item (.bare ?_) (.item ?_ .nil)))
    · exact @Padded.intro _ [] "\n".toList (blank rfl)
    · exact @StageCall.Spells.applied _ [] _ _ [" ".toList] (blank rfl)
        (.blank (blank rfl) .nil) (@Padded.intro _ [] [] (blank rfl))
  exact ⟨plain, spells, parse_spelled plain spells⟩

end Chain

end DocWeave
