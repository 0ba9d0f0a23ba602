import DocWeave.Proofs.Chain.Heading
import DocWeave.Proofs.Chain.Spelling
import DocWeave.Proofs.Chain.Turn
import DocWeave.Proofs.Text.Numeral

/-! # Pipelines of adjustments

A pipeline that adjusts headings again and again leaves what the moves leave, one after another. A
move is spelled in decimal, and one with more digits than are read is no move at all: the stage fails,
and the content stays.
-/

namespace DocWeave

open Text Numeral Stage

namespace Stage

/-- The move that the spelling of an integer asks for. -/
def moveOf (shift : Int) : Int := if IsShort shift then shift else 0

theorem moveOf_zero : moveOf 0 = 0 := ite_self 0

theorem moveOf_neg (shift : Int) : moveOf (-shift) = -moveOf shift := by
  have same : IsShort (-shift) ↔ IsShort shift := by
    rw [isShort_iff, isShort_iff, Int.natAbs_neg]
  by_cases short : IsShort shift
  · rw [moveOf, if_pos (same.2 short), moveOf, if_pos short]
  · rw [moveOf, if_neg (short ∘ same.1), moveOf, if_neg short, Int.neg_zero]

/-- Moves in one direction add up as they are spelled, if the sum is read as soon as one of them is. -/
theorem adjusted_moveOf_add {m n : Int} (sameSign : 0 ≤ m ∧ 0 ≤ n ∨ m ≤ 0 ∧ n ≤ 0)
    (short : IsShort m ∨ IsShort n → IsShort (m + n)) (content : Text) :
    adjusted (moveOf n) (adjusted (moveOf m) content) = adjusted (moveOf (m + n)) content := by
  by_cases sum : IsShort (m + n)
  · have first : IsShort m := sum.of_natAbs_le (by omega)
    have second : IsShort n := sum.of_natAbs_le (by omega)
    rw [moveOf, if_pos second, moveOf, if_pos first, moveOf, if_pos sum]
    exact adjusted_add sameSign content
  · obtain ⟨first, second⟩ := not_or.1 fun either => sum (short either)
    rw [moveOf, if_neg second, moveOf, if_neg first, moveOf, if_neg sum, adjusted_zero]

theorem intParam_ofInt (n : Int) : intParam (ofInt n) =
    if IsShort n then .ok n else .error (.numeral (.tooLong (ofNat n.natAbs).length)) := by
  rw [intParam, read_ofInt]
  split
  · rfl
  · rfl

theorem adjustHeadings_of_ok {context : StageContext} {param : Text} {shift : Int}
    (asked : context.params = [param]) (read : intParam param = .ok shift) :
    adjustHeadings context = .done (.record (some (adjusted shift context.content))) := by
  unfold adjustHeadings
  rw [asked]
  simp only [read]
  rfl

theorem adjustHeadings_of_error {context : StageContext} {param : Text} {failure : Failure}
    (asked : context.params = [param]) (read : intParam param = .error failure) :
    adjustHeadings context = .fail failure := by
  unfold adjustHeadings
  rw [asked]
  simp only [read]
  rfl

end Stage

namespace Chain

/-- The stage that moves headings. -/
def adjustment (shift : Int) : StageCall := ⟨"adjust-headings", [ofInt shift]⟩

/-- The specification of moves in a row. -/
def adjustments (shifts : List Int) : Text :=
  join ", " (shifts.map fun shift => "adjust-headings(" ++ ofInt shift ++ ")")

variable {env : Environment}

theorem isPlain_adjustment (shift : Int) : (adjustment shift).IsPlain where
  named := (by decide : ("adjust-headings" : Text) ≠ [] ∧ trim "adjust-headings" = "adjust-headings")
  free := (by decide : ',' ∉ ("adjust-headings" : Text) ∧ '(' ∉ ("adjust-headings" : Text) ∧
    ')' ∉ ("adjust-headings" : Text))
  params := by
    intro param mem
    obtain rfl := List.mem_singleton.1 mem
    have absent (c : Char) (digit : c.isDigit = false) (minus : c ≠ '-') : c ∉ ofInt shift := by
      intro mem
      rcases mem_ofInt mem with rfl | other
      · exact minus rfl
      · rw [digit] at other
        cases other
    have trimmed : trim (ofInt shift) = ofInt shift :=
      trim_of_solid (List.head?_eq_some_head (ofInt_ne_nil shift))
        (List.getLast?_eq_some_getLast (ofInt_ne_nil shift))
        (not_isBlank_of_mem_ofInt (List.head_mem _)) (not_isBlank_of_mem_ofInt (List.getLast_mem _))
    refine ⟨⟨ofInt_ne_nil shift, trimmed⟩, absent ',' (by decide) (by decide), ?_⟩
    rw [List.count_eq_zero.2 (absent '(' (by decide) (by decide)),
      List.count_eq_zero.2 (absent ')' (by decide) (by decide))]

/-- A move may have blanks before it. -/
theorem spells_adjustment (before : Text) (blank : ∀ c ∈ before, isBlank c = true) (shift : Int) :
    (adjustment shift).Spells (before ++ ("adjust-headings(" ++ ofInt shift ++ ")")) := by
  have listed : Lists Padded [ofInt shift] [ofInt shift] :=
    .item (padded_of_blank (List.forall_mem_nil _)) .nil
  have shape : ("adjust-headings(" ++ ofInt shift ++ ")" : Text) =
      ("adjust-headings" : Text) ++ [] ++ '(' :: join [','] [ofInt shift] ++ [')'] := by
    rw [join, List.intercalate_singleton]
    rfl
  rw [shape]
  exact .applied (List.forall_mem_nil _) listed (padded_of_blank blank)

/-- Reading the specification gives the moves in a row. -/
theorem parse_adjustments (shifts : List Int) : parse (adjustments shifts) = shifts.map adjustment := by
  cases shifts with
  | nil => rfl
  | cons shift rest =>
    have later : Lists StageCall.Spells (rest.map adjustment)
        (rest.map fun shift => ' ' :: ("adjust-headings(" ++ ofInt shift ++ ")")) := by
      induction rest with
      | nil => exact .nil
      | cons shift rest ih => exact .item (spells_adjustment [' '] (List.all_eq_true.1 rfl) shift) ih
    rw [adjustments, List.map_cons, join_comma, List.map_map]
    apply parse_join
    · intro call mem
      obtain ⟨shift, -, rfl⟩ := List.mem_map.1 mem
      exact isPlain_adjustment shift
    · exact .item (spells_adjustment [] (List.forall_mem_nil _) shift) later

/-- What the stage leaves: a move that is not read leaves what is given. -/
theorem outcome_runStage_adjustment
    (registered : env.registry.find? "adjust-headings" = some adjustHeadings) (content : Text)
    (shift : Int) :
    (runStage env content (adjustment shift)).outcome = .ok (adjusted (moveOf shift) content) := by
  let turn : Turn := ⟨adjustment shift, content⟩
  have read := intParam_ofInt shift
  by_cases short : IsShort shift
  · rw [if_pos short] at read
    have left := @runStage_of_done _ turn _ _ registered (adjustHeadings_of_ok rfl read)
    rw [moveOf, if_pos short]
    exact congrArg Trace.outcome left
  · rw [if_neg short] at read
    have left := @runStage_of_fail _ turn _ _ registered (adjustHeadings_of_error rfl read)
    rw [moveOf, if_neg short, adjusted_zero]
    exact congrArg Trace.outcome left

/-- A pipeline of moves leaves what the moves leave, one after another. -/
theorem outcome_run_adjustments
    (registered : env.registry.find? "adjust-headings" = some adjustHeadings) (content : Text)
    (shifts : List Int) :
    (run env content (adjustments shifts)).outcome =
      .ok (shifts.foldl (fun given shift => adjusted (moveOf shift) given) content) := by
  rw [run, parse_adjustments]
  induction shifts generalizing content with
  | nil => rfl
  | cons shift rest ih =>
    exact Trace.outcome_andThen_eq_ok_iff.2
      ⟨_, outcome_runStage_adjustment registered content shift, ih _⟩

theorem map_unlevelled_foldl (shifts : List Int) (content : Text) :
    ((shifts.foldl (fun given shift => adjusted (moveOf shift) given) content).splitOn '\n').map
      unlevelled = (content.splitOn '\n').map unlevelled := by
  induction shifts generalizing content with
  | nil => rfl
  | cons shift rest ih => rw [List.foldl_cons, ih, map_unlevelled_adjusted]

/-- Moves of headings in one direction add up, if the sum is read as soon as one of them is. A move by
nothing changes nothing, and neither does a move together with the move back, if it keeps every heading
within the bounds. However often headings are moved, all lines stay, and of every line all but the
level of the heading that it is. -/
theorem run_adjustments (registered : env.registry.find? "adjust-headings" = some adjustHeadings)
    (content : Text) :
    (∀ m n : Int, (0 ≤ m ∧ 0 ≤ n ∨ m ≤ 0 ∧ n ≤ 0) → (IsShort m ∨ IsShort n → IsShort (m + n)) →
      ∃ left, (run env content (adjustments [m, n])).outcome = .ok left ∧
        (run env content (adjustments [m + n])).outcome = .ok left) ∧
    (run env content (adjustments [0])).outcome = .ok content ∧
    (∀ n : Int, (∀ i level, IsHeading (content.splitOn '\n') i level → 1 ≤ level + n ∧ level + n ≤ 6) →
      (run env content (adjustments [n, -n])).outcome = .ok content) ∧
    ∀ shifts : List Int, ∃ left, (run env content (adjustments shifts)).outcome = .ok left ∧
      (left.splitOn '\n').map unlevelled = (content.splitOn '\n').map unlevelled := by
  have outcome := outcome_run_adjustments registered content
  refine ⟨?_, ?_, ?_, ?_⟩
  · intro m n sameSign short
    have both := outcome [m, n]
    rw [List.foldl_cons, List.foldl_cons, adjusted_moveOf_add sameSign short] at both
    exact ⟨_, both, outcome [m + n]⟩
  · have nothing := outcome [0]
    rwa [List.foldl_cons, moveOf_zero, adjusted_zero] at nothing
  · intro n within
    have back := outcome [n, -n]
    rw [List.foldl_cons, List.foldl_cons, moveOf_neg] at back
    refine back.trans (congrArg Except.ok ?_)
    by_cases short : IsShort n
    · rw [moveOf, if_pos short]
      exact adjusted_neg within
    · rw [moveOf, if_neg short, adjusted_zero]
      exact adjusted_zero content
  · exact fun shifts => ⟨_, outcome shifts, map_unlevelled_foldl shifts content⟩

theorem builtin_adjustHeadings : builtin.registry.find? "adjust-headings" = some adjustHeadings := rfl

/-- Headings of two levels, and a line in a block that looks like one. -/
def fenced : Text := "## a\n~~~\n# b\n~~~\n#\tc # d\n#e"

theorem isHeading_fenced {i level : Nat} (heading : IsHeading (fenced.splitOn '\n') i level) :
    level = 1 ∨ level = 2 := by
  obtain ⟨outside, found⟩ := heading
  have lines : (fenced.splitOn '\n').length = 6 := by decide
  have each : ∀ i < 6, IsOutside (fenced.splitOn '\n') i →
      ∀ level ∈ (fenced.splitOn '\n')[i]?.bind headingLevel?, level = 1 ∨ level = 2 := by decide
  obtain ⟨line, there, -⟩ := Option.bind_eq_some_iff.1 found
  exact each i (lines ▸ (List.getElem?_eq_some_iff.1 there).1) outside level found

theorem run_adjustments_fenced :
    builtin.registry.find? "adjust-headings" = some adjustHeadings ∧
    (∃ left, (run builtin fenced (adjustments [3, 4])).outcome = .ok left ∧
      (run builtin fenced (adjustments [3 + 4])).outcome = .ok left) ∧
    (run builtin fenced (adjustments [4, -4])).outcome = .ok fenced := by
  obtain ⟨add, -, back, -⟩ := run_adjustments builtin_adjustHeadings fenced
  refine ⟨builtin_adjustHeadings, add 3 4 (by decide) fun _ => by decide, back 4 fun i level heading => ?_⟩
  rcases isHeading_fenced heading with rfl | rfl
  · decide
  · decide

/-- A number with as many digits as are read, so that its double has one more. -/
def longest : Nat := 5 * 10 ^ (digitLimit - 1)

theorem le_longest : 5 ≤ longest := Nat.le_mul_of_pos_right 5 (Nat.pow_pos (by decide))

theorem isShort_longest : IsShort longest ∧ ¬IsShort (longest + longest) := by
  have limit : 10 ^ digitLimit = 10 * 10 ^ (digitLimit - 1) := (mul_pow_sub_one (by decide) 10).symm
  have positive : 0 < 10 ^ (digitLimit - 1) := Nat.pow_pos (by decide)
  have double : ((longest : Int) + longest).natAbs = 2 * longest := by omega
  rw [isShort_iff, isShort_iff, double, Int.natAbs_natCast, limit, longest]
  omega

theorem adjusted_of_far {shift : Int} (far : 5 ≤ shift) : adjusted shift "# a" = "###### a" := by
  have level : shiftLevel shift 1 = 6 := by
    unfold shiftLevel
    omega
  have moved := @shiftHeading_signs 1 ' ' (by decide) (by decide) shift "a"
  rw [level] at moved
  have lines : splitOn '\n' "# a" = [List.replicate 1 '#' ++ ' ' :: "a"] := by decide
  rw [adjusted, overLines, lines, shiftHeadings, if_neg (by decide), if_neg (by decide), moved]
  rfl

/-- The double is not read, though the number is. -/
theorem run_adjustments_longest :
    (run builtin "# a" (adjustments [longest, longest])).outcome = .ok "###### a" ∧
    (run builtin "# a" (adjustments [longest + longest])).outcome = .ok "# a" := by
  obtain ⟨short, long⟩ := isShort_longest
  have far := le_longest
  constructor
  · rw [outcome_run_adjustments builtin_adjustHeadings]
    simp only [List.foldl_cons, List.foldl_nil, moveOf, if_pos short]
    rw [adjusted_add (by omega), adjusted_of_far (by omega)]
  · rw [outcome_run_adjustments builtin_adjustHeadings]
    simp only [List.foldl_cons, List.foldl_nil, moveOf, if_neg long, adjusted_zero]

end Chain

end DocWeave
