import DocWeave.Proofs.Chain.Adjust

/-! # Fenced blocks

A block opens at a line of three or more ticks or tildes and ends at the first line behind it of as
many of the same, or with the text. The lines between may look like fences as well: there are too few
signs on them, or others. Moving headings does not know what has opened a block and takes every such
stray for an end or a beginning. So the lines of a block are left alone as long as the strays before
them are even in number, and behind an odd number of strays its headings are moved.
-/

namespace DocWeave

open Text

namespace Stage

/-- The sign of fences besides the tilde. -/
def tick : Char := '\x60'

/-- How often a sign is repeated at the beginning of a line, behind blanks. -/
def signs (mark : Char) (line : Text) : Nat := ((trimLeft line).takeWhile (· == mark)).length

/-- What opens a block. -/
structure Fence where
  mark : Char
  length : Nat
  marked : mark = tick ∨ mark = '~'
  long : 3 ≤ length

/-- The fence that a line is outside of blocks. -/
def fence? (line : Text) : Option Fence :=
  if long : 3 ≤ signs tick line then some ⟨tick, signs tick line, .inl rfl, long⟩
  else if long : 3 ≤ signs '~' line then some ⟨'~', signs '~' line, .inr rfl, long⟩
  else none

/-- Whether a line ends the block that a fence has opened. -/
def Fence.closes (fence : Fence) (line : Text) : Bool := fence.length ≤ signs fence.mark line

/-- What has opened the block behind a line, if there is one. -/
def openAfter (opened : Option Fence) (line : Text) : Option Fence :=
  match opened with
  | none => fence? line
  | some fence => if fence.closes line then none else some fence

/-- What has opened the block that a line is in or ends. -/
def openBefore (lines : List Text) (i : Nat) : Option Fence := (lines.take i).foldl openAfter none

/-- A line that opens a block, is inside of one or ends one. -/
def InBlock (lines : List Text) (i : Nat) : Prop :=
  (openBefore lines i).isSome = true ∨ (openBefore lines (i + 1)).isSome = true

instance (lines : List Text) (i : Nat) : Decidable (InBlock lines i) :=
  inferInstanceAs (Decidable (_ ∨ _))

/-- Whether a line inside of a block looks like a fence. -/
def isStray (opened : Option Fence) (line : Text) : Bool :=
  opened.any fun fence => isFence line && !fence.closes line

/-- How many lines inside of blocks look like fences. -/
def strays (opened : Option Fence) : List Text → Nat
  | [] => 0
  | line :: rest => (isStray opened line).toNat + strays (openAfter opened line) rest

variable {line : Text} {lines : List Text} {i : Nat}

/-! ## One line -/

theorem isPrefixOf_replicate (mark : Char) (n : Nat) (text : Text) :
    (List.replicate n mark).isPrefixOf text = decide (n ≤ (text.takeWhile (· == mark)).length) := by
  induction n generalizing text with
  | zero => simp
  | succ n ih =>
    cases text with
    | nil => simp [List.replicate_succ]
    | cons c text =>
      rw [List.replicate_succ, List.isPrefixOf_cons_cons, ih]
      by_cases same : c = mark
      · simp [same]
      · simp [same, Ne.symm same]

/-- A line looks like a fence if it begins with three ticks or three tildes. -/
theorem isFence_eq (line : Text) :
    isFence line = (decide (3 ≤ signs tick line) || decide (3 ≤ signs '~' line)) := by
  rw [isFence, signs, signs, ← isPrefixOf_replicate, ← isPrefixOf_replicate]
  rfl

theorem isSome_fence? (line : Text) : (fence? line).isSome = isFence line := by
  rw [isFence_eq, fence?]
  split
  · simp [*]
  · split
    · simp [*]
    · simp [*]

/-- What ends a block looks like a fence. -/
theorem isFence_of_closes {fence : Fence} (closes : fence.closes line = true) :
    isFence line = true := by
  have enough : 3 ≤ signs fence.mark line := fence.long.trans (of_decide_eq_true closes)
  rw [isFence_eq, Bool.or_eq_true, decide_eq_true_iff, decide_eq_true_iff]
  rcases fence.marked with mark | mark
  · exact .inl (mark ▸ enough)
  · exact .inr (mark ▸ enough)

/-- A line that looks like a fence is a stray, or it opens or ends a block. -/
theorem even_of_line (opened : Option Fence) (line : Text) :
    Even ((isFence line).toNat + (isStray opened line).toNat + opened.isSome.toNat +
      (openAfter opened line).isSome.toNat) := by
  cases opened with
  | none =>
    have stray : isStray none line = false := rfl
    rw [openAfter, isSome_fence?, stray, Option.isSome_none]
    cases isFence line <;> decide
  | some fence =>
    have stray : isStray (some fence) line = (isFence line && !fence.closes line) := rfl
    have after : (openAfter (some fence) line).isSome = !fence.closes line := by
      rw [openAfter]
      cases fence.closes line <;> rfl
    rw [after, stray, Option.isSome_some]
    cases closes : fence.closes line with
    | true =>
      rw [isFence_of_closes closes]
      decide
    | false => cases isFence line <;> decide

/-! ## Lines in a row -/

/-- All lines that look like fences are strays, or they open or end blocks. -/
theorem even_of_lines (opened : Option Fence) (lines : List Text) :
    Even (lines.countP isFence + strays opened lines + opened.isSome.toNat +
      (lines.foldl openAfter opened).isSome.toNat) := by
  induction lines generalizing opened with
  | nil =>
    rw [List.countP_nil, strays, List.foldl_nil]
    exact ⟨opened.isSome.toNat, by omega⟩
  | cons line rest ih =>
    have first := even_of_line opened line
    have later := ih (openAfter opened line)
    rw [Nat.even_iff] at first later ⊢
    rw [List.countP_cons, strays, List.foldl_cons]
    have here : (if isFence line = true then 1 else 0) = (isFence line).toNat := by
      cases isFence line <;> rfl
    omega

/-- A line inside of a block is taken to be outside of blocks if the strays before it are odd in
number. -/
theorem isOutside_iff (inside : (openBefore lines i).isSome = true) :
    IsOutside lines i ↔ ¬Even (strays none (lines.take i)) := by
  have parity := even_of_lines none (lines.take i)
  rw [show ((lines.take i).foldl openAfter none).isSome = true from inside, Nat.even_iff] at parity
  rw [IsOutside, Nat.even_iff, Nat.even_iff]
  simp only [Option.isSome_none, Bool.toNat_false, Bool.toNat_true] at parity
  omega

/-- A line of a block is left alone behind an even number of strays, and moved behind an odd number. -/
theorem getElem?_shiftHeadings_of_inBlock (shift : Int) (found : lines[i]? = some line)
    (inside : InBlock lines i) : (shiftHeadings shift false lines)[i]? =
      some (if Even (strays none (lines.take i)) then line else shiftHeading shift line) := by
  rw [getElem?_shiftHeadings, found, Option.map_some]
  cases before : (openBefore lines i) with
  | some fence =>
    have outside := isOutside_iff (Option.isSome_iff_exists.2 ⟨fence, before⟩)
    simp only [outside, ite_not]
  | none =>
    -- The line opens the block, so it is no heading.
    have opens : (openAfter none line).isSome = true := by
      have after : openBefore lines (i + 1) = openAfter none line := by
        rw [openBefore, List.take_add_one, found, List.foldl_append]
        exact congrArg (openAfter · line) before
      rcases inside with inside | inside
      · rw [before] at inside
        cases inside
      · rwa [after] at inside
    rw [openAfter, isSome_fence?] at opens
    rw [shiftHeading_of_none (headingLevel?_of_isFence opens), ite_self, ite_self]

/-- Every heading can be moved in one direction or the other. -/
theorem exists_shiftHeading_ne {level : Nat} (found : headingLevel? line = some level) :
    ∃ shift, moveOf shift = shift ∧ shiftHeading shift line ≠ line := by
  have bounds := (headingLevel?_eq_some_iff.1 found).1
  have moves {shift : Int} (other : shiftLevel shift level ≠ level) : shiftHeading shift line ≠ line := by
    intro same
    have moved := headingLevel?_shiftHeading shift line
    rw [same, found, Option.map_some, Option.some.injEq] at moved
    exact other moved.symm
  by_cases last : level = 6
  · exact ⟨-1, by decide, moves (by unfold shiftLevel; omega)⟩
  · exact ⟨1, by decide, moves (by unfold shiftLevel; omega)⟩

end Stage

namespace Chain

open Stage

variable {env : Environment} {content line : Text} {i : Nat}

/-- Moving headings leaves a line of a block alone if the strays before it are even in number. Behind an
odd number of strays it moves the line as it moves headings outside of blocks. So no move changes the
line if and only if the strays before it are even in number or the line is no heading anyway. -/
theorem run_adjustment_of_inBlock
    (registered : env.registry.find? "adjust-headings" = some adjustHeadings)
    (found : (content.splitOn '\n')[i]? = some line) (inside : InBlock (content.splitOn '\n') i) :
    (∀ n : Int, ∃ left, (run env content (adjustments [n])).outcome = .ok left ∧
      (left.splitOn '\n')[i]? = some
        (if Even (strays none ((content.splitOn '\n').take i)) then line
          else shiftHeading (moveOf n) line)) ∧
    ((∀ n : Int, ∃ left, (run env content (adjustments [n])).outcome = .ok left ∧
      (left.splitOn '\n')[i]? = some line) ↔
        Even (strays none ((content.splitOn '\n').take i)) ∨ headingLevel? line = none) := by
  have outcome (n : Int) := outcome_run_adjustments registered content [n]
  have moved (n : Int) : ((adjusted (moveOf n) content).splitOn '\n')[i]? = some
      (if Even (strays none ((content.splitOn '\n').take i)) then line
        else shiftHeading (moveOf n) line) := by
    rw [splitOn_adjusted]
    exact getElem?_shiftHeadings_of_inBlock (moveOf n) found inside
  refine ⟨fun n => ⟨_, outcome n, moved n⟩, fun kept => ?_, fun safe n => ⟨_, outcome n, ?_⟩⟩
  · by_contra exposed
    obtain ⟨odd, heading⟩ := not_or.1 exposed
    obtain ⟨level, heading⟩ := Option.ne_none_iff_exists'.1 heading
    obtain ⟨n, short, other⟩ := exists_shiftHeading_ne heading
    obtain ⟨left, ended, same⟩ := kept n
    obtain rfl := Except.ok.inj ((outcome n).symm.trans ended)
    have both := (moved n).symm.trans same
    rw [if_neg odd, short, Option.some.injEq] at both
    exact other both
  · refine (moved n).trans (congrArg some ?_)
    rcases safe with even | none
    · exact if_pos even
    · rw [shiftHeading_of_none none, ite_self]

/-- A block of four ticks with two strays, each before a line that looks like a heading. -/
def strayed : Text := "````\n```\n# a\n~~~\n# b\n````"

theorem run_adjustment_of_inBlock_strayed :
    builtin.registry.find? "adjust-headings" = some adjustHeadings ∧
    (strayed.splitOn '\n')[4]? = some ("# b" : Text) ∧ InBlock (strayed.splitOn '\n') 4 ∧
    ∀ n : Int, ∃ left, (run builtin strayed (adjustments [n])).outcome = .ok left ∧
      (left.splitOn '\n')[4]? = some ("# b" : Text) := by
  have found : (strayed.splitOn '\n')[4]? = some ("# b" : Text) := by decide
  have inside : InBlock (strayed.splitOn '\n') 4 := by decide
  have even : Even (strays none ((strayed.splitOn '\n').take 4)) := by decide
  have unmoved := (run_adjustment_of_inBlock builtin_adjustHeadings found inside).2.2 (.inl even)
  exact ⟨builtin_adjustHeadings, found, inside, unmoved⟩

/-- Behind the first stray, a line of the block is moved. -/
theorem run_adjustment_strayed :
    (strayed.splitOn '\n')[2]? = some ("# a" : Text) ∧ InBlock (strayed.splitOn '\n') 2 ∧
    (run builtin strayed (adjustments [1])).outcome = .ok "````\n```\n## a\n~~~\n# b\n````" := by
  refine ⟨by decide, by decide, ?_⟩
  rw [outcome_run_adjustments builtin_adjustHeadings]
  decide

end Chain

end DocWeave
