import DocWeave.Chain.Stage
import DocWeave.Proofs.Text.Pieces
import DocWeave.Proofs.Text.Trim
import Mathlib.Algebra.Group.Nat.Even
import Mathlib.Data.List.TakeWhile

/-! # Headings that are moved

A line whose level is moved is a heading again, of the new level and with the same text, and it opens
no fenced block. So headings may be moved again and again: each time the same lines are headings, and
what becomes of a line depends on the line alone and on whether the fences before it are even in
number.
-/

namespace DocWeave

open Text

namespace Stage

variable {line rest : Text} {level : Nat} {shift : Int}

/-! ## One heading -/

theorem ne_sign_of_isBlank {c : Char} (blank : isBlank c = true) : c ≠ '#' := by
  rintro rfl
  exact absurd blank (by decide)

/-- A heading is one to six number signs before a blank. -/
theorem headingLevel?_eq_some_iff : headingLevel? line = some level ↔
    (1 ≤ level ∧ level ≤ 6) ∧ ∃ c rest, isBlank c = true ∧
      line = List.replicate level '#' ++ c :: rest := by
  constructor
  · intro found
    have parts := List.takeWhile_append_dropWhile (p := (· == '#')) (l := line)
    have signs : line.takeWhile (· == '#') =
        List.replicate (line.takeWhile (· == '#')).length '#' :=
      List.eq_replicate_of_mem fun c mem => by simpa using List.mem_takeWhile_imp mem
    have behind : line.drop (line.takeWhile (· == '#')).length = line.dropWhile (· == '#') :=
      (congrArg (List.drop _) parts).symm.trans List.drop_left
    unfold headingLevel? at found
    simp only [behind, Option.ite_none_right_eq_some, Option.some.injEq] at found
    obtain ⟨⟨least, most, blank⟩, rfl⟩ := found
    cases next : line.dropWhile (· == '#') with
    | nil => simp [next] at blank
    | cons c rest =>
      refine ⟨⟨least, most⟩, c, rest, by simpa [next] using blank, ?_⟩
      rw [← signs, ← next, parts]
  · rintro ⟨bounds, c, rest, blank, rfl⟩
    have signs : (List.replicate level '#' ++ c :: rest).takeWhile (· == '#') =
        List.replicate level '#' := by
      rw [List.takeWhile_append_of_pos (by simp),
        List.takeWhile_cons_of_neg (by simp [ne_sign_of_isBlank blank]), List.append_nil]
    rw [headingLevel?, signs]
    simp [bounds, blank]

/-- A heading is moved as a whole: its text stays. -/
theorem shiftHeading_signs {c : Char} (bounds : 1 ≤ level ∧ level ≤ 6) (blank : isBlank c = true)
    (shift : Int) (rest : Text) : shiftHeading shift (List.replicate level '#' ++ c :: rest) =
      List.replicate (shiftLevel shift level) '#' ++ c :: rest := by
  rw [shiftHeading, headingLevel?_eq_some_iff.2 ⟨bounds, c, rest, blank, rfl⟩]
  simp

theorem shiftHeading_of_none (found : headingLevel? line = none) (shift : Int) :
    shiftHeading shift line = line := by
  rw [shiftHeading, found]

theorem le_shiftLevel (shift : Int) (level : Nat) :
    1 ≤ shiftLevel shift level ∧ shiftLevel shift level ≤ 6 := by
  unfold shiftLevel
  omega

/-- A heading that is moved is a heading of the new level. -/
theorem headingLevel?_shiftHeading (shift : Int) (line : Text) :
    headingLevel? (shiftHeading shift line) = (headingLevel? line).map (shiftLevel shift) := by
  cases found : headingLevel? line with
  | none => rw [shiftHeading_of_none found, found, Option.map_none]
  | some level =>
    obtain ⟨bounds, c, rest, blank, rfl⟩ := headingLevel?_eq_some_iff.1 found
    rw [shiftHeading_signs bounds blank, Option.map_some]
    exact headingLevel?_eq_some_iff.2 ⟨le_shiftLevel shift level, c, rest, blank, rfl⟩

/-- Moving a heading twice is moving it once, if both levels together make the level of the one
move. -/
theorem shiftHeading_shiftHeading {first second both : Int}
    (levels : ∀ level, headingLevel? line = some level →
      shiftLevel second (shiftLevel first level) = shiftLevel both level) :
    shiftHeading second (shiftHeading first line) = shiftHeading both line := by
  cases found : headingLevel? line with
  | none => rw [shiftHeading_of_none found, shiftHeading_of_none found, shiftHeading_of_none found]
  | some level =>
    have same := levels level found
    obtain ⟨bounds, c, rest, blank, rfl⟩ := headingLevel?_eq_some_iff.1 found
    rw [shiftHeading_signs bounds blank, shiftHeading_signs (le_shiftLevel first level) blank,
      shiftHeading_signs bounds blank, same]

theorem shiftHeading_zero (line : Text) : shiftHeading 0 line = line := by
  cases found : headingLevel? line with
  | none => exact shiftHeading_of_none found 0
  | some level =>
    obtain ⟨bounds, c, rest, blank, rfl⟩ := headingLevel?_eq_some_iff.1 found
    have same : shiftLevel 0 level = level := by
      unfold shiftLevel
      omega
    rw [shiftHeading_signs bounds blank, same]

/-- A line apart from its level: whether it is a heading, and what stands behind its signs if it
is. -/
def unlevelled (line : Text) : Bool × Text :=
  if (headingLevel? line).isSome then (true, line.dropWhile (· == '#')) else (false, line)

theorem unlevelled_signs {c : Char} (bounds : 1 ≤ level ∧ level ≤ 6) (blank : isBlank c = true)
    (rest : Text) : unlevelled (List.replicate level '#' ++ c :: rest) = (true, c :: rest) := by
  have behind : (List.replicate level '#' ++ c :: rest).dropWhile (· == '#') = c :: rest := by
    rw [List.dropWhile_append_of_pos (by simp),
      List.dropWhile_cons_of_neg (by simp [ne_sign_of_isBlank blank])]
  rw [unlevelled, headingLevel?_eq_some_iff.2 ⟨bounds, c, rest, blank, rfl⟩, behind, Option.isSome_some,
    if_pos rfl]

/-- Nothing but the level of a line is moved. -/
theorem unlevelled_shiftHeading (shift : Int) (line : Text) :
    unlevelled (shiftHeading shift line) = unlevelled line := by
  cases found : headingLevel? line with
  | none => rw [shiftHeading_of_none found]
  | some level =>
    obtain ⟨bounds, c, rest, blank, rfl⟩ := headingLevel?_eq_some_iff.1 found
    rw [shiftHeading_signs bounds blank, unlevelled_signs (le_shiftLevel shift level) blank,
      unlevelled_signs bounds blank]

/-! ## Fences -/

/-- A line that begins with a number sign neither opens nor closes a block. -/
theorem isFence_cons_sign (rest : Text) : isFence ('#' :: rest) = false := by
  rw [isFence, trimLeft_cons_of_solid (by decide)]
  rfl

theorem isFence_of_heading (found : headingLevel? line = some level) : isFence line = false := by
  obtain ⟨⟨least, -⟩, c, rest, -, rfl⟩ := headingLevel?_eq_some_iff.1 found
  obtain ⟨fewer, rfl⟩ := Nat.exists_eq_add_of_le' least
  rw [List.replicate_succ, List.cons_append, isFence_cons_sign]

theorem headingLevel?_of_isFence (fence : isFence line = true) : headingLevel? line = none := by
  by_contra found
  obtain ⟨level, found⟩ := Option.ne_none_iff_exists'.1 found
  rw [isFence_of_heading found] at fence
  cases fence

/-- Moving headings neither makes nor removes fences. -/
theorem isFence_shiftHeading (shift : Int) (line : Text) :
    isFence (shiftHeading shift line) = isFence line := by
  cases found : headingLevel? line with
  | none => rw [shiftHeading_of_none found]
  | some level =>
    have moved : headingLevel? (shiftHeading shift line) = some (shiftLevel shift level) := by
      rw [headingLevel?_shiftHeading, found, Option.map_some]
    rw [isFence_of_heading found, isFence_of_heading moved]

/-! ## All lines -/

/-- The fences before a line are even in number, so that none is open if each of them opens or closes
a block. -/
def IsOutside (lines : List Text) (i : Nat) : Prop := Even ((lines.take i).countP isFence)

instance (lines : List Text) (i : Nat) : Decidable (IsOutside lines i) :=
  inferInstanceAs (Decidable (Even _))

/-- A line that is taken for a heading of a level, since none of the fences before it is open. -/
def IsHeading (lines : List Text) (i level : Nat) : Prop :=
  IsOutside lines i ∧ lines[i]?.bind headingLevel? = some level

theorem getElem?_shiftHeadings_from (shift : Int) (fenced : Bool) (lines : List Text) (i : Nat) :
    (shiftHeadings shift fenced lines)[i]? = lines[i]?.map fun line =>
      if Even ((lines.take i).countP isFence + fenced.toNat) then shiftHeading shift line
      else line := by
  induction lines generalizing fenced i with
  | nil => rfl
  | cons line rest ih =>
    rw [shiftHeadings]
    cases i with
    | zero =>
      by_cases fence : isFence line = true
      · rw [if_pos fence]
        simp [shiftHeading_of_none (headingLevel?_of_isFence fence)]
      · rw [if_neg fence]
        cases fenced <;> simp
    | succ i =>
      by_cases fence : isFence line = true
      · rw [if_pos fence, List.getElem?_cons_succ, ih, List.getElem?_cons_succ, List.take_succ_cons,
          List.countP_cons_of_pos fence]
        -- The fence turns the flag for the rest, or counts among the fences before the line.
        have parity (n : Nat) : Even (n + (!fenced).toNat) ↔ Even (n + 1 + fenced.toNat) := by
          cases fenced <;> simp [Nat.even_add_one]
        simp only [parity]
      · rw [if_neg fence, List.getElem?_cons_succ, ih, List.getElem?_cons_succ, List.take_succ_cons,
          List.countP_cons_of_neg fence]

/-- What becomes of a line depends on the line and on the fences before it. -/
theorem getElem?_shiftHeadings (shift : Int) (lines : List Text) (i : Nat) :
    (shiftHeadings shift false lines)[i]? = lines[i]?.map fun line =>
      if IsOutside lines i then shiftHeading shift line else line :=
  getElem?_shiftHeadings_from shift false lines i

/-- What moving a heading keeps of it, moving headings keeps of all lines. -/
theorem map_shiftHeadings {α : Type} {kept : Text → α}
    (keeps : ∀ shift line, kept (shiftHeading shift line) = kept line) (shift : Int) (fenced : Bool)
    (lines : List Text) : (shiftHeadings shift fenced lines).map kept = lines.map kept := by
  induction lines generalizing fenced with
  | nil => rfl
  | cons line rest ih =>
    rw [shiftHeadings]
    split
    · rw [List.map_cons, ih, List.map_cons]
    · rw [List.map_cons, ih, List.map_cons]
      split
      · rfl
      · rw [keeps]

/-- Moving headings leaves what is outside of blocks as it is. -/
theorem isOutside_shiftHeadings (shift : Int) (lines : List Text) (i : Nat) :
    IsOutside (shiftHeadings shift false lines) i ↔ IsOutside lines i := by
  have count (lines : List Text) :
      (lines.take i).countP isFence = ((lines.map isFence).take i).countP id := by
    rw [← List.map_take, List.countP_map]
    rfl
  rw [IsOutside, count, map_shiftHeadings isFence_shiftHeading, ← count, IsOutside]

/-- Moving headings twice is moving them once if it is for every heading outside of blocks. -/
theorem shiftHeadings_shiftHeadings {first second both : Int} {lines : List Text}
    (each : ∀ i line, lines[i]? = some line → IsOutside lines i →
      shiftHeading second (shiftHeading first line) = shiftHeading both line) :
    shiftHeadings second false (shiftHeadings first false lines) = shiftHeadings both false lines := by
  apply List.ext_getElem?
  intro i
  rw [getElem?_shiftHeadings, getElem?_shiftHeadings, getElem?_shiftHeadings, Option.map_map]
  apply Option.map_congr
  intro line found
  simp only [Function.comp_apply, isOutside_shiftHeadings]
  split
  · exact each i line found ‹_›
  · rfl

theorem shiftHeadings_zero (fenced : Bool) (lines : List Text) :
    shiftHeadings 0 fenced lines = lines := by
  induction lines generalizing fenced with
  | nil => rfl
  | cons line rest ih => rw [shiftHeadings, ih, ih, shiftHeading_zero, ite_self, ite_self]

/-! ## Texts -/

/-- A text with the levels of its headings moved. -/
def adjusted (shift : Int) (content : Text) : Text := overLines (shiftHeadings shift false) content

variable {content : Text}

theorem mem_shiftHeading {c : Char} (mem : c ∈ shiftHeading shift line) : c = '#' ∨ c ∈ line := by
  unfold shiftHeading at mem
  split at mem
  · exact .inr mem
  · rw [List.mem_append] at mem
    exact mem.imp List.eq_of_mem_replicate List.mem_of_mem_drop

/-- The lines of a text that has been adjusted are its lines, adjusted. -/
theorem splitOn_adjusted (shift : Int) (content : Text) :
    (adjusted shift content).splitOn '\n' = shiftHeadings shift false (content.splitOn '\n') := by
  have length : (shiftHeadings shift false (content.splitOn '\n')).length =
      (content.splitOn '\n').length := by
    simpa using congrArg List.length
      (map_shiftHeadings isFence_shiftHeading shift false (content.splitOn '\n'))
  apply splitOn_join_of_free
  · intro empty
    rw [empty, List.length_nil, eq_comm, List.length_eq_zero_iff] at length
    exact splitWhere_ne_nil _ content length
  · intro line mem unbroken
    obtain ⟨i, found⟩ := List.mem_iff_getElem?.1 mem
    rw [getElem?_shiftHeadings, Option.map_eq_some_iff] at found
    obtain ⟨source, found, rfl⟩ := found
    have free : '\n' ∉ source := not_mem_of_mem_splitOn (List.mem_of_getElem? found)
    split at unbroken
    · rcases mem_shiftHeading unbroken with sign | inside
      · cases sign
      · exact free inside
    · exact free unbroken

theorem adjusted_adjusted {first second both : Int}
    (each : ∀ i line, (content.splitOn '\n')[i]? = some line → IsOutside (content.splitOn '\n') i →
      shiftHeading second (shiftHeading first line) = shiftHeading both line) :
    adjusted second (adjusted first content) = adjusted both content := by
  rw [adjusted, overLines, splitOn_adjusted, shiftHeadings_shiftHeadings each]
  rfl

/-- A text that has been adjusted has its lines, apart from their levels. -/
theorem map_unlevelled_adjusted (shift : Int) (content : Text) :
    ((adjusted shift content).splitOn '\n').map unlevelled =
      (content.splitOn '\n').map unlevelled := by
  rw [splitOn_adjusted, map_shiftHeadings unlevelled_shiftHeading]

theorem adjusted_zero (content : Text) : adjusted 0 content = content := by
  rw [adjusted, overLines, shiftHeadings_zero]
  exact join_splitOn '\n' content

/-- Moves in one direction add up, since only the last one of them meets the bound. -/
theorem adjusted_add {m n : Int} (sameSign : 0 ≤ m ∧ 0 ≤ n ∨ m ≤ 0 ∧ n ≤ 0) (content : Text) :
    adjusted n (adjusted m content) = adjusted (m + n) content := by
  apply adjusted_adjusted
  intro i line _ _
  apply shiftHeading_shiftHeading
  intro level found
  have bounds := (headingLevel?_eq_some_iff.1 found).1
  unfold shiftLevel
  omega

/-- A move that keeps every heading within the bounds can be taken back. -/
theorem adjusted_neg {n : Int}
    (within : ∀ i level, IsHeading (content.splitOn '\n') i level → 1 ≤ level + n ∧ level + n ≤ 6) :
    adjusted (-n) (adjusted n content) = content := by
  refine Eq.trans (adjusted_adjusted fun i line found outside => ?_) (adjusted_zero content)
  apply shiftHeading_shiftHeading
  intro level heading
  have bounds := (headingLevel?_eq_some_iff.1 heading).1
  have room := within i level ⟨outside, by rw [found]; exact heading⟩
  unfold shiftLevel
  omega

end Stage

end DocWeave
