import DocWeave.Text.Numeral
import Mathlib.Algebra.Group.Nat.Defs
import Mathlib.Data.List.TakeWhile

/-! # Integers as they are written

The decimal spelling of an integer is a minus sign, if it is negative, and digits. It is read as the
integer, as long as it has no more digits than are read; then it is no integer literal at all, however
it goes on.
-/

namespace DocWeave

namespace Numeral

open Text

variable {digits : Text}

/-- An integer that has no more digits than are read. -/
def IsShort (n : Int) : Prop := (ofNat n.natAbs).length ≤ digitLimit

instance (n : Int) : Decidable (IsShort n) := inferInstanceAs (Decidable (_ ≤ _))

theorem isShort_iff {n : Int} : IsShort n ↔ n.natAbs < 10 ^ digitLimit :=
  Nat.length_toDigits_le_iff (by decide) (by decide)

theorem IsShort.of_natAbs_le {m n : Int} (short : IsShort n) (below : m.natAbs ≤ n.natAbs) :
    IsShort m :=
  isShort_iff.2 (below.trans_lt (isShort_iff.1 short))

theorem ofInt_eq (n : Int) : ofInt n = (if n < 0 then ['-'] else []) ++ ofNat n.natAbs := by
  cases n with
  | ofNat n => simp [ofInt]
  | negSucc n => simp [ofInt]

theorem isDigit_of_mem_ofNat {c : Char} {n : Nat} (mem : c ∈ ofNat n) : c.isDigit = true :=
  Nat.isDigit_of_mem_toDigits (by decide) (by decide) mem

theorem toNat_of_isDigit {c : Char} (digit : c.isDigit = true) :
    0x30 ≤ c.toNat ∧ c.toNat ≤ 0x39 := by
  simpa [Char.isDigit, UInt32.le_iff_toNat_le] using digit

theorem digit?_of_isDigit {c : Char} (digit : c.isDigit = true) :
    digit? c = some (c.toNat - '0'.toNat) := by
  rw [digit?, if_pos (toNat_of_isDigit digit)]
  rfl

theorem not_isBlank_of_isDigit {c : Char} (digit : c.isDigit = true) : isBlank c = false := by
  obtain ⟨least, most⟩ := toNat_of_isDigit digit
  simp only [isBlank, Bool.or_eq_false_iff, Bool.and_eq_false_iff, decide_eq_false_iff_not,
    beq_eq_false_iff_ne]
  omega

theorem isRunChar_of_isDigit {c : Char} (digit : c.isDigit = true) : isRunChar c = true := by
  rw [isRunChar, digit?_of_isDigit digit, Option.isSome_some, Bool.or_true]

theorem digitRun?_of_isDigit (filled : digits ≠ []) (each : ∀ c ∈ digits, c.isDigit = true) :
    digitRun? digits = some (digits.map fun c => c.toNat - '0'.toNat) := by
  induction digits with
  | nil => exact absurd rfl filled
  | cons c rest ih =>
    obtain ⟨digit, others⟩ := List.forall_mem_cons.1 each
    cases rest with
    | nil => rw [digitRun?, digit?_of_isDigit digit]; rfl
    | cons d rest =>
      have solid : d ≠ '_' := by
        rintro rfl
        exact absurd (others _ List.mem_cons_self) (by decide)
      rw [digitRun?, digit?_of_isDigit digit, ih (List.cons_ne_nil _ _) others]
      · rfl
      · exact solid

theorem valueOfDigits_ofNat (n : Nat) :
    valueOfDigits ((ofNat n).map fun c => c.toNat - '0'.toNat) = n := by
  rw [valueOfDigits, valueInBase, List.foldl_map, ← Nat.ofDigitChars_eq_foldl]
  exact Nat.ofDigitChars_ten_toDigits

theorem sign_ofInt (n : Int) : sign (ofInt n) = (decide (n < 0), ofNat n.natAbs) := by
  rw [ofInt_eq]
  split
  · rename_i negative
    rw [decide_eq_true negative]
    rfl
  · rename_i negative
    obtain ⟨c, rest, written⟩ := List.exists_cons_of_ne_nil (Nat.toDigits_ne_nil (n := n.natAbs) (b := 10))
    have digit : c.isDigit = true := isDigit_of_mem_ofNat (written ▸ List.mem_cons_self)
    have unsigned {d : Char} (sign : d.isDigit = false) (more : Text) : c :: rest ≠ d :: more := by
      rintro same
      rw [(List.cons.inj same).1, sign] at digit
      cases digit
    rw [decide_eq_false negative, List.nil_append, ofNat, written, sign]
    · exact unsigned (by decide)
    · exact unsigned (by decide)

/-- The spelling of an integer has nothing but a minus sign and digits. -/
theorem mem_ofInt {c : Char} {n : Int} (mem : c ∈ ofInt n) : c = '-' ∨ c.isDigit = true := by
  rw [ofInt_eq, List.mem_append] at mem
  rcases mem with minus | digit
  · split at minus
    · exact .inl (List.mem_singleton.1 minus)
    · exact absurd minus List.not_mem_nil
  · exact .inr (isDigit_of_mem_ofNat digit)

theorem ofInt_ne_nil (n : Int) : ofInt n ≠ [] := by
  rw [ofInt_eq]
  exact List.append_ne_nil_of_right_ne_nil _ Nat.toDigits_ne_nil

theorem not_isBlank_of_mem_ofInt {c : Char} {n : Int} (mem : c ∈ ofInt n) : isBlank c = false := by
  rcases mem_ofInt mem with rfl | digit
  · decide
  · exact not_isBlank_of_isDigit digit

theorem not_isMargin_of_mem_ofInt {c : Char} {n : Int} (mem : c ∈ ofInt n) : isMargin c = false := by
  rw [isMargin, not_isBlank_of_mem_ofInt mem, Bool.false_and]

theorem trimMargins_of_solid {text : Text} (solid : ∀ c ∈ text, isMargin c = false) :
    trimMargins text = text := by
  have stays {text : Text} (solid : ∀ c ∈ text, isMargin c = false) : text.dropWhile isMargin = text := by
    cases text with
    | nil => rfl
    | cons c rest => exact List.dropWhile_cons_of_neg (by simp [solid c List.mem_cons_self])
  rw [trimMargins, stays solid, stays (by simpa using solid), List.reverse_reverse]

/-- Reading the spelling of an integer gives the integer, if it has no more digits than are read. -/
theorem read_ofInt (n : Int) : read (ofInt n) =
    if IsShort n then .ok n else .error (.tooLong (ofNat n.natAbs).length) := by
  have filled : ofNat n.natAbs ≠ [] := Nat.toDigits_ne_nil
  have each : ∀ c ∈ ofNat n.natAbs, c.isDigit = true := fun c mem => isDigit_of_mem_ofNat mem
  have run : ∀ c ∈ ofNat n.natAbs, isRunChar c = true := fun c mem => isRunChar_of_isDigit (each c mem)
  rw [read, trimMargins_of_solid fun c mem => not_isMargin_of_mem_ofInt mem, sign_ofInt]
  simp only [List.takeWhile_eq_self_iff.2 run, digitRun?_of_isDigit filled each, List.length_map,
    valueOfDigits_ofNat, List.dropWhile_eq_nil_iff.2 run]
  by_cases short : IsShort n
  · rw [if_pos short, if_neg (Nat.not_lt.2 short)]
    simp only [List.isEmpty_nil, Bool.not_true, Bool.false_eq_true, ↓reduceIte, decide_eq_true_eq]
    congr 1
    split <;> omega
  · rw [if_neg short, if_pos (Nat.not_le.1 short)]

end Numeral

end DocWeave
