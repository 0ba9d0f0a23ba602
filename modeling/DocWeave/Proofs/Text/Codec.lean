import DocWeave.Text.Codec

/-! # Reading what has been written

What an encoding writes it can read, and it reads the same text. In UTF-8 this goes character by
character: the first byte of a character tells how many bytes follow, they are in its range, and
together their bits are those of the code point.
-/

namespace DocWeave.Codec

variable {start : Nat} {b : UInt8} {rest after : List UInt8} {count low high value result : Nat}

theorem continuation_cons (isLow : low ≤ b.toNat) (isHigh : b.toNat ≤ high)
    (read : continuation count 0x80 0xBF (value * 0x40 + (b.toNat - 0x80)) rest =
      .ok (result, after)) :
    continuation (count + 1) low high value (b :: rest) = .ok (result, after) := by
  rw [continuation, if_pos ⟨isLow, isHigh⟩, read]

/-- A first byte and the bytes that follow it are read together. -/
theorem decodeUtf8_cons (first : followers? b.toNat = some (count, low, high))
    (read : continuation count low high (leadingBits b.toNat) rest = .ok (value, after)) :
    decodeUtf8 start (b :: rest) =
      match decodeUtf8 (start + 1 + count) after with
      | .ok text => .ok (Char.ofNat value :: text)
      | .error fault => .error fault := by
  rw [decodeUtf8]
  split
  · rename_i none
    rw [first] at none
    cases none
  · rename_i found
    rw [first] at found
    cases found
    split
    · rename_i value' after' ran
      rw [read] at ran
      cases ran
      rfl
    · rename_i ran
      rw [read] at ran
      cases ran
    · rename_i ran
      rw [read] at ran
      cases ran

theorem toNat_ofNat {n : Nat} (isByte : n < 0x100) : (UInt8.ofNat n).toNat = n := by
  simp only [UInt8.toNat_ofNat']
  omega

/-- A continuation byte holds six bits. -/
theorem continuation_ofNat {bits : Nat} (six : bits < 0x40) (isLow : low ≤ 0x80 + bits)
    (isHigh : 0x80 + bits ≤ high)
    (read : continuation count 0x80 0xBF (value * 0x40 + bits) rest = .ok (result, after)) :
    continuation (count + 1) low high value (.ofNat (0x80 + bits) :: rest) =
      .ok (result, after) := by
  have byte : (UInt8.ofNat (0x80 + bits)).toNat = 0x80 + bits := toNat_ofNat (by omega)
  apply continuation_cons
  · rwa [byte]
  · rwa [byte]
  · rwa [byte, Nat.add_sub_cancel_left]

/-- No character is one half of a surrogate pair, and there is a greatest one. -/
theorem toNat_range (c : Char) :
    c.toNat < 0xD800 ∨ 0xDFFF < c.toNat ∧ c.toNat < 0x110000 := by
  rcases c.valid with below | above
  · exact .inl below
  · exact .inr above

theorem followers?_two {n : Nat} (least : 0x80 ≤ n) (most : n < 0x800) :
    followers? (0xC0 + n / 0x40) = some (1, 0x80, 0xBF) := by
  rw [followers?, if_neg (by omega), if_neg (by omega), if_pos (by omega)]

/-- The second byte of three is in the range that goes with the first one. -/
theorem followers?_three {n : Nat} (least : 0x800 ≤ n) (most : n < 0x10000)
    (range : n < 0xD800 ∨ 0xDFFF < n) :
    ∃ low high, followers? (0xE0 + n / 0x1000) = some (2, low, high) ∧
      low ≤ 0x80 + n / 0x40 % 0x40 ∧ 0x80 + n / 0x40 % 0x40 ≤ high := by
  rw [followers?, if_neg (by omega), if_neg (by omega), if_neg (by omega)]
  split
  · exact ⟨_, _, rfl, by omega, by omega⟩
  · split
    · exact ⟨_, _, rfl, by omega, by omega⟩
    · rw [if_pos (by omega)]
      exact ⟨_, _, rfl, by omega, by omega⟩

/-- The second byte of four is in the range that goes with the first one. -/
theorem followers?_four {n : Nat} (least : 0x10000 ≤ n) (most : n < 0x110000) :
    ∃ low high, followers? (0xF0 + n / 0x40000) = some (3, low, high) ∧
      low ≤ 0x80 + n / 0x1000 % 0x40 ∧ 0x80 + n / 0x1000 % 0x40 ≤ high := by
  rw [followers?, if_neg (by omega), if_neg (by omega), if_neg (by omega), if_neg (by omega),
    if_neg (by omega), if_neg (by omega)]
  split
  · exact ⟨_, _, rfl, by omega, by omega⟩
  · split
    · exact ⟨_, _, rfl, by omega, by omega⟩
    · rw [if_pos (by omega)]
      exact ⟨_, _, rfl, by omega, by omega⟩

/-- The first of the bytes announces the others, and these give the rest of the code point. -/
def Spells (bytes : List UInt8) (n : Nat) : Prop :=
  ∃ first others low high, bytes = first :: others ∧
    followers? first.toNat = some (others.length, low, high) ∧
    ∀ rest, continuation others.length low high (leadingBits first.toNat) (others ++ rest) =
      .ok (n, rest)

variable {n : Nat}

theorem spells_one (most : n < 0x80) : Spells [.ofNat n] n := by
  have byte : (UInt8.ofNat n).toNat = n := toNat_ofNat (by omega)
  refine ⟨.ofNat n, [], 0x80, 0xBF, rfl, ?_, fun rest => ?_⟩
  · rw [byte, followers?, if_pos most]
    rfl
  · rw [byte, leadingBits, if_pos most]
    rfl

theorem spells_two (least : 0x80 ≤ n) (most : n < 0x800) :
    Spells [.ofNat (0xC0 + n / 0x40), .ofNat (0x80 + n % 0x40)] n := by
  have byte : (UInt8.ofNat (0xC0 + n / 0x40)).toNat = 0xC0 + n / 0x40 := toNat_ofNat (by omega)
  refine ⟨_, [_], 0x80, 0xBF, rfl, ?_, fun rest => ?_⟩
  · rw [byte]
    exact followers?_two least most
  · rw [byte, leadingBits, if_neg (by omega), if_pos (by omega)]
    apply continuation_ofNat (by omega) (by omega) (by omega)
    refine congrArg (fun whole => Except.ok (whole, rest)) ?_
    omega

theorem spells_three (least : 0x800 ≤ n) (most : n < 0x10000) (range : n < 0xD800 ∨ 0xDFFF < n) :
    Spells [.ofNat (0xE0 + n / 0x1000), .ofNat (0x80 + n / 0x40 % 0x40),
      .ofNat (0x80 + n % 0x40)] n := by
  have byte : (UInt8.ofNat (0xE0 + n / 0x1000)).toNat = 0xE0 + n / 0x1000 :=
    toNat_ofNat (by omega)
  obtain ⟨low, high, first, isLow, isHigh⟩ := followers?_three least most range
  refine ⟨_, [_, _], low, high, rfl, by rw [byte]; exact first, fun rest => ?_⟩
  rw [byte, leadingBits, if_neg (by omega), if_neg (by omega), if_pos (by omega)]
  apply continuation_ofNat (by omega) isLow isHigh
  apply continuation_ofNat (by omega) (by omega) (by omega)
  refine congrArg (fun whole => Except.ok (whole, rest)) ?_
  omega

theorem spells_four (least : 0x10000 ≤ n) (most : n < 0x110000) :
    Spells [.ofNat (0xF0 + n / 0x40000), .ofNat (0x80 + n / 0x1000 % 0x40),
      .ofNat (0x80 + n / 0x40 % 0x40), .ofNat (0x80 + n % 0x40)] n := by
  have byte : (UInt8.ofNat (0xF0 + n / 0x40000)).toNat = 0xF0 + n / 0x40000 :=
    toNat_ofNat (by omega)
  obtain ⟨low, high, first, isLow, isHigh⟩ := followers?_four least most
  refine ⟨_, [_, _, _], low, high, rfl, by rw [byte]; exact first, fun rest => ?_⟩
  rw [byte, leadingBits, if_neg (by omega), if_neg (by omega), if_neg (by omega)]
  apply continuation_ofNat (by omega) isLow isHigh
  apply continuation_ofNat (by omega) (by omega) (by omega)
  apply continuation_ofNat (by omega) (by omega) (by omega)
  refine congrArg (fun whole => Except.ok (whole, rest)) ?_
  omega

/-- A character is written in as many bytes as its code point takes. -/
theorem spells_utf8Bytes (c : Char) : Spells (utf8Bytes c) c.toNat := by
  have range := toNat_range c
  unfold utf8Bytes
  generalize c.toNat = n at range ⊢
  dsimp only
  split
  · exact spells_one ‹_›
  · split
    · exact spells_two (by omega) (by omega)
    · split
      · exact spells_three (by omega) (by omega) (by omega)
      · exact spells_four (by omega) (by omega)

/-- UTF-8 reads back the text that it has written. -/
theorem decodeUtf8_flatMap (text : Text) (start : Nat) :
    decodeUtf8 start (text.flatMap utf8Bytes) = .ok text := by
  induction text generalizing start with
  | nil => rw [List.flatMap_nil, decodeUtf8]
  | cons c text ih =>
    obtain ⟨first, others, low, high, bytes, announced, read⟩ := spells_utf8Bytes c
    rw [List.flatMap_cons, bytes, List.cons_append, decodeUtf8_cons announced (read _), ih,
      Char.ofNat_toNat]

/-- A single-byte encoding reads back the text that it has written. -/
theorem decodeSingle_of_encodeSingle {e : Encoding} {text : Text} {bytes : List UInt8}
    {position : Nat} (written : encodeSingle e position text = .ok bytes) (start : Nat) :
    decodeSingle e start bytes = .ok text := by
  induction text generalizing bytes position start with
  | nil =>
    cases written
    rfl
  | cons c text ih =>
    rw [encodeSingle] at written
    split at written
    · rename_i inRange
      cases further : encodeSingle e (position + 1) text with
      | error fault =>
        rw [further] at written
        cases written
      | ok more =>
        rw [further] at written
        cases written
        have isByte : c.toNat < 0x100 := by
          apply Nat.lt_of_lt_of_le inRange
          cases e <;> decide
        rw [decodeSingle, toNat_ofNat isByte, if_pos inRange, ih further, Char.ofNat_toNat]
    · cases written

/-- An encoding reads back the text that it has written. -/
theorem decode_of_encode {e : Encoding} {text : Text} {bytes : List UInt8}
    (written : encode e text = .ok bytes) : decode e bytes = .ok text := by
  cases e with
  | utf8 =>
    cases written
    exact decodeUtf8_flatMap text 0
  | latin1 => exact decodeSingle_of_encodeSingle written 0
  | ascii => exact decodeSingle_of_encodeSingle written 0

@[simp] theorem decode_nil (e : Encoding) : decode e [] = .ok [] := by
  cases e with
  | utf8 => exact decodeUtf8_flatMap [] 0
  | latin1 => rfl
  | ascii => rfl

end DocWeave.Codec
