/-! # Texts

A text is the list of its code points, so that every position, count and cut is in code points.
This module has the searches and cuts that the rest of the library is written with.
-/

namespace DocWeave

/-- A sequence of code points. -/
abbrev Text := List Char

/-- A string literal stands for its code points. -/
instance : Coe String Text := ⟨String.toList⟩

namespace Text

/-- The position of the first occurrence of `needle`. -/
def find? (needle : Text) : Text → Option Nat
  | [] => if needle.isEmpty then some 0 else none
  | c :: rest => if needle.isPrefixOf (c :: rest) then some 0 else (find? needle rest).map (· + 1)

/-- The position of the first occurrence of `needle` that starts at `start` or later. -/
def findFrom? (needle text : Text) (start : Nat) : Option Nat :=
  if text.length < start then none else (find? needle (text.drop start)).map (· + start)

/-- The code points from `start` up to but not including `stop`. -/
def slice (text : Text) (start stop : Nat) : Text := (text.take stop).drop start

/-- A position counted from the end when negative, and never before the start. -/
def position (text : Text) (index : Int) : Nat :=
  if 0 ≤ index then index.toNat else (text.length + index).toNat

/-- The pieces between the code points that satisfy `isSeparator`; always at least one. -/
def splitWhere (isSeparator : Char → Bool) : Text → List Text
  | [] => [[]]
  | c :: rest =>
    if isSeparator c then [] :: splitWhere isSeparator rest
    else match splitWhere isSeparator rest with
      | [] => [[c]]
      | piece :: pieces => (c :: piece) :: pieces

/-- The pieces between the occurrences of `separator`; always at least one. -/
def splitOn (separator : Char) (text : Text) : List Text := splitWhere (· == separator) text

/-- The pieces with `separator` between neighbours. -/
def join (separator : Text) (pieces : List Text) : Text := separator.intercalate pieces

/-- Every occurrence of a code point exchanged for a text. -/
def substitute (c : Char) (replacement : Text) (text : Text) : Text :=
  text.flatMap fun d => if d == c then replacement else [d]

/-- The decimal digits of a number. -/
def ofNat (n : Nat) : Text := Nat.toDigits 10 n

/-- The decimal digits of an integer, after a minus sign when it is negative. -/
def ofInt : Int → Text
  | .ofNat n => ofNat n
  | .negSucc n => '-' :: ofNat (n + 1)

theorem find?_add_length_le {needle text : Text} {i : Nat} (found : find? needle text = some i) :
    i + needle.length ≤ text.length := by
  induction text generalizing i with
  | nil =>
    unfold find? at found
    split at found
    · rename_i empty
      cases found
      simp_all
    · simp at found
  | cons c rest ih =>
    unfold find? at found
    split at found
    · rename_i matched
      cases found
      simpa using (List.isPrefixOf_iff_prefix.1 matched).length_le
    · obtain ⟨j, later, rfl⟩ := Option.map_eq_some_iff.1 found
      have := ih later
      simp only [List.length_cons]
      omega

theorem le_of_findFrom? {needle text : Text} {start i : Nat}
    (found : findFrom? needle text start = some i) :
    start ≤ i ∧ i + needle.length ≤ text.length := by
  unfold findFrom? at found
  split at found
  · simp at found
  · obtain ⟨j, later, rfl⟩ := Option.map_eq_some_iff.1 found
    have := find?_add_length_le later
    simp only [List.length_drop] at this
    omega

theorem splitWhere_ne_nil (isSeparator : Char → Bool) (text : Text) :
    splitWhere isSeparator text ≠ [] := by
  cases text with
  | nil => simp [splitWhere]
  | cons c rest =>
    unfold splitWhere
    split
    · simp
    · split <;> simp

/-- What the pieces of `splitWhere` are free of. -/
theorem not_isSeparator_of_mem_splitWhere {isSeparator : Char → Bool} {text piece : Text} {c : Char}
    (piece_mem : piece ∈ splitWhere isSeparator text) (c_mem : c ∈ piece) :
    isSeparator c = false := by
  induction text generalizing piece with
  | nil => simp_all [splitWhere]
  | cons d rest ih =>
    unfold splitWhere at piece_mem
    split at piece_mem
    · rcases List.mem_cons.1 piece_mem with rfl | later
      · simp at c_mem
      · exact ih later c_mem
    · rename_i plain
      split at piece_mem
      · simp_all
      · rename_i first pieces split
        rw [split] at ih
        rcases List.mem_cons.1 piece_mem with rfl | later
        · rcases List.mem_cons.1 c_mem with rfl | inside
          · simpa using plain
          · exact ih (List.mem_cons_self ..) inside
        · exact ih (List.mem_cons_of_mem _ later) c_mem

end Text

end DocWeave
