import DocWeave.Glob.Pattern

/-! # Positions of faults

A pattern is read with a position in hand, which only says where a fault is. Whether tokens are
read, and to which pieces, is the same from every position.
-/

namespace DocWeave

theorem toOption_bind {ε α β : Type} (result : Except ε α) (next : α → Except ε β) :
    (result >>= next).toOption = result.toOption.bind fun value => (next value).toOption := by
  cases result <;> rfl

namespace CharSet

/-- A mark without its place. -/
def Mark.placeless (m : Mark) : Char × Bool := (m.char, m.escaped)

theorem placeless_marks (first : Bool) (position other : Nat) (text : Text) :
    (marks first position text).1.map Mark.placeless =
        (marks first other text).1.map Mark.placeless ∧
      (marks first position text).2 = (marks first other text).2 := by
  fun_induction marks first position text generalizing other with
  | case1 => exact ⟨rfl, rfl⟩
  | case2 first position c rest more after read ih =>
    obtain ⟨same, left⟩ := ih (other + 2)
    rw [read] at same left
    simp only [marks, List.map_cons]
    exact ⟨congrArg _ same, left⟩
  | case3 first position c rest plain closes =>
    rw [marks, if_pos closes]
    · exact ⟨rfl, rfl⟩
    · exact plain
  | case4 first position c rest plain open' more after read ih =>
    obtain ⟨same, left⟩ := ih (other + 1)
    rw [read] at same left
    rw [marks, if_neg open']
    · simp only [List.map_cons]
      exact ⟨congrArg _ same, left⟩
    · exact plain

theorem toOption_member {m n : Mark} (same : m.placeless = n.placeless) :
    (member m).toOption = (member n).toOption := by
  obtain ⟨chars, escapes⟩ := Prod.mk.inj same
  unfold member
  rw [chars, escapes]
  split <;> rfl

theorem isHyphen_eq {m n : Mark} (same : m.placeless = n.placeless) : m.isHyphen = n.isHyphen := by
  obtain ⟨chars, escapes⟩ := Prod.mk.inj same
  rw [Mark.isHyphen, Mark.isHyphen, chars, escapes]

theorem toOption_rangesOf {found other : List Mark}
    (same : found.map Mark.placeless = other.map Mark.placeless) :
    (rangesOf found).toOption = (rangesOf other).toOption := by
  fun_induction rangesOf found generalizing other with
  | case1 =>
    obtain rfl := List.map_eq_nil_iff.1 same.symm
    rfl
  | case2 m =>
    obtain ⟨m', behind, rfl, first, last⟩ := List.map_eq_cons_iff.1 same.symm
    obtain rfl := List.map_eq_nil_iff.1 last
    simp only [rangesOf, toOption_bind, toOption_member first]
  | case3 m h =>
    obtain ⟨m', behind, rfl, first, next⟩ := List.map_eq_cons_iff.1 same.symm
    obtain ⟨h', further, rfl, second, last⟩ := List.map_eq_cons_iff.1 next
    obtain rfl := List.map_eq_nil_iff.1 last
    simp only [rangesOf, toOption_bind, toOption_member first, toOption_member second]
  | case4 m h n rest hyphen ih =>
    obtain ⟨m', behind, rfl, first, next⟩ := List.map_eq_cons_iff.1 same.symm
    obtain ⟨h', further, rfl, second, last⟩ := List.map_eq_cons_iff.1 next
    obtain ⟨n', rest', rfl, third, left⟩ := List.map_eq_cons_iff.1 last
    have hyphen' : h'.isHyphen = true := (isHyphen_eq second).trans hyphen
    simp only [rangesOf, hyphen', if_true, toOption_bind, toOption_member first,
      toOption_member third]
    congr 1
    funext low
    congr 1
    funext high
    split
    · rfl
    · rw [toOption_bind, toOption_bind, ih left.symm]
  | case5 m h n rest plain ih =>
    obtain ⟨m', behind, rfl, first, next⟩ := List.map_eq_cons_iff.1 same.symm
    obtain ⟨h', further, rfl, second, last⟩ := List.map_eq_cons_iff.1 next
    obtain ⟨n', rest', rfl, third, left⟩ := List.map_eq_cons_iff.1 last
    have plain' : h'.isHyphen = false := (isHyphen_eq second).trans (Bool.not_eq_true _ ▸ plain)
    simp only [rangesOf, plain', Bool.false_eq_true, if_false, toOption_bind, toOption_member first,
      ih next.symm]

/-- Reading a bracket expression goes as well from one position as from another. -/
theorem toOption_read (negated : Bool) (position other : Nat) (text : Text) :
    (read negated position text).toOption = (read negated other text).toOption := by
  obtain ⟨same, left⟩ := placeless_marks true position other text
  simp only [read, toOption_bind, toOption_rangesOf same, left]
  congr 1
  funext ranges
  split <;> rfl

end CharSet

namespace Glob

theorem toOption_closePiece (s : CharSet) (left : Text) (position other : Nat) :
    (closePiece s left position).toOption = (closePiece s left other).toOption := by
  unfold closePiece
  split
  · rfl
  · split <;> rfl

theorem toOption_bracketSet (offset other : Nat) (marked : Text) :
    (bracketSet offset marked).toOption = (bracketSet other marked).toOption := by
  unfold bracketSet
  dsimp only
  split
  · rw [toOption_bind, toOption_bind, CharSet.toOption_read true (offset + 2) (other + 2)]
  · rw [toOption_bind, toOption_bind, CharSet.toOption_read false (offset + 1) (other + 1)]

/-- The pieces of tokens are the same wherever their sources start. -/
theorem toOption_piecesFrom (offset other skip : Nat) (tokens : List Token) :
    (piecesFrom offset skip tokens).toOption = (piecesFrom other skip tokens).toOption := by
  induction tokens generalizing offset other skip with
  | nil => rw [piecesFrom, piecesFrom]
  | cons token rest ih =>
    cases skip with
    | succ skip =>
      rw [piecesFrom, piecesFrom]
      exact ih ..
    | zero =>
      have next (skip : Nat) : (piecesFrom (offset + token.source.length) skip rest).toOption =
          (piecesFrom (other + token.source.length) skip rest).toOption := ih _ _ skip
      cases token with
      | bracket body =>
        rw [piecesFrom, piecesFrom]
        split
        · simp only [toOption_bind, next]
          rw [CharSet.toOption_read true (offset + 2) (other + 2)]
          congr 1
          funext ⟨set, left⟩
          dsimp only
          rw [toOption_closePiece set _ _ (other + (Token.bracket body).source.length + _)]
        · rw [toOption_bind, toOption_bind, toOption_bracketSet offset other]
          simp only [toOption_bind, next]
      | _ => simp only [piecesFrom, toOption_bind, next]

end Glob

end DocWeave
