import DocWeave.Proofs.Glob.Fixed
import DocWeave.Proofs.Glob.Reading

/-! # Which patterns compile

A bracket expression is refused if one of its ranges runs backwards. One that negates nothing stays
open instead, until a later source closes it: a wildcard, or another bracket expression, which then
lists its own opening bracket as well. It is refused if no source closes it, or if a spanning segment
does, whose source goes on behind its closing bracket. No other pattern is refused.
-/

namespace DocWeave

namespace CharSet

variable {found rest : List (Char × Bool)}

/-- Whether marks have a range that runs backwards, where ranges are told from the left. -/
def isBackward : List (Char × Bool) → Bool
  | low :: hyphen :: high :: rest =>
    if hyphen = ('-', false) then decide (high.1 < low.1) || isBackward rest
    else isBackward (hyphen :: high :: rest)
  | _ => false

/-- What is escaped is no letter and no digit. -/
def AreEscapable (found : List (Char × Bool)) : Prop :=
  ∀ sign ∈ found, sign.2 = true → sign.1.isAlphanum = false

theorem member_of_escapable {m : Mark}
    (escapable : m.placeless.2 = true → m.placeless.1.isAlphanum = false) :
    member m = .ok m.char := by
  unfold member
  rw [if_neg]
  rw [Bool.and_eq_true]
  rintro ⟨escaped, alphanum⟩
  cases alphanum.symm.trans (escapable escaped)

/-- Marks that can be escaped stand for ranges unless one of these runs backwards. -/
theorem isSome_rangesOf {marks : List Mark} (escapable : AreEscapable (marks.map Mark.placeless)) :
    (rangesOf marks).toOption.isSome = !isBackward (marks.map Mark.placeless) := by
  fun_induction rangesOf marks with
  | case1 => rfl
  | case2 m =>
    rw [member_of_escapable (escapable _ List.mem_cons_self)]
    rfl
  | case3 m h =>
    obtain ⟨first, last⟩ := List.forall_mem_cons.1 escapable
    rw [member_of_escapable first, member_of_escapable (last _ List.mem_cons_self)]
    rfl
  | case4 m h n rest hyphen ih =>
    obtain ⟨first, behind⟩ := List.forall_mem_cons.1 escapable
    obtain ⟨last, later⟩ := List.forall_mem_cons.1 (List.forall_mem_cons.1 behind).2
    have plain : h.placeless = ('-', false) := by
      simpa [Mark.isHyphen, Mark.placeless, and_comm] using hyphen
    simp only [List.map_cons, isBackward, plain, if_true, toOption_bind, member_of_escapable first,
      member_of_escapable last]
    show (if n.char < m.char then _ else _ : Except (Text × Nat) _).toOption.isSome =
      !(decide (n.char < m.char) || _)
    by_cases backward : n.char < m.char
    · rw [if_pos backward, decide_eq_true backward]
      rfl
    · rw [if_neg backward, decide_eq_false backward, Bool.false_or, ← ih later, toOption_bind]
      cases (rangesOf rest).toOption <;> rfl
  | case5 m h n rest plain ih =>
    obtain ⟨first, behind⟩ := List.forall_mem_cons.1 escapable
    have other : h.placeless ≠ ('-', false) := by
      simpa [Mark.isHyphen, Mark.placeless, and_comm] using plain
    simp only [List.map_cons, isBackward, other, if_false, toOption_bind, member_of_escapable first]
    rw [← List.map_cons, ← List.map_cons, ← ih behind]
    cases (rangesOf (h :: n :: rest)).toOption <;> rfl

theorem isSome_ranges? (escapable : AreEscapable found) :
    (ranges? found).isSome = !isBackward found := by
  have same : (found.map fun sign => (⟨sign.1, sign.2, 0⟩ : Mark)).map Mark.placeless = found := by
    simp [Mark.placeless, Function.comp_def]
  rw [ranges?, isSome_rangesOf] <;> rw [same]
  exact escapable

/-- A mark before something other than a hyphen begins no range. -/
theorem isBackward_cons (sign : Char × Bool) (clear : found.head? ≠ some ('-', false)) :
    isBackward (sign :: found) = isBackward found := by
  cases found with
  | nil => rfl
  | cons next rest =>
    cases rest with
    | nil => rfl
    | cons third rest =>
      have other : next ≠ ('-', false) := fun same => clear (congrArg some same)
      rw [isBackward, if_neg other]

end CharSet

namespace Glob

open CharSet

/-- Whether a text has a range that runs backwards, where ranges are told from the left. -/
def runsBackward : Text → Bool
  | low :: hyphen :: high :: rest =>
    if hyphen = '-' then decide (high < low) || runsBackward rest
    else runsBackward (hyphen :: high :: rest)
  | _ => false

theorem isBackward_map_sign (text : Text) : isBackward (text.map sign) = runsBackward text := by
  fun_induction runsBackward text with
  | case1 low high rest ih =>
    rw [List.map_cons, List.map_cons, List.map_cons, isBackward, ih]
    rfl
  | case2 low hyphen high rest other ih =>
    have differs : sign hyphen ≠ ('-', false) := fun same => other (Prod.mk.inj same).1
    rw [List.map_cons, List.map_cons, List.map_cons, isBackward, if_neg differs]
    exact ih
  | case3 text short =>
    match text, short with
    | [], _ | [_], _ | [_, _], _ => rfl
    | low :: hyphen :: high :: rest, short => exact absurd rfl (short low hyphen high rest)

theorem areEscapable_map_sign (text : Text) : AreEscapable (text.map sign) := by
  intro found mem escaped
  obtain ⟨c, -, rfl⟩ := List.mem_map.1 mem
  obtain rfl : c = '\\' := by simpa [sign] using escaped
  rfl

/-! ## Expressions that close by themselves -/

variable {body : Text} {token : Token} {tokens rest : List Token}

theorem exists_escaped_eq {text : Text} (some' : text ≠ []) (free : ']' ∉ text) :
    ∃ c behind, escaped text = c :: behind ∧ c ≠ ']' ∧ (c = '^' → text.head? = some '^') := by
  obtain ⟨c, rest, rfl⟩ := List.exists_cons_of_ne_nil some'
  rw [escaped_cons]
  split
  · exact ⟨'\\', _, rfl, by decide, fun same => absurd same (by decide)⟩
  · exact ⟨c, _, rfl, Ne.symm (List.ne_of_not_mem_cons free), fun same => congrArg some same⟩

/-- What stands between the brackets is read mark by mark. -/
theorem toOption_read_escaped {text : Text} (some' : text ≠ []) (free : ']' ∉ text) (negated : Bool)
    (position : Nat) : (CharSet.read negated position (escaped text ++ "]")).toOption =
      (ranges? (text.map sign)).map fun ranges => (⟨negated, ranges⟩, []) := by
  obtain ⟨c, behind, spelled, open', -⟩ := exists_escaped_eq some' free
  have found : signs (escaped text ++ "]") = (text.map sign, some []) := by
    rw [signs_escaped_append free, show signs "]" = ([], some []) from rfl, List.append_nil]
  rw [spelled] at found ⊢
  rw [List.cons_append, toOption_read_cons open', ← List.cons_append, found]
  exact Option.map_eq_bind.symm

theorem members_ne_nil (some' : body ≠ []) (lists : negatesNothing body = false) :
    members body ≠ [] := by
  cases negated : isNegated body with
  | false => rwa [members, negated]
  | true =>
    rw [negatesNothing, negated, Bool.true_and] at lists
    exact fun none => absurd (List.isEmpty_iff.2 none) (Bool.eq_false_iff.1 lists)

/-- A bracket expression that lists something is read unless a range of it runs backwards. -/
theorem isSome_bracketSet (tidy : (Token.bracket body).IsTidy) (lists : negatesNothing body = false) :
    (bracketSet 0 (bracketSource body)).toOption.isSome = !runsBackward (members body) := by
  have some' := members_ne_nil tidy.1 lists
  have free := not_mem_members tidy.2
  have read (negated : Bool) (position : Nat) :
      (CharSet.read negated position (escaped (members body) ++ "]") >>= fun found =>
        pure found.1).toOption.isSome = !runsBackward (members body) := by
    rw [toOption_bind, toOption_read_escaped some' free, ← isBackward_map_sign,
      ← isSome_ranges? (areEscapable_map_sign _)]
    cases ranges? ((members body).map sign) <;> rfl
  rw [bracketSource_eq]
  cases negated : isNegated body with
  | true =>
    have spelled : escaped (signed body) = '^' :: escaped (members body) := by
      rw [signed, if_pos negated, escaped_cons, if_neg (by decide)]
    rw [spelled]
    exact read true 2
  | false =>
    have same : signed body = members body := by
      simp [signed, members, negated]
    obtain ⟨c, behind, spelled, -, caret⟩ := exists_escaped_eq some' free
    have plain : c ≠ '^' := by
      intro first
      have begins := caret first
      rw [members, negated, if_neg Bool.false_ne_true] at begins
      rw [isNegated, begins] at negated
      cases negated
    rw [same, ← read false 1, spelled]
    unfold bracketSet
    split
    · rename_i first
      exact absurd (List.cons.inj first).1 plain
    · rfl

/-! ## Expressions that stay open -/

theorem not_isAlphanum_of_isSpecial {c : Char} (special : isSpecial c = true) :
    c.isAlphanum = false := by
  have none : "()[]\x7b\x7d?*+-|^$\\.&~# \t\n\r\x0b\x0c".toList.all (!·.isAlphanum) = true := by
    decide +kernel
  simpa using List.all_eq_true.1 none c (List.contains_iff_mem.1 special)

theorem Token.areEscapable_marks (token : Token) : AreEscapable token.marks := by
  have plain (text : Text) : AreEscapable (text.map (·, false)) := by
    intro found mem escaped
    obtain ⟨c, -, rfl⟩ := List.mem_map.1 mem
    cases escaped
  cases token with
  | literal c =>
    intro found mem special
    obtain rfl := List.mem_singleton.1 mem
    exact not_isAlphanum_of_isSpecial special
  | bracket body =>
    exact List.forall_mem_cons.2 ⟨fun escaped => absurd escaped Bool.false_ne_true,
      areEscapable_map_sign _⟩
  | one | many | directories | anything => exact plain _
  | slash => exact plain "/"

/-- The marks of a token do not begin with a hyphen that makes a range. -/
theorem Token.head?_marks_append (token : Token) (after : List (Char × Bool)) :
    (token.marks ++ after).head? ≠ some ('-', false) := by
  cases token with
  | literal c =>
    intro same
    obtain ⟨rfl, special⟩ := Prod.mk.inj (Option.some.inj same)
    cases special
  | _ => exact fun same => absurd (congrArg Prod.fst (Option.some.inj same)) (by decide)

/-- An open expression takes up marks that can be escaped, and no hyphen as the first. -/
theorem marks_of_closing {closing : Closing} (closed : closing? tokens = some closing) :
    AreEscapable closing.marks ∧ closing.marks.head? ≠ some ('-', false) := by
  induction tokens generalizing closing with
  | nil => cases closed
  | cons token rest ih =>
    rw [closing?] at closed
    cases closes : token.surplus? with
    | some surplus =>
      rw [closes] at closed
      cases closed
      exact ⟨token.areEscapable_marks, List.append_nil token.marks ▸ token.head?_marks_append []⟩
    | none =>
      rw [closes] at closed
      obtain ⟨later, closedLater, rfl⟩ := Option.map_eq_some_iff.1 closed
      exact ⟨List.forall_mem_append.2 ⟨token.areEscapable_marks, (ih closedLater).1⟩,
        token.head?_marks_append _⟩

/-- An open expression can be closed there: no range of it runs backwards, and its source has at most a
star behind the closing bracket. -/
def Closing.isClean (closing : Closing) : Bool :=
  !isBackward closing.marks && (closing.surplus.isEmpty || closing.surplus == ['*'])

/-- The tokens behind an expression that is still open, where it can be closed. -/
theorem map_snd_openPiece? (tokens : List Token) :
    (openPiece? tokens).map Prod.snd =
      (closing? tokens).bind fun closing => if closing.isClean then some closing.behind else none := by
  unfold openPiece?
  cases closed : closing? tokens with
  | none => rfl
  | some closing =>
    obtain ⟨escapable, clear⟩ := marks_of_closing closed
    have given : (ranges? ((']', false) :: closing.marks)).isSome = !isBackward closing.marks := by
      rw [isSome_ranges?, isBackward_cons _ clear]
      exact List.forall_mem_cons.2 ⟨fun escaped => absurd escaped Bool.false_ne_true, escapable⟩
    rw [Option.bind_some, Option.bind_some, Closing.isClean, ← given]
    cases ranges? ((']', false) :: closing.marks) with
    | none => rfl
    | some ranges =>
      unfold closePiece
      cases closing.surplus.isEmpty with
      | true => rfl
      | false =>
        by_cases star : closing.surplus = ['*']
        · simp [star, Except.toOption]
        · simp [star, Except.toOption]

/-- A token without a closing bracket does not tell how an open expression is closed. -/
theorem map_snd_openPiece?_cons_of_open (open' : token.surplus? = none) (rest : List Token) :
    (openPiece? (token :: rest)).map Prod.snd = (openPiece? rest).map Prod.snd := by
  rw [map_snd_openPiece?, map_snd_openPiece?, closing?, open']
  dsimp only
  cases closed : closing? rest with
  | none => rfl
  | some closing =>
    obtain ⟨-, clear⟩ := marks_of_closing closed
    have same : isBackward (token.marks ++ closing.marks) = isBackward closing.marks := by
      cases token with
      | literal c => exact isBackward_cons _ clear
      | slash => exact isBackward_cons _ clear
      | anything =>
        have first : (('*', false) :: closing.marks).head? ≠ some ('-', false) := by
          simp
        exact (isBackward_cons ('.', false) first).trans (isBackward_cons _ clear)
      | _ => cases open'
    rw [Option.map_some, Option.bind_some, Option.bind_some, Closing.isClean, Closing.isClean, same]

/-- Whether tokens can be read; `within` an expression that negates nothing and is not closed yet. -/
def canRead : (within : Bool) → List Token → Bool
  | within, [] => !within
  | false, .bracket body :: rest =>
    if negatesNothing body then canRead true rest
    else !runsBackward (members body) && canRead false rest
  | true, .bracket body :: rest => !runsBackward ('[' :: signed body) && canRead false rest
  | true, .one :: rest | true, .many :: rest => canRead false rest
  | true, .directories :: _ => false
  | within, _ :: rest => canRead within rest

/-- Tokens are read exactly if they can be, and so are those behind an expression that is still open.
Where such an expression begins, the first needs the second, and where it ends the second the first. -/
theorem isSome_piecesFrom (tidy : ∀ token ∈ tokens, token.IsTidy) :
    (piecesFrom 0 0 tokens).toOption.isSome = canRead false tokens ∧
      ((openPiece? tokens).map Prod.snd).any (fun behind => (piecesFrom 0 0 behind).toOption.isSome) =
        canRead true tokens := by
  induction tokens with
  | nil => exact ⟨rfl, rfl⟩
  | cons token rest ih =>
    obtain ⟨here, others⟩ := List.forall_mem_cons.1 tidy
    obtain ⟨closed, open'⟩ := ih others
    cases token with
    | bracket body =>
      constructor
      · rw [canRead]
        split
        · rename_i negates
          rw [toOption_piecesFrom_open others negates, ← open']
          cases openPiece? rest with
          | none => rfl
          | some found => exact Option.isSome_map
        · rename_i lists
          have lists : negatesNothing body = false := Bool.not_eq_true _ ▸ lists
          have alone : (Token.bracket body).isOpen = false := lists
          rw [toOption_piecesFrom_of_not_isOpen alone, ← closed, ← isSome_bracketSet here lists,
            Token.piece?]
          cases (bracketSet 0 (bracketSource body)).toOption with
          | none => rfl
          | some set => exact Option.isSome_map
      · rw [map_snd_openPiece?, canRead, ← closed, ← isBackward_map_sign]
        show Option.any _ (if (!isBackward _ && true) = true then some rest else none) = _
        rw [Bool.and_true]
        show Option.any _ (if (!isBackward (('[' :: signed body).map sign)) = true then _ else _) = _
        cases isBackward (('[' :: signed body).map sign) <;> rfl
    | one | many =>
      rw [toOption_piecesFrom_of_not_isOpen rfl]
      exact ⟨Option.isSome_map.trans closed, closed⟩
    | directories =>
      rw [toOption_piecesFrom_of_not_isOpen rfl]
      exact ⟨Option.isSome_map.trans closed, rfl⟩
    | literal | slash | anything =>
      rw [toOption_piecesFrom_of_not_isOpen rfl, map_snd_openPiece?_cons_of_open rfl]
      exact ⟨Option.isSome_map.trans closed, open'⟩

/-- Whether a pattern can be read. -/
def isReadable (pattern : Text) : Bool := canRead false (Glob.tokens pattern)

/-- A pattern compiles exactly if it can be read. -/
theorem exists_compile_iff {pattern : Text} :
    (∃ pieces, compile pattern = .ok pieces) ↔ isReadable pattern = true := by
  simp only [compile_eq_ok_iff]
  rw [← Option.isSome_iff_exists, isReadable, Glob.tokens,
    (isSome_piecesFrom (isTidy_tokensOf (segments pattern))).1]

/-- A star closes an expression that negates nothing, a spanning segment does not. -/
example : isReadable "[!]a*.md" = true ∧ isReadable "[!]/**/a.md" = false := by decide +kernel

end Glob

end DocWeave
