import DocWeave.Proofs.Glob.Position
import DocWeave.Proofs.Text.Search

/-! # How tokens are read

A token is read by itself, but for a bracket expression that negates nothing. That one stays open and
takes up the sources of the tokens after it, up to the first source that has a closing bracket. What
it takes up is known from these tokens, so that tokens that can be read are read the same whatever
comes after them.
-/

namespace DocWeave

namespace CharSet

variable {negated : Bool} {position : Nat} {text : Text}

/-- The marks of an expression behind its first, without their places, and the text after its
closing bracket. -/
def signs (text : Text) : List (Char × Bool) × Option Text :=
  ((marks false 0 text).1.map Mark.placeless, (marks false 0 text).2)

theorem signs_eq (position : Nat) (text : Text) :
    ((marks false position text).1.map Mark.placeless, (marks false position text).2) = signs text := by
  obtain ⟨same, left⟩ := placeless_marks false position 0 text
  rw [signs, same, left]

theorem signs_close (rest : Text) : signs (']' :: rest) = ([], some rest) := rfl

theorem signs_backslash (c : Char) (rest : Text) :
    signs ('\\' :: c :: rest) = ((c, true) :: (signs rest).1, (signs rest).2) := by
  rw [← signs_eq 2 rest]
  rfl

theorem signs_cons {c : Char} (open' : c ≠ ']') (plain : c ≠ '\\') (rest : Text) :
    signs (c :: rest) = ((c, false) :: (signs rest).1, (signs rest).2) := by
  rw [← signs_eq 1 rest, signs, marks]
  · simp [open', Mark.placeless]
  · exact fun _ _ escape => absurd escape plain

/-- Characters that neither close an expression nor escape what follows are marks of their own. -/
theorem signs_append {text : Text} (open' : ']' ∉ text) (plain : '\\' ∉ text) (after : Text) :
    signs (text ++ after) = (text.map (·, false) ++ (signs after).1, (signs after).2) := by
  induction text with
  | nil => rfl
  | cons c rest ih =>
    rw [List.cons_append, signs_cons (Ne.symm (List.ne_of_not_mem_cons open'))
      (Ne.symm (List.ne_of_not_mem_cons plain)), ih (List.not_mem_of_not_mem_cons open')
      (List.not_mem_of_not_mem_cons plain)]
    rfl

/-- The ranges that marks without places stand for. -/
def ranges? (found : List (Char × Bool)) : Option (List (Char × Char)) :=
  (rangesOf (found.map fun sign => ⟨sign.1, sign.2, 0⟩)).toOption

theorem toOption_rangesOf_eq (found : List Mark) :
    (rangesOf found).toOption = ranges? (found.map Mark.placeless) := by
  apply toOption_rangesOf
  simp [Mark.placeless, Function.comp_def]

/-- What reading comes to, from the marks that are found. -/
theorem toOption_read_of_marks {found : List (Char × Bool)} {after : Option Text}
    (same : (marks true position text).1.map Mark.placeless = found)
    (left : (marks true position text).2 = after) :
    (read negated position text).toOption =
      (ranges? found).bind fun ranges => after.map fun rest => (⟨negated, ranges⟩, rest) := by
  simp only [read, toOption_bind, toOption_rangesOf_eq, same, left]
  congr 1
  funext ranges
  cases after <;> rfl

/-- A closing bracket in the first place is a mark. -/
theorem toOption_read_close (negated : Bool) (position : Nat) (rest : Text) :
    (read negated position (']' :: rest)).toOption =
      (ranges? ((']', false) :: (signs rest).1)).bind fun ranges =>
        (signs rest).2.map fun left => (⟨negated, ranges⟩, left) := by
  rw [← signs_eq (position + 1) rest]
  exact toOption_read_of_marks rfl rfl

/-- Any other first mark is read like a later one. -/
theorem toOption_read_cons {c : Char} (open' : c ≠ ']') (negated : Bool) (position : Nat)
    (rest : Text) : (read negated position (c :: rest)).toOption =
      (ranges? (signs (c :: rest)).1).bind fun ranges =>
        (signs (c :: rest)).2.map fun left => (⟨negated, ranges⟩, left) := by
  have same : marks true position (c :: rest) = marks false position (c :: rest) := by
    by_cases escape : ∃ d more, c = '\\' ∧ rest = d :: more
    · obtain ⟨d, more, rfl, rfl⟩ := escape
      rfl
    · rw [marks, marks]
      · simp [open']
      · exact fun d more first behind => escape ⟨d, more, first, behind⟩
      · exact fun d more first behind => escape ⟨d, more, first, behind⟩
  rw [← signs_eq position (c :: rest), ← same]
  exact toOption_read_of_marks rfl rfl

end CharSet

namespace Glob

open CharSet

/-! ## Sources -/

/-- Whether a bracket expression, by what stands between its brackets, negates. -/
def isNegated (body : Text) : Bool := body.head? == some '!' || body.head? == some '^'

/-- What a bracket expression lists. -/
def members (body : Text) : Text := if isNegated body then body.drop 1 else body

/-- What stands between the brackets, with the character that negates in a source. -/
def signed (body : Text) : Text := if isNegated body then '^' :: members body else body

/-- A character of a bracket expression as it is marked in its source: backslashes are escaped. -/
def sign (c : Char) : Char × Bool := (c, c == '\\')

/-- A text with its backslashes escaped. -/
def escaped (text : Text) : Text := Text.substitute '\\' "\\\\" text

theorem escaped_cons (c : Char) (rest : Text) :
    escaped (c :: rest) = if c = '\\' then '\\' :: '\\' :: escaped rest else c :: escaped rest := by
  by_cases escape : c = '\\'
  · subst escape
    rfl
  · simp [escaped, Text.substitute, escape]

theorem bracketSource_eq (body : Text) : bracketSource body = escaped (signed body) := by
  cases body with
  | nil => rfl
  | cons c rest =>
    by_cases bang : c = '!'
    · subst bang
      rfl
    · have same : signed (c :: rest) = c :: rest := by
        by_cases caret : c = '^'
        · subst caret
          rfl
        · simp [signed, isNegated, bang, caret]
      rw [same]
      unfold bracketSource
      split <;> simp_all [escaped]

theorem not_mem_members {body : Text} (free : ']' ∉ body) : ']' ∉ members body := by
  unfold members
  split
  · exact fun mem => free (List.drop_subset 1 body mem)
  · exact free

theorem not_mem_signed {body : Text} (free : ']' ∉ body) : ']' ∉ signed body := by
  unfold signed
  split
  · simpa using not_mem_members free
  · exact free

theorem signs_escaped_append {text : Text} (free : ']' ∉ text) (after : Text) :
    signs (escaped text ++ after) = (text.map sign ++ (signs after).1, (signs after).2) := by
  induction text with
  | nil => rfl
  | cons c rest ih =>
    have behind := ih (List.not_mem_of_not_mem_cons free)
    rw [escaped_cons]
    split
    · rename_i escape
      rw [List.cons_append, List.cons_append, signs_backslash, behind, escape]
      rfl
    · rename_i plain
      rw [List.cons_append, signs_cons (Ne.symm (List.ne_of_not_mem_cons free)) plain, behind]
      simp [sign, plain]

namespace Token

/-- The marks that the source of a token adds to a bracket expression which is open. -/
def marks : Token → List (Char × Bool)
  | literal c => [(c, isSpecial c)]
  | one | many => "[^/".toList.map (·, false)
  | bracket body => ('[', false) :: (signed body).map sign
  | slash => [('/', false)]
  | directories => "(?:[^/".toList.map (·, false)
  | anything => ".*".toList.map (·, false)

/-- What the source of a token has behind its closing bracket, if it has one. -/
def surplus? : Token → Option Text
  | one | bracket _ => some []
  | many => some ['*']
  | directories => some "+/)*"
  | literal _ | slash | anything => none

/-- Between the brackets of an expression something stands, and no closing bracket. -/
def IsTidy : Token → Prop
  | bracket body => body ≠ [] ∧ ']' ∉ body
  | _ => True

theorem source_literal (c : Char) :
    (literal c).source = if isSpecial c then ['\\', c] else [c] := rfl

theorem source_bracket (body : Text) :
    (bracket body).source = '[' :: (bracketSource body ++ [']']) := rfl

/-- The source of a token adds its marks, and closes an open expression if it has a surplus. -/
theorem signs_source {token : Token} (tidy : token.IsTidy) (after : Text) :
    signs (token.source ++ after) =
      match token.surplus? with
      | none => (token.marks ++ (signs after).1, (signs after).2)
      | some left => (token.marks, some (left ++ after)) := by
  cases token with
  | literal c =>
    cases special : isSpecial c with
    | true =>
      have spelled : (literal c).source ++ after = '\\' :: c :: after := by
        rw [source_literal, special]
        rfl
      rw [spelled, signs_backslash, ← special]
      rfl
    | false =>
      have spelled : (literal c).source ++ after = c :: after := by
        rw [source_literal, special]
        rfl
      have open' : c ≠ ']' := by
        rintro rfl
        cases special
      have plain : c ≠ '\\' := by
        rintro rfl
        cases special
      rw [spelled, signs_cons open' plain, ← special]
      rfl
  | one =>
    show signs ("[^/".toList ++ ']' :: after) = _
    rw [signs_append (by decide) (by decide), signs_close, List.append_nil]
    rfl
  | many =>
    show signs ("[^/".toList ++ ']' :: '*' :: after) = _
    rw [signs_append (by decide) (by decide), signs_close, List.append_nil]
    rfl
  | bracket body =>
    have spelled : (bracket body).source ++ after =
        '[' :: (escaped (signed body) ++ ']' :: after) := by
      simp [source_bracket, bracketSource_eq]
    rw [spelled, signs_cons (by decide) (by decide), signs_escaped_append (not_mem_signed tidy.2),
      signs_close, List.append_nil]
    rfl
  | slash => exact signs_cons (by decide) (by decide) after
  | directories =>
    show signs ("(?:[^/".toList ++ ']' :: ("+/)*".toList ++ after)) = _
    rw [signs_append (by decide) (by decide), signs_close, List.append_nil]
    rfl
  | anything =>
    show signs (".*".toList ++ after) = _
    rw [signs_append (by decide) (by decide)]
    rfl

/-- What closes an expression begins with something that the expression takes up. -/
theorem exists_of_surplus? {token : Token} {left : Text} (closes : token.surplus? = some left) :
    ∃ head, head ≠ [] ∧ token.source = head ++ left := by
  cases token with
  | literal | slash | anything => cases closes
  | bracket body =>
    cases closes
    exact ⟨(bracket body).source, by simp [source_bracket], (List.append_nil _).symm⟩
  | one =>
    cases closes
    exact ⟨"[^/]", by decide, rfl⟩
  | many =>
    cases closes
    exact ⟨"[^/]", by decide, rfl⟩
  | directories =>
    cases closes
    exact ⟨"(?:[^/]", by decide, rfl⟩

end Token

variable {token : Token} {tokens rest more : List Token} {body : Text}

theorem source_cons (token : Token) (rest : List Token) :
    source (token :: rest) = token.source ++ source rest := by
  simp [source]

/-- The body of a bracket expression is not empty, and the first closing bracket comes after it. -/
theorem exists_of_bracketBody? {text : Text} (found : bracketBody? text = some body) :
    (body ≠ [] ∧ ']' ∉ body) ∧ ∃ after, text = body ++ ']' :: after := by
  unfold bracketBody? at found
  dsimp only at found
  split at found
  · cases found
  · cases found
  · rename_i close nonempty landed
    cases found
    obtain ⟨held, before, after, rfl, negation, free, rfl⟩ :=
      Text.exists_of_findFrom?_singleton (c := ']') landed
    rw [List.take_left' rfl]
    refine ⟨⟨?_, ?_⟩, after, rfl⟩
    · exact fun none => nonempty (by rw [none]; rfl)
    · have held_free : ']' ∉ held := by
        cases held with
        | nil => exact List.not_mem_nil
        | cons c held =>
          split at negation <;> simp_all
      simp [held_free, free]

/-- The tokens of a segment have tidy expressions. -/
theorem isTidy_segmentTokens (skip : Nat) (segment : Text) :
    ∀ token ∈ segmentTokens skip segment, token.IsTidy := by
  fun_induction segmentTokens skip segment with
  | case1 => nofun
  | case2 skip c rest ih => exact ih
  | case3 rest ih => exact List.forall_mem_cons.2 ⟨trivial, ih⟩
  | case4 rest ih => exact List.forall_mem_cons.2 ⟨trivial, ih⟩
  | case5 rest none ih => exact List.forall_mem_cons.2 ⟨trivial, ih⟩
  | case6 rest body found ih => exact List.forall_mem_cons.2 ⟨(exists_of_bracketBody? found).1, ih⟩
  | case7 c rest star mark bracket ih => exact List.forall_mem_cons.2 ⟨trivial, ih⟩

theorem isTidy_tokensOf (segments : List Text) : ∀ token ∈ tokensOf segments, token.IsTidy := by
  fun_induction tokensOf segments with
  | case1 => nofun
  | case2 => exact List.forall_mem_cons.2 ⟨trivial, nofun⟩
  | case3 last ordinary => exact isTidy_segmentTokens 0 last
  | case4 s rest behind ih =>
    apply List.forall_mem_append.2 ⟨_, ih⟩
    split
    · exact List.forall_mem_cons.2 ⟨trivial, nofun⟩
    · exact List.forall_mem_append.2
        ⟨isTidy_segmentTokens 0 s, List.forall_mem_cons.2 ⟨trivial, nofun⟩⟩

/-! ## Expressions that stay open -/

/-- Where an open expression is closed. -/
structure Closing where
  /-- The marks that the expression takes up. -/
  marks : List (Char × Bool)
  /-- What is left over of the source that closes it. -/
  surplus : Text
  /-- The tokens after that source. -/
  behind : List Token

/-- Where an open expression is closed by the tokens that follow it. -/
def closing? : List Token → Option Closing
  | [] => none
  | token :: rest =>
    match token.surplus? with
    | some surplus => some ⟨token.marks, surplus, rest⟩
    | none => (closing? rest).map fun closing =>
      { closing with marks := token.marks ++ closing.marks }

/-- An open expression takes up marks of the sources that follow, up to its closing. -/
theorem signs_source (tidy : ∀ token ∈ tokens, token.IsTidy) :
    (signs (source tokens)).2 =
        (closing? tokens).map (fun closing => closing.surplus ++ source closing.behind) ∧
      ∀ closing, closing? tokens = some closing → (signs (source tokens)).1 = closing.marks := by
  induction tokens with
  | nil => exact ⟨rfl, nofun⟩
  | cons token rest ih =>
    obtain ⟨first, others⟩ := List.forall_mem_cons.1 tidy
    obtain ⟨left, found⟩ := ih others
    rw [source_cons, Token.signs_source first, closing?]
    cases closes : token.surplus? with
    | some surplus =>
      refine ⟨rfl, ?_⟩
      rintro _ ⟨⟩
      rfl
    | none =>
      constructor
      · rw [left, Option.map_map]
        rfl
      · intro closing closed
        obtain ⟨later, closedLater, rfl⟩ := Option.map_eq_some_iff.1 closed
        rw [found later closedLater]

/-- The tokens up to the closing are those that the text up to there covers. -/
theorem coverOf_of_closing {closing : Closing} (closed : closing? tokens = some closing) :
    ∃ taken used, taken ≠ [] ∧ 0 < used ∧ tokens = taken ++ closing.behind ∧
      (source tokens).length = used + (closing.surplus ++ source closing.behind).length ∧
      coverOf used tokens = (taken.length, closing.surplus) := by
  induction tokens generalizing closing with
  | nil => cases closed
  | cons token rest ih =>
    rw [closing?] at closed
    cases closes : token.surplus? with
    | some surplus =>
      rw [closes] at closed
      cases closed
      obtain ⟨head, taken, spelled⟩ := Token.exists_of_surplus? closes
      refine ⟨[token], head.length, List.cons_ne_nil _ _, List.length_pos_iff.2 taken, rfl, ?_, ?_⟩
      · rw [source_cons, spelled, List.append_assoc, List.length_append]
      · rw [coverOf, spelled, List.length_append, if_pos (Nat.le_add_right ..), List.drop_left]
        rfl
    | none =>
      rw [closes] at closed
      obtain ⟨later, closedLater, rfl⟩ := Option.map_eq_some_iff.1 closed
      obtain ⟨taken, used, -, further, rfl, length, covered⟩ := ih closedLater
      refine ⟨token :: taken, token.source.length + used, List.cons_ne_nil _ _, by omega, rfl, ?_, ?_⟩
      · rw [source_cons, List.length_append, length]
        exact (Nat.add_assoc ..).symm
      · rw [coverOf, if_neg (by omega), Nat.add_sub_cancel_left, covered]
        rfl

/-- What stands between the brackets says only that it negates. -/
def negatesNothing (body : Text) : Bool := isNegated body && (members body).isEmpty

theorem bracketSource_eq_caret_iff : bracketSource body = ['^'] ↔ negatesNothing body = true := by
  rw [bracketSource_eq, negatesNothing, signed, Bool.and_eq_true, List.isEmpty_iff]
  split
  · rename_i negated
    rw [escaped_cons, if_neg (by decide)]
    cases members body with
    | nil => simp [negated, escaped, Text.substitute]
    | cons c rest =>
      rw [escaped_cons]
      split <;> simp
  · rename_i plain
    simp only [plain, false_and, iff_false, Bool.false_eq_true]
    intro same
    cases body with
    | nil => cases same
    | cons c rest =>
      rw [escaped_cons] at same
      split at same
      · cases same
      · obtain ⟨rfl, -⟩ := List.cons.inj same
        exact plain rfl

/-- The piece of an expression that negates nothing, and the tokens that it does not take up. -/
def openPiece? (tokens : List Token) : Option (Piece × List Token) :=
  (closing? tokens).bind fun closing =>
    (ranges? ((']', false) :: closing.marks)).bind fun ranges =>
      (closePiece ⟨true, ranges⟩ closing.surplus 0).toOption.map fun piece =>
        (piece, closing.behind)

theorem toOption_piecesFrom_skip (offset skip : Nat) (tokens : List Token) :
    (piecesFrom offset skip tokens).toOption = (piecesFrom 0 0 (tokens.drop skip)).toOption := by
  induction tokens generalizing offset skip with
  | nil => rw [List.drop_nil, piecesFrom, piecesFrom]
  | cons token rest ih =>
    cases skip with
    | zero => exact toOption_piecesFrom ..
    | succ skip =>
      rw [piecesFrom, List.drop_succ_cons]
      exact ih ..

theorem toOption_piecesFrom_open (tidy : ∀ token ∈ rest, token.IsTidy)
    (negates : negatesNothing body = true) (offset : Nat) :
    (piecesFrom offset 0 (.bracket body :: rest)).toOption =
      (openPiece? rest).bind fun (piece, behind) =>
        (piecesFrom 0 0 behind).toOption.map (piece :: ·) := by
  obtain ⟨left, found⟩ := signs_source tidy
  rw [piecesFrom, if_pos (bracketSource_eq_caret_iff.2 negates)]
  simp only [toOption_bind, toOption_read_close, openPiece?, left]
  cases closed : closing? rest with
  | none => simp
  | some closing =>
    obtain ⟨taken, used, -, -, rfl, length, covered⟩ := coverOf_of_closing closed
    rw [found closing closed, length]
    simp only [Option.map_some, Option.bind_some, Nat.add_sub_cancel, covered,
      toOption_piecesFrom_skip _ taken.length, List.drop_left, Option.bind_assoc]
    congr 1
    funext ranges
    rw [toOption_closePiece _ _ _ 0, Option.bind_map]
    congr 1
    funext piece
    exact Option.map_eq_bind.symm

/-! ## Tokens one after another -/

/-- A token is a bracket expression that stays open. -/
def Token.isOpen : Token → Bool
  | bracket body => negatesNothing body
  | _ => false

/-- The piece of a token that is read by itself. -/
def Token.piece? : Token → Option Piece
  | literal c => some (.literal c)
  | one => some .one
  | many => some .many
  | bracket body => (bracketSet 0 (bracketSource body)).toOption.map .set
  | slash => some .slash
  | directories => some .directories
  | anything => some .anything

/-- The first piece of tokens, and the tokens behind it. -/
def firstPiece? : List Token → Option (Piece × List Token)
  | [] => none
  | token :: rest => if token.isOpen then openPiece? rest else token.piece?.map fun piece => (piece, rest)

theorem toOption_piecesFrom_of_not_isOpen (closed : token.isOpen = false) (offset : Nat) :
    (piecesFrom offset 0 (token :: rest)).toOption =
      token.piece?.bind fun piece => (piecesFrom 0 0 rest).toOption.map (piece :: ·) := by
  have next (offset : Nat) : (piecesFrom offset 0 rest).toOption = (piecesFrom 0 0 rest).toOption :=
    toOption_piecesFrom ..
  cases token with
  | bracket body =>
    have source_ne : bracketSource body ≠ ['^'] := by
      rw [ne_eq, bracketSource_eq_caret_iff]
      exact Bool.not_eq_true _ ▸ closed
    rw [piecesFrom, if_neg source_ne]
    simp only [toOption_bind, next, toOption_bracketSet offset 0, Token.piece?, Option.bind_map]
    congr 1
    funext set
    exact Option.map_eq_bind.symm
  | _ =>
    rw [piecesFrom, toOption_bind, next]
    exact Option.map_eq_bind.symm

/-- Tokens are read piece by piece. -/
theorem toOption_piecesFrom_cons (tidy : ∀ t ∈ token :: rest, t.IsTidy) (offset : Nat) :
    (piecesFrom offset 0 (token :: rest)).toOption =
      (firstPiece? (token :: rest)).bind fun (piece, behind) =>
        (piecesFrom 0 0 behind).toOption.map (piece :: ·) := by
  rw [firstPiece?]
  cases open' : token.isOpen with
  | false =>
    rw [toOption_piecesFrom_of_not_isOpen open', if_neg Bool.false_ne_true, Option.bind_map]
    rfl
  | true =>
    rw [if_pos rfl]
    cases token with
    | bracket body =>
      exact toOption_piecesFrom_open (List.forall_mem_cons.1 tidy).2 open' offset
    | _ => cases open'

theorem closing?_append {closing : Closing} (closed : closing? tokens = some closing)
    (more : List Token) :
    closing? (tokens ++ more) = some { closing with behind := closing.behind ++ more } := by
  induction tokens generalizing closing with
  | nil => cases closed
  | cons token rest ih =>
    rw [closing?] at closed
    rw [List.cons_append, closing?]
    cases closes : token.surplus? with
    | some surplus =>
      rw [closes] at closed
      cases closed
      rfl
    | none =>
      rw [closes] at closed
      obtain ⟨later, closedLater, rfl⟩ := Option.map_eq_some_iff.1 closed
      simp only [ih closedLater]
      rfl

/-- What comes after the tokens of a piece has no part in it. -/
theorem firstPiece?_append {piece : Piece} {behind : List Token}
    (first : firstPiece? tokens = some (piece, behind)) (more : List Token) :
    firstPiece? (tokens ++ more) = some (piece, behind ++ more) := by
  cases tokens with
  | nil => cases first
  | cons token rest =>
    rw [firstPiece?] at first
    rw [List.cons_append, firstPiece?]
    split at first
    · rename_i open'
      rw [if_pos open']
      simp only [openPiece?, Option.bind_eq_some_iff, Option.map_eq_some_iff] at first ⊢
      obtain ⟨closing, closed, ranges, given, found, closes, same⟩ := first
      cases same
      exact ⟨_, closing?_append closed more, ranges, given, _, closes, rfl⟩
    · rename_i closed
      rw [if_neg closed]
      obtain ⟨found, own, same⟩ := Option.map_eq_some_iff.1 first
      cases same
      rw [own]
      rfl

/-- A piece takes up at least one token. -/
theorem exists_of_firstPiece? {piece : Piece} {behind : List Token}
    (first : firstPiece? tokens = some (piece, behind)) :
    ∃ taken, taken ≠ [] ∧ tokens = taken ++ behind := by
  cases tokens with
  | nil => cases first
  | cons token rest =>
    rw [firstPiece?] at first
    split at first
    · simp only [openPiece?, Option.bind_eq_some_iff, Option.map_eq_some_iff] at first
      obtain ⟨closing, closed, ranges, given, found, closes, same⟩ := first
      cases same
      obtain ⟨taken, _, _, _, rfl, _⟩ := coverOf_of_closing closed
      exact ⟨token :: taken, List.cons_ne_nil _ _, rfl⟩
    · obtain ⟨found, own, same⟩ := Option.map_eq_some_iff.1 first
      cases same
      exact ⟨[token], List.cons_ne_nil _ _, rfl⟩

/-- Tokens are read as pieces, the first one taking up at least one token. -/
inductive ReadAs : List Token → List Piece → Prop
  | nil : ReadAs [] []
  | cons {tokens behind : List Token} {piece : Piece} {others : List Piece}
      (first : firstPiece? tokens = some (piece, behind)) (later : ReadAs behind others) :
      ReadAs tokens (piece :: others)

theorem toOption_piecesFrom_of_firstPiece? {piece : Piece} {behind : List Token}
    (tidy : ∀ token ∈ tokens, token.IsTidy) (first : firstPiece? tokens = some (piece, behind)) :
    (piecesFrom 0 0 tokens).toOption = (piecesFrom 0 0 behind).toOption.map (piece :: ·) := by
  cases tokens with
  | nil => cases first
  | cons token rest => rw [toOption_piecesFrom_cons tidy, first, Option.bind_some]

theorem tidy_behind {piece : Piece} {behind : List Token} (tidy : ∀ token ∈ tokens, token.IsTidy)
    (first : firstPiece? tokens = some (piece, behind)) : ∀ token ∈ behind, token.IsTidy := by
  obtain ⟨taken, _, rfl⟩ := exists_of_firstPiece? first
  exact (List.forall_mem_append.1 tidy).2

theorem toOption_piecesFrom_eq_some_iff {pieces : List Piece}
    (tidy : ∀ token ∈ tokens, token.IsTidy) :
    (piecesFrom 0 0 tokens).toOption = some pieces ↔ ReadAs tokens pieces := by
  constructor
  · intro read
    -- The induction is on the number of tokens, since an open expression takes up more than one.
    induction length : tokens.length using Nat.strongRecOn generalizing tokens pieces with
    | _ n ih =>
      cases tokens with
      | nil =>
        cases read
        exact .nil
      | cons token rest =>
        rw [toOption_piecesFrom_cons tidy, Option.bind_eq_some_iff] at read
        obtain ⟨⟨piece, behind⟩, first, later⟩ := read
        obtain ⟨others, readBehind, rfl⟩ := Option.map_eq_some_iff.1 later
        obtain ⟨taken, nonempty, cut⟩ := exists_of_firstPiece? first
        have shorter : behind.length < n := by
          have longer := List.length_pos_iff.2 nonempty
          rw [← length, cut, List.length_append]
          omega
        exact .cons first (ih _ shorter (tidy_behind tidy first) readBehind rfl)
  · intro readAs
    induction readAs with
    | nil => rfl
    | cons first later ih =>
      rw [toOption_piecesFrom_of_firstPiece? tidy first, ih (tidy_behind tidy first)]
      rfl

/-- Tokens that can be read are read the same before any others. -/
theorem toOption_piecesFrom_append {own : List Piece}
    (tidy : ∀ token ∈ tokens ++ more, token.IsTidy) (readAs : ReadAs tokens own) :
    (piecesFrom 0 0 (tokens ++ more)).toOption =
      (piecesFrom 0 0 more).toOption.map (own ++ ·) := by
  induction readAs with
  | nil => simp
  | cons first later ih =>
    have followed := firstPiece?_append first more
    rw [toOption_piecesFrom_of_firstPiece? tidy followed, ih (tidy_behind tidy followed),
      Option.map_map]
    rfl

end Glob

end DocWeave
