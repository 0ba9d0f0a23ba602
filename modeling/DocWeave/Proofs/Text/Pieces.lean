import DocWeave.Text.Blank

/-! # Lists written as one text

Names that are joined with a character come back when the text is cut at that character, as long as
none of them holds it; and a text comes back when its pieces are joined again.

Names that are joined with a comma and a blank come back when the text is cut at its commas. The
cut drops the blanks around a name and the names that are empty, so names that have neither come
back as they were.
-/

namespace DocWeave.Text

/-- The names of a list as they are read: trimmed, and none of them empty. -/
def trimmed (names : List Text) : List Text := (names.map trim).filter fun name => !name.isEmpty

theorem trim_cons_of_isBlank {c : Char} (blank : isBlank c = true) (text : Text) :
    trim (c :: text) = trim text := by
  simp [trim, trimLeft, blank]

theorem trimmed_eq_self {names : List Text}
    (tidy : ∀ name ∈ names, name ≠ [] ∧ trim name = name) : trimmed names = names := by
  have same : names.map trim = names := by
    rw [List.map_congr_left (g := id) fun name mem => (tidy name mem).2, List.map_id]
  rw [trimmed, same, List.filter_eq_self]
  intro name mem
  simpa using (tidy name mem).1

/-- The first piece of a cut ends at the first separator. -/
theorem splitOn_append_cons {separator : Char} {piece : Text} (free : separator ∉ piece)
    (after : Text) :
    splitOn separator (piece ++ separator :: after) = piece :: splitOn separator after := by
  induction piece with
  | nil => simp [splitOn, splitWhere]
  | cons c piece ih =>
    have other : (c == separator) = false := beq_false_of_ne (Ne.symm (List.ne_of_not_mem_cons free))
    have rest := ih (List.not_mem_of_not_mem_cons free)
    simp only [splitOn, List.cons_append, splitWhere, other, Bool.false_eq_true, ↓reduceIte] at rest ⊢
    rw [rest]

/-- The cut is the one of the library of lists. -/
theorem splitWhere_eq (isSeparator : Char → Bool) (text : Text) :
    splitWhere isSeparator text = List.splitOnP isSeparator text := by
  induction text with
  | nil => rfl
  | cons c rest ih =>
    rw [splitWhere, List.splitOnP_cons_eq_if_modifyHead, ← ih]
    split
    · rfl
    · cases cut : splitWhere isSeparator rest with
      | nil => exact absurd cut (splitWhere_ne_nil _ rest)
      | cons piece pieces => rfl

theorem splitOn_eq (separator : Char) (text : Text) :
    splitOn separator text = List.splitOn separator text :=
  splitWhere_eq _ text

theorem not_mem_of_mem_splitOn {separator : Char} {text piece : Text}
    (mem : piece ∈ splitOn separator text) : separator ∉ piece := by
  intro inside
  have separates := not_isSeparator_of_mem_splitWhere mem inside
  simp at separates

/-- Names that are free of the separator come back from the text that they are joined to. -/
theorem splitOn_join_of_free {separator : Char} {names : List Text} (listed : names ≠ [])
    (free : ∀ name ∈ names, separator ∉ name) :
    splitOn separator (join [separator] names) = names :=
  (splitOn_eq ..).trans (List.splitOn_intercalate separator free listed)

/-- The pieces of a text, joined again, are the text. -/
theorem join_splitOn (separator : Char) (text : Text) :
    join [separator] (splitOn separator text) = text := by
  rw [splitOn_eq]
  exact List.intercalate_splitOn separator

theorem join_cons_cons (separator : Char) (first second : Text) (rest : List Text) :
    join [separator] (first :: second :: rest) =
      first ++ separator :: join [separator] (second :: rest) := by
  rw [join, List.intercalate_cons_cons, List.append_assoc, List.singleton_append, join]

/-- A joined text begins with its first piece. -/
theorem head?_join {separator first : Text} (filled : first ≠ []) (rest : List Text) :
    (join separator (first :: rest)).head? = first.head? := by
  obtain ⟨c, first, rfl⟩ := List.exists_cons_of_ne_nil filled
  cases rest with
  | nil => rw [join, List.intercalate_singleton]
  | cons second rest =>
    rw [join, List.intercalate_cons_cons]
    rfl

/-- A text is cut once at every separator. -/
theorem length_splitOn (separator : Char) (text : Text) :
    (splitOn separator text).length = text.count separator + 1 := by
  unfold splitOn
  induction text with
  | nil => rfl
  | cons c rest ih =>
    rw [splitWhere, List.count_cons]
    split
    · rw [List.length_cons, ih]
    · cases cut : splitWhere (· == separator) rest with
      | nil => exact absurd cut (splitWhere_ne_nil _ rest)
      | cons piece pieces =>
        rw [cut] at ih
        exact ih

/-- What is joined holds the separators of its pieces and one between each two of them. -/
theorem count_join (separator : Char) {pieces : List Text} (listed : pieces ≠ []) :
    (join [separator] pieces).count separator + 1 =
      pieces.length + pieces.flatten.count separator := by
  induction pieces with
  | nil => exact absurd rfl listed
  | cons first rest ih =>
    cases rest with
    | nil => simp [join, Nat.add_comm]
    | cons second rest =>
      have further := ih (List.cons_ne_nil _ _)
      rw [join_cons_cons, List.count_append, List.count_cons_self, List.length_cons,
        List.flatten_cons, List.count_append]
      omega

/-- A blank behind every comma is as good as one before every name but the first. -/
theorem join_comma (first : Text) (rest : List Text) :
    join ", " (first :: rest) = join [','] (first :: rest.map (' ' :: ·)) := by
  induction rest generalizing first with
  | nil => rw [join, List.intercalate_singleton, List.map_nil, join, List.intercalate_singleton]
  | cons second rest ih =>
    have shape : join ", " (first :: second :: rest) =
        first ++ ',' :: join ", " ((' ' :: second) :: rest) := by
      rw [join, List.intercalate_cons_cons, join, List.intercalate_cons_cons_left]
      simp
    rw [shape, ih, List.map_cons, join_cons_cons]

/-- Every name but the first keeps the blank that it was joined with. -/
theorem splitOn_join {first : Text} {rest : List Text} (free : ∀ name ∈ first :: rest, ',' ∉ name) :
    splitOn ',' (join ", " (first :: rest)) = first :: rest.map (' ' :: ·) := by
  rw [join_comma]
  apply splitOn_join_of_free (List.cons_ne_nil _ _)
  simpa using free

/-- A joined text holds nothing but its separators and its pieces. -/
theorem mem_or_mem_of_mem_join {c : Char} {separator : Text} {pieces : List Text}
    (mem : c ∈ join separator pieces) : c ∈ separator ∨ ∃ piece ∈ pieces, c ∈ piece := by
  induction pieces with
  | nil => simp [join] at mem
  | cons first rest ih =>
    cases rest with
    | nil => exact .inr ⟨first, List.mem_cons_self .., by simpa [join] using mem⟩
    | cons second rest =>
      rw [join, List.intercalate_cons_cons, List.mem_append, List.mem_append] at mem
      rcases mem with (inFirst | between) | later
      · exact .inr ⟨first, List.mem_cons_self .., inFirst⟩
      · exact .inl between
      · exact (ih later).imp_right fun ⟨piece, listed, inPiece⟩ =>
          ⟨piece, List.mem_cons_of_mem _ listed, inPiece⟩

/-- Reading a written list gives its names, trimmed. -/
theorem trimmedPieces_join {names : List Text} (free : ∀ name ∈ names, ',' ∉ name) :
    trimmedPieces ',' (join ", " names) = trimmed names := by
  cases names with
  | nil => rfl
  | cons first rest =>
    have blank (name : Text) : trim (' ' :: name) = trim name := trim_cons_of_isBlank (by decide) name
    simp only [trimmedPieces, trimmed, splitOn_join free, List.map_cons, List.map_map,
      Function.comp_def, blank]

end DocWeave.Text
