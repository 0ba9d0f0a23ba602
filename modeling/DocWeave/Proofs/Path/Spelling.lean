import DocWeave.Proofs.Path.Normal
import DocWeave.Proofs.Text.Pieces

/-! # The spelling of a path

A path is spelled by the slashes of its anchor and by its names with slashes between them. No name
begins with a slash, so the slashes that a spelling begins with are those of the anchor, and cutting
the rest gives the names back: every path is read from its own spelling.
-/

namespace DocWeave

namespace Anchor

variable {rest : Text}

/-- Slashes of an anchor are read as that anchor, unless more of them follow. -/
theorem ofText_toText_append (anchor : Anchor) (plain : rest.head? ≠ some '/') :
    ofText (anchor.toText ++ rest) = anchor := by
  cases rest with
  | nil => cases anchor <;> rfl
  | cons c rest =>
    have other : c ≠ '/' := fun same => plain (congrArg some same)
    cases anchor <;> simp [toText, ofText, other]

/-- A text is the slashes of its anchor and the rest. -/
theorem toText_append_drop (text : Text) :
    (ofText text).toText ++ text.drop (ofText text).toText.length = text := by
  unfold ofText
  split <;> rfl

end Anchor

namespace Path

variable {first rest : Text} {segments more : List Text}

/-- The slashes of an anchor cut off nothing but empty pieces. -/
theorem splitOn_toText_append (anchor : Anchor) (rest : Text) :
    (anchor.toText ++ rest).splitOn '/' =
      List.replicate anchor.toText.length [] ++ rest.splitOn '/' := by
  have cut (behind : Text) : Text.splitOn '/' ('/' :: behind) = [] :: behind.splitOn '/' :=
    Text.splitOn_append_cons List.not_mem_nil behind
  cases anchor with
  | relative => rfl
  | root => exact cut rest
  | doubleRoot => exact (cut _).trans (congrArg _ (cut rest))

theorem filter_splitOn_toText_append (anchor : Anchor) (rest : Text) :
    ((anchor.toText ++ rest).splitOn '/').filter isName = (rest.splitOn '/').filter isName := by
  have unnamed : (List.replicate anchor.toText.length []).filter isName = [] :=
    List.filter_replicate_of_neg (by decide)
  rw [splitOn_toText_append, List.filter_append, unnamed, List.nil_append]

/-- The names of a path are those that its text spells behind the slashes of the anchor. -/
theorem ofText_toText_append (anchor : Anchor) (plain : rest.head? ≠ some '/') :
    ofText (anchor.toText ++ rest) = (ofAnchor anchor).extend (rest.splitOn '/') := by
  apply ext_names
  · exact Anchor.ofText_toText_append anchor plain
  · exact filter_splitOn_toText_append anchor rest

/-- Segments with slashes between them begin with a slash only if the first of several is empty. -/
theorem head?_join_ne (free : '/' ∉ first) (led : first ≠ [] ∨ more = []) :
    (Text.join "/" (first :: more)).head? ≠ some '/' := by
  cases first with
  | nil =>
    obtain rfl := led.resolve_left (not_not_intro rfl)
    simp [Text.join]
  | cons c first =>
    rw [Text.head?_join (List.cons_ne_nil c first)]
    exact fun same => List.ne_of_not_mem_cons free (Option.some.inj same).symm

/-- Segments come back as names where they can stand as names. -/
theorem filter_splitOn_join (free : ∀ segment ∈ segments, '/' ∉ segment) :
    ((Text.join "/" segments).splitOn '/').filter isName = segments.filter isName := by
  cases segments with
  | nil => rfl
  | cons first more =>
    exact congrArg _ (Text.splitOn_join_of_free (List.cons_ne_nil _ _) free)

/-- A path is read from its own spelling. -/
theorem ofText_toText (p : Path) : ofText p.toText = p := by
  by_cases empty : p.anchor = .relative ∧ p.names = []
  · rw [toText, if_pos empty]
    exact ext_names empty.1.symm empty.2.symm
  · have free : ∀ name ∈ p.names, '/' ∉ name := fun name mem =>
      slash_not_mem_of_isName (p.isName_of_mem name mem)
    have plain : (Text.join "/" p.names).head? ≠ some '/' := by
      cases names : p.names with
      | nil => simp [Text.join]
      | cons first more =>
        rw [names] at free
        have named := p.isName_of_mem first (names ▸ List.mem_cons_self)
        refine head?_join_ne (free first List.mem_cons_self) (.inl ?_)
        rintro rfl
        cases named
    rw [toText, if_neg empty, ofText_toText_append p.anchor plain]
    apply ext_names
    · rfl
    · show [] ++ _ = _
      rw [List.nil_append, filter_splitOn_join free, filter_isName_names]

end Path

end DocWeave
