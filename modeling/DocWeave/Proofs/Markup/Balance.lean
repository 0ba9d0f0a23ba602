import DocWeave.Proofs.Markup.Region
import Mathlib.Order.Bounds.Basic

/-! # Closing tags by counting

A closing tag matches an opening tag when, counted from there, as many closing tags as opening
markers have begun once it has. The search goes from marker to marker and keeps nothing but a level;
it lands on the first closing tag of this kind, since no marker begins inside another one.
-/

namespace DocWeave

namespace Region

open Text

/-! ## From marker to marker -/

section

variable {opening closing : Text} {depth : Int} {c : Char} {rest : Text}

/-- A closing tag stands at `last` and brings the level from `depth` back to nothing. -/
def Returns (opening closing text : Text) (depth : Int) (last : Nat) : Prop :=
  closing <+: text.drop last ∧
    depth + occurrences opening text 0 last = occurrences closing text 0 (last + 1)

theorem returns_zero : Returns opening closing (c :: rest) depth 0 ↔
    closing <+: c :: rest ∧ depth = 1 := by
  unfold Returns
  rw [occurrences_cons]
  simp +contextual [occurrences]

theorem returns_succ {last : Nat} : Returns opening closing (c :: rest) depth (last + 1) ↔
    Returns opening closing rest (depth + turn opening closing (c :: rest)) last := by
  unfold Returns turn
  rw [occurrences_cons, occurrences_cons]
  simp only [List.drop_succ_cons]
  refine and_congr_right fun _ => ?_
  split <;> split <;> omega

/-- The search lands on the first closing tag that brings the level back to nothing, and nowhere if
there is none. -/
theorem closeOffset?_isLeast (opens : IsMarker opening) (closes : IsMarker closing)
    (apart : ∀ text, ¬ (opening <+: text ∧ closing <+: text)) (depth : Int) (text : Text) :
    match closeOffset? opening closing 0 depth text with
    | some last => IsLeast {last | Returns opening closing text depth last} last
    | none => ∀ last, ¬ Returns opening closing text depth last := by
  induction text generalizing depth with
  | nil =>
    intro last ⟨stands, _⟩
    obtain ⟨name, rfl, -⟩ := closes
    simp at stands
  | cons c rest ih =>
    rw [closeOffset?_cons opens closes (apart _)]
    by_cases here : closing <+: c :: rest ∧ depth = 1
    · rw [if_pos here]
      exact ⟨returns_zero.2 here, fun _ _ => Nat.zero_le _⟩
    · rw [if_neg here]
      have later := ih (depth + turn opening closing (c :: rest))
      cases found : closeOffset? opening closing 0 (depth + turn opening closing (c :: rest)) rest
        with
      | none =>
        rw [found] at later
        rintro (_ | last) returns
        · exact here (returns_zero.1 returns)
        · exact later last (returns_succ.1 returns)
      | some last =>
        rw [found] at later
        refine ⟨returns_succ.2 later.1, ?_⟩
        rintro (_ | other) returns
        · exact absurd (returns_zero.1 returns) here
        · exact Nat.succ_le_succ (later.2 (returns_succ.1 returns))

end

/-! ## From the start on -/

variable {tag text : Text} {start last : Nat}

/-- The closing tag at `last` matches what opens at `start`: it stands there, and with it as many
closing tags as opening markers have begun from `start` on. -/
structure Matches (tag text : Text) (start last : Nat) : Prop where
  from_start : start ≤ last
  closes : closer tag <+: text.drop last
  balanced : occurrences (opener tag) text start last =
    occurrences (closer tag) text start (last + 1)

theorem matches_iff : Matches tag text start last ↔ start ≤ last ∧
    Returns (opener tag) (closer tag) (text.drop start) 0 (last - start) := by
  have behind (ordered : start ≤ last) : Returns (opener tag) (closer tag) (text.drop start) 0
      (last - start) ↔ closer tag <+: text.drop last ∧
        occurrences (opener tag) text start last =
          occurrences (closer tag) text start (last + 1) := by
    rw [Returns, List.drop_drop, Nat.add_sub_cancel' ordered, ← Nat.sub_add_comm ordered,
      ← occurrences_eq_drop, ← occurrences_eq_drop, Int.zero_add, Int.ofNat_inj]
  constructor
  · rintro ⟨ordered, closes, balanced⟩
    exact ⟨ordered, (behind ordered).2 ⟨closes, balanced⟩⟩
  · rintro ⟨ordered, returns⟩
    obtain ⟨closes, balanced⟩ := (behind ordered).1 returns
    exact ⟨ordered, closes, balanced⟩

/-- Nothing begins with both markers of a tag name that begins with no slash. -/
theorem not_opener_and_closer (nonempty : tag ≠ []) (opens : tag.head? ≠ some '/') (text : Text) :
    ¬ (opener tag <+: text ∧ closer tag <+: text) := by
  rintro ⟨opened, closed⟩
  obtain ⟨c, name, rfl⟩ := List.exists_cons_of_ne_nil nonempty
  obtain ⟨after, rfl⟩ := opened
  have slash : '/' = c := by
    simp only [closer, opener, String.toList, List.cons_append] at closed
    exact (List.cons_prefix_cons.1 (List.cons_prefix_cons.1 closed).2).1
  exact opens (by rw [← slash]; rfl)

/-- The match of an opening tag is the first closing tag by which, counted from the opening tag on,
as many closing tags as opening markers have begun; there is no match if there is no such tag. -/
theorem closeFrom?_isLeast (nonempty : tag ≠ []) (single : '<' ∉ tag)
    (opens : tag.head? ≠ some '/') (text : Text) (start : Nat) :
    (∀ last, closeFrom? tag text start = some last ↔
      IsLeast {last | Matches tag text start last} last) ∧
    (closeFrom? tag text start = none ↔ ∀ last, ¬ Matches tag text start last) := by
  have openMarker : IsMarker (opener tag) := ⟨tag, rfl, single⟩
  have closeMarker : IsMarker (closer tag) :=
    ⟨'/' :: tag ++ ['>'], by simp [closer], by simp [single]⟩
  have search := closeOffset?_isLeast openMarker closeMarker (not_opener_and_closer nonempty opens)
    0 (text.drop start)
  unfold closeFrom?
  cases found : closeOffset? (opener tag) (closer tag) 0 0 (text.drop start) with
  | none =>
    rw [found] at search
    have unmatched (last : Nat) : ¬ Matches tag text start last :=
      fun matched => search _ (matches_iff.1 matched).2
    refine ⟨fun last => ⟨fun same => ?_, fun least => absurd least.1 (unmatched last)⟩,
      fun _ => unmatched, fun _ => rfl⟩
    cases same
  | some offset =>
    rw [found] at search
    have least : IsLeast {last | Matches tag text start last} (offset + start) := by
      refine ⟨matches_iff.2 ⟨Nat.le_add_left .., ?_⟩, fun last matched => ?_⟩
      · rw [Nat.add_sub_cancel]
        exact search.1
      · obtain ⟨ordered, returns⟩ := matches_iff.1 matched
        exact Nat.add_le_of_le_sub ordered (search.2 returns)
    refine ⟨fun last => ⟨fun same => ?_, fun other => ?_⟩, fun same => ?_, fun unmatched => ?_⟩
    · cases same
      exact least
    · rw [Option.map_some, other.unique least]
    · cases same
    · exact absurd least.1 (unmatched _)

/-- The first closing tag closes the inner opening tag and the second one is the match. Counted from
the first closing tag on, the level stays below that of the start, and nothing matches. -/
theorem closeFrom?_isLeast_nested :
    let tag : Text := "f"
    let text : Text := "<f>a<f>b</f>c</f></f>"
    (tag ≠ [] ∧ '<' ∉ tag ∧ tag.head? ≠ some '/') ∧
      IsLeast {last | Matches tag text 0 last} 13 ∧ ∀ last, ¬ Matches tag text 8 last := by
  intro tag text
  have nonempty : tag ≠ [] := by decide
  have single : '<' ∉ tag := by decide
  have opens : tag.head? ≠ some '/' := by decide
  exact ⟨⟨nonempty, single, opens⟩,
    ((closeFrom?_isLeast nonempty single opens text 0).1 13).1 (by decide),
    (closeFrom?_isLeast nonempty single opens text 8).2.1 (by decide)⟩

end Region

end DocWeave
