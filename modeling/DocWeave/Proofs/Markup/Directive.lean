import DocWeave.Markup.Directive
import DocWeave.Proofs.Text.Search

/-! # Texts between directives

The directives of a text stand one after another, and what is not part of a directive is a gap
between them. A text is its gaps and directives in turn, so exchanging directives means putting
other pieces between the same gaps.
-/

namespace DocWeave

namespace Text

/-- The pieces put between the gaps, one behind each gap but the last. -/
def interleave : List Text → List Text → Text
  | gap :: gaps, piece :: pieces => gap ++ piece ++ interleave gaps pieces
  | gap :: _, [] => gap
  | [], _ => []

end Text

namespace Directive

variable {text : Text} {position : Nat} {ds : List Directive}

/-- What stands before, between and behind directives from `position` on. -/
def gaps (text : Text) (position : Nat) : List Directive → List Text
  | [] => [text.drop position]
  | directive :: rest => text.slice position directive.start :: gaps text directive.stop rest

/-- The directives stand in the text, one after another and none before `position`. -/
inductive Laid (text : Text) : Nat → List Directive → Prop where
  | nil (position : Nat) : Laid text position []
  | cons {position : Nat} {directive : Directive} {rest : List Directive}
      (from_position : position ≤ directive.start)
      (stands : text.drop directive.start = directive.span ++ text.drop directive.stop)
      (later : Laid text directive.stop rest) : Laid text position (directive :: rest)

/-- A text is its gaps and its directives in turn. -/
theorem Laid.interleave_gaps (laid : Laid text position ds) :
    Text.interleave (gaps text position ds) (ds.map span) = text.drop position := by
  induction laid with
  | nil => rfl
  | @cons position directive rest from_position stands later ih =>
    rw [gaps, List.map_cons, Text.interleave, ih, List.append_assoc, ← stands,
      Text.slice_append_drop text from_position]

end Directive

end DocWeave
