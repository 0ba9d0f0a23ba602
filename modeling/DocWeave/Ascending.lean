/-! # Ascending lists

A finite set is kept as the strictly ascending list of its members, so that equal sets are equal
lists and come out in order.
-/

namespace DocWeave.Ascending

variable {α : Type} [LT α] [DecidableRel (· < · : α → α → Prop)]

/-- The ascending list with one more member. -/
def insert (x : α) : List α → List α
  | [] => [x]
  | y :: rest => if x < y then x :: y :: rest else if y < x then y :: insert x rest else y :: rest

/-- The ascending list of the members of any list. -/
def ofList (xs : List α) : List α := xs.foldr insert []

end DocWeave.Ascending
