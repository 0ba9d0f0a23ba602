import DocWeave.Path.Segments
import DocWeave.Proofs.Text.Pieces

/-! # Dropping leading segments

What a path text spells is a list of segments, and whether a separator stands before them. The text
that is left when leading segments are dropped spells the others, and begins with a slash if a
separator stood first, so dropping twice is dropping once. When no segment is left, nothing is.
-/

namespace DocWeave.Segments

/-- A text that can stand between separators. -/
structure IsSegment (segment : Text) : Prop where
  filled : segment ≠ []
  plain : ∀ c ∈ segment, isSeparator c = false

/-- The segments of a path text, in order: a separator stands for nothing, and a segment goes on up to
the next separator or the end. -/
inductive Spells : Text → List Text → Prop where
  | nil : Spells [] []
  | separator {c : Char} {path : Text} {segments : List Text} (separates : isSeparator c = true)
      (behind : Spells path segments) : Spells (c :: path) segments
  | segment {run path : Text} {segments : List Text} (whole : IsSegment run)
      (ends : path.head?.all isSeparator = true) (behind : Spells path segments) :
      Spells (run ++ path) (run :: segments)

variable {path run : Text} {segments : List Text} {count : Nat}

/-! ## What a path text spells -/

@[simp] theorem ofText_nil : ofText [] = [] := rfl

/-- No segment goes across a separator. -/
theorem ofText_append_cons {c : Char} (separates : isSeparator c = true) (front behind : Text) :
    ofText (front ++ c :: behind) = ofText front ++ ofText behind := by
  simp only [ofText, Text.splitWhere_eq]
  rw [List.splitOnP_append_cons _ _ separates, List.filter_append]

theorem ofText_cons {c : Char} (separates : isSeparator c = true) (behind : Text) :
    ofText (c :: behind) = ofText behind :=
  ofText_append_cons separates [] behind

theorem ofText_of_isSegment (whole : IsSegment run) : ofText run = [run] := by
  rw [ofText, Text.splitWhere_eq, List.splitOnP_eq_singleton whole.plain]
  simp [whole.filled]

theorem ofText_append (whole : IsSegment run) (ends : path.head?.all isSeparator = true) :
    ofText (run ++ path) = run :: ofText path := by
  cases path with
  | nil => rw [List.append_nil, ofText_of_isSegment whole, ofText_nil]
  | cons c path =>
    have separates : isSeparator c = true := ends
    rw [ofText_append_cons separates, ofText_of_isSegment whole, ofText_cons separates,
      List.singleton_append]

theorem isSegment_of_mem_ofText {segment : Text} (mem : segment ∈ ofText path) :
    IsSegment segment := by
  obtain ⟨piece, filled⟩ := List.mem_filter.1 mem
  exact ⟨by simpa using filled, fun c => Text.not_isSeparator_of_mem_splitWhere piece⟩

theorem Spells.ofText_eq (spells : Spells path segments) : ofText path = segments := by
  induction spells with
  | nil => rfl
  | separator separates _ ih => rw [ofText_cons separates, ih]
  | segment whole ends _ ih => rw [ofText_append whole ends, ih]

/-- A run of characters in front of a separator or the end is a segment, unless it is empty. -/
theorem Spells.prepend (spells : Spells path segments) (ends : path.head?.all isSeparator = true)
    (plain : ∀ c ∈ run, isSeparator c = false) : ∃ more, Spells (run ++ path) more := by
  by_cases empty : run = []
  · exact ⟨segments, by rwa [empty]⟩
  · exact ⟨run :: segments, .segment ⟨empty, plain⟩ ends spells⟩

/-- A path text is read character by character; `run` is what stands since the last separator. -/
theorem exists_spells_append (path run : Text) (plain : ∀ c ∈ run, isSeparator c = false) :
    ∃ segments, Spells (run ++ path) segments := by
  induction path generalizing run with
  | nil => exact Spells.nil.prepend rfl plain
  | cons c path ih =>
    by_cases separates : isSeparator c = true
    · obtain ⟨segments, spells⟩ := ih [] (by simp)
      exact (Spells.separator separates spells).prepend separates plain
    · have further : ∀ d ∈ run ++ [c], isSeparator d = false := by
        intro d mem
        rcases List.mem_append.1 mem with before | last
        · exact plain d before
        · rw [List.mem_singleton.1 last]
          exact Bool.eq_false_iff.2 separates
      simpa using ih (run ++ [c]) further

/-- Every path text spells its segments and nothing else. -/
theorem spells_iff : Spells path segments ↔ segments = ofText path := by
  constructor
  · exact fun spells => spells.ofText_eq.symm
  · rintro rfl
    obtain ⟨segments, spells⟩ : ∃ segments, Spells path segments :=
      exists_spells_append path [] (by simp)
    rwa [spells.ofText_eq]

theorem isRooted_iff : isRooted path = true ↔ path.head? = some '/' ∨ path.head? = some '\\' := by
  cases path with
  | nil => simp [isRooted]
  | cons c path => simp [isRooted, isSeparator]

/-! ## Written segments -/

theorem spells_join (whole : ∀ segment ∈ segments, IsSegment segment) :
    Spells (Text.join "/" segments) segments := by
  induction segments with
  | nil => exact .nil
  | cons first rest ih =>
    have led := whole first List.mem_cons_self
    cases rest with
    | nil => simpa [Text.join] using Spells.nil.segment led rfl
    | cons second rest =>
      have further := ih fun segment mem => whole segment (List.mem_cons_of_mem _ mem)
      rw [show Text.join "/" (first :: second :: rest) = _ from Text.join_cons_cons '/' ..]
      exact .segment led rfl (.separator rfl further)

theorem ofText_toText (rooted : Bool) (whole : ∀ segment ∈ segments, IsSegment segment) :
    ofText (toText rooted segments) = segments := by
  cases rooted with
  | false => exact (spells_join whole).ofText_eq
  | true => exact (Spells.separator rfl (spells_join whole)).ofText_eq

/-- The only separator that a written text begins with is the slash that it was given. -/
theorem head?_toText {c : Char} (rooted : Bool) (listed : segments ≠ [])
    (whole : ∀ segment ∈ segments, IsSegment segment) (separates : isSeparator c = true) :
    (toText rooted segments).head? = some c ↔ rooted = true ∧ c = '/' := by
  obtain ⟨first, rest, rfl⟩ := List.exists_cons_of_ne_nil listed
  have led := whole first List.mem_cons_self
  cases rooted with
  | false =>
    obtain ⟨d, tail, rfl⟩ := List.exists_cons_of_ne_nil led.filled
    have other : d ≠ c := by
      rintro rfl
      exact Bool.false_ne_true ((led.plain d List.mem_cons_self).symm.trans separates)
    have begins : (toText false ((d :: tail) :: rest)).head? = some d :=
      Text.head?_join (List.cons_ne_nil d tail) rest
    simp [begins, other]
  | true =>
    have begins : (toText true (first :: rest)).head? = some '/' := rfl
    simp [begins, eq_comm]

theorem isRooted_toText (rooted : Bool) (listed : segments ≠ [])
    (whole : ∀ segment ∈ segments, IsSegment segment) :
    isRooted (toText rooted segments) = rooted := by
  rw [Bool.eq_iff_iff, isRooted_iff, head?_toText rooted listed whole rfl,
    head?_toText rooted listed whole rfl]
  simp

/-! ## Dropping leading segments -/

theorem dropLeading_of_le (short : (ofText path).length ≤ count) : dropLeading count path = [] :=
  if_pos short

theorem dropLeading_of_lt (long : count < (ofText path).length) :
    dropLeading count path = toText (isRooted path) ((ofText path).drop count) :=
  if_neg (Nat.not_le.2 long)

theorem isSegment_of_mem_drop {segment : Text} (mem : segment ∈ (ofText path).drop count) :
    IsSegment segment :=
  isSegment_of_mem_ofText (List.mem_of_mem_drop mem)

theorem ofText_dropLeading (count : Nat) (path : Text) :
    ofText (dropLeading count path) = (ofText path).drop count := by
  rcases Nat.lt_or_ge count (ofText path).length with long | short
  · rw [dropLeading_of_lt long, ofText_toText _ fun _ => isSegment_of_mem_drop]
  · rw [dropLeading_of_le short, List.drop_eq_nil_of_le short, ofText_nil]

theorem dropLeading_eq_nil_iff : dropLeading count path = [] ↔ (ofText path).length ≤ count := by
  constructor
  · intro empty
    rw [← List.drop_eq_nil_iff, ← ofText_dropLeading, empty, ofText_nil]
  · exact dropLeading_of_le

theorem isRooted_dropLeading (long : count < (ofText path).length) :
    isRooted (dropLeading count path) = isRooted path := by
  have listed : (ofText path).drop count ≠ [] := by simpa using long
  rw [dropLeading_of_lt long, isRooted_toText _ listed fun _ => isSegment_of_mem_drop]

/-- What is left begins with a slash exactly if the path text begins with either separator. -/
theorem head?_dropLeading (long : count < (ofText path).length) :
    (dropLeading count path).head? = some '/' ↔
      path.head? = some '/' ∨ path.head? = some '\\' := by
  have listed : (ofText path).drop count ≠ [] := by simpa using long
  rw [dropLeading_of_lt long, head?_toText _ listed (fun _ => isSegment_of_mem_drop) rfl,
    isRooted_iff]
  simp

theorem dropLeading_dropLeading (m n : Nat) (path : Text) :
    dropLeading n (dropLeading m path) = dropLeading (m + n) path := by
  rcases Nat.lt_or_ge m (ofText path).length with long | short
  · have bound : (ofText path).length - m ≤ n ↔ (ofText path).length ≤ m + n := by omega
    rw [dropLeading, ofText_dropLeading, isRooted_dropLeading long, List.length_drop,
      List.drop_drop, dropLeading]
    simp only [bound]
  · rw [dropLeading_of_le short, dropLeading_of_le (by simp), dropLeading_of_le (by omega)]

/-- Dropping `m` segments and then `n` is dropping `m + n`. Nothing is left exactly if there are no
more than `m` segments; otherwise the others are left, after a slash if either separator stood
first. -/
theorem drop_add (path : Text) (m n : Nat) :
    ∃ segments left,
      (∀ read, Spells path read ↔ read = segments) ∧
      drop m path = some left ∧ drop n left = drop (m + n) path ∧
      (left = [] ↔ segments.length ≤ m) ∧
      (left ≠ [] →
        (left.head? = some '/' ↔ path.head? = some '/' ∨ path.head? = some '\\') ∧
        ∀ read, Spells left read ↔ read = segments.drop m) := by
  refine ⟨ofText path, dropLeading m path, fun _ => spells_iff, rfl, ?_, dropLeading_eq_nil_iff, ?_⟩
  · exact congrArg some (dropLeading_dropLeading m n path)
  · intro more
    have long := Nat.not_le.1 (mt dropLeading_eq_nil_iff.2 more)
    refine ⟨head?_dropLeading long, fun read => ?_⟩
    rw [spells_iff, ofText_dropLeading]

/-- Separators of both kinds, in runs and at the start, are written as single slashes. -/
example : drop 1 "\\a//b\\/c/" = some ("/b/c" : Text) ∧ drop 1 ("/b/c" : Text) = some ("/c" : Text) := by
  decide +kernel

end DocWeave.Segments
