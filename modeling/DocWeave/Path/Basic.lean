import DocWeave.Text.Basic

/-! # Paths

A path is an anchor and a list of names. Reading a path from text drops empty names and single
dots, so that two spellings of one path are equal; parent steps are kept until the path is
collapsed. Collapsing is lexical: it cancels a name against the parent step after it and never
looks at a file system.
-/

namespace DocWeave

/-- Where a path starts. Exactly two leading slashes are an anchor of their own; three or more
count as one. -/
inductive Anchor where
  | relative
  | root
  | doubleRoot
  deriving DecidableEq, Repr

/-- Whether a text can stand as a name in a path. -/
def isName (name : Text) : Bool := !name.isEmpty && name != ['.'] && !name.contains '/'

/-- The name that stands for the parent directory. -/
def parentStep : Text := ".."

/-- An anchor and the names below it. -/
structure Path where
  anchor : Anchor
  names : List Text
  isName_of_mem : ∀ name ∈ names, isName name = true
  deriving DecidableEq

namespace Anchor

/-- The anchor that a text of a path starts with. -/
def ofText : Text → Anchor
  | '/' :: '/' :: '/' :: _ => root
  | '/' :: '/' :: _ => doubleRoot
  | '/' :: _ => root
  | _ => relative

/-- The slashes of an anchor. -/
def toText : Anchor → Text
  | relative => []
  | root => "/"
  | doubleRoot => "//"

end Anchor

namespace Path

/-- The anchor alone. -/
def ofAnchor (anchor : Anchor) : Path := ⟨anchor, [], by simp⟩

/-- The root directory. -/
def root : Path := ofAnchor .root

instance : Inhabited Path := ⟨root⟩

/-- The path with more names below it; what is no name is left out. -/
def extend (p : Path) (more : List Text) : Path where
  anchor := p.anchor
  names := p.names ++ more.filter isName
  isName_of_mem name mem := by
    rcases List.mem_append.1 mem with old | new
    · exact p.isName_of_mem name old
    · exact (List.mem_filter.1 new).2

/-- The path that a text spells. -/
def ofText (text : Text) : Path := (ofAnchor (.ofText text)).extend (text.splitOn '/')

/-- The canonical spelling of a path; the empty relative path is a single dot. -/
def toText (p : Path) : Text :=
  if p.anchor = .relative ∧ p.names = [] then "." else p.anchor.toText ++ Text.join "/" p.names

/-- Whether a path starts at an anchor other than the current directory. -/
def isAbsolute (p : Path) : Bool := p.anchor != .relative

/-- `q` as seen from `p`: an absolute path is the same from everywhere. -/
def join (p q : Path) : Path := if q.isAbsolute then q else p.extend q.names

/-- The path without its last name; an anchor is its own parent. -/
def parent (p : Path) : Path where
  anchor := p.anchor
  names := p.names.dropLast
  isName_of_mem name mem := p.isName_of_mem name (List.dropLast_subset _ mem)

/-- The last name; empty for an anchor. -/
def name (p : Path) : Text := p.names.getLast?.getD []

/-- The last name from its last point on, unless the point is the name's first or last character. -/
def suffix (p : Path) : Text :=
  let tail := p.name.reverse.takeWhile (· != '.')
  let point := p.name.length - tail.length - 1
  if tail.isEmpty || point == 0 then [] else p.name.drop point

/-- One name seen while collapsing: `below` holds the names so far, the innermost first. A parent
step takes the innermost name away; above the anchor there is only the anchor itself. -/
def climb (anchored : Bool) (below : List Text) (name : Text) : List Text :=
  if name = parentStep then
    match below with
    | [] => if anchored then [] else [parentStep]
    | inner :: outer => if inner = parentStep then parentStep :: inner :: outer else outer
  else name :: below

theorem mem_or_eq_of_mem_climb {anchored : Bool} {below : List Text} {name s : Text}
    (mem : s ∈ climb anchored below name) : s ∈ below ∨ s = name := by
  unfold climb at mem
  split at mem
  · split at mem
    · split at mem <;> simp_all
    · split at mem <;> simp_all
  · rcases List.mem_cons.1 mem with rfl | old <;> simp_all

theorem mem_of_mem_foldl_climb {anchored : Bool} {names below : List Text} {s : Text}
    (mem : s ∈ names.foldl (climb anchored) below) : s ∈ below ∨ s ∈ names := by
  induction names generalizing below with
  | nil => exact Or.inl mem
  | cons name names ih =>
    rcases ih mem with inner | later
    · rcases mem_or_eq_of_mem_climb inner with old | rfl
      · exact Or.inl old
      · exact Or.inr (List.mem_cons_self ..)
    · exact Or.inr (List.mem_cons_of_mem _ later)

/-- The path without parent steps, except leading ones of a relative path. -/
def collapse (p : Path) : Path where
  anchor := p.anchor
  names := (p.names.foldl (climb p.isAbsolute) []).reverse
  isName_of_mem name mem := by
    rcases mem_of_mem_foldl_climb (List.mem_reverse.1 mem) with none | old
    · simp at none
    · exact p.isName_of_mem name old

/-- The collapsed path, taken from the directory `current` when it is relative. -/
def normalizeFrom (current p : Path) : Path := (current.join p).collapse

/-- The collapsed path, taken from the root directory when it is relative. -/
def normalize (p : Path) : Path := normalizeFrom root p

/-- Whether `p` is `q` or lies above it. -/
def isAbove (p q : Path) : Bool := p.anchor == q.anchor && p.names.isPrefixOf q.names

/-- The names of two lists after their longest common start. -/
def afterCommon : List Text → List Text → List Text × List Text
  | a :: as, b :: bs => if a = b then afterCommon as bs else (a :: as, b :: bs)
  | as, bs => (as, bs)

/-- How to get from the directory `base` to `p`, both taken from the root directory; the anchors
do not count. -/
def relativeTo (p base : Path) : Text :=
  let (up, down) := afterCommon base.normalize.names p.normalize.names
  match up.map (fun _ => parentStep) ++ down with
  | [] => "."
  | steps => Text.join "/" steps

/-- What decides the order of paths: the slashes of the anchor, if there are any, and the names. -/
def key (p : Path) : List Text :=
  if p.anchor = .relative then p.names else p.anchor.toText :: p.names

/-- Paths in order: the anchor, then name by name, each by code point. -/
instance : LT Path := ⟨fun p q => p.key < q.key⟩

instance (p q : Path) : Decidable (p < q) := inferInstanceAs (Decidable (p.key < q.key))

@[simp] theorem anchor_extend (p : Path) (more : List Text) : (p.extend more).anchor = p.anchor := rfl

@[simp] theorem names_extend (p : Path) (more : List Text) :
    (p.extend more).names = p.names ++ more.filter isName := rfl

theorem ext_names {p q : Path} (anchor : p.anchor = q.anchor) (names : p.names = q.names) :
    p = q := by
  cases p; cases q; simp_all

/-- Names that are in a path already are all kept when they extend another. -/
theorem filter_isName_names (p : Path) : p.names.filter isName = p.names :=
  List.filter_eq_self.2 p.isName_of_mem

theorem isAbsolute_normalize (p : Path) : p.normalize.isAbsolute = true := by
  have joined : (root.join p).isAbsolute = true := by
    unfold join
    split
    · assumption
    · rfl
  exact joined

end Path

end DocWeave
