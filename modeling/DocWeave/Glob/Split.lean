import DocWeave.Path.Basic

/-! # The fixed part of a pattern

The leading segments of a pattern that hold no wildcard name one directory. A search starts
there, and only the rest of the pattern is matched.
-/

namespace DocWeave.Glob

/-- Whether a segment holds a wildcard character. -/
def isWild (segment : Text) : Bool := segment.any fun c => c == '*' || c == '?' || c == '['

/-- The leading segments without wildcards, never all of them, and the others. -/
def splitSegments : List Text → List Text × List Text
  | [] => ([], [])
  | [last] => ([], [last])
  | s :: rest =>
    if isWild s then ([], s :: rest)
    else let (fixed, wild) := splitSegments rest; (s :: fixed, wild)

/-- The directory that the fixed part of a pattern names, seen from `base` unless the pattern is
absolute, and the rest of the pattern. -/
def split (pattern : Text) (base : Path) : Path × Text :=
  let anchor := Anchor.ofText pattern
  let (fixed, wild) := splitSegments ((pattern.drop anchor.toText.length).splitOn '/')
  let start := if anchor = .relative then base else Path.ofAnchor anchor
  ((start.extend fixed).normalize, Text.join "/" wild)

end DocWeave.Glob
