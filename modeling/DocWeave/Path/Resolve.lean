import DocWeave.Path.Basic

/-! # Path literals

A document names another by a path literal. An absolute literal stands for itself. A literal that
begins with the root mark is taken below the project root. What else a literal is taken from
depends on who asks: an include directive means the directory of the document it stands in, a
request by name means the project root.
-/

namespace DocWeave.Path

/-- What follows the root mark in a literal that begins with it. -/
def afterRootMark? (rootMark literal : Text) : Option Text :=
  if rootMark.isPrefixOf literal then some (literal.drop rootMark.length) else none

/-- The path that a literal in a directive of the document `current` stands for. -/
def resolveInclude (rootMark literal : Text) (root current : Path) : Path :=
  let path := ofText literal
  if path.isAbsolute then path
  else match afterRootMark? rootMark literal with
    | some rest => (root.join (ofText rest)).normalize
    | none => (current.parent.join path).normalize

/-- The path that a literal of a request by name stands for. -/
def resolveRequest (rootMark literal : Text) (root : Path) : Path :=
  let path := ofText literal
  if path.isAbsolute then path
  else (root.join (ofText ((afterRootMark? rootMark literal).getD literal))).normalize

end DocWeave.Path
