import DocWeave.Chain.Stage
import DocWeave.Outcome

/-! # Configurations

A configuration lists tools, and stages that pipelines may use besides those that are always
there. A tool has strategies: each names the files that it is about and turns them, one directory
at a time, into an outcome. When its strategies are done a tool may finish with one more callback,
which is given all the metadata that they left.
-/

namespace DocWeave

/-- The resolved files of one directory. -/
structure Batch where
  directory : Path
  /-- The project root. -/
  root : Path
  files : List SourceFile
  deriving DecidableEq

/-- Patterns of files and what becomes of the files. -/
structure Strategy where
  name : Text
  patterns : List Text
  transform : Batch → Program Returned

/-- A tool that documents are generated for. -/
structure Tool where
  name : Text
  strategies : List Strategy
  /-- The last step, given the metadata of all batches in order. -/
  finish : Option (List Json → Program Returned)

/-- What a project generates. -/
structure Config where
  tools : List Tool
  stages : List (Text × Stage)
  /-- Whether progress is logged, where the configuration decides it. -/
  useLogs : Option Bool

end DocWeave
