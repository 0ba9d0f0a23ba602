import DocWeave.Text.Template

/-! # Settings

What can be set about a run: the names of the tags, the root mark, the marker of a missing
document, and how documents are discovered, read and reported.
-/

namespace DocWeave

/-- The settings of a run. -/
structure Settings where
  /-- The name of the visibility tag. -/
  filterTag : Text
  /-- The name of the include tag. -/
  includeTag : Text
  /-- What a path literal below the project root begins with. -/
  rootMark : Text
  /-- The template of what stands in place of a document that cannot be read. -/
  missingTemplate : Text
  /-- Where the configuration is, seen from the project root. -/
  configFile : Text
  /-- The patterns of what discovery never finds. -/
  ignore : List Text
  /-- How many directories below the project root discovery goes. -/
  maxDepth : Int
  /-- The name of the encoding of documents. -/
  encoding : Text
  /-- Whether progress is logged. -/
  useLogs : Bool
  deriving DecidableEq, Repr

namespace Settings

/-- The settings when nothing is set. -/
def default : Settings where
  filterTag := "content-factory-filter"
  includeTag := "content-factory-include-file"
  rootMark := "@/"
  missingTemplate := "[MISSING FILE: \x7bpath\x7d]"
  configFile := "content-factory.config.py"
  ignore := ["**/node_modules/**"]
  maxDepth := 10
  encoding := "utf-8"
  useLogs := false

/-- The marker that stands in place of the document of a path literal. -/
def missingMarker (settings : Settings) (literal : Text) : Except TemplateFault Text :=
  Template.fill settings.missingTemplate [("path", literal)]

end Settings

end DocWeave
