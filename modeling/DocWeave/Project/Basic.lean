import DocWeave.Config
import DocWeave.Discovery
import DocWeave.FileTree.Documents
import DocWeave.Weave

/-! # Projects

A project is a configuration at a root. It resolves the documents below its root, and it answers
the requests of stages and callbacks for them. A request is resolved like a document of its own:
what is in expansion elsewhere does not concern it.
-/

namespace DocWeave

/-- A configuration and where it applies. -/
structure Project where
  settings : Settings
  config : Config
  root : Path
  /-- Where files are written that have a relative path. -/
  outputRoot : Path
  /-- How deep reads may be requested from within reads. -/
  nesting : Nat

namespace Project

/-- A project whose output goes to its own root unless told otherwise. -/
def ofPaths (settings : Settings) (config : Config) (root : Path) (outputRoot : Option Path)
    (nesting : Nat) : Project :=
  ⟨settings, config, root.normalize, (outputRoot.getD root).normalize, nesting⟩

variable (p : Project)

/-- The stages of the project's pipelines. -/
def registry : Registry := Registry.builtin.extend p.config.stages

/-- Where discovery looks for the project's documents. -/
def scope : Scope := ⟨p.root, p.settings.ignore, p.settings.maxDepth⟩

/-- What the project's documents are resolved with. -/
def weaver (tree : FileTree) (library : Library) (tool strategy : Text) : Weaver where
  settings := p.settings
  tool := tool
  strategy := strategy
  root := p.root
  registry := some p.registry
  library := some library
  store := tree.store p.settings.encoding

/-- A document with its directives resolved. -/
def resolve (tree : FileTree) (library : Library) (tool strategy : Text) (path : Path)
    (content : Text) : Trace Text :=
  (p.weaver tree library tool strategy).weave .empty path content

/-- A document read, resolved and put through the pipeline that is asked for. -/
def read (tree : FileTree) (library : Library) (path : Path) (options : ReadOptions) :
    Trace SourceFile := do
  let raw ← Trace.ofOutcome (tree.readText p.settings.encoding path)
  let resolved ← (p.resolve tree library options.tool options.strategy path raw).apart
  let content ← match options.pipelines with
    | none => Trace.done resolved
    | some spec =>
      Chain.run ⟨p.registry, options.tool, options.strategy, some library⟩ resolved spec
  return SourceFile.ofContent p.root path content

/-- What answers requests while `depth` more may be nested. -/
def libraryWithin (tree : FileTree) : (depth : Nat) → Library
  | 0 => Library.exhausted
  | depth + 1 =>
    let inner := libraryWithin tree depth
    { fetch := fun literal options =>
        p.read tree inner (Path.resolveRequest p.settings.rootMark literal p.root) options
      fetchAll := fun patterns options => do
        let found ← Trace.ofOutcome (Discovery.find tree p.scope patterns)
        found.mapM fun path => p.read tree inner path options }

/-- What answers requests of stages and callbacks. -/
def library (tree : FileTree) : Library := p.libraryWithin tree p.nesting

end Project

end DocWeave
