import DocWeave.Chain.Run
import DocWeave.Markup.Directive
import DocWeave.Markup.Visibility
import DocWeave.Path.Resolve
import DocWeave.Settings.Basic
import DocWeave.Store

/-! # Resolving directives

Resolving a document filters it for the requesting tool and then puts, in place of every include
directive, the resolved content of the document it names, after the pipeline it names. A document
that cannot be read leaves a marker and a report. Inclusion ends because every document on the
way down is readable and not yet in expansion.
-/

namespace DocWeave

/-- What documents are resolved with. -/
structure Weaver where
  settings : Settings
  tool : Text
  strategy : Text
  /-- The project root. -/
  root : Path
  /-- The stages of pipelines; without a registry no pipeline runs. -/
  registry : Option Registry
  /-- What answers the requests of stages, where there is something. -/
  library : Option Library
  store : Store

namespace Weaver

variable (w : Weaver)

/-- What the requesting tool sees of a content. -/
def filtered (content : Text) : Trace Text :=
  let (seen, reports) := Visibility.filter w.settings.filterTag w.tool content
  ⟨reports.map .reported, .ok seen⟩

/-- The directives of a filtered content. -/
def directives (text : Text) : List Directive := Directive.findAll w.settings.includeTag text

/-- The path of the document that a directive in `current` names. -/
def target (current : Path) (directive : Directive) : Path :=
  Path.resolveInclude w.settings.rootMark directive.path w.root current

/-- The report of a document that cannot be read. -/
def missing (directive : Directive) (path : Path) : Report :=
  .error .missingIncludedFile
    ("Failed to include file '" ++ directive.path ++ "' (resolved to '" ++ path.toText ++ "')")
    (some path.toText)

/-- What stands in place of a document that cannot be read. -/
def marker (directive : Directive) (path : Path) : Trace Text := do
  Trace.tell [missing directive path]
  Trace.ofOutcome ((w.settings.missingMarker directive.path).mapError .template)

/-- A content after the pipeline of a directive, if it names one. -/
def piped (directive : Directive) (content : Text) : Trace Text :=
  match w.registry, directive.pipelines with
  | some registry, some spec => Chain.run ⟨registry, w.tool, w.strategy, w.library⟩ content spec
  | _, _ => Trace.done content

/-- The text from `position` on with the directives exchanged for what they include, where
`current` is the innermost document in expansion. -/
def expandFrom (visited : Visitation) (current : Path) (text : Text) (position : Nat) :
    List Directive → Trace Text
  | [] => Trace.done (text.drop position)
  | directive :: rest =>
    let path := w.target current directive
    let included : Trace Text :=
      match read : w.store.read path with
      | .error failure =>
        ⟨[.asked path], .ok ()⟩ >>= fun _ =>
          if failure.isUnreadable then w.marker directive path else Trace.fail failure
      | .ok raw =>
        ⟨[.asked path], .ok ()⟩ >>= fun _ =>
        w.filtered raw >>= fun seen =>
        match entered : visited.enter path.normalize with
        | .error cycle => Trace.fail (.cycle cycle)
        | .ok inside =>
          have := w.store.normalize_mem_reach read
          have := Visitation.chain_enter entered
          (expandFrom inside path.normalize seen 0 (w.directives seen)).visiting path.normalize >>=
            w.piped directive
    included >>= fun content =>
    expandFrom visited current text directive.stop rest >>= fun after =>
    Trace.done (text.slice position directive.start ++ content ++ after)
  termination_by directives => (w.store.unvisited visited.chain, directives.length)
  decreasing_by
    · obtain ⟨chain, fresh⟩ := Visitation.chain_enter entered
      rw [chain]
      exact Prod.Lex.left _ _
        (Store.unvisited_append_lt (w.store.normalize_mem_reach read) fresh)
    · exact Prod.Lex.right _ (by simp)

/-- A filtered text with its directives exchanged, as the content of `current`. -/
def expand (visited : Visitation) (current : Path) (text : Text) : Trace Text :=
  match visited.enter current.normalize with
  | .error cycle => Trace.fail (.cycle cycle)
  | .ok inside =>
    (w.expandFrom inside current.normalize text 0 (w.directives text)).visiting current.normalize

/-- A content with its directives resolved, as the content of `current`. -/
def weave (visited : Visitation) (current : Path) (content : Text) : Trace Text :=
  w.filtered content >>= w.expand visited current

end Weaver

end DocWeave
