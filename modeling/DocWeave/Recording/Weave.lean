import DocWeave.Recording.Basic
import DocWeave.Weave

/-! # Resolving directives into a sink

Filtering, pipelines and expansion as they go when they are handed a sink or none. Where something
is reported, the report is the only step that looks at the sink, and the way the work goes on from
there does not depend on it.
-/

namespace DocWeave

namespace Visibility

/-- What a tool sees of the text from `position` on. -/
def filterFromInto (tag tool text : Text) (position : Nat) : Recording Text :=
  match opened : Text.findFrom? (Region.opener tag) text position with
  | none => .done (text.drop position)
  | some first =>
    match found : Region.findFrom? tag text first with
    | none => Recording.report (unclosed tag) >>= fun _ => .done (text.drop position)
    | some region =>
      have := Region.findFrom?_bounds found
      have := Text.le_of_findFrom? opened
      (if region.keeps tool then filterFromInto tag tool region.inner 0 else .done []) >>= fun inside =>
      filterFromInto tag tool text region.stop >>= fun after =>
      .done (text.slice position region.start ++ inside ++ after)
  termination_by (text.length, text.length - position)

/-- What a tool sees of a text. -/
def filterInto (tag tool text : Text) : Recording Text := filterFromInto tag tool text 0

end Visibility

namespace Chain

/-- What one stage leaves of a content. What answers the requests of the stage reports to the same
sink. -/
def runStageInto (env : Environment) (content : Text) (call : StageCall) : Recording Text :=
  match env.registry.find? call.name with
  | none => do
    Recording.report (unknownStage call.name)
    return content
  | some stage => do
    let context : StageContext :=
      ⟨content, call.name, env.tool, env.strategy, call.params, env.library.isSome⟩
    match ← (Recording.ofTrace
        ((stage context).run (env.library.getD Library.absent))).attempt with
    | .ok reply => return reply.content?.getD content
    | .error failure => do
      Recording.report (failedStage call.name failure)
      return content

/-- What stages in a row leave of a content. -/
def runStagesInto (env : Environment) (content : Text) : List StageCall → Recording Text
  | [] => .done content
  | call :: rest => do runStagesInto env (← runStageInto env content call) rest

/-- What the stages of a specification leave of a content. -/
def runInto (env : Environment) (content spec : Text) : Recording Text :=
  runStagesInto env content (parse spec)

end Chain

namespace Weaver

variable (w : Weaver)

/-- What the requesting tool sees of a content. -/
def filteredInto (content : Text) : Recording Text :=
  Visibility.filterInto w.settings.filterTag w.tool content

/-- What stands in place of a document that cannot be read. -/
def markerInto (directive : Directive) (path : Path) : Recording Text := do
  Recording.report (missing directive path)
  Recording.ofOutcome ((w.settings.missingMarker directive.path).mapError .template)

/-- A content after the pipeline of a directive, if it names one. -/
def pipedInto (directive : Directive) (content : Text) : Recording Text :=
  match w.registry, directive.pipelines with
  | some registry, some spec =>
    Chain.runInto ⟨registry, w.tool, w.strategy, w.library⟩ content spec
  | _, _ => .done content

/-- The text from `position` on with the directives exchanged for what they include, where
`current` is the innermost document in expansion. -/
def expandFromInto (visited : Visitation) (current : Path) (text : Text) (position : Nat) :
    List Directive → Recording Text
  | [] => .done (text.drop position)
  | directive :: rest =>
    let path := w.target current directive
    let included : Recording Text :=
      match read : w.store.read path with
      | .error failure =>
        Recording.ask path >>= fun _ =>
          if failure.isUnreadable then w.markerInto directive path else Recording.fail failure
      | .ok raw =>
        Recording.ask path >>= fun _ =>
        w.filteredInto raw >>= fun seen =>
        match entered : visited.enter path.normalize with
        | .error cycle => Recording.fail (.cycle cycle)
        | .ok inside =>
          have := w.store.normalize_mem_reach read
          have := Visitation.chain_enter entered
          (expandFromInto inside path.normalize seen 0 (w.directives seen)).visiting
              path.normalize >>=
            w.pipedInto directive
    included >>= fun content =>
    expandFromInto visited current text directive.stop rest >>= fun after =>
    .done (text.slice position directive.start ++ content ++ after)
  termination_by directives => (w.store.unvisited visited.chain, directives.length)
  decreasing_by
    · obtain ⟨chain, fresh⟩ := Visitation.chain_enter entered
      rw [chain]
      exact Prod.Lex.left _ _
        (Store.unvisited_append_lt (w.store.normalize_mem_reach read) fresh)
    · exact Prod.Lex.right _ (by simp)

/-- A filtered text with its directives exchanged, as the content of `current`. -/
def expandInto (visited : Visitation) (current : Path) (text : Text) : Recording Text :=
  match visited.enter current.normalize with
  | .error cycle => Recording.fail (.cycle cycle)
  | .ok inside =>
    (w.expandFromInto inside current.normalize text 0 (w.directives text)).visiting
      current.normalize

/-- A content with its directives resolved, as the content of `current`. -/
def weaveInto (visited : Visitation) (current : Path) (content : Text) : Recording Text :=
  w.filteredInto content >>= w.expandInto visited current

end Weaver

end DocWeave
