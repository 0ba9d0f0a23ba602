import DocWeave.Proofs.Expansion.Reach
import DocWeave.Proofs.Markup.Spelling
import DocWeave.Proofs.Path.Literal
import DocWeave.Proofs.Project.Task
import Mathlib.Data.List.Nodup

/-! # Requested and included documents

A document may be requested by name or included by a directive, and it comes to the same: a document
that is nothing but a directive resolves to what a request for the literal of the directive gives,
with the same pipeline and the same reports. Both take an absolute literal as it is and one with the
root mark from the project root; a bare literal is taken from the root by a request, and so by a
directive in a document that lies there.
-/

namespace DocWeave

namespace Trace

variable {α : Type}

@[simp] theorem reports_visiting (path : Path) (t : Trace α) :
    (t.visiting path).reports = t.reports := by
  simp [visiting, reports, List.filterMap_cons, Event.report?]

@[simp] theorem reports_apart (t : Trace α) : t.apart.reports = t.reports := by
  rw [reports, reports, apart, List.filterMap_filter]
  congr 1
  funext event
  cases event <;> rfl

end Trace

namespace Weaver

variable {w : Weaver} {current : Path} {document literal : Text} {pipelines : Option Text}

/-- A document that is one directive resolves to what the directive includes. -/
theorem weave_of_spells (tags : w.settings.TagsApart)
    (spells : Directive.Spells w.settings.includeTag literal pipelines document)
    (unbracketed : '<' ∉ literal) (plain : ∀ spec ∈ pipelines, '<' ∉ spec) :
    w.weave .empty current document =
      (w.included ⟨[current.normalize], by simp⟩ current.normalize
        ⟨literal, pipelines, document, 0, document.length⟩).visiting current.normalize := by
  have unfiltered : w.filtered document = Trace.done document := by
    rw [filtered, Visibility.filter_of_none
      (Directive.find?_opener_of_spells tags spells unbracketed plain)]
    rfl
  have single : w.directives document = [⟨literal, pipelines, document, 0, document.length⟩] :=
    Directive.findAll_of_spells spells
  rw [weave, unfiltered, Trace.bind_eq, Trace.done_andThen,
    expand_of_enter (Visitation.enter_empty _), single, expandFrom_cons, expandFrom_nil]
  simp [Text.slice, Trace.andThen_done]

end Weaver

namespace Project

variable {p : Project} {tree : FileTree} {library : Library} {path : Path} {options : ReadOptions}
  {file : SourceFile}

/-- The document that a request for a literal is about. -/
def requested (p : Project) (literal : Text) : Path :=
  Path.resolveRequest p.settings.rootMark literal p.root

/-- A resolved content after the pipeline that a request names, if it names one. -/
def piped (p : Project) (library : Library) (options : ReadOptions) (content : Text) : Trace Text :=
  match options.pipelines with
  | none => Trace.done content
  | some spec =>
    Chain.run ⟨p.registry, options.tool, options.strategy, some library⟩ content spec

/-- A directive puts what it includes through the same pipeline as a request for it. -/
theorem piped_weaver (tool strategy : Text) (directive : Directive) (content : Text) :
    (p.weaver tree library tool strategy).piped directive content =
      p.piped library ⟨tool, strategy, directive.pipelines⟩ content := by
  rw [Weaver.piped, piped]
  cases directive.pipelines <;> rfl

/-- A request reads a document, resolves it by itself and puts it through its pipeline. -/
theorem read_eq (path : Path) (options : ReadOptions) :
    p.read tree library path options =
      (Trace.ofOutcome (tree.readText p.settings.encoding path)).andThen fun raw =>
        (p.resolve tree library options.tool options.strategy path raw).apart.andThen
          fun resolved => (p.piped library options resolved).andThen fun content =>
            Trace.done (SourceFile.ofContent p.root path content) := by
  rw [read]
  simp only [piped]
  cases options.pipelines <;> rfl

/-- A document that can be read and resolved is given as its pipeline leaves it. -/
theorem read_of_ok {raw resolved content : Text}
    (answered : tree.readText p.settings.encoding path = .ok raw)
    (woven : (p.resolve tree library options.tool options.strategy path raw).outcome = .ok resolved)
    (chained : (p.piped library options resolved).outcome = .ok content) :
    (p.read tree library path options).outcome = .ok (SourceFile.ofContent p.root path content) ∧
    (p.read tree library path options).reports =
      (p.resolve tree library options.tool options.strategy path raw).reports ++
        (p.piped library options resolved).reports := by
  have apart : (p.resolve tree library options.tool options.strategy path raw).apart.outcome =
      .ok resolved := woven
  rw [read_eq, answered]
  constructor
  · simp only [Trace.outcome_andThen_eq_ok_iff]
    exact ⟨raw, rfl, resolved, apart, content, chained, rfl⟩
  · rw [Trace.reports_andThen_of_ok rfl, Trace.reports_andThen_of_ok apart,
      Trace.reports_andThen_of_ok chained, Trace.reports_apart]
    have opening : (Trace.ofOutcome (.ok raw : Except Failure Text)).reports = [] := rfl
    have closing : (Trace.done (SourceFile.ofContent p.root path content)).reports = [] := rfl
    rw [opening, closing, List.nil_append, List.append_nil]

/-- What goes into a document that a request gives. -/
theorem exists_of_read (ended : (p.read tree library path options).outcome = .ok file) :
    ∃ raw resolved, tree.readText p.settings.encoding path = .ok raw ∧
      (p.resolve tree library options.tool options.strategy path raw).outcome = .ok resolved ∧
      (p.piped library options resolved).outcome = .ok file.content := by
  rw [read_eq] at ended
  simp only [Trace.outcome_andThen_eq_ok_iff] at ended
  obtain ⟨raw, answered, resolved, woven, content, chained, ended⟩ := ended
  cases ended
  exact ⟨raw, resolved, answered, woven, chained⟩

/-- A document that is nothing but a directive resolves to the content that a request for the
literal of the directive gives, and says the same on the way, unless the document is what it
includes or is reached from there. -/
theorem resolve_eq_read (p : Project) (tree : FileTree) (library : Library)
    (tool strategy literal : Text) (pipelines : Option Text) (current : Path) (document : Text)
    (file : SourceFile) (tags : p.settings.TagsApart)
    (spells : Directive.Spells p.settings.includeTag literal pipelines document)
    (unbracketed : '<' ∉ literal) (plain : ∀ spec ∈ pipelines, '<' ∉ spec)
    (based : (Path.ofText literal).isAbsolute = true ∨ p.settings.rootMark <+: literal ∨
      current.normalize.parent = p.root)
    (read : (p.read tree library (p.requested literal) ⟨tool, strategy, pipelines⟩).outcome =
      .ok file)
    (apart : current.normalize ≠ (p.requested literal).normalize)
    (unreached : ∀ raw, tree.readText p.settings.encoding (p.requested literal) = .ok raw →
      let w := p.weaver tree library tool strategy
      ¬ w.Reaches (p.requested literal).normalize
        (w.directives (w.seen raw)) current.normalize) :
    (p.resolve tree library tool strategy current document).outcome = .ok file.content ∧
    (p.resolve tree library tool strategy current document).reports =
      (p.read tree library (p.requested literal) ⟨tool, strategy, pipelines⟩).reports := by
  let directive : Directive := ⟨literal, pipelines, document, 0, document.length⟩
  obtain ⟨raw, resolved, answered, woven, chained⟩ := exists_of_read read
  have target : (p.weaver tree library tool strategy).target current.normalize directive =
      p.requested literal :=
    Path.resolveInclude_eq_resolveRequest based
  have answer : (p.weaver tree library tool strategy).store.read
      ((p.weaver tree library tool strategy).target current.normalize directive) = .ok raw := by
    rw [target]
    exact answered
  -- The document is in expansion around what it includes, which does not lead back to it.
  have within := Weaver.weave_of_unreached apart.symm (unreached raw answered) woven
  have included : (p.resolve tree library tool strategy current document) =
      ((Trace.emit [.asked (p.requested literal)]).andThen
        fun _ => (p.resolve tree library tool strategy (p.requested literal) raw).andThen
          (p.piped library ⟨tool, strategy, pipelines⟩)).visiting current.normalize := by
    rw [resolve, Weaver.weave_of_spells tags spells unbracketed plain,
      Weaver.included_of_ok answer, target, within]
    congr 2
    funext _
    congr 1
    funext content
    exact piped_weaver tool strategy directive content
  rw [(read_of_ok answered woven chained).2, included, Trace.outcome_visiting,
    Trace.reports_visiting, Trace.andThen_of_ok rfl]
  constructor
  · exact Trace.outcome_andThen_eq_ok_iff.mpr ⟨resolved, woven, chained⟩
  · exact Trace.reports_andThen_of_ok woven

/-- A project without tools and without stages of its own. -/
def bare : Project := .ofPaths .default ⟨[], [], none⟩ (.ofText "/proj") none 1

/-- A document that includes the one beside it. -/
def beside : Text := "<content-factory-include-file path='b.md' />"

/-- The document and the one beside it. -/
def pair : FileTree :=
  (FileTree.empty.plant ["proj".toList, "a.md".toList]
    (.file (beside.flatMap Codec.utf8Bytes))).plant ["proj".toList, "b.md".toList]
      (.file (" B".toList.flatMap Codec.utf8Bytes))

/-- A directive with a pipeline and a closing tag. -/
def spelled : Text :=
  "<content-factory-include-file\tpath='@/a.md'\n pipelines = \"trim, nope(1)\" >" ++
    "</content-factory-include-file>"

/-- The document spells a directive for the one beside it. -/
theorem spells_beside : Directive.Spells bare.settings.includeTag "b.md" none beside := by
  have shape : beside = '<' :: Settings.default.includeTag ++ ([' '] ++ "path".toList ++ [] ++
      ['='] ++ [] ++ ['\''] ++ "b.md".toList ++ ['\'']) ++ [' '] ++ "/>".toList := by rfl
  rw [shape]
  refine .intro (.plain (.intro (by simp) ?_ rfl rfl (by simp) ?_)) ?_ (.head _)
  · simp [Text.isBlank]
  · simp [Markup.isQuote]
  · simp [Text.isBlank]

theorem spells_spelled :
    Directive.Spells bare.settings.includeTag "@/a.md" (some "trim, nope(1)".toList) spelled := by
  have shape : spelled = '<' :: Settings.default.includeTag ++
      ((['\t'] ++ "path".toList ++ [] ++ ['='] ++ [] ++ ['\''] ++ "@/a.md".toList ++ ['\'']) ++
        (['\n', ' '] ++ "pipelines".toList ++ [' '] ++ ['='] ++ [' '] ++ ['"'] ++
          "trim, nope(1)".toList ++ ['"'])) ++ [' '] ++
      ("></".toList ++ Settings.default.includeTag ++ ">".toList) := by rfl
  rw [shape]
  refine .intro (.piped (.intro (by simp) ?_ rfl rfl (by simp) ?_)
    (.intro (by simp) ?_ rfl rfl (by simp) ?_)) ?_ (.tail _ (.head _))
  · simp [Text.isBlank]
  · simp [Markup.isQuote]
  · simp [Text.isBlank]
  · simp [Markup.isQuote]
  · simp [Text.isBlank]

/-- What a request for the second document gives, which has no directives. -/
theorem read_second (library : Library) :
    bare.read pair library (bare.requested "b.md") ⟨"claude", "rules", none⟩ =
      ⟨[], .ok (SourceFile.ofContent bare.root (bare.requested "b.md") " B")⟩ ∧
    ∀ node other raw, pair.readText bare.settings.encoding (bare.requested "b.md") = .ok raw →
      let w := bare.weaver pair library "claude" "rules"
      ¬ w.Reaches node (w.directives (w.seen raw)) other := by
  have requested : bare.requested "b.md" = .ofText "/proj/b.md" := by decide +kernel
  have answered : pair.readText bare.settings.encoding (bare.requested "b.md") =
      .ok " B".toList := by
    rw [requested]
    decide +kernel
  have unfiltered : Text.find? (Region.opener bare.settings.filterTag) " B" = none := by
    rfl
  have plain : Directive.findAll bare.settings.includeTag " B" = [] := by decide +kernel
  constructor
  · rw [read_eq, answered, Trace.andThen_of_ok rfl, resolve_of_plain _ _ _ _ _ unfiltered plain]
    rfl
  · intro node other raw read w
    cases answered.symm.trans read
    have seen : w.seen " B" = " B".toList :=
      congrArg Prod.fst (Visibility.filter_of_none unfiltered)
    have none : w.directives (w.seen " B") = [] := by
      rw [seen]
      exact plain
    rw [none, Weaver.reaches_iff]
    simp

/-- A request for the first document, by a directive, leads on to the second. -/
theorem resolve_eq_read_pair :
    let resolved := bare.resolve pair (bare.library pair) "claude" "rules" (.ofText "/proj/c/x.md")
      spelled
    resolved.outcome = .ok "B".toList ∧ resolved.reports = [Chain.unknownStage "nope"] := by
  generalize bare.library pair = library
  let w := bare.weaver pair library "claude" "rules"
  let spec : Text := "trim, nope(1)"
  have first : bare.requested "@/a.md" = .ofText "/proj/a.md" := by decide +kernel
  have second : bare.requested "b.md" = .ofText "/proj/b.md" := by decide +kernel
  have root : (bare.requested "@/a.md").normalize.parent = bare.root := by
    rw [first]
    decide +kernel
  have tags : bare.settings.TagsApart := Settings.tagsApart_default
  have answered : pair.readText bare.settings.encoding (bare.requested "@/a.md") = .ok beside := by
    rw [first]
    decide +kernel
  obtain ⟨readSecond, blocked⟩ := read_second library
  obtain ⟨woven, said⟩ := resolve_eq_read bare pair library "claude" "rules" "b.md" none
    (bare.requested "@/a.md") beside _ tags spells_beside (by decide) nofun
    (.inr (.inr root)) (congrArg Trace.outcome readSecond)
    (by rw [first, second]; decide +kernel) (blocked _ _)
  have piped : bare.piped library ⟨"claude", "rules", some spec⟩ " B" =
      ⟨[.reported (Chain.unknownStage "nope")], .ok "B".toList⟩ := by rfl
  obtain ⟨readFirst, reported⟩ := @read_of_ok bare pair library (bare.requested "@/a.md")
    ⟨"claude", "rules", some spec⟩ beside " B" "B" answered woven (congrArg Trace.outcome piped)
  have led : ∀ raw, pair.readText bare.settings.encoding (bare.requested "@/a.md") = .ok raw →
      ¬ w.Reaches (bare.requested "@/a.md").normalize (w.directives (w.seen raw))
        (Path.ofText "/proj/c/x.md").normalize := by
    intro raw read
    cases answered.symm.trans read
    have seen : w.seen beside = beside := congrArg Prod.fst (Visibility.filter_of_none
      (Directive.find?_opener_of_spells tags spells_beside (by decide) nofun))
    have single : w.directives beside = [⟨"b.md", none, beside, 0, beside.length⟩] :=
      Directive.findAll_of_spells spells_beside
    have target : w.target (bare.requested "@/a.md").normalize
        ⟨"b.md", none, beside, 0, beside.length⟩ = bare.requested "b.md" :=
      Path.resolveInclude_eq_resolveRequest (.inr (.inr root))
    rw [seen, single, Weaver.reaches_iff]
    rintro ⟨directive, listed, raw, read, met⟩
    rw [List.mem_singleton] at listed
    subst listed
    rw [target] at read met
    rcases met with met | met
    · rw [second] at met
      exact absurd met (by decide +kernel)
    · exact blocked _ _ raw read met
  obtain ⟨outcome, reports⟩ := resolve_eq_read bare pair library "claude" "rules" "@/a.md"
    (some spec) (.ofText "/proj/c/x.md") spelled _ tags spells_spelled (by decide) (by rintro _ ⟨⟩; decide)
    (.inr (.inl (by decide))) readFirst (by rw [first]; decide +kernel) led
  refine ⟨outcome, ?_⟩
  rw [reports, reported, piped, said, readSecond]
  rfl

end Project

end DocWeave
