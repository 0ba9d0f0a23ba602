import DocWeave.Markup.Visibility
import DocWeave.Proofs.Markup.Region

/-! # What a filter leaves of a printed forest

Filtering from a position is filtering what is left of the text there, so the loop over a text is a
recursion on its regions: what comes before the first region stays, the inside of the region is
filtered or dropped, and the rest is filtered the same way. On a printed forest this recursion
follows the forest, and nothing is reported.
-/

namespace DocWeave

open Text

namespace Visibility

variable {tag tool text : Text} {position first : Nat} {region : Region}

/-! ## One round of the loop -/

theorem filterFrom_of_none (absent : Text.findFrom? (Region.opener tag) text position = none) :
    filterFrom tag tool text position = (text.drop position, []) := by
  rw [filterFrom]
  split
  · rfl
  · rename_i _ found
    exact absurd (absent.symm.trans found) (by simp)

theorem filterFrom_of_unclosed
    (opens : Text.findFrom? (Region.opener tag) text position = some first)
    (unmatched : Region.findFrom? tag text first = none) :
    filterFrom tag tool text position = (text.drop position, [unclosed tag]) := by
  rw [filterFrom]
  split
  · rename_i absent
    exact absurd (opens.symm.trans absent) (by simp)
  · rename_i other found
    obtain rfl := Option.some.inj (opens.symm.trans found)
    split
    · rfl
    · rename_i matched
      exact absurd (unmatched.symm.trans matched) (by simp)

/-- What a tool sees inside a region. -/
def inside (tag tool : Text) (region : Region) : Text × List Report :=
  if region.keeps tool then filter tag tool region.inner else ([], [])

theorem filterFrom_of_region
    (opens : Text.findFrom? (Region.opener tag) text position = some first)
    (matched : Region.findFrom? tag text first = some region) :
    filterFrom tag tool text position =
      (text.slice position region.start ++ (inside tag tool region).1 ++
          (filterFrom tag tool text region.stop).1,
        (inside tag tool region).2 ++ (filterFrom tag tool text region.stop).2) := by
  rw [filterFrom]
  split
  · rename_i absent
    exact absurd (opens.symm.trans absent) (by simp)
  · rename_i other found
    obtain rfl := Option.some.inj (opens.symm.trans found)
    split
    · rename_i unmatched
      exact absurd (matched.symm.trans unmatched) (by simp)
    · rename_i other found
      obtain rfl := Option.some.inj (matched.symm.trans found)
      rfl

/-! ## The loop as a recursion on regions -/

/-- A place further on in a longer text is the same place in what is left of it. -/
theorem filterFrom_append (tag tool before text : Text) (position : Nat) :
    filterFrom tag tool (before ++ text) (before.length + position) =
      filterFrom tag tool text position := by
  have moved := Text.findFrom?_append (Region.opener tag) before text position
  have rest : (before ++ text).drop (before.length + position) = text.drop position := by
    simp [List.drop_append, List.drop_eq_nil_of_le]
  cases opens : Text.findFrom? (Region.opener tag) text position with
  | none => rw [filterFrom_of_none opens, filterFrom_of_none (by rw [moved, opens]; rfl), rest]
  | some first =>
    rw [opens, Option.map_some] at moved
    have regions := Region.findFrom?_append tag before text first
    cases matched : Region.findFrom? tag text first with
    | none =>
      rw [filterFrom_of_unclosed opens matched,
        filterFrom_of_unclosed moved (by rw [regions, matched]; rfl), rest]
    | some region =>
      rw [matched, Option.map_some] at regions
      have bounds := Region.findFrom?_bounds matched
      have progress := Text.le_of_findFrom? opens
      have ih := filterFrom_append tag tool before text region.stop
      rw [filterFrom_of_region opens matched, filterFrom_of_region moved regions]
      simp only [Region.behind, slice_append, ih]
      rfl
  termination_by text.length - position

theorem filterFrom_eq_filter_drop (tag tool text : Text) (position : Nat) :
    filterFrom tag tool text position = filter tag tool (text.drop position) := by
  by_cases within : position ≤ text.length
  · have moved := filterFrom_append tag tool (text.take position) (text.drop position) 0
    rwa [List.take_append_drop, List.length_take, Nat.min_eq_left within, Nat.add_zero] at moved
  · have outside : text.length < position := Nat.lt_of_not_le within
    have nothing : text.drop position = [] := List.drop_eq_nil_of_le (Nat.le_of_lt outside)
    rw [filterFrom_of_none (by rw [Text.findFrom?, if_pos outside]), nothing, filter,
      filterFrom_of_none (by rw [findFrom?_zero]; exact find?_nil (List.cons_ne_nil _ _))]
    rfl

theorem filter_of_none (absent : find? (Region.opener tag) text = none) :
    filter tag tool text = (text, []) := by
  rw [filter, filterFrom_of_none (by rw [findFrom?_zero, absent])]
  rfl

theorem filter_of_unclosed (opens : find? (Region.opener tag) text = some first)
    (unmatched : Region.findFrom? tag text 0 = none) :
    filter tag tool text = (text, [unclosed tag]) := by
  rw [← Region.findFrom?_first opens] at unmatched
  rw [filter, filterFrom_of_unclosed (by rw [findFrom?_zero, opens]) unmatched]
  rfl

/-- The first region splits a text into what comes before it, its inside and the rest. -/
theorem filter_of_region (matched : Region.findFrom? tag text 0 = some region) :
    filter tag tool text =
      (text.take region.start ++ (inside tag tool region).1 ++
          (filter tag tool (text.drop region.stop)).1,
        (inside tag tool region).2 ++ (filter tag tool (text.drop region.stop)).2) := by
  obtain ⟨first, opens⟩ := Region.exists_opener matched
  rw [← Region.findFrom?_first opens] at matched
  rw [filter, filterFrom_of_region (by rw [findFrom?_zero, opens]) matched,
    filterFrom_eq_filter_drop]
  rfl

/-- Nothing but opening tags without a match is reported. -/
theorem eq_unclosed_of_mem_filterFrom {report : Report}
    (mem : report ∈ (filterFrom tag tool text position).2) : report = unclosed tag := by
  fun_induction filterFrom tag tool text position with
  | case1 => cases mem
  | case2 => exact List.mem_singleton.1 mem
  | case3 text position first opens region matched _ _ seen insideReports within after
      afterReports rest ihInside ihRest =>
    rw [rest] at ihRest
    rcases List.mem_append.1 mem with inner | behind
    · split at within
      · rw [within] at ihInside
        exact ihInside inner
      · cases within
        cases inner
    · exact ihRest behind

theorem eq_unclosed_of_mem_filter {report : Report} (mem : report ∈ (filter tag tool text).2) :
    report = unclosed tag :=
  eq_unclosed_of_mem_filterFrom mem

/-- Text that a search for an opening tag passes over stays as it is. -/
theorem filter_append_of_skips {after : Text} (skips : Skips (Region.opener tag) text after) :
    filter tag tool (text ++ after) =
      (text ++ (filter tag tool after).1, (filter tag tool after).2) := by
  have moved := find?_append_of_skips skips
  cases opens : find? (Region.opener tag) after with
  | none => rw [filter_of_none opens, filter_of_none (by rw [moved, opens]; rfl)]
  | some first =>
    rw [opens, Option.map_some] at moved
    have regions := Region.findFrom?_append tag text after first
    rw [Nat.add_comm, Region.findFrom?_first moved, Region.findFrom?_first opens] at regions
    cases matched : Region.findFrom? tag after 0 with
    | none =>
      rw [filter_of_unclosed opens matched,
        filter_of_unclosed moved (by rw [regions, matched]; rfl)]
    | some region =>
      rw [matched, Option.map_some] at regions
      rw [filter_of_region matched, filter_of_region regions]
      simp only [Region.behind, List.take_length_add_append, List.drop_length_add_append,
        List.append_assoc]
      rfl

/-! ## Printed forests -/

/-- Of a printed region a tool sees what there is to see inside, if the region is meant for it, and
then what there is to see behind. -/
theorem filter_region (isTagName : Markup.IsTagName tag) {audience : Audience} {children : Forest}
    (plain : ∀ name ∈ audience.names, Markup.IsPlain name)
    (wellFormed : children.WellFormed tag Markup.IsPlain) {seen : Text}
    (within : filter tag tool (children.render tag) = (seen, [])) (after : Text) :
    filter tag tool
        (audience.openingTag tag ++ (children.render tag ++ (Region.closer tag ++ after))) =
      ((if audience.trimmed.admits tool then seen else []) ++ (filter tag tool after).1,
        (filter tag tool after).2) := by
  have matched := Region.findFrom?_printed isTagName plain wellFormed after
  have inner : inside tag tool (Region.printed tag audience children) =
      (if audience.trimmed.admits tool then seen else [], []) := by
    rw [inside, Region.keeps_printed]
    split
    · exact within
    · rfl
  have behind : (audience.openingTag tag ++
      (children.render tag ++ (Region.closer tag ++ after))).drop
        (Region.printed tag audience children).stop = after := by
    rw [← List.append_assoc, ← List.append_assoc]
    exact List.drop_left' (by rw [List.length_append]; rfl)
  rw [filter_of_region matched, inner, behind]
  rfl

/-- A tool sees the leaves that every region around them keeps for it, and nothing is reported. -/
theorem filter_render (isTagName : Markup.IsTagName tag) {forest : Forest}
    (wellFormed : forest.WellFormed tag Markup.IsPlain) (tool : Text) :
    filter tag tool (forest.render tag) =
      (forest.visible fun audience => audience.trimmed.admits tool, []) := by
  induction forest with
  | nil => rw [Forest.render, filter_of_none (find?_nil (List.cons_ne_nil _ _))]; rfl
  | text leaf rest ih =>
    obtain ⟨⟨noOpener, -⟩, separate, wellFormed⟩ := wellFormed
    rw [Forest.render, filter_append_of_skips (skips_of_absent (Region.isMarker_opener isTagName)
      noOpener (Region.head?_render_of_separate separate)), ih wellFormed]
    rfl
  | region audience children rest ihChildren ihRest =>
    obtain ⟨plain, wellChildren, wellRest⟩ := wellFormed
    simp only [Forest.render, List.append_assoc]
    rw [filter_region isTagName plain wellChildren (ihChildren wellChildren), ihRest wellRest]
    rfl

/-- Identifiers are read as they are written, so the lists of the tags decide what is kept. -/
theorem visible_trimmed {forest : Forest} (wellFormed : forest.WellFormed tag Markup.IsIdentifier)
    (tool : Text) : (forest.visible fun audience => audience.trimmed.admits tool) =
      forest.visible fun audience => audience.admits tool := by
  induction forest with
  | nil => rfl
  | text leaf rest ih => rw [Forest.visible, Forest.visible, ih wellFormed.2.2]
  | region audience children rest ihChildren ihRest =>
    obtain ⟨identifiers, wellChildren, wellRest⟩ := wellFormed
    have same : audience.trimmed = audience := by
      have shown := trimmed_eq_self fun name mem =>
        (identifiers name (List.mem_append_left audience.hiddenFrom mem)).1
      have hidden := trimmed_eq_self fun name mem =>
        (identifiers name (List.mem_append_right audience.shownTo mem)).1
      rw [Audience.trimmed, shown, hidden]
    rw [Forest.visible, Forest.visible, same, ihChildren wellChildren, ihRest wellRest]

/-- Filtering a well-formed document leaves exactly the leaves whose enclosing regions are all meant
for the tool, in order, and reports nothing. -/
theorem filter_render_eq_leaves (isTagName : Markup.IsTagName tag) (forest : Forest)
    (wellFormed : forest.WellFormed tag Markup.IsIdentifier) (tool : Text) :
    filter tag tool (forest.render tag) =
      (((forest.leaves []).filter fun leaf =>
        leaf.1.all fun audience => audience.admits tool).flatMap Prod.snd, []) := by
  have plain := wellFormed.mono fun _ identifier => identifier.2
  rw [filter_render isTagName plain, visible_trimmed wellFormed, Forest.visible_eq_leaves]

/-- Nested regions beside bare brackets: the inner region is hidden from the tool, the outer one is
shown to it. -/
theorem filter_render_eq_leaves_nested :
    let forest : Forest := .text "a <" (.region ⟨["claude", "roo"], ["cline"]⟩
      (.text "</" (.region ⟨[], ["claude"]⟩ (.text "hidden" .nil) (.text "> b" .nil)))
      (.region ⟨["roo"], []⟩ .nil (.text " c" .nil)))
    forest.WellFormed Settings.default.filterTag Markup.IsIdentifier ∧
      filter Settings.default.filterTag "claude" (forest.render Settings.default.filterTag) =
        ("a <</> b c".toList, []) := by
  intro forest
  have wellFormed : forest.WellFormed Settings.default.filterTag Markup.IsIdentifier := by decide
  have filtered := filter_render_eq_leaves Markup.isTagName_default forest wellFormed "claude"
  exact ⟨wellFormed, filtered.trans (by decide)⟩

end Visibility

end DocWeave
