import DocWeave.Diagnostic
import DocWeave.Markup.Region

/-! # The visibility filter

Filtering a text for a tool removes the tags of every region, keeps the inner text of those meant
for the tool, filtered in turn, and drops the inner text of the others unread. An opening tag
without a match is reported, and the text from there on is left as it is.
-/

namespace DocWeave.Visibility

/-- The report of an opening tag that nothing closes. -/
def unclosed (tag : Text) : Report :=
  .warning .unclosedFilterTag ("Unclosed <" ++ tag ++ "> tag found.")

/-- What a tool sees of the text from `position` on, and what there is to report. -/
def filterFrom (tag tool text : Text) (position : Nat) : Text × List Report :=
  match opened : Text.findFrom? (Region.opener tag) text position with
  | none => (text.drop position, [])
  | some first =>
    match found : Region.findFrom? tag text first with
    | none => (text.drop position, [unclosed tag])
    | some region =>
      have := Region.findFrom?_bounds found
      have := Text.le_of_findFrom? opened
      let (inside, insideReports) :=
        if region.keeps tool then filterFrom tag tool region.inner 0 else ([], [])
      let (after, afterReports) := filterFrom tag tool text region.stop
      (text.slice position region.start ++ inside ++ after, insideReports ++ afterReports)
  termination_by (text.length, text.length - position)

/-- What a tool sees of a text, and what there is to report. -/
def filter (tag tool text : Text) : Text × List Report := filterFrom tag tool text 0

end DocWeave.Visibility
