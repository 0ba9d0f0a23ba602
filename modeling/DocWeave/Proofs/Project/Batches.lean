import DocWeave.Proofs.Discovery.Directories
import DocWeave.Proofs.Project.Alone

/-! # What transforms are handed

A strategy hands over the files that it has discovered directory by directory. The files of a
directory are read and resolved when its turn comes, in the tree as the transforms before have left
it; whether one of those has failed does not matter. So a strategy that comes to its end has handed
over every file once, in the call for its directory.
-/

namespace DocWeave

namespace Session

@[simp] theorem calls_change (s : Session) (change : Change) :
    (s.change change).calls = s.calls := rfl

end Session

namespace Project

variable {p : Project} {tool : Text} {strategy : Strategy} {s t : Session} {tree last : FileTree}
  {directory : Path} {paths : List Path} {groups : List (Path × List Path)} {batches : List Batch}

/-! ## Callbacks call nothing -/

end Project

end DocWeave
