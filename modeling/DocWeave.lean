import DocWeave.Main
import DocWeave.Path.Segments
import DocWeave.Markup.AttributePattern
import DocWeave.Proofs.Chain.Compose
import DocWeave.Proofs.Expansion.Cycle
import DocWeave.Proofs.Expansion.Separate
import DocWeave.Proofs.Expansion.Dropped
import DocWeave.Proofs.Visitation
import DocWeave.Proofs.Expansion.Restored
import DocWeave.Proofs.Project.Work
import DocWeave.Proofs.Project.Course
import DocWeave.Proofs.Project.Task
import DocWeave.Proofs.Change
import DocWeave.Proofs.Project.Written
import DocWeave.Proofs.Discovery
import DocWeave.Proofs.FileTree.Reading
import DocWeave.Proofs.Project.Circular
import DocWeave.Proofs.FileTree.Regular
import DocWeave.Proofs.FileTree.Step
import DocWeave.Proofs.Project.Origin
import DocWeave.Proofs.Project.Lost
import DocWeave.Proofs.Project.Request
import DocWeave.Proofs.Project.Isolated
import DocWeave.Proofs.Project.Alone
import DocWeave.Proofs.Expansion.Unnamed
import DocWeave.Proofs.Discovery.Depth
import DocWeave.Proofs.Discovery.Prefix
import DocWeave.Recording.Weave
import DocWeave.Proofs.Recording
import DocWeave.Proofs.Markup.Balance
import DocWeave.Proofs.Markup.Splice
import DocWeave.Proofs.Change.Reading
import DocWeave.Proofs.CommandLine
import DocWeave.Proofs.Expansion.Report
import DocWeave.Proofs.Markup.Deciding
import DocWeave.Proofs.Markup.Scan
import DocWeave.Proofs.Markup.Stray
import DocWeave.Proofs.Chain.Block
import DocWeave.Proofs.Glob.Segment
import DocWeave.Proofs.Glob.Spanning
import DocWeave.Proofs.Project.Refused
import DocWeave.Proofs.Discovery.Pruned
import DocWeave.Proofs.Path.Literal
import DocWeave.Proofs.Discovery.Union
import DocWeave.Proofs.Change.Deletion
import DocWeave.Proofs.Project.Batches
import DocWeave.Proofs.Path.Resolved
import DocWeave.Proofs.Path.Segments
import DocWeave.Proofs.Outcome
import DocWeave.Proofs.Visitation.Order
import DocWeave.Proofs.Glob.Split
