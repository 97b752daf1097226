import SolAudit.Main
import SolAudit.Template.RawJson
import SolAudit.Walk
import SolAudit.Proofs.Outcome
import SolAudit.Proofs.Template.Dispatch
import SolAudit.Proofs.Template.Loading
import SolAudit.Proofs.Template.Bundled
import SolAudit.Proofs.Match.Order
import SolAudit.Proofs.Match.Naive
import SolAudit.Proofs.Build.Acceptance
import SolAudit.Proofs.Build.WellFormed
import SolAudit.Proofs.Build.Calls
import SolAudit.Proofs.Build.Numbering
import SolAudit.Proofs.CompilerOutput.Collecting
import SolAudit.Proofs.CompilerOutput.Compilation
import SolAudit.Proofs.CompilerOutput.Encodings
import SolAudit.Proofs.CompilerOutput.Accounting
import SolAudit.Proofs.Ast.Tree
import SolAudit.Proofs.Match.TreeEval
import SolAudit.Proofs.Build.TypedPlaces
import SolAudit.Proofs.Build.Discovery
import SolAudit.Proofs.Build.TypedObjects
import SolAudit.Proofs.Build.LegacyForm
import SolAudit.Proofs.Match.Placement
import SolAudit.Proofs.Build.Collisions
import SolAudit.Proofs.Build.Subtrees
import SolAudit.Proofs.Build.LegacyChildren
import SolAudit.Proofs.Build.Reach
import SolAudit.Proofs.Match.UnlistedMembers
import SolAudit.Proofs.CompilerOutput.Assignments
import SolAudit.Proofs.CompilerOutput.Indexing
import SolAudit.Proofs.Source.Sessions
import SolAudit.Proofs.Template.Checking
import SolAudit.Proofs.Template.Offers
import SolAudit.Proofs.Match.AddedTemplates
import SolAudit.Proofs.Match.Identity
import SolAudit.Proofs.Build.Conditions
import SolAudit.Proofs.Source.Lines
import SolAudit.Proofs.Source.Triples
import SolAudit.Proofs.Template.RawForm
import SolAudit.Proofs.Template.RawKeys
import SolAudit.Proofs.Path
import SolAudit.Proofs.Walk
import SolAudit.Proofs.Template.LinkedDirs
import SolAudit.Proofs.Source.Notation
import SolAudit.Proofs.Match.Reordering
import SolAudit.Proofs.Match.ReadingOrder
import SolAudit.Proofs.Build.Pruning
import SolAudit.Proofs.Build.NullFields
import SolAudit.Proofs.Build.HiddenValues
import SolAudit.Proofs.Report.ReadingBack
import SolAudit.Proofs.Report.CrossReferences
import SolAudit.Proofs.Build.ExportedTrees
import SolAudit.Proofs.Build.Drawings
import SolAudit.Proofs.Ast.Finishing
