import SourceFlow.Main
import SourceFlow.Proofs.Graph.Completeness
import SourceFlow.Proofs.Graph.Coloured
import SourceFlow.Proofs.Unchecked
import SourceFlow.Proofs.Graph.Restriction
import SourceFlow.Proofs.Flow.Identifiers
import SourceFlow.Proofs.Project
import SourceFlow.Proofs.Flow.Build
import SourceFlow.Proofs.Flow.CycleAgreement
import SourceFlow.Proofs.Graph.Depth
import SourceFlow.Proofs.OrderIndependence
import SourceFlow.Proofs.Report.Unfolding
import SourceFlow.Proofs.Facts.Preorder
import SourceFlow.Proofs.Settings
import SourceFlow.Proofs.Integrity
import SourceFlow.Proofs.Text.Joined
import SourceFlow.Proofs.Text.Lines
import SourceFlow.Proofs.Totality
import SourceFlow.Proofs.Graph.Routes
import SourceFlow.Proofs.Report.Levels
import SourceFlow.Proofs.Report.BackReferences
import SourceFlow.Proofs.Accounting
import SourceFlow.Proofs.Settings.Content
import SourceFlow.Proofs.Settings.History
import SourceFlow.Proofs.Settings.Commands
import SourceFlow.Proofs.Json.Grammar
import SourceFlow.Proofs.Json.Reader
import SourceFlow.Proofs.Report.Lossless
import SourceFlow.Proofs.Report.Escaping
import SourceFlow.Proofs.Graph.LongestRoute
import SourceFlow.Proofs.Path.Normal
import SourceFlow.Proofs.Resolution.Places
import SourceFlow.Proofs.Resolution.Between
import SourceFlow.Proofs.Report.Content
import SourceFlow.Proofs.Report.Fences
import SourceFlow.Proofs.Graph.Recursion
import SourceFlow.Proofs.Graph.ClosingEdges
import SourceFlow.Proofs.Resolution.Growth
import SourceFlow.Proofs.Facts.Positions
import SourceFlow.Proofs.Facts.Recognition
import SourceFlow.Proofs.Facts.CallOrder
import SourceFlow.Proofs.Flow.Uniqueness
import SourceFlow.Proofs.Report.Identifiers
import SourceFlow.Proofs.Report.Capping
import SourceFlow.Proofs.Report.Layout
import SourceFlow.Proofs.Syntax.Faults
import SourceFlow.Proofs.Facts.Contributions
import SourceFlow.Proofs.Facts.Records
import SourceFlow.Proofs.Facts.ExportedNames
import SourceFlow.Proofs.Text.Utf8
import SourceFlow.Proofs.Files.Listing
import SourceFlow.Proofs.Files.Loading
import SourceFlow.Proofs.Files.Scripts
import SourceFlow.Proofs.Settings.Saving
import SourceFlow.Proofs.Text.Decoding
import SourceFlow.Proofs.Files.Reading
