import PlotTables.Main
import PlotTables.Proofs.Command.Atomicity
import PlotTables.Proofs.Count.Doubles
import PlotTables.Proofs.Decimal.Fewest
import PlotTables.Proofs.Report.RoundTrip
import PlotTables.Proofs.Spacing.Accuracy
import PlotTables.Proofs.Subsample.Faults
import PlotTables.Proofs.Subsample.Pairing
import PlotTables.Proofs.Table.Layouts
import PlotTables.Proofs.Table.Outputs
import PlotTables.Proofs.Table.Runs
import PlotTables.Proofs.Trace.Written
import PlotTables.Proofs.Binary64.Shares
import PlotTables.Proofs.Subsample.Identifiers
import PlotTables.Proofs.Report.Figures
import PlotTables.Proofs.Report.Ratio
import PlotTables.Proofs.Text.Decoding
import PlotTables.Proofs.Trace.Faults
import PlotTables.Proofs.Label
import PlotTables.Proofs.Table.Selection
import PlotTables.Proofs.Merge.Listing
import PlotTables.Proofs.Subsample.Points
