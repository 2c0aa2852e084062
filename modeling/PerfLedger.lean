import PerfLedger.Record.Spread
import PerfLedger.Artifact.Codec
import PerfLedger.Detection.Analysis
import PerfLedger.Ledger.Equality
import PerfLedger.Display.Listing
import PerfLedger.Artifact.Storage
import PerfLedger.Disk.FileTree
import PerfLedger.Settings.Basic
import PerfLedger.Main
import PerfLedger.Proofs.Artifact.RoundTrip
import PerfLedger.Proofs.Artifact.Transactions
import PerfLedger.Proofs.Artifact.Updates
import PerfLedger.Proofs.Ledger.Attempts
import PerfLedger.Detection.Equality
import PerfLedger.Proofs.Detection.History
import PerfLedger.Proofs.Detection.Verdicts
import PerfLedger.Proofs.Artifact.Acceptance
import PerfLedger.Proofs.Command.DryRuns
import PerfLedger.Proofs.Artifact.Scripts
import PerfLedger.Proofs.Detection.Windows
import PerfLedger.Proofs.Detection.FlatHistories
import PerfLedger.Proofs.Artifact.Presentations
import PerfLedger.Proofs.Detection.Ratios
import PerfLedger.Proofs.Artifact.Wrappers
import PerfLedger.Proofs.Detection.Casing
import PerfLedger.Proofs.Artifact.SingleEntries
import PerfLedger.Proofs.Record.Spreads
import PerfLedger.Proofs.Ledger.Points
import PerfLedger.Proofs.Settings.Sources
