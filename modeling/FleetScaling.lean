import FleetScaling.Bench.Program
import FleetScaling.Main
import FleetScaling.Operator.Program
import FleetScaling.Proofs.Baseline.Agreement
import FleetScaling.Proofs.Collector.Health
import FleetScaling.Proofs.Collector.Schedule
import FleetScaling.Proofs.Run.Account
import FleetScaling.Proofs.Run.Failed
import FleetScaling.Proofs.Run.Holdings
import FleetScaling.Proofs.Run.Measures
import FleetScaling.Proofs.Run.Windows
import FleetScaling.Rehearsal.Script
import FleetScaling.Proofs.Run.Readings
import FleetScaling.Proofs.Text.Digits
import FleetScaling.Proofs.Json.Tokens
import FleetScaling.Proofs.Json.Documents
import FleetScaling.Proofs.Json.Records
import FleetScaling.Proofs.Progress.Documents
import FleetScaling.Proofs.Text.Utf8
import FleetScaling.Proofs.Api.Bodies
import FleetScaling.Proofs.Time.Calendar
import FleetScaling.Proofs.Time.Rfc3339
import FleetScaling.Proofs.Files
import FleetScaling.Proofs.Report.Documents
import FleetScaling.Proofs.Report.Directory
import FleetScaling.Proofs.Run.Filing
import FleetScaling.Proofs.Operator.Sources
import FleetScaling.Proofs.Scaling.Location
import FleetScaling.Proofs.Health.Events
import FleetScaling.Proofs.Site.Submission
import FleetScaling.Proofs.Run.Metrics
import FleetScaling.Proofs.Run.Reports
import FleetScaling.Proofs.Keyed
import FleetScaling.Proofs.Text.Numerals
import FleetScaling.Proofs.Json.Accepted
import FleetScaling.Proofs.Scaling.Columns
import FleetScaling.Proofs.Baseline.Rows
import FleetScaling.Proofs.Baseline.Documents
import FleetScaling.Proofs.Site.Answers
import FleetScaling.Proofs.Site.Looks
import FleetScaling.Proofs.Site.Waiting
import FleetScaling.Proofs.Site.Acknowledgement
import FleetScaling.Proofs.Shell.Words
import FleetScaling.Proofs.Site.Quoting
import FleetScaling.Proofs.Decimal.Binades
import FleetScaling.Proofs.Json.LongIntegers
import FleetScaling.Proofs.Baseline.Seconds
import FleetScaling.Proofs.Site.Attempts
import FleetScaling.Proofs.Text.Lines
import FleetScaling.Proofs.Site.Nodes
import FleetScaling.Proofs.Site.LogFiles
import FleetScaling.Proofs.Run.Smoke
import FleetScaling.Proofs.Text.ByteOrder
import FleetScaling.Proofs.Json.Reader
import FleetScaling.Proofs.Json.TextArrays
import FleetScaling.Proofs.Site.Instances
import FleetScaling.Proofs.Operator.Showing
import FleetScaling.Proofs.Operator.Accounting
import FleetScaling.Proofs.Settings.Places
import FleetScaling.Proofs.Settings.Fields
import FleetScaling.Proofs.Settings.Guesses
import FleetScaling.Proofs.Settings.Targets
import FleetScaling.Proofs.Settings.Texts
import FleetScaling.Proofs.Settings.Budgets
import FleetScaling.Proofs.Site.FleetReports
import FleetScaling.Proofs.Site.FleetStart
