import RuleMetrics.Text.Alphanumeric
import RuleMetrics.Registry.JavaCatalog
import RuleMetrics.Registry.Reading
import RuleMetrics.RuleSet.Load
import RuleMetrics.RuleSet.Reading
import RuleMetrics.File.System
import RuleMetrics.Run.Runner
import RuleMetrics.Report.Terminal
import RuleMetrics.Command.Run
import RuleMetrics.Main
import RuleMetrics.Proofs.Registry.Usage
import RuleMetrics.Proofs.Text.Pieces
import RuleMetrics.Proofs.Registry.Names
import RuleMetrics.Proofs.Registry.Run
import RuleMetrics.Proofs.Registry.Consistency
import RuleMetrics.Proofs.Registry.Catalog
import RuleMetrics.Proofs.Registry.Stability
import RuleMetrics.Proofs.Registry.Ancestry
import RuleMetrics.Proofs.Registry.Grammar
import RuleMetrics.Proofs.Registry.Referable
import RuleMetrics.Proofs.Decimal.Digits
import RuleMetrics.Proofs.Property.Format
import RuleMetrics.Proofs.Registry.Signature
import RuleMetrics.Proofs.Property.Descriptor
import RuleMetrics.Proofs.Property.RoundTrip
import RuleMetrics.Proofs.Decimal.Bits
import RuleMetrics.Proofs.Decimal.Interval
import RuleMetrics.Proofs.Decimal.Nearest
import RuleMetrics.Proofs.Registry.EntryNames
import RuleMetrics.Proofs.Registry.Freezing
import RuleMetrics.Proofs.Registry.UsageTexts
import RuleMetrics.Proofs.Registry.Resolution
import RuleMetrics.Proofs.Registry.Correspondence
import RuleMetrics.Proofs.Registry.Reordering
import RuleMetrics.Proofs.Registry.ShortNames
import RuleMetrics.Proofs.Registry.Answers
import RuleMetrics.Proofs.Decimal.Count
import RuleMetrics.Proofs.Decimal.Order
import RuleMetrics.Proofs.Rule.Measurement
import RuleMetrics.Proofs.Rule.Message
import RuleMetrics.Proofs.Rule.Reports
import RuleMetrics.Proofs.Rule.Comments
import RuleMetrics.Proofs.Sorting
import RuleMetrics.Proofs.Run.Order
import RuleMetrics.Proofs.Run.Schedule
import RuleMetrics.Proofs.Rule.Statements
import RuleMetrics.Proofs.Property.Storage
import RuleMetrics.Proofs.Property.Calls
import RuleMetrics.Proofs.Property.Fallback
import RuleMetrics.Proofs.Rule.Configuration
import RuleMetrics.Proofs.RuleSet.Outcomes
import RuleMetrics.Proofs.RuleSet.Problems
import RuleMetrics.Proofs.Property.Thresholds
import RuleMetrics.Proofs.Run.Accounting
import RuleMetrics.Proofs.Score.TopLimit
import RuleMetrics.Proofs.Score.Flagging
import RuleMetrics.Proofs.Score.Strictness
import RuleMetrics.Proofs.Rule.LegalCalls
import RuleMetrics.Proofs.Text.Scan
import RuleMetrics.Proofs.Rule.Overloads
import RuleMetrics.Proofs.Syntax.Place
import RuleMetrics.Proofs.Rule.TypeBodies
import RuleMetrics.Proofs.Rule.Ownership
import RuleMetrics.Proofs.Text.Bytes
import RuleMetrics.Proofs.Rule.CountingLoop
import RuleMetrics.Proofs.Registry.Brackets
import RuleMetrics.Proofs.Rule.Template
import RuleMetrics.Proofs.Rule.IgnoredCalls
import RuleMetrics.Proofs.RuleSet.ListForm
import RuleMetrics.Proofs.Property.DisplayOrder
import RuleMetrics.Proofs.Entries
import RuleMetrics.Proofs.File.Collecting
import RuleMetrics.Proofs.Score.Deviation
import RuleMetrics.Proofs.Text.Table
import RuleMetrics.Proofs.Report.Breakdown
import RuleMetrics.Proofs.Registry.Dimensions
