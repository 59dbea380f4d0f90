import TimePanel.Calendar.Clock
import TimePanel.Calendar.Date
import TimePanel.Calendar.DateTime
import TimePanel.Calendar.FreeForm.Parts
import TimePanel.Calendar.FreeForm.Reader
import TimePanel.Calendar.FreeForm.Token
import TimePanel.Calendar.FreeForm.Words
import TimePanel.Calendar.Iso
import TimePanel.Cell.Basic
import TimePanel.Cell.Identity
import TimePanel.Cell.Text
import TimePanel.Chart.Analysis
import TimePanel.Chart.Coercion
import TimePanel.Chart.Configuration
import TimePanel.Chart.Field
import TimePanel.Chart.Grouping
import TimePanel.Chart.Order
import TimePanel.Chart.RenderSpec
import TimePanel.Chart.Series
import TimePanel.Chart.Synthesis
import TimePanel.Chart.Theme
import TimePanel.Column
import TimePanel.Epoch
import TimePanel.Fault
import TimePanel.Instant
import TimePanel.Json.Printer
import TimePanel.Json.Reader
import TimePanel.Number.Basic
import TimePanel.Number.Binary64
import TimePanel.Number.Literal
import TimePanel.Number.Rounding
import TimePanel.Number.Shortest
import TimePanel.Presets.Document
import TimePanel.Presets.Standard
import TimePanel.Problem
import TimePanel.Query.Alias
import TimePanel.Query.Context
import TimePanel.Query.Interpolation
import TimePanel.Query.Macro
import TimePanel.Query.Preparation
import TimePanel.Query.Sanitizer
import TimePanel.Query.TimeColumn
import TimePanel.Query.TimeFilter
import TimePanel.Query.Validation
import TimePanel.Schema.Checked
import TimePanel.Schema.Format
import TimePanel.Schema.Moment
import TimePanel.Schema.Record
import TimePanel.Schema.Scalar
import TimePanel.Service.Endpoints
import TimePanel.Service.Reply
import TimePanel.Service.Requests
import TimePanel.Settings
import TimePanel.Surroundings
import TimePanel.Text.Blank
import TimePanel.Text.Case
import TimePanel.Text.Digit
import TimePanel.Text.Letter
import TimePanel.Text.Printable
import TimePanel.Text.Quoted
import TimePanel.Text.Range
import TimePanel.Text.Scan
import TimePanel.Text.Word
import TimePanel.TimeRange.Bounds
import TimePanel.TimeRange.Descriptor
import TimePanel.TimeRange.Expression
import TimePanel.TimeRange.Span
import TimePanel.TimeUnit
import TimePanel.Zone.Basic
import TimePanel.Zone.History
import TimePanel.Zone.Places
import TimePanel.Zone.Registry
import TimePanel.Proofs.Query.Macro
import TimePanel.Proofs.Text.Case
import TimePanel.Proofs.Query.Piece
import TimePanel.Proofs.Query.Alias
import TimePanel.Proofs.Fault
import TimePanel.Proofs.Query.Interpolation
import TimePanel.Proofs.Query.Validation
import TimePanel.Proofs.Query.Preparation
import TimePanel.Proofs.Query.Substitution
import TimePanel.Proofs.Zone.Offsets
import TimePanel.Proofs.Calendar.Date
import TimePanel.Proofs.TimeRange.Snap
import TimePanel.Proofs.TimeRange.LocalTime
import TimePanel.Proofs.TimeRange.Boundary
import TimePanel.Proofs.TimeRange.QuickRanges
import TimePanel.Proofs.Json.RoundTrip
import TimePanel.Proofs.Chart.Saving
import TimePanel.Proofs.TimeRange.Bounds
import TimePanel.Proofs.Chart.Coercion
import TimePanel.Proofs.Chart.Grouping
import TimePanel.Proofs.Chart.Drawing
import TimePanel.Proofs.Chart.TimeLine
import TimePanel.Proofs.Chart.Categories
import TimePanel.Proofs.Chart.Bars
import TimePanel.Proofs.Query.Totality
import TimePanel.Proofs.Number.Binary64
import TimePanel.Proofs.Chart.TimeAxis
import TimePanel.Proofs.Chart.Analysis
import TimePanel.Proofs.Text.Weight
import TimePanel.Proofs.Query.Weight
import TimePanel.Proofs.Query.Repetition
import TimePanel.Proofs.Query.Report
import TimePanel.Proofs.Zone.FoldRules
import TimePanel.Proofs.Zone.Summer
import TimePanel.Proofs.TimeRange.Rounding
import TimePanel.Proofs.Number.Literal
import TimePanel.Proofs.TimeRange.Relative
import TimePanel.Proofs.Query.TimeFilter
import TimePanel.Proofs.Calendar.Literal
import TimePanel.Proofs.Query.DateFilter
import TimePanel.Proofs.Text.Runs
import TimePanel.Proofs.Query.Misuse
import TimePanel.Proofs.Query.Brackets
import TimePanel.Proofs.Query.Tangle
import TimePanel.Proofs.Text.Words
import TimePanel.Proofs.Query.AliasUse
import TimePanel.Proofs.Query.AliasChange
import TimePanel.Proofs.Text.Phrase
import TimePanel.Proofs.Query.AliasRemoval
import TimePanel.Proofs.Chart.Coherence
import TimePanel.Proofs.Chart.Stability
import TimePanel.Proofs.Chart.Missing
import TimePanel.Proofs.Chart.Choice
import TimePanel.Proofs.Chart.Rescaling
import TimePanel.Proofs.Number.Nearest
import TimePanel.Proofs.Chart.ColumnUnit
import TimePanel.Proofs.TimeRange.ReadingBack
import TimePanel.Proofs.Chart.StableOrder
