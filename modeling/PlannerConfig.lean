import PlannerConfig.Booking
import PlannerConfig.Booking.TimeOfDay
import PlannerConfig.Build
import PlannerConfig.Catalog.Basic
import PlannerConfig.Catalog.Entry
import PlannerConfig.Choice
import PlannerConfig.Command.Arguments
import PlannerConfig.Command.Basic
import PlannerConfig.Command.Project
import PlannerConfig.DataOverlay
import PlannerConfig.Diff.Matching
import PlannerConfig.Diff.Unified
import PlannerConfig.Document.Basic
import PlannerConfig.Document.Calendar
import PlannerConfig.Document.Json
import PlannerConfig.Document.Merge
import PlannerConfig.Document.Path
import PlannerConfig.Document.ReadError
import PlannerConfig.Document.Text
import PlannerConfig.Document.Toml.Scalar
import PlannerConfig.Document.Toml.Table
import PlannerConfig.Duration.Basic
import PlannerConfig.Duration.Printer
import PlannerConfig.Duration.Reader
import PlannerConfig.Duration.Scale
import PlannerConfig.Failure
import PlannerConfig.Feature
import PlannerConfig.Feature.Flags
import PlannerConfig.FeedScopedId
import PlannerConfig.Files.Basic
import PlannerConfig.Files.Load
import PlannerConfig.Files.Path
import PlannerConfig.Form
import PlannerConfig.LinearFunction
import PlannerConfig.Load
import PlannerConfig.Locale
import PlannerConfig.Main
import PlannerConfig.Node
import PlannerConfig.Number.Binary
import PlannerConfig.Number.Numeral
import PlannerConfig.Number.Shortest
import PlannerConfig.Parameter.Generic
import PlannerConfig.Parameter.Kind
import PlannerConfig.Parameter.Reading
import PlannerConfig.Parameter.Record
import PlannerConfig.Parameter.ValueType
import PlannerConfig.Pass
import PlannerConfig.Proofs.Catalog.Absorb
import PlannerConfig.Proofs.Catalog.Agreement
import PlannerConfig.Proofs.Catalog.Calls
import PlannerConfig.Proofs.Catalog.Registration
import PlannerConfig.Proofs.Catalog.Replacement
import PlannerConfig.Proofs.Catalog.Tree
import PlannerConfig.Proofs.Catalog.Walk
import PlannerConfig.Proofs.Command.Arguments
import PlannerConfig.Proofs.Command.Plan
import PlannerConfig.Proofs.DefaultRequest
import PlannerConfig.Proofs.Document.Associativity
import PlannerConfig.Proofs.Document.Fields
import PlannerConfig.Proofs.Document.Layers
import PlannerConfig.Proofs.Document.Merge
import PlannerConfig.Proofs.Document.Pruned
import PlannerConfig.Proofs.Document.Scalars
import PlannerConfig.Proofs.Document.Writable
import PlannerConfig.Proofs.Duration.Notation
import PlannerConfig.Proofs.Duration.RoundTrip
import PlannerConfig.Proofs.Duration.Seconds
import PlannerConfig.Proofs.Duration.Spellings
import PlannerConfig.Proofs.Files
import PlannerConfig.Proofs.Finiteness
import PlannerConfig.Proofs.Form.Correspondence
import PlannerConfig.Proofs.Form.Coverage
import PlannerConfig.Proofs.Form.Documented
import PlannerConfig.Proofs.Form.Fixed
import PlannerConfig.Proofs.Form.Gives
import PlannerConfig.Proofs.Form.Kinds
import PlannerConfig.Proofs.Form.Locality
import PlannerConfig.Proofs.Form.Names
import PlannerConfig.Proofs.Form.Nulls
import PlannerConfig.Proofs.Form.Paths
import PlannerConfig.Proofs.Form.Reading
import PlannerConfig.Proofs.Form.Refusals
import PlannerConfig.Proofs.Form.Slots
import PlannerConfig.Proofs.Layout
import PlannerConfig.Proofs.LinearFunction
import PlannerConfig.Proofs.Load
import PlannerConfig.Proofs.Locale
import PlannerConfig.Proofs.MapLayers
import PlannerConfig.Proofs.Nulls
import PlannerConfig.Proofs.Number.Brief
import PlannerConfig.Proofs.Number.Datum
import PlannerConfig.Proofs.Number.Finite
import PlannerConfig.Proofs.Number.Nearest
import PlannerConfig.Proofs.Number.SixDigits
import PlannerConfig.Proofs.Outcome
import PlannerConfig.Proofs.Parameter.Consumption
import PlannerConfig.Proofs.Parameter.Declaration
import PlannerConfig.Proofs.Parameter.Effect
import PlannerConfig.Proofs.Parameter.KeyedDuration
import PlannerConfig.Proofs.Parameter.Values
import PlannerConfig.Proofs.Pass.Reads
import PlannerConfig.Proofs.Pass.Runs
import PlannerConfig.Proofs.Queries
import PlannerConfig.Proofs.Reference.Independence
import PlannerConfig.Proofs.Reference.Nested
import PlannerConfig.Proofs.Reference.Overwrite
import PlannerConfig.Proofs.Reference.Snapshot
import PlannerConfig.Proofs.Reference.Table
import PlannerConfig.Proofs.Reference.Template
import PlannerConfig.Proofs.Reference.Visible
import PlannerConfig.Proofs.Refusals
import PlannerConfig.Proofs.Routing.Floats
import PlannerConfig.Proofs.Routing.Modes
import PlannerConfig.Proofs.Routing.Slots
import PlannerConfig.Proofs.SummaryTable
import PlannerConfig.Proofs.Text.Bars
import PlannerConfig.Proofs.Text.Case
import PlannerConfig.Proofs.Text.Numeral
import PlannerConfig.Proofs.Text.OneLine
import PlannerConfig.Proofs.Text.Pieces
import PlannerConfig.Proofs.Text.Search
import PlannerConfig.Proofs.Text.Words
import PlannerConfig.Proofs.TransferRequests
import PlannerConfig.Proofs.Traversal
import PlannerConfig.Proofs.Unknown
import PlannerConfig.Proofs.Upkeep
import PlannerConfig.Proofs.Work
import PlannerConfig.Reference.Details
import PlannerConfig.Reference.Export
import PlannerConfig.Reference.Outline
import PlannerConfig.Reference.Skip
import PlannerConfig.Reference.Snapshot
import PlannerConfig.Reference.Table
import PlannerConfig.Reference.Template
import PlannerConfig.Routing.ItineraryFilter
import PlannerConfig.Routing.Modes
import PlannerConfig.Routing.Request
import PlannerConfig.Routing.Street
import PlannerConfig.Routing.System
import PlannerConfig.Routing.Transfer
import PlannerConfig.Routing.Transit
import PlannerConfig.Routing.Vehicle
import PlannerConfig.Routing.Walk
import PlannerConfig.Text.Blank
import PlannerConfig.Text.Case
import PlannerConfig.Text.CaseTable
import PlannerConfig.Text.Digit
import PlannerConfig.Text.Encoding
import PlannerConfig.Text.Letter
import PlannerConfig.Text.Lines
import PlannerConfig.Text.Margin
import PlannerConfig.Text.Printable
import PlannerConfig.Text.Quoted
import PlannerConfig.Text.Ranges
import PlannerConfig.Text.Search
import PlannerConfig.Text.Set
import PlannerConfig.Text.Surrogate
import PlannerConfig.Unknown
import PlannerConfig.Value
import PlannerConfig.Value.Equality
import PlannerConfig.Value.Real
import PlannerConfig.Version
import PlannerConfig.Proofs.Document.PathText
import PlannerConfig.Proofs.Enumeration
import PlannerConfig.Proofs.Catalog.Dotted
import PlannerConfig.Proofs.Reference.Cut
