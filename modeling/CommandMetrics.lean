import CommandMetrics.Bounds
import CommandMetrics.Children
import CommandMetrics.Coercion
import CommandMetrics.Collector
import CommandMetrics.CommandName
import CommandMetrics.Config
import CommandMetrics.Definition
import CommandMetrics.Duration
import CommandMetrics.Environment
import CommandMetrics.Event
import CommandMetrics.Exposition
import CommandMetrics.Factory
import CommandMetrics.Failure
import CommandMetrics.Family
import CommandMetrics.Fault
import CommandMetrics.Histogram
import CommandMetrics.Host
import CommandMetrics.Host.Calls
import CommandMetrics.Host.Export
import CommandMetrics.Host.Recording
import CommandMetrics.Host.Registration
import CommandMetrics.Host.Roster
import CommandMetrics.Log
import CommandMetrics.MetricSet
import CommandMetrics.Number.Basic
import CommandMetrics.Number.Decimal
import CommandMetrics.Number.Layout
import CommandMetrics.Number.Shortest
import CommandMetrics.Number.Sum
import CommandMetrics.Numeral
import CommandMetrics.Proofs.Acceptable
import CommandMetrics.Proofs.Act
import CommandMetrics.Proofs.Bookkeeping
import CommandMetrics.Proofs.Bounds
import CommandMetrics.Proofs.Children
import CommandMetrics.Proofs.Coherence
import CommandMetrics.Proofs.Concurrent.Critical
import CommandMetrics.Proofs.Concurrent.Cursor
import CommandMetrics.Proofs.Concurrent.Process
import CommandMetrics.Proofs.Concurrent.Recording
import CommandMetrics.Proofs.Concurrent.Registration
import CommandMetrics.Proofs.Config
import CommandMetrics.Proofs.Construction
import CommandMetrics.Proofs.Current
import CommandMetrics.Proofs.Decimal
import CommandMetrics.Proofs.Departure
import CommandMetrics.Proofs.Environment
import CommandMetrics.Proofs.Export
import CommandMetrics.Proofs.Exposition
import CommandMetrics.Proofs.Fields
import CommandMetrics.Proofs.Histogram
import CommandMetrics.Proofs.Host
import CommandMetrics.Proofs.Items
import CommandMetrics.Proofs.Log
import CommandMetrics.Proofs.Methods
import CommandMetrics.Proofs.Number
import CommandMetrics.Proofs.Numeral
import CommandMetrics.Proofs.Order
import CommandMetrics.Proofs.Padding
import CommandMetrics.Proofs.Process
import CommandMetrics.Proofs.Recording.Agreement
import CommandMetrics.Proofs.Recording.Delivery
import CommandMetrics.Proofs.Recording.Durations
import CommandMetrics.Proofs.Recording.EventLog
import CommandMetrics.Proofs.Recording.FanOut
import CommandMetrics.Proofs.Recording.Frame
import CommandMetrics.Proofs.Recording.Interchange
import CommandMetrics.Proofs.Recording.Isolation
import CommandMetrics.Proofs.Recording.Observation
import CommandMetrics.Proofs.Recording.Operation
import CommandMetrics.Proofs.Recording.Primitive
import CommandMetrics.Proofs.Recording.Reading
import CommandMetrics.Proofs.Recording.Visibility
import CommandMetrics.Proofs.Refusal
import CommandMetrics.Proofs.Registry
import CommandMetrics.Proofs.Restoration
import CommandMetrics.Proofs.Roster
import CommandMetrics.Proofs.Routes
import CommandMetrics.Proofs.Run
import CommandMetrics.Registry
import CommandMetrics.Series
import CommandMetrics.Signal
import CommandMetrics.Snapshot
import CommandMetrics.Tally
import CommandMetrics.Text.Basic
import CommandMetrics.Text.Blank
import CommandMetrics.Text.DecimalDigit
import CommandMetrics.Text.Printable
import CommandMetrics.Text.Quoted
import CommandMetrics.Uuid
import CommandMetrics.Validation
import CommandMetrics.Value
