import MetricDocs.Text.Utf8
import MetricDocs.Text.Quoted
import MetricDocs.Decimal.Whole
import MetricDocs.Decimal.Reading
import MetricDocs.Decimal.Fixed
import MetricDocs.Decimal.Layout
import MetricDocs.Value.Basic
import MetricDocs.Failure
import MetricDocs.Snapshot
import MetricDocs.Value.Shown
import MetricDocs.Json.Encode
import MetricDocs.Json.Decode
import MetricDocs.Config.StaticFields
import MetricDocs.Store
import MetricDocs.Instruments
import MetricDocs.Aggregator
import MetricDocs.Emitter
import MetricDocs.Config.Settings
import MetricDocs.RootLogger
import MetricDocs.Main
import MetricDocs.Proofs.Aggregator.Published
import MetricDocs.Proofs.Path.Grouping
import MetricDocs.Proofs.Aggregator.SystemStats
import MetricDocs.Proofs.Store.Touching
import MetricDocs.Proofs.Aggregator.Isolation
import MetricDocs.Proofs.Value.Reordered
import MetricDocs.Proofs.Json.Canonical
import MetricDocs.Proofs.Json.Ascii
import MetricDocs.Proofs.Aggregator.Framing
import MetricDocs.Proofs.Aggregator.Order
import MetricDocs.Proofs.Aggregator.Conservation
import MetricDocs.Proofs.Aggregator.Accounting
import MetricDocs.Proofs.Aggregator.Serialisation
import MetricDocs.Proofs.Aggregator.Closing
import MetricDocs.Proofs.Emitter.Stopping
import MetricDocs.Proofs.Emitter.Accounting
import MetricDocs.Proofs.Path.Collisions
import MetricDocs.Proofs.Config.Overriding
import MetricDocs.Proofs.Cli.OneShot
import MetricDocs.Proofs.Path.Scanning
import MetricDocs.Proofs.Snapshot.Components
import MetricDocs.Proofs.Value.Walking
import MetricDocs.Proofs.Value.Overlaying
import MetricDocs.Proofs.Path.Indices
import MetricDocs.Proofs.Calendar.Timestamps
import MetricDocs.Proofs.Log.Lines
import MetricDocs.Proofs.Config.StaticFields
import MetricDocs.Proofs.Instruments.Families
import MetricDocs.Proofs.Emitter.Waiting
