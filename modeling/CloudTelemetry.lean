import CloudTelemetry.Export.Rehearsal
import CloudTelemetry.Export.Traffic
import CloudTelemetry.FileTree
import CloudTelemetry.Interface
import CloudTelemetry.Lifecycle.Waiting
import CloudTelemetry.Registration.Waiting
import CloudTelemetry.Session
import CloudTelemetry.Yaml.Document
import CloudTelemetry.Proofs.Protocol
import CloudTelemetry.Proofs.Lifecycle.Gate
import CloudTelemetry.Proofs.Registration.Claims
import CloudTelemetry.Proofs.Metric.Record
import CloudTelemetry.Proofs.Export.Course
import CloudTelemetry.Proofs.Export.Registering
import CloudTelemetry.Proofs.Export.Runs
import CloudTelemetry.Proofs.Export.Alone
import CloudTelemetry.Proofs.Export.Delivery
import CloudTelemetry.Proofs.Export.Accounts
import CloudTelemetry.Proofs.Export.Reporting
import CloudTelemetry.Proofs.Export.Traffic
import CloudTelemetry.Proofs.Export.Steady
import CloudTelemetry.Proofs.Export.Sharing
import CloudTelemetry.Proofs.Export.Concurrent
import CloudTelemetry.Proofs.Export.Presence
import CloudTelemetry.Proofs.Export.Shutdown
import CloudTelemetry.Proofs.Export.Enrolment
import CloudTelemetry.Proofs.Export.Precedence
import CloudTelemetry.Proofs.Config.References
import CloudTelemetry.Proofs.Config.Modes
import CloudTelemetry.Proofs.Config.Substitution
import CloudTelemetry.Proofs.Binary64.Range
import CloudTelemetry.Proofs.Config.Options
import CloudTelemetry.Proofs.Config.Readings
import CloudTelemetry.Proofs.Config.Permissive
import CloudTelemetry.Proofs.Config.Validation
import CloudTelemetry.Proofs.Config.Expansion
import CloudTelemetry.Proofs.Resources
import CloudTelemetry.Proofs.Config.Loading
import CloudTelemetry.Proofs.Setup.Exporters
import CloudTelemetry.Proofs.Session.Moves
import CloudTelemetry.Proofs.Session.Takings
import CloudTelemetry.Proofs.Session.Connections
import CloudTelemetry.Proofs.Session.Leaks
import CloudTelemetry.Proofs.Session.Globals
import CloudTelemetry.Proofs.Outcomes
import CloudTelemetry.Proofs.Span.Limits
import CloudTelemetry.Proofs.Export.Schemas
import CloudTelemetry.Proofs.Export.SpanBatches
import CloudTelemetry.Proofs.Metric.Numbers
import CloudTelemetry.Proofs.Metric.Points
import CloudTelemetry.Proofs.Metric.Translation
import CloudTelemetry.Proofs.Binary64.Rational
import CloudTelemetry.Proofs.Metric.Truncation
import CloudTelemetry.Proofs.Metric.Exemplars
import CloudTelemetry.Proofs.Export.Isolation
import CloudTelemetry.Proofs.Export.Unlogged
import CloudTelemetry.Proofs.Export.Neutrality
import CloudTelemetry.Proofs.Text.Slices
import CloudTelemetry.Proofs.Identifiers
import CloudTelemetry.Proofs.Span.Selection
import CloudTelemetry.Proofs.Span.Translation
import CloudTelemetry.Proofs.Chronology
import CloudTelemetry.Proofs.Metric.Links
import CloudTelemetry.Proofs.Yaml.Unfolding
import CloudTelemetry.Proofs.Background
import CloudTelemetry.Proofs.Export.Scripts
