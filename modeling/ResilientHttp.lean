import ResilientHttp.Backoff
import ResilientHttp.Breaker
import ResilientHttp.Cancellation
import ResilientHttp.Config
import ResilientHttp.Decimal.Binary
import ResilientHttp.Decimal.Shortest
import ResilientHttp.Engine.Flight
import ResilientHttp.Engine.Manner
import ResilientHttp.Engine.Signal
import ResilientHttp.Engine.World
import ResilientHttp.Failure
import ResilientHttp.Gate
import ResilientHttp.Guards
import ResilientHttp.Header
import ResilientHttp.HostKey
import ResilientHttp.Json.Body
import ResilientHttp.Json.Cursor
import ResilientHttp.Json.Fault
import ResilientHttp.Json.Literal
import ResilientHttp.Json.Numeral
import ResilientHttp.Json.Registry
import ResilientHttp.Json.Shape
import ResilientHttp.Json.Skip
import ResilientHttp.Json.Value
import ResilientHttp.Method
import ResilientHttp.Preparation
import ResilientHttp.Progress
import ResilientHttp.Proofs.Backoff.Delays
import ResilientHttp.Proofs.Backoff.Words
import ResilientHttp.Proofs.Breaker.Closing
import ResilientHttp.Proofs.Breaker.FullHistory
import ResilientHttp.Proofs.Breaker.Memory
import ResilientHttp.Proofs.Cancellation.Sharing
import ResilientHttp.Proofs.Cancellation.Wakefulness
import ResilientHttp.Proofs.Engine.Attempt
import ResilientHttp.Proofs.Engine.Cancellation
import ResilientHttp.Proofs.Engine.Charges
import ResilientHttp.Proofs.Engine.Course
import ResilientHttp.Proofs.Engine.Download
import ResilientHttp.Proofs.Engine.Isolation
import ResilientHttp.Proofs.Engine.Landing
import ResilientHttp.Proofs.Engine.Ledger
import ResilientHttp.Proofs.Engine.Mirror
import ResilientHttp.Proofs.Engine.Protection
import ResilientHttp.Proofs.Engine.Questions
import ResilientHttp.Proofs.Engine.Rounds
import ResilientHttp.Proofs.Engine.Sending
import ResilientHttp.Proofs.Engine.Shutdown
import ResilientHttp.Proofs.Engine.Slots
import ResilientHttp.Proofs.Engine.Tale
import ResilientHttp.Proofs.Engine.Turn
import ResilientHttp.Proofs.Engine.Vetting
import ResilientHttp.Proofs.Gate.Chronicle
import ResilientHttp.Proofs.Gate.Conservation
import ResilientHttp.Proofs.Gate.Custody
import ResilientHttp.Proofs.Gate.Order
import ResilientHttp.Proofs.Gate.Watched
import ResilientHttp.Proofs.Guard.Excess
import ResilientHttp.Proofs.Guard.Shares
import ResilientHttp.Proofs.Headers.Collecting
import ResilientHttp.Proofs.Headers.Multimap
import ResilientHttp.Proofs.Headers.Preparation
import ResilientHttp.Proofs.Json.Body
import ResilientHttp.Proofs.Json.Reading
import ResilientHttp.Proofs.Json.Scalars
import ResilientHttp.Proofs.Json.Shapes
import ResilientHttp.Proofs.Json.Skipping
import ResilientHttp.Proofs.Json.Solid
import ResilientHttp.Proofs.Lists
import ResilientHttp.Proofs.Results
import ResilientHttp.Proofs.Telemetry.Agreement
import ResilientHttp.Proofs.Telemetry.Digest
import ResilientHttp.Proofs.Telemetry.Readings
import ResilientHttp.Proofs.Url.HostKey
import ResilientHttp.Proofs.Url.Parts
import ResilientHttp.Proofs.Wire.HeaderTransfer
import ResilientHttp.Proofs.Wire.Streaming
import ResilientHttp.Rehearsal.Cue
import ResilientHttp.Rehearsal.Dispatch
import ResilientHttp.Rehearsal.GateTrial
import ResilientHttp.Rehearsal.Script
import ResilientHttp.Rehearsal.Session
import ResilientHttp.Rehearsal.TokenTrial
import ResilientHttp.Request
import ResilientHttp.Response
import ResilientHttp.SizeGuard
import ResilientHttp.Telemetry.Metrics
import ResilientHttp.Telemetry.Trace
import ResilientHttp.Text.Canonical
import ResilientHttp.Text.CanonicalTable
import ResilientHttp.Text.CodeTable
import ResilientHttp.Text.Fold
import ResilientHttp.Text.Punycode
import ResilientHttp.Text.Quoted
import ResilientHttp.Text.Split
import ResilientHttp.Text.Unreadable
import ResilientHttp.Text.Utf8
import ResilientHttp.Time.Clock
import ResilientHttp.Time.Span
import ResilientHttp.Tokens
import ResilientHttp.Url.Basic
import ResilientHttp.Url.Domain
import ResilientHttp.Url.Domain.Direction
import ResilientHttp.Url.Domain.Joining
import ResilientHttp.Url.Domain.Label
import ResilientHttp.Url.Domain.MappingTable
import ResilientHttp.Url.Fault
import ResilientHttp.Url.Ipv4
import ResilientHttp.Url.Ipv6
import ResilientHttp.Url.Percent
import ResilientHttp.Url.Read
import ResilientHttp.Wire.Arrival
import ResilientHttp.Wire.HeaderMap
import ResilientHttp.Wire.Network
import ResilientHttp.Wire.Outgoing
import ResilientHttp.Wire.Settings
import ResilientHttp.Wire.Uri
