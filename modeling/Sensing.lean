import Sensing.Bench.Basic
import Sensing.Bench.Command
import Sensing.Bench.Fault
import Sensing.Bench.Motion
import Sensing.Bench.Report
import Sensing.Bench.Video
import Sensing.Binary.Basic
import Sensing.Binary.Shortest
import Sensing.Binary.Text
import Sensing.Clock
import Sensing.Control
import Sensing.Demo.Options
import Sensing.Demo.Run
import Sensing.Device.Generator
import Sensing.Device.Machine
import Sensing.Device.Motion
import Sensing.Device.Video
import Sensing.Document.Basic
import Sensing.Document.Forms
import Sensing.Document.Json.Printer
import Sensing.Document.Json.Reader
import Sensing.Document.Numeral
import Sensing.Document.Schema
import Sensing.Document.Toml.Number
import Sensing.Document.Toml.Reader
import Sensing.Document.Toml.Table
import Sensing.Document.Toml.Text
import Sensing.Endpoint.Core
import Sensing.Endpoint.Motion
import Sensing.Endpoint.Power
import Sensing.Endpoint.Rig
import Sensing.Endpoint.Video
import Sensing.Error
import Sensing.Frame.Basic
import Sensing.Frame.Pool
import Sensing.Frame.Shelf
import Sensing.Info
import Sensing.Log
import Sensing.Main
import Sensing.Pose
import Sensing.Procedure
import Sensing.Proofs.Binary.Integers
import Sensing.Proofs.Binary.Rounding
import Sensing.Proofs.Clients.Alone
import Sensing.Proofs.Clients.Annals
import Sensing.Proofs.Clients.Answers
import Sensing.Proofs.Clients.Asides
import Sensing.Proofs.Clients.Assurance
import Sensing.Proofs.Clients.Attainment
import Sensing.Proofs.Clients.Bookkeeping
import Sensing.Proofs.Clients.Bystanders
import Sensing.Proofs.Clients.Chronicle
import Sensing.Proofs.Clients.Crowd
import Sensing.Proofs.Clients.Custody
import Sensing.Proofs.Clients.Knowledge
import Sensing.Proofs.Clients.Ledger
import Sensing.Proofs.Clients.Record
import Sensing.Proofs.Clients.Rules
import Sensing.Proofs.Clients.Session
import Sensing.Proofs.Clients.Success
import Sensing.Proofs.Clients.Transcript
import Sensing.Proofs.Clients.Upkeep
import Sensing.Proofs.Clients.Winding
import Sensing.Proofs.Clock.Traps
import Sensing.Proofs.Clock.Unwrapping
import Sensing.Proofs.Demo.Outcome
import Sensing.Proofs.Demo.Performance
import Sensing.Proofs.Device.Calls
import Sensing.Proofs.Distinct
import Sensing.Proofs.Document.Fields
import Sensing.Proofs.Document.Forms
import Sensing.Proofs.Document.Json.Grammar
import Sensing.Proofs.Document.Json.Reading
import Sensing.Proofs.Document.Json.Writing
import Sensing.Proofs.Frame.Balance
import Sensing.Proofs.Frame.Conservation
import Sensing.Proofs.Frame.Drawing
import Sensing.Proofs.Frame.Offering
import Sensing.Proofs.Frame.Unclaimed
import Sensing.Proofs.Lifecycle.Callbacks
import Sensing.Proofs.Lifecycle.Departure
import Sensing.Proofs.Lifecycle.Draining
import Sensing.Proofs.Lifecycle.Errors
import Sensing.Proofs.Lifecycle.FailedOpen
import Sensing.Proofs.Lifecycle.Phase
import Sensing.Proofs.Lifecycle.Refinement
import Sensing.Proofs.Lifecycle.Retirement
import Sensing.Proofs.Motion.Bookkeeping
import Sensing.Proofs.Motion.Callbacks
import Sensing.Proofs.Motion.Captures
import Sensing.Proofs.Motion.Capturing
import Sensing.Proofs.Motion.Feeds
import Sensing.Proofs.Motion.Opening
import Sensing.Proofs.Motion.Operations
import Sensing.Proofs.Motion.Protocol
import Sensing.Proofs.Motion.Samples
import Sensing.Proofs.Motion.SoleClient
import Sensing.Proofs.Motion.Standing
import Sensing.Proofs.Motion.Turns
import Sensing.Proofs.Routing.Precedence
import Sensing.Proofs.Routing.Resolution
import Sensing.Proofs.Routing.Reuse
import Sensing.Proofs.Routing.Satisfiability
import Sensing.Proofs.Routing.Stability
import Sensing.Proofs.Settings.Loading
import Sensing.Proofs.Sorted
import Sensing.Proofs.Text.Numerals
import Sensing.Proofs.Video.Advertised
import Sensing.Proofs.Video.Backpressure
import Sensing.Proofs.Video.Bookkeeping
import Sensing.Proofs.Video.Callbacks
import Sensing.Proofs.Video.Clients
import Sensing.Proofs.Video.Closing
import Sensing.Proofs.Video.Consultations
import Sensing.Proofs.Video.Controls
import Sensing.Proofs.Video.CurrentSession
import Sensing.Proofs.Video.Delivery
import Sensing.Proofs.Video.Enumeration
import Sensing.Proofs.Video.Gates
import Sensing.Proofs.Video.Inquiries
import Sensing.Proofs.Video.Lockstep
import Sensing.Proofs.Video.Mirror
import Sensing.Proofs.Video.Moves
import Sensing.Proofs.Video.Multiplicity
import Sensing.Proofs.Video.Obedience
import Sensing.Proofs.Video.ObedientOperations
import Sensing.Proofs.Video.Operations
import Sensing.Proofs.Video.OwnImages
import Sensing.Proofs.Video.Power
import Sensing.Proofs.Video.PowerLog
import Sensing.Proofs.Video.Principal
import Sensing.Proofs.Video.Readiness
import Sensing.Proofs.Video.Retirement
import Sensing.Proofs.Video.Rounds
import Sensing.Proofs.Video.Sessions
import Sensing.Proofs.Video.SoleClient
import Sensing.Proofs.Video.Sources
import Sensing.Proofs.Video.StreamOperations
import Sensing.Proofs.Video.Streams
import Sensing.Proofs.Video.Upkeep
import Sensing.Proofs.Video.Verbatim
import Sensing.Registry
import Sensing.Settings
import Sensing.Slots
import Sensing.Sorted
import Sensing.Stream.Channel
import Sensing.Stream.Lane
import Sensing.Stream.Mode
import Sensing.Stream.PixelFormat
import Sensing.Stream.Route
import Sensing.Text.Blank
import Sensing.Text.Integer
import Sensing.Text.Record
import Sensing.Proofs.Video.Deliveries
import Sensing.Proofs.Video.Sizes
