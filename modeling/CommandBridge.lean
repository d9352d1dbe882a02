import CommandBridge.Command.Compile
import CommandBridge.Command.Lookup
import CommandBridge.Command.Printer
import CommandBridge.Text.Lowercase
import CommandBridge.Text.Quoted
import CommandBridge.Decimal.Layout
import CommandBridge.Json.Reader
import CommandBridge.Json.Printer
import CommandBridge.Command.Redaction
import CommandBridge.Command.Json
import CommandBridge.Moment.Rfc3339
import CommandBridge.Guid
import CommandBridge.Record.Basic
import CommandBridge.Record.Flatten
import CommandBridge.Record.Graph
import CommandBridge.Record.Codec
import CommandBridge.Url.Parser
import CommandBridge.Failure
import CommandBridge.Session.Target
import CommandBridge.Span
import CommandBridge.Toml.Parser
import CommandBridge.Config.Place
import CommandBridge.Bridge.Schedule
import CommandBridge.Endpoint.Scripted
import CommandBridge.Http.Script
import CommandBridge.Main
import CommandBridge.Proofs.Bridge.Invocations
import CommandBridge.Proofs.Bridge.Identity
import CommandBridge.Proofs.Bridge.Taint
import CommandBridge.Proofs.Command.RoundTrip
import CommandBridge.Proofs.Bridge.Closing
import CommandBridge.Proofs.Bridge.Generation
import CommandBridge.Proofs.Command.Restored
import CommandBridge.Proofs.Bridge.Disposal
import CommandBridge.Proofs.Bridge.Trail
import CommandBridge.Proofs.Bridge.AuditTrace
import CommandBridge.Proofs.Command.Exact
import CommandBridge.Proofs.Command.Redaction
import CommandBridge.Proofs.Command.Masking
import CommandBridge.Proofs.Bridge.Secrecy
import CommandBridge.Proofs.Bridge.Waits
import CommandBridge.Proofs.Bridge.Deadlock
import CommandBridge.Proofs.Bridge.Progress
import CommandBridge.Proofs.Bridge.Reconfiguration
import CommandBridge.Proofs.Record.RoundTrip
import CommandBridge.Proofs.Gateway.Rounds
import CommandBridge.Proofs.Command.Stages
import CommandBridge.Proofs.Command.Scan
import CommandBridge.Proofs.Command.Form
import CommandBridge.Proofs.Command.Binding
import CommandBridge.Proofs.Command.Listing
import CommandBridge.Proofs.Ordered
import CommandBridge.Proofs.Record.Depth
import CommandBridge.Proofs.Record.Shape
import CommandBridge.Proofs.Endpoint.Projection
import CommandBridge.Proofs.Gateway.Agreement
import CommandBridge.Proofs.Endpoint.Books
import CommandBridge.Proofs.Endpoint.Meter
import CommandBridge.Proofs.Bridge.Traceless
import CommandBridge.Proofs.Bridge.Unopened
import CommandBridge.Proofs.Url.Normal
import CommandBridge.Proofs.Url.Reading
import CommandBridge.Proofs.Url.Below
import CommandBridge.Proofs.Url.Segment
import CommandBridge.Proofs.Gateway.Address
import CommandBridge.Proofs.Url.Address
import CommandBridge.Proofs.Record.Members
import CommandBridge.Proofs.CommandLine.Session
