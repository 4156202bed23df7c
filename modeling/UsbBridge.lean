import UsbBridge.Bus.Bench
import UsbBridge.Bus.Descriptors
import UsbBridge.Bus.Enumeration
import UsbBridge.Bus.Files
import UsbBridge.Bus.Host
import UsbBridge.Bus.Uevent
import UsbBridge.Client.Bench
import UsbBridge.Client.Command
import UsbBridge.Client.Endpoint
import UsbBridge.Client.Exchange
import UsbBridge.Client.Feed
import UsbBridge.Client.Peer
import UsbBridge.Config.Client
import UsbBridge.Config.Fault
import UsbBridge.Config.File
import UsbBridge.Config.Section
import UsbBridge.Config.Server
import UsbBridge.Daemon.Basic
import UsbBridge.Daemon.Bench
import UsbBridge.Daemon.Binding
import UsbBridge.Daemon.Connection
import UsbBridge.Daemon.Site
import UsbBridge.Device.Filter
import UsbBridge.Device.Raw
import UsbBridge.Duration.Basic
import UsbBridge.Duration.Notation
import UsbBridge.Error
import UsbBridge.Files.OsError
import UsbBridge.Files.Path
import UsbBridge.Files.Tree
import UsbBridge.Frame.Basic
import UsbBridge.Frame.Stream
import UsbBridge.Handle.Duplication
import UsbBridge.Handle.Strategy
import UsbBridge.Handle.Table
import UsbBridge.Host.Basic
import UsbBridge.Host.Scripted
import UsbBridge.LogFilter
import UsbBridge.Main
import UsbBridge.Program.Arguments
import UsbBridge.Program.Basic
import UsbBridge.Program.Bench
import UsbBridge.Program.Bridge
import UsbBridge.Program.Consumer
import UsbBridge.Program.Invocation
import UsbBridge.Proofs.Lists
import UsbBridge.Proofs.Opening.Changes
import UsbBridge.Proofs.Opening.Descriptors
import UsbBridge.Proofs.Opening.InFlight
import UsbBridge.Proofs.Opening.Ownership
import UsbBridge.Proofs.Relay.Deeds
import UsbBridge.Proofs.Relay.Delivery
import UsbBridge.Proofs.Relay.Endings
import UsbBridge.Proofs.Relay.Feeds
import UsbBridge.Proofs.Relay.Line
import UsbBridge.Proofs.Run
import UsbBridge.Proofs.Session.Runs
import UsbBridge.Protocol.Device
import UsbBridge.Protocol.Encoding
import UsbBridge.Protocol.Error
import UsbBridge.Protocol.Message
import UsbBridge.Relay.Basic
import UsbBridge.Service.Notice
import UsbBridge.Session.Bench
import UsbBridge.Session.Directory
import UsbBridge.Session.Manager
import UsbBridge.Session.Opening
import UsbBridge.Socket.Channel
import UsbBridge.Socket.Link
import UsbBridge.Socket.Receiver
import UsbBridge.Socket.Sender
import UsbBridge.Text.Case
import UsbBridge.Text.Digits
import UsbBridge.Text.Quoted
import UsbBridge.Text.Range
import UsbBridge.Toml.Document
import UsbBridge.Toml.Real
import UsbBridge.Toml.Scan
import UsbBridge.Toml.Value
import UsbBridge.Toml.Writer
import UsbBridge.Wire.Primitive
import UsbBridge.Wire.Varint
import UsbBridge.Proofs.Wire.PrefixCode
import UsbBridge.Proofs.Frame.Fronts
import UsbBridge.Proofs.Socket.Receiving
import UsbBridge.Proofs.Frame.Agreement
import UsbBridge.Proofs.Client.Moves
import UsbBridge.Proofs.Client.Pairing
import UsbBridge.Proofs.Relay.Attached
import UsbBridge.Proofs.Session.Mirror
import UsbBridge.Proofs.Wire.Sizes
import UsbBridge.Proofs.Socket.Marks
import UsbBridge.Proofs.Socket.Traffic
import UsbBridge.Proofs.Socket.Custody
import UsbBridge.Proofs.Daemon.Replies
import UsbBridge.Proofs.Daemon.Turns
import UsbBridge.Proofs.Daemon.Intake
import UsbBridge.Proofs.Daemon.Answers
import UsbBridge.Proofs.Daemon.Completion
import UsbBridge.Proofs.Daemon.AbsentDevices
import UsbBridge.Proofs.Daemon.OtherVersions
import UsbBridge.Proofs.Relay.Exposure
import UsbBridge.Proofs.Relay.Succession
import UsbBridge.Proofs.Daemon.Subscriptions
import UsbBridge.Proofs.Daemon.Acknowledgements
import UsbBridge.Proofs.Daemon.Streams
import UsbBridge.Proofs.Client.Hearing
import UsbBridge.Proofs.Client.Subscriber
import UsbBridge.Proofs.Client.Stages
import UsbBridge.Proofs.Client.Served
import UsbBridge.Proofs.Client.Relayed
import UsbBridge.Proofs.Toml.Scanning
import UsbBridge.Proofs.Toml.Texts
import UsbBridge.Proofs.Toml.Values
import UsbBridge.Proofs.Toml.Documents
import UsbBridge.Proofs.Config.Reloading
import UsbBridge.Proofs.Client.Takings
import UsbBridge.Proofs.Daemon.Handover
import UsbBridge.Proofs.Client.Places
import UsbBridge.Proofs.Client.Transparent
import UsbBridge.Proofs.Device.Patterns
import UsbBridge.Proofs.Device.Places
import UsbBridge.Proofs.Session.Attempts
import UsbBridge.Proofs.Session.SameDevices
import UsbBridge.Proofs.Duration.Grammar
import UsbBridge.Proofs.Frame.Filling
import UsbBridge.Proofs.Frame.Resending
import UsbBridge.Proofs.Handle.Duplicates
