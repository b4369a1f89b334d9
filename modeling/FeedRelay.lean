import FeedRelay.Address.Ipv4
import FeedRelay.Address.Ipv6
import FeedRelay.Address.Socket
import FeedRelay.CommandLine.Command
import FeedRelay.CommandLine.EnvironmentFile
import FeedRelay.CommandLine.Run
import FeedRelay.Console
import FeedRelay.Decimal.Binary64
import FeedRelay.Decimal.Layout
import FeedRelay.Decimal.Literal
import FeedRelay.Decimal.Shortest
import FeedRelay.Failure
import FeedRelay.Feed.Clock
import FeedRelay.Feed.Event
import FeedRelay.Feed.Follower
import FeedRelay.Feed.Handler
import FeedRelay.Feed.Pump
import FeedRelay.Feed.Reader
import FeedRelay.Feed.Roster
import FeedRelay.Feed.Subscription
import FeedRelay.Frame
import FeedRelay.Interval
import FeedRelay.Json.Fault
import FeedRelay.Json.Number
import FeedRelay.Json.Parser
import FeedRelay.Json.Printer
import FeedRelay.Json.Value
import FeedRelay.Log.Directive
import FeedRelay.Log.Filter
import FeedRelay.Log.Line
import FeedRelay.Main
import FeedRelay.Message
import FeedRelay.Network
import FeedRelay.Pattern.Basic
import FeedRelay.Pattern.Reader
import FeedRelay.Pattern.Soundness
import FeedRelay.Proofs.CommandLine.Course
import FeedRelay.Proofs.CommandLine.Program
import FeedRelay.Proofs.CommandLine.Startup
import FeedRelay.Proofs.ConsoleLines
import FeedRelay.Proofs.Delays
import FeedRelay.Proofs.Feed.ClockSteps
import FeedRelay.Proofs.Feed.Consumption
import FeedRelay.Proofs.Feed.DistinctKeys
import FeedRelay.Proofs.Feed.EndlessRetries
import FeedRelay.Proofs.Feed.EventStream
import FeedRelay.Proofs.Feed.ExactTaking
import FeedRelay.Proofs.Feed.FailedSubscribe
import FeedRelay.Proofs.Feed.FollowerSteps
import FeedRelay.Proofs.Feed.KeyMirror
import FeedRelay.Proofs.Feed.KeyView
import FeedRelay.Proofs.Feed.KeysApart
import FeedRelay.Proofs.Feed.LiveKeys
import FeedRelay.Proofs.Feed.Outages
import FeedRelay.Proofs.Feed.OwnerCalls
import FeedRelay.Proofs.Feed.ReaderOutput
import FeedRelay.Proofs.Feed.ReaderTask
import FeedRelay.Proofs.Feed.Service
import FeedRelay.Proofs.Feed.ServiceRoster
import FeedRelay.Proofs.Feed.ShutdownEnds
import FeedRelay.Proofs.Feed.StopSignal
import FeedRelay.Proofs.Feed.TaskHistory
import FeedRelay.Proofs.Feed.Teardown
import FeedRelay.Proofs.Feed.Uplink
import FeedRelay.Proofs.Feed.WaitClosed
import FeedRelay.Proofs.Feed.WindDown
import FeedRelay.Proofs.Json.Regular
import FeedRelay.Proofs.Json.RoundTrip
import FeedRelay.Proofs.Json.Scalars
import FeedRelay.Proofs.Machine
import FeedRelay.Proofs.Outcome
import FeedRelay.Proofs.Relay.AcceptLoop
import FeedRelay.Proofs.Relay.Audience
import FeedRelay.Proofs.Relay.ClientSteps
import FeedRelay.Proofs.Relay.ConnectionLifecycle
import FeedRelay.Proofs.Relay.Edits
import FeedRelay.Proofs.Relay.ExactlyOnce
import FeedRelay.Proofs.Relay.Iteration
import FeedRelay.Proofs.Relay.Lane
import FeedRelay.Proofs.Relay.Members
import FeedRelay.Proofs.Relay.RacingBroadcast
import FeedRelay.Proofs.Relay.Traffic
import FeedRelay.Proofs.Relay.WalkOrder
import FeedRelay.Proofs.Settings.Layering
import FeedRelay.Proofs.Settings.Leaves
import FeedRelay.Proofs.Settings.Places
import FeedRelay.Proofs.Text.Encoding
import FeedRelay.Proofs.Text.FormPairs
import FeedRelay.Proofs.Topic.Address
import FeedRelay.Proofs.Topic.Grammar
import FeedRelay.Proofs.Topic.Keys
import FeedRelay.Proofs.Topic.Parts
import FeedRelay.Proofs.Topic.Paths
import FeedRelay.Proofs.Topic.ServiceAddress
import FeedRelay.ReconnectPolicy
import FeedRelay.Relay.Acceptor
import FeedRelay.Relay.Broadcast
import FeedRelay.Relay.Client
import FeedRelay.Relay.Hub
import FeedRelay.Relay.Registry
import FeedRelay.Settings.Basic
import FeedRelay.Settings.Convert
import FeedRelay.Settings.Decode
import FeedRelay.Settings.Environment
import FeedRelay.Settings.Fault
import FeedRelay.Settings.Layers
import FeedRelay.Settings.Load
import FeedRelay.Settings.Node
import FeedRelay.Settings.Path
import FeedRelay.Text.Blank
import FeedRelay.Text.Composition
import FeedRelay.Text.Direction
import FeedRelay.Text.Folding
import FeedRelay.Text.Form
import FeedRelay.Text.Hex
import FeedRelay.Text.Joining
import FeedRelay.Text.Letter
import FeedRelay.Text.LowerCase
import FeedRelay.Text.Mark
import FeedRelay.Text.Percent
import FeedRelay.Text.Quoted
import FeedRelay.Text.Runs
import FeedRelay.Text.Shown
import FeedRelay.Text.Split
import FeedRelay.Text.Utf8
import FeedRelay.Toml.Document
import FeedRelay.Toml.Reader
import FeedRelay.Toml.Scalar
import FeedRelay.Toml.Text
import FeedRelay.Topic.Basic
import FeedRelay.Topic.Fault
import FeedRelay.Topic.Location
import FeedRelay.Url.Basic
import FeedRelay.Url.Domain
import FeedRelay.Url.Path
import FeedRelay.Url.Punycode
import FeedRelay.Url.Reader
