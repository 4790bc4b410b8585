import JetStream.Administration
import JetStream.Binary64
import JetStream.Broker.Api
import JetStream.Broker.Memory.Delivery
import JetStream.Broker.Memory.Operation
import JetStream.Broker.Memory.State
import JetStream.Broker.Rehearsal
import JetStream.Broker.Request
import JetStream.Broker.Simulation
import JetStream.Catalog
import JetStream.Cluster
import JetStream.CommandLine.Arguments
import JetStream.CommandLine.Invocation
import JetStream.CommandLine.Run
import JetStream.Consumer.Check
import JetStream.Consumer.Config
import JetStream.Consumer.Copy
import JetStream.Consumer.Fetch
import JetStream.Consumer.File
import JetStream.Consumer.Flags
import JetStream.Consumer.Handle
import JetStream.Consumer.Info
import JetStream.Consumer.Policy
import JetStream.Consumer.Prompter
import JetStream.Consumer.Question
import JetStream.Consumer.Resolution
import JetStream.Consumer.Rules
import JetStream.Consumer.Sample
import JetStream.Consumer.Schema
import JetStream.Consumer.Start
import JetStream.Consumer.StepDown
import JetStream.Consumer.Subscription
import JetStream.Duration.Basic
import JetStream.Duration.Grammar
import JetStream.Duration.Text
import JetStream.Error
import JetStream.Files
import JetStream.Instant.Basic
import JetStream.Instant.Calendar
import JetStream.Instant.Reader
import JetStream.Instant.Text
import JetStream.Json.Basic
import JetStream.Json.Fault
import JetStream.Json.Number
import JetStream.Json.Printer
import JetStream.Json.Record
import JetStream.Json.Token
import JetStream.Json.Written
import JetStream.Log
import JetStream.Main
import JetStream.Message
import JetStream.Message.Metadata
import JetStream.NameMap
import JetStream.Procedure
import JetStream.Proofs.Binary64
import JetStream.Proofs.Broker.Addresses
import JetStream.Proofs.Broker.Creation
import JetStream.Proofs.Broker.Memory.Acknowledged
import JetStream.Proofs.Broker.Memory.AnyOrder
import JetStream.Proofs.Broker.Memory.Coherence
import JetStream.Proofs.Broker.Memory.Cursors
import JetStream.Proofs.Broker.Memory.Delivered
import JetStream.Proofs.Broker.Memory.Drained
import JetStream.Proofs.Broker.Memory.History
import JetStream.Proofs.Broker.Memory.Isolation
import JetStream.Proofs.Broker.Memory.Leadership
import JetStream.Proofs.Broker.Memory.Lookup
import JetStream.Proofs.Broker.Memory.Reachable
import JetStream.Proofs.Broker.Memory.Refused
import JetStream.Proofs.Broker.Memory.Start
import JetStream.Proofs.Broker.Memory.StartingPoint
import JetStream.Proofs.Broker.Memory.Steps
import JetStream.Proofs.Broker.Replies
import JetStream.Proofs.Broker.Simulation
import JetStream.Proofs.Cluster
import JetStream.Proofs.Consumer.Accepted
import JetStream.Proofs.Consumer.Admissible
import JetStream.Proofs.Consumer.Agreement
import JetStream.Proofs.Consumer.Answers
import JetStream.Proofs.Consumer.Canonical
import JetStream.Proofs.Consumer.Copied
import JetStream.Proofs.Consumer.Document
import JetStream.Proofs.Consumer.Draining
import JetStream.Proofs.Consumer.Election
import JetStream.Proofs.Consumer.Fetch
import JetStream.Proofs.Consumer.FromFile
import JetStream.Proofs.Consumer.Ignored
import JetStream.Proofs.Consumer.Info
import JetStream.Proofs.Consumer.Printed
import JetStream.Proofs.Consumer.Questions
import JetStream.Proofs.Consumer.Resolution
import JetStream.Proofs.Consumer.Resolved
import JetStream.Proofs.Consumer.Saved
import JetStream.Proofs.Consumer.Start
import JetStream.Proofs.Consumer.StepDown
import JetStream.Proofs.Consumer.Submitted
import JetStream.Proofs.Consumer.Subscription
import JetStream.Proofs.Consumer.Violations
import JetStream.Proofs.Consumer.Wire
import JetStream.Proofs.Duration.Grammar
import JetStream.Proofs.Duration.Humanized
import JetStream.Proofs.Duration.Reading
import JetStream.Proofs.Error.Context
import JetStream.Proofs.Files
import JetStream.Proofs.Instant.Calendar
import JetStream.Proofs.Instant.Clock
import JetStream.Proofs.Instant.RoundTrip
import JetStream.Proofs.Instant.Subtract
import JetStream.Proofs.Json.Arranged
import JetStream.Proofs.Json.Numbers
import JetStream.Proofs.Json.Record
import JetStream.Proofs.Json.RoundTrip
import JetStream.Proofs.Json.Strings
import JetStream.Proofs.Json.Tokens
import JetStream.Proofs.Message.Address
import JetStream.Proofs.Message.Codec
import JetStream.Proofs.NameMap.Entries
import JetStream.Proofs.Procedure.Conversation
import JetStream.Proofs.Procedure.Execution
import JetStream.Proofs.Report.Counts
import JetStream.Proofs.Report.Grouping
import JetStream.Proofs.Report.Message
import JetStream.Proofs.Settings.File
import JetStream.Proofs.Settings.Layers
import JetStream.Proofs.Settings.Text
import JetStream.Proofs.Settings.Timeout
import JetStream.Proofs.Settings.Tracing
import JetStream.Proofs.Settings.Values
import JetStream.Proofs.Subject.Matching
import JetStream.Proofs.Text.Blank
import JetStream.Proofs.Text.ByteOrder
import JetStream.Proofs.Text.Case
import JetStream.Proofs.Text.Decimal
import JetStream.Proofs.Text.Pattern
import JetStream.Proofs.Text.Runs
import JetStream.Proofs.Text.Split
import JetStream.Proofs.Text.Utf8
import JetStream.Proofs.Yaml.Block
import JetStream.Proofs.Yaml.Entries
import JetStream.Proofs.Yaml.Lines
import JetStream.Proofs.Yaml.Plain
import JetStream.Proofs.Yaml.Positions
import JetStream.Proofs.Yaml.Quoted
import JetStream.Proofs.Yaml.Scalars
import JetStream.Proofs.Yaml.Stream
import JetStream.Random
import JetStream.Report.Consumer
import JetStream.Report.Message
import JetStream.Report.Numbers
import JetStream.Settings.Basic
import JetStream.Settings.File
import JetStream.Settings.Layers
import JetStream.Settings.Overrides
import JetStream.Settings.Text
import JetStream.StreamInfo
import JetStream.Subject
import JetStream.Text.Blank
import JetStream.Text.Case
import JetStream.Text.CharRange
import JetStream.Text.Digit
import JetStream.Text.Emoji
import JetStream.Text.Extender
import JetStream.Text.Hex
import JetStream.Text.Integer
import JetStream.Text.Ligature
import JetStream.Text.LineWidth
import JetStream.Text.Pattern
import JetStream.Text.Printable
import JetStream.Text.Quoted
import JetStream.Text.Split
import JetStream.Text.Table
import JetStream.Text.Utf8
import JetStream.Text.Width
import JetStream.Yaml.Block
import JetStream.Yaml.Character
import JetStream.Yaml.Node
import JetStream.Yaml.Plain
import JetStream.Yaml.Position
import JetStream.Yaml.Printer
import JetStream.Yaml.Quoted
import JetStream.Yaml.Reader
import JetStream.Yaml.Tag
import JetStream.Yaml.Token
import JetStream.Yaml.Value
