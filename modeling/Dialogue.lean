import Dialogue.Attempt
import Dialogue.Availability
import Dialogue.Client.Basic
import Dialogue.Client.Completion
import Dialogue.Client.Streaming
import Dialogue.Display
import Dialogue.Endpoint
import Dialogue.Event
import Dialogue.Failure
import Dialogue.Fault
import Dialogue.File.Path
import Dialogue.File.Store
import Dialogue.Journal.Basic
import Dialogue.Journal.Config
import Dialogue.Journal.Defect
import Dialogue.Journal.Entry
import Dialogue.Journal.Level
import Dialogue.Journal.Note
import Dialogue.Journal.Rotation
import Dialogue.Journal.Thresholds
import Dialogue.Json.Printer
import Dialogue.Json.Reader
import Dialogue.Json.Value
import Dialogue.Lenient
import Dialogue.Message
import Dialogue.Model.Basic
import Dialogue.Model.Call
import Dialogue.Number.Binary64
import Dialogue.Number.Layout
import Dialogue.Number.Shortest
import Dialogue.Options
import Dialogue.Proofs.Schema.Meaning
import Dialogue.Proofs.Schema.Rendering
import Dialogue.Proofs.Stream.Events
import Dialogue.Proofs.Stream.Fifo
import Dialogue.Proofs.Stream.Interleaving
import Dialogue.Record
import Dialogue.Reply
import Dialogue.Schema.Compile
import Dialogue.Schema.Fragment
import Dialogue.Schema.Naming
import Dialogue.Schema.Outline
import Dialogue.Schema.Reference
import Dialogue.Schema.Shape
import Dialogue.Server.Basic
import Dialogue.Server.Connection
import Dialogue.Server.Request
import Dialogue.Server.Worker
import Dialogue.Session
import Dialogue.Settings.Basic
import Dialogue.Settings.Document
import Dialogue.Stream.Bridge
import Dialogue.Stream.Payload
import Dialogue.Stream.Reading
import Dialogue.Stream.Schedule
import Dialogue.Text.Blank
import Dialogue.Text.Case
import Dialogue.Text.CharClass
import Dialogue.Text.Lines
import Dialogue.Text.Printable
import Dialogue.Text.Split
import Dialogue.Text.Word
import Dialogue.Tool.Block
import Dialogue.Tool.Call
import Dialogue.Tool.Extraction
import Dialogue.Tool.Prompt
import Dialogue.Tool.Registry
import Dialogue.Tool.Spec
import Dialogue.Transcript
import Dialogue.Version
import Dialogue.Yaml.BlockText
import Dialogue.Yaml.Cursor
import Dialogue.Yaml.Lexer
import Dialogue.Yaml.Node
import Dialogue.Yaml.Plain
import Dialogue.Yaml.Printer
import Dialogue.Yaml.Quoted
import Dialogue.Yaml.Scalar
import Dialogue.Yaml.Style
import Dialogue.Yaml.Token
import Dialogue.Yaml.Value
import Dialogue.Proofs.Schema.Supported
import Dialogue.Proofs.Schema.Preservation
import Dialogue.Proofs.Stream.Abandonment
import Dialogue.Proofs.Schema.WellFormed
import Dialogue.Proofs.Attempt
import Dialogue.Proofs.Server.Worker
import Dialogue.Proofs.Client.Agreement
import Dialogue.Proofs.Text.CharClass
import Dialogue.Proofs.Tool.Grammar
import Dialogue.Proofs.Tool.Extraction
import Dialogue.Proofs.Schema.Closure
import Dialogue.Proofs.Schema.NormalForm
import Dialogue.Proofs.Json.Printer
import Dialogue.Proofs.Tool.Format
import Dialogue.Proofs.Stream.Wakeup
import Dialogue.Proofs.Server.Payloads
import Dialogue.Proofs.Json.Tokens
import Dialogue.Proofs.Json.RoundTrip
import Dialogue.Proofs.Json.Indented
import Dialogue.Proofs.Tool.SingleCall
import Dialogue.Proofs.Stream.Exclusion
import Dialogue.Proofs.Json.Regular
import Dialogue.Proofs.Tool.OlderForm
import Dialogue.Proofs.Tool.Payload
import Dialogue.Proofs.Tool.Prompt
import Dialogue.Proofs.Schema.Names
import Dialogue.Proofs.Schema.Written
import Dialogue.Proofs.Schema.Titles
import Dialogue.Proofs.Message.RoundTrip
import Dialogue.Proofs.Stream.Leaving
import Dialogue.Proofs.Stream.Cancellation
import Dialogue.Proofs.Stream.Reader
import Dialogue.Proofs.Stream.Delivered
import Dialogue.Proofs.Client.Guard
import Dialogue.Proofs.Client.Conversation
import Dialogue.Proofs.Json.Limit
import Dialogue.Proofs.Text.Trimming
import Dialogue.Proofs.Message.Refusal
import Dialogue.Proofs.Client.Chunks
import Dialogue.Proofs.Schema.Reach
import Dialogue.Proofs.File.Path
import Dialogue.Proofs.File.Store
import Dialogue.Proofs.Journal.Entries
import Dialogue.Proofs.Journal.Refusal
import Dialogue.Proofs.Journal.Settings
import Dialogue.Proofs.Session.Keeping
import Dialogue.Proofs.Reply.Fence
import Dialogue.Proofs.Yaml.Printer
import Dialogue.Proofs.Settings.RoundTrip
import Dialogue.Proofs.Settings.Malformed
import Dialogue.Proofs.Stream.Draining
import Dialogue.Proofs.Server.Failing
import Dialogue.Proofs.Server.Ending
import Dialogue.Proofs.Transcript.Flattened
import Dialogue.Proofs.Text.Case
import Dialogue.Proofs.Transcript.Crossing
import Dialogue.Proofs.Endpoint.Parts
import Dialogue.Proofs.Endpoint.NormalForm
import Dialogue.Proofs.Schema.Naming
