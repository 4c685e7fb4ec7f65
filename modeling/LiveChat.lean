import LiveChat.Conversation.Basic
import LiveChat.Conversation.History
import LiveChat.Conversation.Limits
import LiveChat.Conversation.Message
import LiveChat.Conversation.Payload
import LiveChat.Decimal.Shortest
import LiveChat.Http.ChatService
import LiveChat.Http.EventSource
import LiveChat.Http.Message
import LiveChat.Http.Retry
import LiveChat.Json.Printer
import LiveChat.Json.Reader
import LiveChat.Json.Record
import LiveChat.Json.Value
import LiveChat.Main
import LiveChat.Proofs.Conversation.Boundaries
import LiveChat.Proofs.Conversation.Bounds
import LiveChat.Proofs.Conversation.Calls
import LiveChat.Proofs.Conversation.Chronicle
import LiveChat.Proofs.Conversation.Flag
import LiveChat.Proofs.Conversation.OpenReply
import LiveChat.Proofs.Conversation.Places
import LiveChat.Proofs.Conversation.Records
import LiveChat.Proofs.Conversation.Refusals
import LiveChat.Proofs.Conversation.Reloading
import LiveChat.Proofs.Conversation.Tokens
import LiveChat.Proofs.Conversation.Twins
import LiveChat.Proofs.Http.Patience
import LiveChat.Proofs.Json.Fields
import LiveChat.Proofs.Json.Grammar
import LiveChat.Proofs.Json.Printing
import LiveChat.Proofs.Json.Reading
import LiveChat.Proofs.Json.Scalars
import LiveChat.Proofs.Json.Size
import LiveChat.Proofs.Rehearsal.Bodies
import LiveChat.Proofs.Rehearsal.Bridges
import LiveChat.Proofs.Rehearsal.Courses
import LiveChat.Proofs.Rehearsal.Desk
import LiveChat.Proofs.Rehearsal.Hosts
import LiveChat.Proofs.Rehearsal.Loop
import LiveChat.Proofs.Rehearsal.Plays
import LiveChat.Proofs.Rehearsal.Pursuits
import LiveChat.Proofs.Rehearsal.Runs
import LiveChat.Proofs.Rehearsal.Turns
import LiveChat.Proofs.Rehearsal.Wires
import LiveChat.Proofs.Session.Attached
import LiveChat.Proofs.Session.Exchanges
import LiveChat.Proofs.Session.Fences
import LiveChat.Proofs.Session.InFlight
import LiveChat.Proofs.Session.Junction
import LiveChat.Proofs.Session.Ledger
import LiveChat.Proofs.Session.Refreshing
import LiveChat.Proofs.Session.Replies
import LiveChat.Proofs.Session.Runs
import LiveChat.Proofs.Session.Serial
import LiveChat.Proofs.Session.Stillness
import LiveChat.Proofs.Stream.Backoff
import LiveChat.Proofs.Stream.Bridge
import LiveChat.Proofs.Stream.Budget
import LiveChat.Proofs.Stream.Consistency
import LiveChat.Proofs.Stream.Delivery
import LiveChat.Proofs.Stream.Framing
import LiveChat.Proofs.Stream.Idle
import LiveChat.Proofs.Stream.IdleMark
import LiveChat.Proofs.Stream.Memory
import LiveChat.Proofs.Stream.Moves
import LiveChat.Proofs.Stream.Notices
import LiveChat.Proofs.Stream.Operations
import LiveChat.Proofs.Stream.Oversize
import LiveChat.Proofs.Stream.Queues
import LiveChat.Proofs.Stream.Resync
import LiveChat.Proofs.Stream.Teardown
import LiveChat.Proofs.Stream.Wire
import LiveChat.Proofs.Terminal.Printout
import LiveChat.Proofs.Terminal.Snapshots
import LiveChat.Proofs.Text.Utf8
import LiveChat.Proofs.Time.Calendar
import LiveChat.Proofs.Time.Instants
import LiveChat.Proofs.Url.Origin
import LiveChat.Rehearsal.Console
import LiveChat.Rehearsal.Operator
import LiveChat.Rehearsal.Server
import LiveChat.Rehearsal.Service
import LiveChat.Rehearsal.Step
import LiveChat.Rehearsal.World
import LiveChat.Session.Basic
import LiveChat.Session.Error
import LiveChat.Settings.Basic
import LiveChat.Settings.Client
import LiveChat.Settings.Environment
import LiveChat.Settings.Layers
import LiveChat.Stream.Backoff
import LiveChat.Stream.Channel
import LiveChat.Stream.Connection
import LiveChat.Stream.Counters
import LiveChat.Stream.Dispatcher
import LiveChat.Stream.Endpoint
import LiveChat.Stream.Error
import LiveChat.Stream.Event
import LiveChat.Stream.Framing
import LiveChat.Stream.Payload
import LiveChat.Stream.RecentChanges
import LiveChat.Terminal.Command
import LiveChat.Terminal.Options
import LiveChat.Terminal.Renderer
import LiveChat.Terminal.Shell
import LiveChat.Text.Blank
import LiveChat.Text.Category
import LiveChat.Text.Charset
import LiveChat.Text.Charset.Escaped
import LiveChat.Text.Charset.Pair
import LiveChat.Text.Charset.Piece
import LiveChat.Text.Chart
import LiveChat.Text.Chart.Big5
import LiveChat.Text.Chart.Gb18030
import LiveChat.Text.Chart.Japanese
import LiveChat.Text.Chart.Korean
import LiveChat.Text.Chart.Octet
import LiveChat.Text.Hidden
import LiveChat.Text.Normal
import LiveChat.Text.Quoted
import LiveChat.Text.Ranges
import LiveChat.Text.Utf16
import LiveChat.Text.Utf8
import LiveChat.Time.Calendar
import LiveChat.Time.Duration
import LiveChat.Time.Instant
import LiveChat.Toml.Reader
import LiveChat.Toml.Scalar
import LiveChat.Toml.Table
import LiveChat.Toml.Text
import LiveChat.Url.Address
import LiveChat.Url.Basic
import LiveChat.Url.Domain
import LiveChat.Url.Domain.Direction
import LiveChat.Url.Domain.Joining
import LiveChat.Url.Domain.Mapping
import LiveChat.Url.Host
import LiveChat.Url.Parser
import LiveChat.Url.Percent
import LiveChat.Url.Punycode
