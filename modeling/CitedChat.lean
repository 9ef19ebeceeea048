import CitedChat.Chat.Assembler
import CitedChat.Chat.Clock
import CitedChat.Chat.Conversation
import CitedChat.Chat.Event
import CitedChat.Chat.Format
import CitedChat.Chat.Gate
import CitedChat.Chat.Session
import CitedChat.Chat.Submission
import CitedChat.Html.Escape
import CitedChat.Html.Writer
import CitedChat.Http.Address
import CitedChat.Http.Connection
import CitedChat.Http.EventStream
import CitedChat.Http.MediaType
import CitedChat.Http.Message
import CitedChat.Http.Response
import CitedChat.Http.Server
import CitedChat.Json.Alternatives
import CitedChat.Json.Decoder
import CitedChat.Json.Error
import CitedChat.Json.NumberReader
import CitedChat.Json.Printer
import CitedChat.Json.Reader
import CitedChat.Json.Record
import CitedChat.Json.Tree
import CitedChat.Json.TreeReader
import CitedChat.Main
import CitedChat.Markdown.Autolink
import CitedChat.Markdown.Block
import CitedChat.Markdown.Content
import CitedChat.Markdown.Document
import CitedChat.Markdown.Emphasis
import CitedChat.Markdown.Entity
import CitedChat.Markdown.EntityTable
import CitedChat.Markdown.Event
import CitedChat.Markdown.Inline
import CitedChat.Markdown.Margin
import CitedChat.Markdown.Mark
import CitedChat.Markdown.RawHtml
import CitedChat.Markdown.Reader
import CitedChat.Markdown.Scan
import CitedChat.Markdown.TableReader
import CitedChat.Markdown.Target
import CitedChat.Markdown.Token
import CitedChat.Page.Citation
import CitedChat.Page.Render
import CitedChat.Page.Sanitize
import CitedChat.Proofs.Chat.Abort
import CitedChat.Proofs.Chat.Appending
import CitedChat.Proofs.Chat.Assembly
import CitedChat.Proofs.Chat.BatchTurn
import CitedChat.Proofs.Chat.Broadcast
import CitedChat.Proofs.Chat.Cancellation
import CitedChat.Proofs.Chat.Course
import CitedChat.Proofs.Chat.Deadline
import CitedChat.Proofs.Chat.Delivery
import CitedChat.Proofs.Chat.FirstStop
import CitedChat.Proofs.Chat.Following
import CitedChat.Proofs.Chat.Growth
import CitedChat.Proofs.Chat.Listening
import CitedChat.Proofs.Chat.Lobby
import CitedChat.Proofs.Chat.Lookup
import CitedChat.Proofs.Chat.NumberedRun
import CitedChat.Proofs.Chat.NumberedTurn
import CitedChat.Proofs.Chat.Pieces
import CitedChat.Proofs.Chat.Placeholder
import CitedChat.Proofs.Chat.Reducing
import CitedChat.Proofs.Chat.Refusal
import CitedChat.Proofs.Chat.Renewal
import CitedChat.Proofs.Chat.RoundTrip
import CitedChat.Proofs.Chat.StreamedTurn
import CitedChat.Proofs.Chat.Submission
import CitedChat.Proofs.Chat.Telling
import CitedChat.Proofs.Chat.Timetable
import CitedChat.Proofs.Chat.Trace
import CitedChat.Proofs.Chat.Watching
import CitedChat.Proofs.Chat.WholeReply
import CitedChat.Proofs.Html.Description
import CitedChat.Proofs.Http.Delivery
import CitedChat.Proofs.Json.Accepting
import CitedChat.Proofs.Json.Coherence
import CitedChat.Proofs.Json.Decoding
import CitedChat.Proofs.Json.Filling
import CitedChat.Proofs.Json.Flaws
import CitedChat.Proofs.Json.Grammar
import CitedChat.Proofs.Json.Numerals
import CitedChat.Proofs.Json.Parsing
import CitedChat.Proofs.Json.Printing
import CitedChat.Proofs.Json.Restoring
import CitedChat.Proofs.Json.RoundTrip
import CitedChat.Proofs.Json.Scanning
import CitedChat.Proofs.Json.Skipping
import CitedChat.Proofs.Json.Sorting
import CitedChat.Proofs.Json.Tagging
import CitedChat.Proofs.Json.Yielding
import CitedChat.Proofs.Library
import CitedChat.Proofs.Markdown.Nesting
import CitedChat.Proofs.Markup.Reading
import CitedChat.Proofs.Markup.Unescaping
import CitedChat.Proofs.Page.Description
import CitedChat.Proofs.Page.Passage
import CitedChat.Proofs.Page.ReadingBack
import CitedChat.Proofs.Page.Rewriting
import CitedChat.Proofs.Page.Scheme
import CitedChat.Proofs.Page.Targets
import CitedChat.Proofs.Terminal.Activation
import CitedChat.Proofs.Terminal.Excerpt
import CitedChat.Proofs.Terminal.Showing
import CitedChat.Proofs.Text.Trimming
import CitedChat.Proofs.Transcript.Numbering
import CitedChat.Proofs.Transcript.RoundTrip
import CitedChat.Proofs.Wire.Acceptance
import CitedChat.Proofs.Wire.Citation
import CitedChat.Proofs.Wire.LegacyAcceptance
import CitedChat.Proofs.Wire.LegacyNumbering
import CitedChat.Proofs.Wire.LegacyReply
import CitedChat.Proofs.Wire.RoundTrip
import CitedChat.Terminal.Arguments
import CitedChat.Terminal.Command
import CitedChat.Terminal.Console
import CitedChat.Terminal.Display
import CitedChat.Terminal.Program
import CitedChat.Terminal.Settings
import CitedChat.Terminal.Setup
import CitedChat.Terminal.Tooltip
import CitedChat.Text.CaseFold
import CitedChat.Text.Characters
import CitedChat.Text.LowerCase
import CitedChat.Text.Punctuation
import CitedChat.Text.Quoted
import CitedChat.Text.Shortest
import CitedChat.Text.Utf8
import CitedChat.Toml.Document
import CitedChat.Toml.Fault
import CitedChat.Toml.Layout
import CitedChat.Toml.Quote
import CitedChat.Toml.Scalar
import CitedChat.Toml.StringText
import CitedChat.Toml.Token
import CitedChat.Transcript.Format
import CitedChat.Transcript.Turn
import CitedChat.Wire.Client
import CitedChat.Wire.Error
import CitedChat.Wire.Payload
import CitedChat.Wire.Reply
import CitedChat.Word
