import ChatStream.Accumulate.Message
import ChatStream.Accumulate.ToolCalls
import ChatStream.Cli.Args
import ChatStream.Cli.Batch
import ChatStream.Cli.Config
import ChatStream.Cli.Files
import ChatStream.Cli.Image
import ChatStream.Cli.Run
import ChatStream.Cli.Select
import ChatStream.Context.Basic
import ChatStream.Context.Json
import ChatStream.Decimal.Binary
import ChatStream.Decimal.Read
import ChatStream.Decimal.Shortest
import ChatStream.EventSource.Frame
import ChatStream.EventSource.Reader
import ChatStream.Http.Body
import ChatStream.Http.Header
import ChatStream.Http.Retry
import ChatStream.Http.Transport
import ChatStream.Json.Decode
import ChatStream.Json.Parse
import ChatStream.Json.Splitter
import ChatStream.Json.Value
import ChatStream.Main
import ChatStream.Proofs.Body
import ChatStream.Proofs.FrameReading
import ChatStream.Proofs.ObjectSplitting
import ChatStream.Proofs.SplitterState
import ChatStream.Proofs.JsonGrammar
import ChatStream.Proofs.MockEcho
import ChatStream.Proofs.ReadLoop
import ChatStream.Proofs.ChannelCore
import ChatStream.Proofs.ChannelCompletion
import ChatStream.Proofs.ChannelCounts
import ChatStream.Proofs.ChannelClosing
import ChatStream.Proofs.ChannelDelivery
import ChatStream.Proofs.ChannelRoom
import ChatStream.Proofs.ChannelTask
import ChatStream.Proofs.MessageFolding
import ChatStream.Proofs.MessageEvents
import ChatStream.Proofs.ToolIndexes
import ChatStream.Proofs.ToolSlots
import ChatStream.Proofs.Retrying
import ChatStream.Proofs.VertexUsage
import ChatStream.Proofs.StreamPrinting
import ChatStream.Proofs.ReaderState
import ChatStream.Proofs.RequestContent
import ChatStream.Proofs.RequestCaching
import ChatStream.Message.Basic
import ChatStream.Message.Json
import ChatStream.Provider.Basic
import ChatStream.Provider.Drive
import ChatStream.Provider.Mock
import ChatStream.Provider.Registry
import ChatStream.Stream.Channel
import ChatStream.Text.Quote
import ChatStream.Text.Space
import ChatStream.Text.Utf8
import ChatStream.Toml.Document
import ChatStream.Toml.Parse
import ChatStream.Unicode.Mapping
import ChatStream.Unicode.Normal
import ChatStream.Unicode.Packed
import ChatStream.Unicode.Property
import ChatStream.Url.Basic
import ChatStream.Url.Encode
import ChatStream.Url.Host
import ChatStream.Url.Idna
import ChatStream.Url.Punycode
import ChatStream.Vendor.Anthropic
import ChatStream.Vendor.Endpoint
import ChatStream.Vendor.OpenAi
import ChatStream.Vendor.Options
import ChatStream.Vendor.Vertex
