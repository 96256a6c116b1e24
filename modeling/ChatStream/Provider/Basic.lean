import ChatStream.EventSource.Reader
import ChatStream.Json.Splitter
import ChatStream.Provider.Mock
import ChatStream.Vendor.Anthropic
import ChatStream.Vendor.Endpoint
import ChatStream.Vendor.OpenAi
import ChatStream.Vendor.Vertex

/-! # Providers

A provider is one API family behind a common interface: a streaming call takes a model, a
context and options and yields a stream of events that always completes. The three network
adapters send one request through the transport and read the response through their processor:

* a call that fails before the response body opens (no project for the generate-content API, a
  bad header, a cancellation, an unusable URL, a failed connection or a final status that is not
  a success) yields only its `error` event;
* otherwise the stream starts with `messageStart` and continues as the read loop gives it.

The mock provider replays its script and needs no network.

`Provider.run` also returns the requests the server received; the server is given as the list of
what successive connection attempts come to (see `Http.Answer`).
-/

namespace ChatStream

open Vendor

inductive Provider where
  | openAi (baseUrl : String)
  | anthropic (baseUrl : String)
  | vertex (baseUrl project location : String)
  | mock (script : MockScript)

/-- A call's outcome: the requests the server received and what a consumer reads. -/
structure CallRecord where
  requests : List Http.Request
  transcript : Transcript

namespace Provider

/-- The chat-completions provider for a base URL; empty means the public endpoint. -/
def openAiAt (base : String) : Provider := .openAi (openAiBase base)

/-- The messages provider for a base URL; empty means the public endpoint. -/
def anthropicAt (base : String) : Provider := .anthropic (anthropicBase base)

/-- The generate-content provider for a base URL, project and region; an empty region means
the default one, an empty base the region's endpoint. -/
def vertexAt (base project location : String) : Provider :=
  let region := vertexLocation location
  .vertex (vertexBase base region) project region

def api : Provider → String
  | .openAi _ => OpenAi.api
  | .anthropic _ => Anthropic.api
  | .vertex .. => Vertex.api
  | .mock _ => mockApi

def baseUrl? : Provider → Option String
  | .openAi b => some b
  | .anthropic b => some b
  | .vertex b _ _ => some b
  | .mock _ => none

end Provider

/-- The source items of an event-stream body. -/
def frameItems (body : List BodyItem) : List (SourceItem EventSource.Frame) :=
  (EventSource.frames body).map fun
    | .ok f => .chunk f
    | .error e => .failure e.toStreamError

/-- The source items of a body holding a stream of JSON objects. -/
def objectItems (body : List BodyItem) : List (SourceItem ByteArray) :=
  (Json.objects body).map fun
    | .ok o => .chunk o
    | .error e => .failure e.toStreamError

/-- Send a request through a transport with the given headers and read its body: the body's
source items go through the processor after `messageStart`; a failure on the way is the whole
transcript. -/
def exchange {σ α : Type} (base : String) (o : StreamOptions) (headers : List (String × String))
    (path : String) (request : Json) (answers : List Http.Answer) (items : List BodyItem → List (SourceItem α))
    (p : Processor σ α) (start : σ) (model : String) : CallRecord :=
  match applyHeaders (Http.Transport.new base o.transport) headers with
  | .error e => ⟨[], .failure e.toStreamError⟩
  | .ok t =>
    let x := t.streamBytes o.cancelled "POST" path (.bytes request.render.toUTF8) answers
    match x.outcome with
    | .error e => ⟨x.requests, .failure e.toStreamError⟩
    | .ok body => ⟨x.requests, (p.drive o.cancelled start (items body)).after [.messageStart model]⟩

namespace Provider

def run (p : Provider) (model : String) (ctx : Context) (o : StreamOptions)
    (answers : List Http.Answer) : CallRecord :=
  let bearer := (o.key.map bearerHeader).toList ++ o.headers
  match p with
  | .openAi base =>
    exchange base o bearer OpenAi.path (OpenAi.buildRequest model ctx o) answers frameItems
      OpenAi.processor (MessageBuilder.new OpenAi.api model) model
  | .anthropic base =>
    let headers := ("anthropic-version", Anthropic.apiVersion) ::
      (o.key.map ("x-api-key", ·)).toList ++ o.headers
    exchange base o headers Anthropic.path (Anthropic.buildRequest model ctx o) answers frameItems
      Anthropic.processor (MessageBuilder.new Anthropic.api model) model
  | .vertex base project location =>
    if project.isEmpty then ⟨[], .failure Vertex.noProject⟩
    else
      exchange base o bearer (Vertex.path project location model) (Vertex.buildRequest ctx o)
        answers objectItems Vertex.processor (MessageBuilder.new Vertex.api model) model
  | .mock script => ⟨[], script.transcript model o.cancelled⟩

/-- What a consumer reading a streaming call to the end sees. -/
def stream (p : Provider) (model : String) (ctx : Context) (o : StreamOptions)
    (answers : List Http.Answer) : Transcript :=
  (p.run model ctx o answers).transcript

end Provider

end ChatStream
