import ChatStream.Accumulate.Message
import ChatStream.Context.Basic
import ChatStream.EventSource.Frame
import ChatStream.Json.Parse
import ChatStream.Provider.Drive
import ChatStream.Vendor.Options

/-! # The messages adapter

Requests go to `/v1/messages` with the API version header and the key in `x-api-key`. The
system prompt travels apart from the messages; each message keeps its role, and its content is
bare text or a list of blocks: an assistant's text and tool calls, a user's tool results (which
lead the turn, each with its own text and images) and then the user's text and images. With the
caching hint, the system prompt and the latest plain user turn's text are marked cacheable. The
token limit defaults to 16000.

The response is a stream of typed server-sent events. Tool calls arrive as a block start with id
and name, input fragments, and a block stop, keyed by the block index. A `message_delta` with a
stop reason or a `message_stop` ends the turn; an `error` event fails it. Token counts above the
32-bit range are capped.
-/

namespace ChatStream.Vendor.Anthropic

def api : String := "anthropic-messages"

def path : String := "/v1/messages"

/-- The API version sent with every request. -/
def apiVersion : String := "2023-06-01"

/-- The token limit when the caller sets none. -/
def defaultMaxTokens : Nat := 16000

/-! ## Requests -/

/-- A text block, cacheable or not. -/
def textBlock (text : String) (cache : Bool := false) : Json :=
  .obj ([("type", .str "text"), ("text", .str text)] ++
    if cache then [("cache_control", .obj [("type", .str "ephemeral")])] else [])

/-- An image block with base64 data. -/
def imageBlock (image : ImageData) : Json :=
  .obj [("type", .str "image"), ("source", .obj [("type", .str "base64"),
    ("media_type", .str image.mimeType), ("data", .str image.data)])]

def messageContent (m : ConversationMessage) (cache : Bool) : Json :=
  if !m.toolUses.isEmpty then
    .arr ((if m.content.isEmpty then [] else [textBlock m.content]) ++
      m.toolUses.map fun tu => .obj [("type", .str "tool_use"), ("id", .str tu.id),
        ("name", .str tu.name), ("input", tu.inputValue)])
  else if !m.toolResults.isEmpty then
    .arr (m.toolResults.map (fun r =>
        .obj ([("type", .str "tool_result"), ("tool_use_id", .str r.toolUseId),
          ("content", .arr (textBlock r.content :: r.images.map imageBlock))] ++
          if r.isError then [("is_error", .bool true)] else [])) ++
      (if m.content.isEmpty then [] else [textBlock m.content]) ++ m.images.map imageBlock)
  else if m.images.isEmpty && !cache then .str m.content
  else .arr (m.images.map imageBlock ++ [textBlock m.content cache])

def buildMessages (ctx : Context) : List Json :=
  let cachedUser := match ctx.cacheHint with
    | .ephemeral => ctx.lastUserIndex
    | .none => none
  ctx.messages.zipIdx.map fun (m, i) =>
    .obj [("role", .str (match m.role with | .user => "user" | .assistant => "assistant")),
      ("content", messageContent m (cachedUser == some i))]

def buildRequest (model : String) (ctx : Context) (o : StreamOptions) : Json :=
  let cache := ctx.cacheHint == .ephemeral
  let system := match ctx.systemPrompt with
    | some s => if s.isEmpty then [] else [("system", if cache then .arr [textBlock s true] else .str s)]
    | none => []
  .obj ([("model", .str model), ("max_tokens", .nat (o.maxTokens.getD defaultMaxTokens)),
    ("stream", .bool true)] ++ system ++ [("messages", .arr (buildMessages ctx))] ++
    (if ctx.tools.isEmpty then [] else [("tools", .arr (ctx.tools.map fun t =>
      .obj [("name", .str t.name), ("description", .str t.description),
        ("input_schema", t.inputSchema)]))]) ++
    (match o.temperature with | some t => [("temperature", float32Json t)] | none => []))

/-! ## Events -/

/-- The stop reason of a vendor stop reason. -/
def stopReasonOf : String → StopReason
  | "end_turn" | "stop_sequence" => .endTurn
  | "max_tokens" => .maxTokens
  | "tool_use" => .toolUse
  | _ => .other

def str? (j : Json) (key : String) : Option String :=
  match j.get? key with
  | some (.str s) => some s
  | _ => none

/-- A member that is a non-negative integer, capped to 32 bits. -/
def count? (j : Json) (key : String) : Option UInt32 :=
  match j.get? key with
  | some (.num (.uint n)) => some (min n (Nat.pow 2 32 - 1)).toUInt32
  | _ => none

/-- The event that reports the usage so far. -/
def usageEvent (b : MessageBuilder) : StreamEvent := .messageDelta none (some b.usage)

/-- Fold one event, its type already known, into the builder. -/
def applyEvent (b : MessageBuilder) (kind : String) (data : Json) : Step × MessageBuilder :=
  let index := ((count? data "index").getD 0).toNat
  match kind with
  | "message_start" =>
    let message := data.get? "message"
    let b := match message.bind (str? · "model") with
      | some m => b.setModel m
      | none => b
    match message.bind (·.get? "usage") with
    | some u =>
      let b := b.setUsage { inputTokens := (count? u "input_tokens").getD 0
                            outputTokens := (count? u "output_tokens").getD 0
                            cacheReadTokens := (count? u "cache_read_input_tokens").getD 0
                            cacheWriteTokens := (count? u "cache_creation_input_tokens").getD 0 }
      (⟨[usageEvent b], .continue⟩, b)
    | none => (⟨[], .continue⟩, b)
  | "content_block_start" =>
    match data.get? "content_block" with
    | some block =>
      match (str? block "type").getD "" with
      | "tool_use" =>
        let (evs, b) := b.applyTool index (str? block "id") (str? block "name") none
        (⟨evs, .continue⟩, b)
      | "text" =>
        match str? block "text" with
        | some t => let (e, b) := b.pushText t; (⟨e.toList, .continue⟩, b)
        | none => (⟨[], .continue⟩, b)
      | _ => (⟨[], .continue⟩, b)
    | none => (⟨[], .continue⟩, b)
  | "content_block_delta" =>
    match data.get? "delta" with
    | some delta =>
      match (str? delta "type").getD "" with
      | "text_delta" =>
        match str? delta "text" with
        | some t => let (e, b) := b.pushText t; (⟨e.toList, .continue⟩, b)
        | none => (⟨[], .continue⟩, b)
      | "thinking_delta" =>
        match str? delta "thinking" with
        | some t => let (e, b) := b.pushThinking t; (⟨e.toList, .continue⟩, b)
        | none => (⟨[], .continue⟩, b)
      | "input_json_delta" =>
        let (evs, b) := b.applyTool index none none (str? delta "partial_json")
        (⟨evs, .continue⟩, b)
      | _ => (⟨[], .continue⟩, b)
    | none => (⟨[], .continue⟩, b)
  | "message_delta" =>
    let (evs, b) := match (data.get? "usage").bind (count? · "output_tokens") with
      | some n =>
        let b := b.modifyUsage fun u => { u with outputTokens := n }
        ([usageEvent b], b)
      | none => ([], b)
    match (data.get? "delta").bind (str? · "stop_reason") with
    | some r =>
      let stop := stopReasonOf r
      (⟨evs ++ [.messageDelta (some stop) none], .done⟩, b.setStopReason stop)
    | none => (⟨evs, .continue⟩, b)
  | "message_stop" => (⟨[], .done⟩, b)
  | "ping" => (⟨[.ping], .continue⟩, b)
  | "error" =>
    let message := ((data.get? "error").bind (str? · "message")).getD "Unknown error"
    (⟨[], .failed (.provider message)⟩, b)
  | _ => (⟨[], .continue⟩, b)

/-- Fold one frame in: its data must read as JSON; its type is the frame's event name, or else
the data's `type`. -/
def process (b : MessageBuilder) (f : EventSource.Frame) : Step × MessageBuilder :=
  match Json.parse f.data with
  | .error _ => (⟨[], .continue⟩, b)
  | .ok j =>
    let data := j.sorted
    let kind := if f.eventType.isEmpty then (str? data "type").getD "" else f.eventType
    applyEvent b kind data

def processor : Processor MessageBuilder EventSource.Frame where
  process := process
  finish := MessageBuilder.finish

end ChatStream.Vendor.Anthropic
