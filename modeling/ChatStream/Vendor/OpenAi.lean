import ChatStream.Accumulate.Message
import ChatStream.Context.Basic
import ChatStream.EventSource.Frame
import ChatStream.Json.Decode
import ChatStream.Provider.Drive
import ChatStream.Vendor.Options

/-! # The chat-completions adapter

Requests go to `/v1/chat/completions` with `stream` on and usage reporting asked for. The
conversation becomes a list of role-tagged messages: the system prompt first, then each
message in order. An assistant message carries its tool calls; a user message that carries tool
results becomes one `tool` message per result, followed by a user message with any images the
tools returned and the user's own text and images. With the caching hint, the system prompt and
the text of the latest plain user turn are marked cacheable.

The response is a stream of server-sent events whose data is one JSON chunk each, ended by
`[DONE]` or by a chunk with a finish reason. Blank and unreadable chunks are skipped; a chunk
with an `error` fails the stream.
-/

namespace ChatStream.Vendor.OpenAi

def api : String := "openai-completions"

def path : String := "/v1/chat/completions"

/-! ## Requests -/

def ephemeral : Json := .obj [("type", .str "ephemeral")]

/-- A text part, cacheable or not. -/
def textPart (text : String) (cache : Bool) : Json :=
  .obj ([("type", .str "text"), ("text", .str text)] ++
    if cache then [("cache_control", ephemeral)] else [])

/-- An image part, inline as a data URL. -/
def imagePart (image : ImageData) : Json :=
  .obj [("type", .str "image_url"), ("image_url", .obj [("url", .str image.dataUrl)])]

/-- An assistant message with its tool calls; the text is left out when it is empty and there
are calls. Blank arguments are sent as `{}`. -/
def assistantMessage (m : ConversationMessage) : Json :=
  let calls := m.toolUses.map fun tu =>
    Json.obj [("id", .str tu.id), ("type", .str "function"),
      ("function", .obj [("name", .str tu.name),
        ("arguments", .str (if Text.isBlank tu.inputJson then "{}" else tu.inputJson))])]
  .obj ([("role", .str "assistant")] ++
    (if m.content.isEmpty && !calls.isEmpty then [] else [("content", .str m.content)]) ++
    (if calls.isEmpty then [] else [("tool_calls", .arr calls)]))

/-- A plain user message: bare text, or parts when it has images or is the cached turn. -/
def userMessage (m : ConversationMessage) (cache : Bool) : Json :=
  if m.images.isEmpty && !cache then .obj [("role", .str "user"), ("content", .str m.content)]
  else
    .obj [("role", .str "user"),
      ("content", .arr (textPart m.content cache :: m.images.map imagePart))]

/-- A user message with tool results: one `tool` message per result (an error prefixed with
`Error: `), then a user message with the tools' images, the user's text and the user's images,
if there is any of them. -/
def toolResultMessages (m : ConversationMessage) : List Json :=
  let tools := m.toolResults.map fun r =>
    Json.obj [("role", .str "tool"), ("tool_call_id", .str r.toolUseId),
      ("content", .str (if r.isError then "Error: " ++ r.content else r.content))]
  let images := m.toolResults.flatMap fun r => r.images.map imagePart
  let parts :=
    (if images.isEmpty then [] else textPart "Images returned by the tool call above:" false :: images) ++
    (if m.content.isEmpty then [] else [textPart m.content false]) ++
    m.images.map imagePart
  tools ++ if parts.isEmpty then [] else [.obj [("role", .str "user"), ("content", .arr parts)]]

def buildMessages (ctx : Context) : List Json :=
  let cache := ctx.cacheHint == .ephemeral
  let cachedUser := if cache then ctx.lastUserIndex else none
  let system := match ctx.systemPrompt with
    | some s =>
      if s.isEmpty then []
      else [Json.obj [("role", .str "system"),
        ("content", if cache then .arr [textPart s true] else .str s)]]
    | none => []
  system ++ ctx.messages.zipIdx.flatMap fun (m, i) =>
    match m.role with
    | .assistant => [assistantMessage m]
    | .user =>
      if !m.toolResults.isEmpty then toolResultMessages m
      else [userMessage m (cachedUser == some i)]

def toolJson (t : ToolDefinition) : Json :=
  .obj [("type", .str "function"), ("function", .obj [("name", .str t.name),
    ("description", .str t.description), ("parameters", t.inputSchema)])]

def buildRequest (model : String) (ctx : Context) (o : StreamOptions) : Json :=
  .obj ([("model", .str model), ("messages", .arr (buildMessages ctx)), ("stream", .bool true),
    ("stream_options", .obj [("include_usage", .bool true)])] ++
    (if ctx.tools.isEmpty then [] else [("tools", .arr (ctx.tools.map toolJson))]) ++
    (match o.maxTokens with | some n => [("max_tokens", .nat n)] | none => []) ++
    (match o.temperature with | some t => [("temperature", float32Json t)] | none => []))

/-! ## Response chunks -/

structure CallDelta where
  index : Option Nat
  id : Option String
  name : Option String
  arguments : Option String

structure ChoiceDelta where
  content : Option String
  reasoning : Option String
  calls : List CallDelta
  finishReason : Option String

structure Chunk where
  model : Option String
  choices : List ChoiceDelta
  usage : Option Usage
  error : Option String

/-- A member that may be absent or `null`. -/
def opt {α : Type} (fs : List (String × Json)) (name : String) (d : Decoder α) : Option α :=
  Decoder.member fs name (Decoder.option d) none

def optRule (name : String) : FieldRule := .may name (Decoder.option Decoder.string)

/-- A function fragment: name and arguments. -/
def functionDecoder : Decoder (Option String × Option String) := fun j => do
  let fs ← Decoder.recordInOrder "struct FunctionDelta" [optRule "name", optRule "arguments"] j
  pure (opt fs "name" Decoder.string, opt fs "arguments" Decoder.string)

def callDecoder : Decoder CallDelta := fun j => do
  let fs ← Decoder.recordInOrder "struct ToolCallDelta" [.may "index" (Decoder.option Decoder.usize),
    optRule "id", .may "function" (Decoder.option functionDecoder)] j
  let (name, arguments) := (opt fs "function" functionDecoder).getD (none, none)
  pure ⟨opt fs "index" Decoder.usize, opt fs "id" Decoder.string, name, arguments⟩

/-- The delta of a choice: text, reasoning and tool-call fragments. -/
def deltaDecoder : Decoder (Option String × Option String × List CallDelta) := fun j => do
  let calls := Decoder.list callDecoder
  let fs ← Decoder.recordInOrder "struct ChunkDelta" [optRule "content", optRule "reasoning_content",
    .may "tool_calls" (Decoder.option calls)] j
  pure (opt fs "content" Decoder.string, opt fs "reasoning_content" Decoder.string,
    (opt fs "tool_calls" calls).getD [])

def choiceDecoder : Decoder ChoiceDelta := fun j => do
  let fs ← Decoder.recordInOrder "struct ChunkChoice"
    [.may "delta" (Decoder.option deltaDecoder), optRule "finish_reason"] j
  let (content, reasoning, calls) := (opt fs "delta" deltaDecoder).getD (none, none, [])
  pure ⟨content, reasoning, calls, opt fs "finish_reason" Decoder.string⟩

/-- The cached-token count of the prompt details. -/
def detailsDecoder : Decoder (Option UInt32) := fun j => do
  let fs ← Decoder.recordInOrder "struct PromptTokensDetails"
    [.may "cached_tokens" (Decoder.option Decoder.u32)] j
  pure (opt fs "cached_tokens" Decoder.u32)

/-- Usage counts; absent or `null` counts are zero. -/
def usageDecoder : Decoder Usage := fun j => do
  let fs ← Decoder.recordInOrder "struct ChunkUsage" [.may "prompt_tokens" (Decoder.option Decoder.u32),
    .may "completion_tokens" (Decoder.option Decoder.u32),
    .may "prompt_tokens_details" (Decoder.option detailsDecoder)] j
  pure { inputTokens := (opt fs "prompt_tokens" Decoder.u32).getD 0
         outputTokens := (opt fs "completion_tokens" Decoder.u32).getD 0
         cacheReadTokens := ((opt fs "prompt_tokens_details" detailsDecoder).bind id).getD 0 }

def errorDecoder : Decoder String := fun j => do
  let fs ← Decoder.recordInOrder "struct ChunkError" [.may "message" Decoder.string] j
  pure (Decoder.member fs "message" Decoder.string "")

def chunkDecoder : Decoder Chunk := fun j => do
  let choices := Decoder.list choiceDecoder
  let fs ← Decoder.recordInOrder "struct ChatChunk" [optRule "model", .may "choices" choices,
    .may "usage" (Decoder.option usageDecoder), .may "error" (Decoder.option errorDecoder)] j
  pure ⟨opt fs "model" Decoder.string, Decoder.member fs "choices" choices [],
    opt fs "usage" usageDecoder, opt fs "error" errorDecoder⟩

/-- The stop reason of a finish reason. -/
def stopReasonOf : String → StopReason
  | "stop" => .endTurn
  | "length" => .maxTokens
  | "tool_calls" | "function_call" => .toolUse
  | _ => .other

/-! ## Folding chunks -/

/-- Fold one choice in: reasoning, text, tool-call fragments, then the finish reason. The flag
says whether a finish reason was seen. -/
def applyChoice (acc : List StreamEvent × MessageBuilder × Bool) (c : ChoiceDelta) :
    List StreamEvent × MessageBuilder × Bool :=
  let (evs, b, finished) := acc
  let (e1, b) := match c.reasoning with | some r => b.pushThinking r | none => (none, b)
  let (e2, b) := match c.content with | some t => b.pushText t | none => (none, b)
  let (e3, b) := c.calls.foldl (fun (evs, b) call =>
    let index := call.index.getD (b.tools.indexForId call.id)
    let (more, b) := b.applyTool index call.id call.name call.arguments
    (evs ++ more, b)) ([], b)
  let evs := evs ++ e1.toList ++ e2.toList ++ e3
  match c.finishReason with
  | some r =>
    let stop := stopReasonOf r
    (evs ++ [.messageDelta (some stop) none], b.setStopReason stop, true)
  | none => (evs, b, finished)

/-- Fold a read chunk in: an error fails; usage comes first, then the model, then the choices. -/
def applyChunk (b : MessageBuilder) (c : Chunk) : Step × MessageBuilder :=
  match c.error with
  | some m => (⟨[], .failed (.provider m)⟩, b)
  | none =>
    let (evs, b) := match c.usage with
      | some u => ([StreamEvent.messageDelta none (some u)], b.setUsage u)
      | none => ([], b)
    let b := match c.model with | some m => b.setModel m | none => b
    let (evs, b, finished) := c.choices.foldl applyChoice (evs, b, false)
    (⟨evs, if finished then .done else .continue⟩, b)

def process (b : MessageBuilder) (f : EventSource.Frame) : Step × MessageBuilder :=
  let data := Text.trim f.data
  if data.isEmpty then (⟨[], .continue⟩, b)
  else if data == "[DONE]" then (⟨[], .done⟩, b)
  else
    match Json.parse data with
    | .error _ => (⟨[], .continue⟩, b)
    | .ok j =>
      match chunkDecoder j with
      | .error _ => (⟨[], .continue⟩, b)
      | .ok c => applyChunk b c

def processor : Processor MessageBuilder EventSource.Frame where
  process := process
  finish := MessageBuilder.finish

end ChatStream.Vendor.OpenAi
