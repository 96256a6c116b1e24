import ChatStream.Accumulate.Message
import ChatStream.Context.Basic
import ChatStream.Json.Decode
import ChatStream.Json.Parse
import ChatStream.Provider.Drive
import ChatStream.Vendor.Options

/-! # The generate-content adapter

Requests go to `/projects/<project>/locations/<location>/publishers/google/models/<model>:streamGenerateContent`.
Each message becomes one content of role `user` or `model`, made of parts: an assistant's text
and function calls; a user's function responses (by tool name, the content under `output` or,
for an error, under `error`) each followed by its images, then the user's text and images. The
system prompt is a separate instruction, tools are one list of declarations, and the token limit
and temperature form the generation settings when either is given.

The response body is a JSON array streamed element by element; each element is one chunk. A
chunk with an `error` fails the stream; unreadable chunks are skipped. Function calls rarely
carry ids, so a call without one gets a minted id; a candidate with a finish reason ends the
turn.
-/

namespace ChatStream.Vendor.Vertex

def api : String := "google-vertex"

/-- The path of the streaming endpoint of a model. -/
def path (project location model : String) : String :=
  "/projects/" ++ project ++ "/locations/" ++ location ++ "/publishers/google/models/" ++ model ++
    ":streamGenerateContent"

/-- The error of a call made without a project. -/
def noProject : StreamError := .provider "no Vertex project configured (set GOOGLE_CLOUD_PROJECT)"

/-! ## Requests -/

def textPart (text : String) : Json := .obj [("text", .str text)]

def imagePart (image : ImageData) : Json :=
  .obj [("inlineData", .obj [("mimeType", .str image.mimeType), ("data", .str image.data)])]

def toContent (m : ConversationMessage) : Json :=
  let text := if m.content.isEmpty then [] else [textPart m.content]
  match m.role with
  | .assistant =>
    .obj [("role", .str "model"), ("parts", .arr (text ++ m.toolUses.map fun tu =>
      .obj [("functionCall", .obj [("name", .str tu.name), ("args", tu.inputValue)])]))]
  | .user =>
    let results := m.toolResults.flatMap fun r =>
      let response := .obj [(if r.isError then "error" else "output", .str r.content)]
      .obj [("functionResponse", .obj [("name", .str r.toolName), ("response", response)])] ::
        r.images.map imagePart
    .obj [("role", .str "user"), ("parts", .arr (results ++ text ++ m.images.map imagePart))]

def buildRequest (ctx : Context) (o : StreamOptions) : Json :=
  let system := match ctx.systemPrompt with
    | some s => if s.isEmpty then [] else [("systemInstruction", .obj [("parts", .arr [textPart s])])]
    | none => []
  let tools := if ctx.tools.isEmpty then [] else
    [("tools", .arr [.obj [("functionDeclarations", .arr (ctx.tools.map fun t =>
      .obj [("name", .str t.name), ("description", .str t.description),
        ("parameters", t.inputSchema)]))]])]
  let settings := (match o.maxTokens with | some n => [("maxOutputTokens", .nat n)] | none => []) ++
    (match o.temperature with | some t => [("temperature", float32Json t)] | none => [])
  .obj ([("contents", .arr (ctx.messages.map toContent))] ++ system ++ tools ++
    if settings.isEmpty then [] else [("generationConfig", .obj settings)])

/-! ## Response chunks -/

structure Call where
  id : Option String
  name : String
  /-- The arguments; `null` when absent. -/
  args : Json

structure Part where
  text : Option String
  thought : Option Bool
  call : Option Call

/-- One candidate: its parts and finish reason. -/
structure Candidate where
  parts : List Part
  finishReason : Option String

structure UsageMetadata where
  prompt : UInt32 := 0
  candidates : UInt32 := 0
  thoughts : UInt32 := 0
  cached : UInt32 := 0

structure Chunk where
  candidates : List Candidate
  usage : Option UsageMetadata
  modelVersion : Option String
  /-- A reported error: its code and message. -/
  error : Option (Option Int × String)

/-- A member that may be absent or `null`. -/
def opt {α : Type} (fs : List (String × Json)) (name : String) (d : Decoder α) : Option α :=
  Decoder.member fs name (Decoder.option d) none

def i64 : Decoder Int
  | .num (.uint n) => if n < Nat.pow 2 63 then .ok n else .error (.invalidValue (.unsigned n) "i64")
  | .num (.negInt n) => .ok (-(n : Int))
  | j => .error (.invalidType j.unexpected "i64")

def callDecoder : Decoder Call := fun j => do
  let fs ← Decoder.recordInOrder "struct FunctionCall" [.may "id" (Decoder.option Decoder.string),
    .need "name" Decoder.string, .may "args" Decoder.any] j
  pure ⟨opt fs "id" Decoder.string, Decoder.member fs "name" Decoder.string "",
    Decoder.member fs "args" Decoder.any .null⟩

/-- A function response, only checked. -/
def responseDecoder : Decoder Unit := fun j => do
  let _ ← Decoder.recordInOrder "struct FunctionResponse"
    [.need "name" Decoder.string, .need "response" Decoder.any] j

/-- Inline data, only checked. -/
def inlineDecoder : Decoder Unit := fun j => do
  let _ ← Decoder.recordInOrder "struct InlineData"
    [.need "mimeType" Decoder.string, .need "data" Decoder.string] j

def partDecoder : Decoder Part := fun j => do
  let fs ← Decoder.recordInOrder "struct Part" [.may "text" (Decoder.option Decoder.string),
    .may "thought" (Decoder.option Decoder.bool), .may "functionCall" (Decoder.option callDecoder),
    .may "functionResponse" (Decoder.option responseDecoder),
    .may "inlineData" (Decoder.option inlineDecoder)] j
  pure ⟨opt fs "text" Decoder.string, opt fs "thought" Decoder.bool, opt fs "functionCall" callDecoder⟩

def contentDecoder : Decoder (List Part) := fun j => do
  let parts := Decoder.list partDecoder
  let fs ← Decoder.recordInOrder "struct Content"
    [.may "role" (Decoder.option Decoder.string), .may "parts" parts] j
  pure (Decoder.member fs "parts" parts [])

def candidateDecoder : Decoder Candidate := fun j => do
  let fs ← Decoder.recordInOrder "struct Candidate" [.may "content" (Decoder.option contentDecoder),
    .may "finishReason" (Decoder.option Decoder.string)] j
  pure ⟨(opt fs "content" contentDecoder).getD [], opt fs "finishReason" Decoder.string⟩

/-- Token counts; absent counts are zero. -/
def usageDecoder : Decoder UsageMetadata := fun j => do
  let fs ← Decoder.recordInOrder "struct UsageMetadata" [.may "promptTokenCount" Decoder.u32,
    .may "candidatesTokenCount" Decoder.u32, .may "thoughtsTokenCount" Decoder.u32,
    .may "cachedContentTokenCount" Decoder.u32] j
  pure { prompt := Decoder.member fs "promptTokenCount" Decoder.u32 0
         candidates := Decoder.member fs "candidatesTokenCount" Decoder.u32 0
         thoughts := Decoder.member fs "thoughtsTokenCount" Decoder.u32 0
         cached := Decoder.member fs "cachedContentTokenCount" Decoder.u32 0 }

def errorDecoder : Decoder (Option Int × String) := fun j => do
  let fs ← Decoder.recordInOrder "struct ChunkError"
    [.may "code" (Decoder.option i64), .may "message" Decoder.string] j
  pure (opt fs "code" i64, Decoder.member fs "message" Decoder.string "")

def chunkDecoder : Decoder Chunk := fun j => do
  let candidates := Decoder.list candidateDecoder
  let fs ← Decoder.recordInOrder "struct GenerateChunk" [.may "candidates" candidates,
    .may "usageMetadata" (Decoder.option usageDecoder),
    .may "modelVersion" (Decoder.option Decoder.string), .may "error" (Decoder.option errorDecoder)] j
  pure ⟨Decoder.member fs "candidates" candidates [], opt fs "usageMetadata" usageDecoder,
    opt fs "modelVersion" Decoder.string, opt fs "error" errorDecoder⟩

/-- The usage a chunk reports: output counts both answer and thought tokens, in 32-bit
arithmetic. -/
def UsageMetadata.toUsage (m : UsageMetadata) : Usage :=
  { inputTokens := m.prompt, outputTokens := m.candidates + m.thoughts,
    cacheReadTokens := m.cached }

/-- The stop reason of a finish reason; `STOP` becomes a tool stop later when the turn made
calls. -/
def stopReasonOf : String → StopReason
  | "STOP" => .endTurn
  | "MAX_TOKENS" => .maxTokens
  | _ => .other

/-! ## Folding chunks -/

/-- Fold one part in: its text (as thinking when marked as a thought), then its call, which
takes the next index and, lacking an id, a minted one. -/
def applyPart (acc : List StreamEvent × MessageBuilder) (p : Part) : List StreamEvent × MessageBuilder :=
  let (evs, b) := acc
  let (e1, b) := match p.text with
    | some t => if p.thought == some true then b.pushThinking t else b.pushText t
    | none => (none, b)
  let evs := evs ++ e1.toList
  match p.call with
  | some c =>
    let index := b.tools.nextIndex
    let id := match c.id with
      | some i => if i.isEmpty then ToolCalls.mintedId index else i
      | none => ToolCalls.mintedId index
    let args := match c.args with
      | .null => none
      | a => some a.sorted.render
    let (more, b) := b.applyTool index (some id) (some c.name) args
    (evs ++ more, b)
  | none => (evs, b)

/-- Fold one candidate in; the flag says whether a finish reason was seen. -/
def applyCandidate (acc : List StreamEvent × MessageBuilder × Bool) (c : Candidate) :
    List StreamEvent × MessageBuilder × Bool :=
  let (evs, b, finished) := acc
  let (evs, b) := c.parts.foldl applyPart (evs, b)
  match c.finishReason with
  | some r =>
    let stop := stopReasonOf r
    (evs ++ [.messageDelta (some stop) none], b.setStopReason stop, true)
  | none => (evs, b, finished)

/-- Fold a read chunk in: an error fails; usage comes first, then the model version, then the
candidates. -/
def applyChunk (b : MessageBuilder) (c : Chunk) : Step × MessageBuilder :=
  match c.error with
  | some (code, message) =>
    let text := match code with
      | some k => toString k ++ ": " ++ message
      | none => message
    (⟨[], .failed (.provider text)⟩, b)
  | none =>
    let (evs, b) := match c.usage with
      | some m => ([StreamEvent.messageDelta none (some m.toUsage)], b.setUsage m.toUsage)
      | none => ([], b)
    let b := match c.modelVersion with | some v => b.setModel v | none => b
    let (evs, b, finished) := c.candidates.foldl applyCandidate (evs, b, false)
    (⟨evs, if finished then .done else .continue⟩, b)

def process (b : MessageBuilder) (object : ByteArray) : Step × MessageBuilder :=
  match Json.parseBytes object with
  | .error _ => (⟨[], .continue⟩, b)
  | .ok j =>
    match chunkDecoder j with
    | .error _ => (⟨[], .continue⟩, b)
    | .ok c => applyChunk b c

/-- The processor of generate-content chunks. -/
def processor : Processor MessageBuilder ByteArray where
  process := process
  finish := MessageBuilder.finish

end ChatStream.Vendor.Vertex
