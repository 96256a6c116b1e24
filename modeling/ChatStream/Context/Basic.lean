import ChatStream.Json.Parse

/-! # Conversation context

What a request is built from: an optional system prompt, the conversation so far, the tools the
model may call, and a caching hint. User messages may carry images and the results of tool
calls; assistant messages may carry the tool calls they made.

`Context.lastUserIndex` finds the latest plain user turn, the one a caching hint marks; a user
message that carries tool results is not a plain turn.
-/

namespace ChatStream

/-- An image, its bytes already in base64. -/
structure ImageData where
  mimeType : String
  data : String
  deriving Repr, DecidableEq, Inhabited

def ImageData.dataUrl (i : ImageData) : String := s!"data:{i.mimeType};base64,{i.data}"

/-- A tool call made by the assistant. -/
structure ToolUseRecord where
  id : String
  name : String
  inputJson : String
  deriving Repr, DecidableEq, Inhabited

/-- The tool call's input as JSON; input that does not read as JSON counts as `{}`. -/
def ToolUseRecord.inputValue (t : ToolUseRecord) : Json :=
  match Json.parse t.inputJson with
  | .ok v => v.sorted
  | .error _ => .obj []

/-- The outcome of a tool call, sent back on the next turn. -/
structure ToolResultRecord where
  toolUseId : String
  /-- The tool's name; some vendors match results to calls by name. -/
  toolName : String
  content : String
  images : List ImageData := []
  isError : Bool := false
  deriving Repr, DecidableEq, Inhabited

inductive Role where
  | user
  | assistant
  deriving Repr, DecidableEq, Inhabited

structure ConversationMessage where
  role : Role
  content : String
  images : List ImageData := []
  toolUses : List ToolUseRecord := []
  toolResults : List ToolResultRecord := []
  deriving Repr, DecidableEq, Inhabited

/-- A plain user message with some text. -/
def ConversationMessage.user (content : String) : ConversationMessage := { role := .user, content }

/-- A user message that starts a turn, as opposed to one carrying tool results. -/
def ConversationMessage.isPlainUser (m : ConversationMessage) : Bool :=
  m.role == .user && m.toolResults.isEmpty

/-- A tool the model may call, with the JSON schema of its input. -/
structure ToolDefinition where
  name : String
  description : String
  inputSchema : Json
  deriving Repr, Inhabited

/-- Whether the system prompt and the latest user turn should be marked cacheable. -/
inductive CacheHint where
  | none
  | ephemeral
  deriving Repr, DecidableEq, Inhabited

/-- Everything a request is built from. -/
structure Context where
  systemPrompt : Option String := Option.none
  messages : List ConversationMessage := []
  tools : List ToolDefinition := []
  cacheHint : CacheHint := .none
  deriving Repr, Inhabited

/-- The position of the latest plain user message. -/
def Context.lastUserIndex (c : Context) : Option Nat :=
  (c.messages.zipIdx.reverse.find? (·.1.isPlainUser)).map (·.2)

/-- Every image of the conversation as a data URL: per message, its own images, then those of
its tool results. -/
def Context.dataUrls (c : Context) : List String :=
  c.messages.flatMap fun m =>
    m.images.map ImageData.dataUrl ++ m.toolResults.flatMap fun r => r.images.map ImageData.dataUrl

end ChatStream
