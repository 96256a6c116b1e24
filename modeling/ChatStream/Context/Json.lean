import ChatStream.Context.Basic
import ChatStream.Json.Decode

/-! # Contexts as JSON

The stored form of a context, as callers send it. Reading requires `messages`, and in each
message `role` and `content`; images, tool calls, tool results and tools may be left out, and so
may the system prompt and the caching hint (`none`). Members the reader does not know are
skipped.

Writing leaves out an absent system prompt and every empty list of images, tool calls, tool
results or tools; the caching hint and each result's error flag are always written.
-/

namespace ChatStream

namespace ImageData

def decoder : Decoder ImageData := fun j => do
  let rules := [FieldRule.need "mime_type" Decoder.string, .need "data" Decoder.string]
  let fs ← Decoder.record "struct ImageData" rules j
  pure ⟨Decoder.member fs "mime_type" Decoder.string "", Decoder.member fs "data" Decoder.string ""⟩

def toJson (i : ImageData) : Json := .obj [("mime_type", .str i.mimeType), ("data", .str i.data)]

end ImageData

namespace ToolUseRecord

def decoder : Decoder ToolUseRecord := fun j => do
  let rules := [FieldRule.need "id" Decoder.string, .need "name" Decoder.string,
    .need "input_json" Decoder.string]
  let fs ← Decoder.record "struct ToolUseRecord" rules j
  pure ⟨Decoder.member fs "id" Decoder.string "", Decoder.member fs "name" Decoder.string "",
    Decoder.member fs "input_json" Decoder.string ""⟩

def toJson (t : ToolUseRecord) : Json :=
  .obj [("id", .str t.id), ("name", .str t.name), ("input_json", .str t.inputJson)]

end ToolUseRecord

namespace ToolResultRecord

def decoder : Decoder ToolResultRecord := fun j => do
  let images := Decoder.list ImageData.decoder
  let rules := [FieldRule.need "tool_use_id" Decoder.string, .need "tool_name" Decoder.string,
    .need "content" Decoder.string, .may "images" images, .may "is_error" Decoder.bool]
  let fs ← Decoder.record "struct ToolResultRecord" rules j
  pure { toolUseId := Decoder.member fs "tool_use_id" Decoder.string ""
         toolName := Decoder.member fs "tool_name" Decoder.string ""
         content := Decoder.member fs "content" Decoder.string ""
         images := Decoder.member fs "images" images []
         isError := Decoder.member fs "is_error" Decoder.bool false }

def toJson (r : ToolResultRecord) : Json :=
  .obj ([("tool_use_id", .str r.toolUseId), ("tool_name", .str r.toolName),
    ("content", .str r.content)] ++
    (if r.images.isEmpty then [] else [("images", .arr (r.images.map ImageData.toJson))]) ++
    [("is_error", .bool r.isError)])

end ToolResultRecord

namespace Role

def decoder : Decoder Role := Decoder.variant [("user", .user), ("assistant", .assistant)]

def name : Role → String
  | .user => "user"
  | .assistant => "assistant"

end Role

namespace ConversationMessage

def decoder : Decoder ConversationMessage := fun j => do
  let images := Decoder.list ImageData.decoder
  let uses := Decoder.list ToolUseRecord.decoder
  let results := Decoder.list ToolResultRecord.decoder
  let rules := [FieldRule.need "role" Role.decoder, .need "content" Decoder.string,
    .may "images" images, .may "tool_uses" uses, .may "tool_results" results]
  let fs ← Decoder.record "struct ConversationMessage" rules j
  pure { role := Decoder.member fs "role" Role.decoder .user
         content := Decoder.member fs "content" Decoder.string ""
         images := Decoder.member fs "images" images []
         toolUses := Decoder.member fs "tool_uses" uses []
         toolResults := Decoder.member fs "tool_results" results [] }

def toJson (m : ConversationMessage) : Json :=
  .obj ([("role", .str m.role.name), ("content", .str m.content)] ++
    (if m.images.isEmpty then [] else [("images", .arr (m.images.map ImageData.toJson))]) ++
    (if m.toolUses.isEmpty then [] else [("tool_uses", .arr (m.toolUses.map ToolUseRecord.toJson))]) ++
    (if m.toolResults.isEmpty then []
     else [("tool_results", .arr (m.toolResults.map ToolResultRecord.toJson))]))

end ConversationMessage

namespace ToolDefinition

def decoder : Decoder ToolDefinition := fun j => do
  let rules := [FieldRule.need "name" Decoder.string, .need "description" Decoder.string,
    .need "input_schema" Decoder.any]
  let fs ← Decoder.record "struct ToolDefinition" rules j
  pure ⟨Decoder.member fs "name" Decoder.string "", Decoder.member fs "description" Decoder.string "",
    Decoder.member fs "input_schema" Decoder.any .null⟩

def toJson (t : ToolDefinition) : Json :=
  .obj [("name", .str t.name), ("description", .str t.description), ("input_schema", t.inputSchema)]

end ToolDefinition

namespace CacheHint

def decoder : Decoder CacheHint := Decoder.variant [("none", .none), ("ephemeral", .ephemeral)]

def name : CacheHint → String
  | .none => "none"
  | .ephemeral => "ephemeral"

end CacheHint

namespace Context

def decoder : Decoder Context := fun j => do
  let msgs := Decoder.list ConversationMessage.decoder
  let tools := Decoder.list ToolDefinition.decoder
  let prompt := Decoder.option Decoder.string
  let rules := [FieldRule.may "system_prompt" prompt, .need "messages" msgs, .may "tools" tools,
    .may "cache_hint" CacheHint.decoder]
  let fs ← Decoder.record "struct Context" rules j
  pure { systemPrompt := Decoder.member fs "system_prompt" prompt Option.none
         messages := Decoder.member fs "messages" msgs []
         tools := Decoder.member fs "tools" tools []
         cacheHint := Decoder.member fs "cache_hint" CacheHint.decoder .none }

def toJson (c : Context) : Json :=
  .obj ((match c.systemPrompt with | some p => [("system_prompt", .str p)] | Option.none => []) ++
    [("messages", .arr (c.messages.map ConversationMessage.toJson))] ++
    (if c.tools.isEmpty then [] else [("tools", .arr (c.tools.map ToolDefinition.toJson))]) ++
    [("cache_hint", .str c.cacheHint.name)])

end Context

end ChatStream
