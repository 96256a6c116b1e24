import ChatStream.Message.Basic
import ChatStream.Json.Decode

/-! # Messages as JSON

The stored form of an assistant message: an object with `content`, `stop_reason`, `usage`,
`model` and `api`; blocks tagged by `type`; stop reasons by their wire names; usage with all
four counts. Reading takes the two cache counts as optional and everything else as required.

A stream error is stored under the name of its kind: `{"Http":{"status":…,"body":…}}`,
`{"Transport":…}`, and the bare string `"Cancelled"`.
-/

namespace ChatStream

def Json.u32 (n : UInt32) : Json := .num (.uint n.toNat)

namespace StopReason

def toJson (r : StopReason) : Json := .str r.name

/-- Read a stop reason by its wire name. -/
def decoder : Decoder StopReason := Decoder.variant StopReason.all

end StopReason

namespace Usage

/-- The stored form, with all four counts. -/
def toJson (u : Usage) : Json :=
  .obj [("input_tokens", .u32 u.inputTokens), ("output_tokens", .u32 u.outputTokens),
    ("cache_read_tokens", .u32 u.cacheReadTokens), ("cache_write_tokens", .u32 u.cacheWriteTokens)]

/-- Read usage: the two main counts are required, the cache counts default to zero. -/
def decoder : Decoder Usage := fun j => do
  let fs ← Decoder.record "struct Usage"
    [.need "input_tokens" Decoder.u32, .need "output_tokens" Decoder.u32,
     .may "cache_read_tokens" Decoder.u32, .may "cache_write_tokens" Decoder.u32] j
  pure {
    inputTokens := Decoder.member fs "input_tokens" Decoder.u32 0
    outputTokens := Decoder.member fs "output_tokens" Decoder.u32 0
    cacheReadTokens := Decoder.member fs "cache_read_tokens" Decoder.u32 0
    cacheWriteTokens := Decoder.member fs "cache_write_tokens" Decoder.u32 0 }

end Usage

namespace ContentBlock

/-- The stored form, tagged by `type`. -/
def toJson : ContentBlock → Json
  | .text t => .obj [("type", .str "text"), ("text", .str t)]
  | .thinking t => .obj [("type", .str "thinking"), ("thinking", .str t)]
  | .toolUse i n j =>
    .obj [("type", .str "tool_use"), ("id", .str i), ("name", .str n), ("input_json", .str j)]

/-- The block kinds by tag, in declaration order. -/
def tags : List String := ["text", "thinking", "tool_use"]

/-- Read the tag of a block: the name of a kind, as a string. -/
def tagDecoder : Decoder Nat
  | .str s =>
    match tags.findIdx? (· == s) with
    | some k => .ok k
    | none => .error (.unknownVariant s tags)
  | j => .error (.invalidType j.unexpected "variant identifier")

/-- The members of the kind with tag `k`, in order, and what errors call the kind. -/
def members (k : Nat) : String × List FieldRule :=
  if k = 0 then ("struct variant ContentBlock::Text", [.need "text" Decoder.string])
  else if k = 1 then ("struct variant ContentBlock::Thinking", [.need "thinking" Decoder.string])
  else ("struct variant ContentBlock::ToolUse",
    [.need "id" Decoder.string, .need "name" Decoder.string, .need "input_json" Decoder.string])

/-- The block of kind `k` from its checked members. -/
def build (k : Nat) (m : List (String × Json)) : ContentBlock :=
  let get (name : String) := Decoder.member m name Decoder.string ""
  if k = 0 then .text (get "text")
  else if k = 1 then .thinking (get "thinking")
  else .toolUse (get "id") (get "name") (get "input_json")

/-- Elements beyond a kind's `n` members, when a block is an array: they are counted against
the members read. -/
def beyondMembers (n : Nat) (count : Nat) : DecodeError :=
  .invalidLength count (elementCount n ++ " in sequence")

/-- Read a block: the tag first, then the members of its kind. An object holds the tag under
`type`; an array holds the tag first and then the kind's members in order. -/
def decoder : Decoder ContentBlock
  | .obj fields =>
    let fs := sortFields fields
    match fs.find? (·.1 == "type") with
    | none => .error (.missingField "type")
    | some (_, tag) => do
      let k ← tagDecoder tag
      let (what, rules) := members k
      let m ← Decoder.record what rules (.obj (fs.filter (·.1 != "type")))
      pure (build k m)
  | .arr [] => .error (.missingField "type")
  | .arr (tag :: rest) => do
    let k ← tagDecoder tag
    let (what, rules) := members k
    let m ← Decoder.recordItems what rules (beyondMembers rules.length) rest
    pure (build k m)
  | j => .error (.invalidType j.unexpected "internally tagged enum ContentBlock")

end ContentBlock

namespace AssistantMessage

def toJson (m : AssistantMessage) : Json :=
  .obj [("content", .arr (m.content.map ContentBlock.toJson)), ("stop_reason", m.stopReason.toJson),
    ("usage", m.usage.toJson), ("model", .str m.model), ("api", .str m.api)]

/-- Read a message; every member is required. -/
def decoder : Decoder AssistantMessage := fun j => do
  let fs ← Decoder.record "struct AssistantMessage"
    [.need "content" (Decoder.list ContentBlock.decoder), .need "stop_reason" StopReason.decoder,
     .need "usage" Usage.decoder, .need "model" Decoder.string, .need "api" Decoder.string] j
  pure {
    content := Decoder.member fs "content" (Decoder.list ContentBlock.decoder) []
    stopReason := Decoder.member fs "stop_reason" StopReason.decoder .endTurn
    usage := Decoder.member fs "usage" Usage.decoder {}
    model := Decoder.member fs "model" Decoder.string ""
    api := Decoder.member fs "api" Decoder.string "" }

end AssistantMessage

/-- The stored form of a stream error, under the name of its kind. -/
def StreamError.toJson : StreamError → Json
  | .http status body => .obj [("Http", .obj [("status", .nat status), ("body", .str body)])]
  | .transport d => .obj [("Transport", .str d)]
  | .decode d => .obj [("Decode", .str d)]
  | .provider d => .obj [("Provider", .str d)]
  | .cancelled => .str "Cancelled"

end ChatStream
