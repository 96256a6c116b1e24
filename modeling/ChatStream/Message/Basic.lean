/-! # Assistant messages and stream events

A model's answer arrives as a stream of events and is folded into one assistant message: a list
of content blocks (text, thinking, tool calls), the reason the turn ended, and token counts.

`StreamError` says why a stream failed; its `message` is the one-line text shown to users.
Token counts are 32-bit, as the vendors report them.
-/

namespace ChatStream

inductive StopReason where
  | endTurn
  | maxTokens
  | toolUse
  | other
  deriving Repr, DecidableEq, Inhabited

/-- The wire name of a stop reason, also its display text. -/
def StopReason.name : StopReason → String
  | .endTurn => "end_turn"
  | .maxTokens => "max_tokens"
  | .toolUse => "tool_use"
  | .other => "other"

/-- Every stop reason with its name, in declaration order. -/
def StopReason.all : List (String × StopReason) :=
  [("end_turn", .endTurn), ("max_tokens", .maxTokens), ("tool_use", .toolUse), ("other", .other)]

structure Usage where
  inputTokens : UInt32 := 0
  outputTokens : UInt32 := 0
  cacheReadTokens : UInt32 := 0
  cacheWriteTokens : UInt32 := 0
  deriving Repr, DecidableEq, Inhabited

/-- Usage with the two main counts and no cache counts. -/
def Usage.new (input output : UInt32) : Usage := { inputTokens := input, outputTokens := output }

def Usage.isEmpty (u : Usage) : Bool := u == {}

inductive StreamError where
  /-- The vendor answered with a status that is not a success. -/
  | http (status : Nat) (body : String)
  /-- Connecting, a timeout, or a body broken off mid-stream. -/
  | transport (detail : String)
  /-- The stream's framing was unusable. -/
  | decode (detail : String)
  /-- The vendor reported an error inside a healthy stream. -/
  | provider (detail : String)
  /-- The caller cancelled the request. -/
  | cancelled
  deriving Repr, DecidableEq, Inhabited

/-- The one-line text of a stream error. -/
def StreamError.message : StreamError → String
  | .http status body => s!"HTTP {status}: {body}"
  | .transport d => s!"transport error: {d}"
  | .decode d => s!"decode error: {d}"
  | .provider d => s!"provider error: {d}"
  | .cancelled => "request cancelled"

/-- One block of a finished assistant message. -/
inductive ContentBlock where
  | text (text : String)
  | thinking (thinking : String)
  | toolUse (id name inputJson : String)
  deriving Repr, DecidableEq, Inhabited

/-- The folded result of one streaming call. -/
structure AssistantMessage where
  content : List ContentBlock := []
  stopReason : StopReason := .endTurn
  usage : Usage := {}
  model : String := ""
  api : String := ""
  deriving Repr, DecidableEq, Inhabited

namespace AssistantMessage

/-- A message with nothing in it yet, for an API and model. -/
def new (api model : String) : AssistantMessage := { api, model }

def text (m : AssistantMessage) : String :=
  String.join (m.content.filterMap fun | .text t => some t | _ => none)

/-- The tool calls, as `(id, name, input)`. -/
def toolUses (m : AssistantMessage) : List (String × String × String) :=
  m.content.filterMap fun | .toolUse i n j => some (i, n, j) | _ => none

def isEmpty (m : AssistantMessage) : Bool := m.content.isEmpty && m.usage.isEmpty

end AssistantMessage

inductive StreamEvent where
  | messageStart (model : String)
  /-- A piece of response text. -/
  | contentDelta (text : String)
  /-- The whole text of a finished text block. -/
  | contentDone (text : String)
  /-- A piece of the model's reasoning. -/
  | thinkingDelta (text : String)
  | toolUseStart (index : Nat) (id name : String)
  /-- A piece of a tool call's input; the pieces concatenate in order. -/
  | toolUseDelta (index : Nat) (partialJson : String)
  | toolUseDone (id name inputJson : String)
  | messageDelta (stopReason : Option StopReason) (usage : Option Usage)
  | messageDone (stopReason : StopReason) (usage : Usage)
  | ping
  | error (error : StreamError)
  deriving Repr, DecidableEq, Inhabited

/-- Whether an event ends a stream: the final `messageDone` or an `error`. -/
def StreamEvent.isTerminal : StreamEvent → Bool
  | .messageDone .. => true
  | .error _ => true
  | _ => false

end ChatStream
