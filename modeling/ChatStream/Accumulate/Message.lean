import ChatStream.Accumulate.ToolCalls

/-! # Building the assistant message from a stream

A `MessageBuilder` folds the pieces of one streamed answer into the final message, and says
which events each piece causes.

* Text extends the open text block, the latest text block since the last tool call, or opens a
  new one; thinking likewise. Empty pieces are ignored.
* The first fragment of a tool call fixes where the call sits among the blocks.
* `finish` puts the tool calls in their places, emits `contentDone` for every text block and
  `toolUseDone` for every call (nothing for thinking), and ends with `messageDone`. A turn that
  made tool calls and reports no stop reason, or `end_turn`, ends with `tool_use`.
-/

namespace ChatStream

/-- A place in the final content: a block, or the tool call that will fill it. -/
inductive Slot where
  | block (b : ContentBlock)
  | tool (index : Nat)
  deriving Repr, DecidableEq, Inhabited

/-- The two kinds of streamed prose. -/
inductive Piece where
  | text
  | thinking
  deriving DecidableEq, Repr

/-- The block that holds prose of a kind. -/
def Piece.block : Piece → String → ContentBlock
  | .text, s => .text s
  | .thinking, s => .thinking s

/-- The event that streams a piece of prose of a kind. -/
def Piece.delta : Piece → String → StreamEvent
  | .text, t => .contentDelta t
  | .thinking, t => .thinkingDelta t

/-- The prose of a kind that a block holds. -/
def ContentBlock.prose (k : Piece) : ContentBlock → Option String
  | .text s => if k = .text then some s else none
  | .thinking s => if k = .thinking then some s else none
  | .toolUse .. => none

namespace Slot

/-- Extend the open block of a kind with `t`: the latest block of that kind since the last tool
call; `none` when there is none. The slots are latest first. -/
def extendProse (k : Piece) (t : String) : List Slot → Option (List Slot)
  | [] => none
  | .tool _ :: _ => none
  | .block b :: rest =>
    match b.prose k with
    | some s => some (.block (k.block (s ++ t)) :: rest)
    | none => (extendProse k t rest).map (.block b :: ·)

end Slot

/-- The state of one streamed answer being folded. -/
structure MessageBuilder where
  message : AssistantMessage
  /-- The places of the final content, latest first. -/
  slotsRev : List Slot := []
  tools : ToolCalls := {}
  stopReason : Option StopReason := none
  deriving Repr, Inhabited

namespace MessageBuilder

def new (api model : String) : MessageBuilder := { message := AssistantMessage.new api model }

/-- Add prose of a kind: it extends the open block of that kind, or opens a new one, and is
streamed as it comes. Empty prose is ignored. -/
def pushProse (b : MessageBuilder) (k : Piece) (t : String) : Option StreamEvent × MessageBuilder :=
  if t.isEmpty then (none, b)
  else
    let slots := (Slot.extendProse k t b.slotsRev).getD (.block (k.block t) :: b.slotsRev)
    (some (k.delta t), { b with slotsRev := slots })

def pushText (b : MessageBuilder) (t : String) : Option StreamEvent × MessageBuilder :=
  b.pushProse .text t

def pushThinking (b : MessageBuilder) (t : String) : Option StreamEvent × MessageBuilder :=
  b.pushProse .thinking t

/-- Fold a tool-call fragment in; a new index takes the next place. -/
def applyTool (b : MessageBuilder) (index : Nat) (id name args : Option String) :
    List StreamEvent × MessageBuilder :=
  let slots := if b.tools.contains index then b.slotsRev else .tool index :: b.slotsRev
  let (events, tools) := b.tools.apply index id name args
  (events, { b with slotsRev := slots, tools })

def usage (b : MessageBuilder) : Usage := b.message.usage

def setUsage (b : MessageBuilder) (u : Usage) : MessageBuilder :=
  { b with message := { b.message with usage := u } }

def modifyUsage (b : MessageBuilder) (f : Usage → Usage) : MessageBuilder :=
  b.setUsage (f b.usage)

/-- Take the model name the vendor reports, unless it is empty. -/
def setModel (b : MessageBuilder) (model : String) : MessageBuilder :=
  if model.isEmpty then b else { b with message := { b.message with model } }

def setStopReason (b : MessageBuilder) (r : StopReason) : MessageBuilder :=
  { b with stopReason := some r }

/-- The stop reason a finished message carries. -/
def finalStopReason (reported : Option StopReason) (hadTools : Bool) : StopReason :=
  match reported with
  | some .endTurn => if hadTools then .toolUse else .endTurn
  | none => if hadTools then .toolUse else .endTurn
  | some r => r

/-- The event that announces a finished block, if any. -/
def doneEvent : ContentBlock → Option StreamEvent
  | .text t => some (.contentDone t)
  | .toolUse i n j => some (.toolUseDone i n j)
  | .thinking _ => none

/-- The finished message and the closing events. -/
def finish (b : MessageBuilder) : AssistantMessage × List StreamEvent :=
  let blocks := b.tools.finalize
  let content := b.slotsRev.reverse.filterMap fun
    | .block blk => some blk
    | .tool k => (blocks.find? (·.1 == k)).map (·.2)
  let stop := finalStopReason b.stopReason (!b.tools.isEmpty)
  let msg := { b.message with content := content, stopReason := stop }
  (msg, content.filterMap doneEvent ++ [.messageDone stop msg.usage])

end MessageBuilder

end ChatStream
