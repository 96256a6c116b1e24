import ChatStream.Provider.Drive
import ChatStream.Accumulate.Message

/-! # Scripted responses

A mock provider replays a script of responses through the same builder and read loop as the
network adapters, so a consumer sees exactly what an adapter would give it. Each response is
one chunk: text, thinking, a whole tool call in argument fragments, usage, a stop reason, a
provider error, or a pause that yields nothing. A stop reason ends the turn; an error fails it.

The fixtures build common scripts, e.g. `echo`, which answers a prompt with itself, one piece per
space-terminated word, and counts the pieces as tokens.
-/

namespace ChatStream

inductive MockResponse where
  | thinking (content : String)
  | text (content : String)
  /-- A tool call whose arguments arrive in the given fragments. -/
  | toolCall (id name : String) (fragments : List String)
  | usage (input output : UInt32)
  | stop (reason : StopReason)
  | error (message : String)
  /-- Wait this many milliseconds; yields nothing. -/
  | delay (ms : Nat)
  deriving Repr, DecidableEq, Inhabited

/-- A script: the responses, and a pause before each of them. -/
structure MockScript where
  responses : List MockResponse := []
  chunkDelayMs : Option Nat := none
  deriving Repr, Inhabited

def mockApi : String := "mock"

namespace MockResponse

def process (b : MessageBuilder) : MockResponse → Step × MessageBuilder
  | .thinking t => let (e, b) := b.pushThinking t; (⟨e.toList, .continue⟩, b)
  | .text t => let (e, b) := b.pushText t; (⟨e.toList, .continue⟩, b)
  | .toolCall id name fragments =>
    let index := b.tools.nextIndex
    let (evs, b) := b.applyTool index (some id) (some name) none
    let (evs, b) := fragments.foldl (fun (acc, b) f =>
      let (more, b) := b.applyTool index none none (some f)
      (acc ++ more, b)) (evs, b)
    (⟨evs, .continue⟩, b)
  | .usage i o =>
    let u := Usage.new i o
    (⟨[.messageDelta none (some u)], .continue⟩, b.setUsage u)
  | .stop r => (⟨[.messageDelta (some r) none], .done⟩, b.setStopReason r)
  | .error m => (⟨[], .failed (.provider m)⟩, b)
  | .delay _ => (⟨[], .continue⟩, b)

/-- The responses that become chunks: pauses yield nothing. -/
def isChunk : MockResponse → Bool
  | .delay _ => false
  | _ => true

end MockResponse

def mockProcessor : Processor MessageBuilder MockResponse where
  process := MockResponse.process
  finish := MessageBuilder.finish

/-- What a consumer reading to the end sees of a scripted stream for a model: the start of the
message, then the script read through the loop. -/
def MockScript.transcript (s : MockScript) (model : String) (cancelled : Bool) : Transcript :=
  let items := (s.responses.filter MockResponse.isChunk).map SourceItem.chunk
  (mockProcessor.drive cancelled (MessageBuilder.new mockApi model) items).after [.messageStart model]

namespace MockScript

def streamingText (chunks : List String) : MockScript := { responses := chunks.map .text }

def thinkingThenText (thinking text : String) : MockScript :=
  { responses := [.thinking thinking, .text text] }

/-- An explanation, then one tool call in fragments, ending the turn for the tool. -/
def toolCall (explanation name : String) (fragments : List String) : MockScript :=
  { responses := [.text explanation, .toolCall "call_mock_1" name fragments, .stop .toolUse] }

/-- Cut characters after every `c`: the pieces, each ending in `c` except perhaps the last, and
none empty. A character other than `c` joins the piece that follows it. -/
def splitInclusive (c : Char) : List Char → List (List Char)
  | [] => []
  | x :: rest =>
    if x = c then [x] :: splitInclusive c rest
    else
      match splitInclusive c rest with
      | [] => [[x]]
      | p :: ps => (x :: p) :: ps

/-- Cut a text after every space: the pieces, each ending in a space except perhaps the last. -/
def splitAfterSpaces (s : String) : List String := (splitInclusive ' ' s.toList).map String.ofList

/-- A count, capped at the largest 32-bit value. -/
def saturate (n : Nat) : UInt32 := (min n (Nat.pow 2 32 - 1)).toUInt32

/-- Answer a prompt with itself, one piece per word, counting the pieces as tokens. -/
def echo (prompt : String) : MockScript :=
  let words := splitAfterSpaces prompt
  let n := saturate words.length
  { responses := words.map .text ++ [.usage n n, .stop .endTurn] }

def errorMidStream (text error : String) : MockScript :=
  { responses := [.text text, .error error] }

end MockScript

end ChatStream
