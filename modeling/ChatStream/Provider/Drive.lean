import ChatStream.Message.Basic

/-! # The shared read loop

Every adapter reads its response the same way: each chunk goes through a processor, which
returns the events it causes and whether to go on, stop, or fail. The loop ends

* on a chunk after which the processor stops, or at the end of the input: the processor's
  closing events follow, and its message completes the stream;
* on a read failure or a processor failure: one `error` event, and the stream completes with
  an empty message;
* on cancellation, which is looked at before each wait for the source: one `error` event for
  the cancellation. A source that stays pending is waited on until the token fires.

The loop's `Signal`s are what it does to the stream: the events it sends and how it completes.
`Transcript` is what a consumer that reads to the end sees: the events in order and the final
message.
-/

namespace ChatStream

inductive Flow where
  | continue
  /-- A finish reason or terminator was seen: stop reading, even if more would come. -/
  | done
  | failed (error : StreamError)
  deriving Repr, DecidableEq

/-- The events a chunk causes, and what to do next. -/
structure Step where
  events : List StreamEvent
  flow : Flow
  deriving Repr

/-- A processor of chunks of type `α` with state `σ`. -/
structure Processor (σ α : Type) where
  process : σ → α → Step × σ
  /-- The closing events and the final message. -/
  finish : σ → AssistantMessage × List StreamEvent

/-- One item a chunk source yields: a chunk, or a failure to read. -/
inductive SourceItem (α : Type) where
  | chunk (c : α)
  | failure (e : StreamError)

/-- What a consumer reading to the end sees. -/
structure Transcript where
  events : List StreamEvent
  result : AssistantMessage
  deriving Repr, Inhabited

/-- A stream that failed: one error event and the empty message. -/
def Transcript.failure (e : StreamError) : Transcript := ⟨[.error e], {}⟩

/-- Put events in front of a transcript. -/
def Transcript.after (evs : List StreamEvent) (t : Transcript) : Transcript :=
  ⟨evs ++ t.events, t.result⟩

/-- What the loop does to the stream: send an event, complete it with a message, or complete it
with an error, which sends the `error` event and leaves the empty message. -/
inductive Signal where
  | send (e : StreamEvent)
  | finish (m : AssistantMessage)
  | finishWithError (e : StreamError)
  deriving Repr

/-- A chunk source as the loop meets it: the items it yields, whether it then ends or stays
pending for ever, and the wait (counting from 0) by which the cancel token has fired. -/
structure Source (α : Type) where
  items : List (SourceItem α)
  ends : Bool := true
  cancelAt : Option Nat := none

/-- The cancel token has fired by the `k`-th wait for the source. -/
def Source.cancelledBy {α : Type} (src : Source α) (k : Nat) : Bool :=
  match src.cancelAt with
  | some j => j ≤ k
  | none => false

namespace Processor

variable {σ α : Type} (p : Processor σ α)

/-- The processor's closing events, then completion with its message. -/
def close (s : σ) : List Signal :=
  let (m, evs) := p.finish s
  evs.map .send ++ [.finish m]

/-- The read loop from its `k`-th wait for the source. The cancel token is looked at first; a
source that stays pending is waited on until the token fires, for ever if it never does. -/
def loop (src : Source α) (k : Nat) (s : σ) (items : List (SourceItem α)) : List Signal :=
  if src.cancelledBy k then [.finishWithError .cancelled]
  else
    match items with
    | [] =>
      if src.ends then p.close s
      else if src.cancelAt.isSome then [.finishWithError .cancelled]
      else []
    | .failure e :: _ => [.finishWithError e]
    | .chunk c :: rest =>
      let (step, s') := p.process s c
      step.events.map .send ++
        match step.flow with
        | .continue => loop src (k + 1) s' rest
        | .done => p.close s'
        | .failed e => [.finishWithError e]

/-- What the loop does with a source, from the processor's state `s`. -/
def signals (src : Source α) (s : σ) : List Signal := p.loop src 0 s src.items

end Processor

/-- What a consumer reading to the end sees of what the loop did: the events sent, then the
error of a completion with an error; the message of the completion, the empty one after an
error. -/
def Transcript.ofSignals : List Signal → Transcript
  | [] => ⟨[], {}⟩
  | .send e :: rest => (ofSignals rest).after [e]
  | .finish m :: _ => ⟨[], m⟩
  | .finishWithError e :: _ => .failure e

/-- Read a whole source that ends through a processor, the cancel token having fired before the
first wait or never. -/
def Processor.drive {σ α : Type} (p : Processor σ α) (cancelled : Bool) (s : σ)
    (items : List (SourceItem α)) : Transcript :=
  .ofSignals (p.signals { items, cancelAt := if cancelled then some 0 else none } s)

end ChatStream
