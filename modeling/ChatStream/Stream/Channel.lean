import ChatStream.Message.Basic

/-! # The event channel between a producer and a consumer

A response stream is a bounded queue of events with a one-time completion. Producers hold
handles; each event they send waits for room in the queue. Completion stores the final message,
marks the stream done and closes the queue, in that order, so a consumer that has read every
event never waits for the result. Only the first completion counts: `finish` and
`finishWithError` report whether they were the one. When the last handle goes away without a
completion, the stream is completed with a provider error (if the queue has room for it) and an
empty message.

The model runs on one thread. The caller performs one operation at a time; producer tasks run
only while the caller waits, in the order they were woken, at most 61 between two looks at the
caller. Room in the queue goes to waiting senders oldest first. An operation that can never
finish is abandoned: a send it was waiting in gives its place up, and an abandoned collection
drops the stream.

Every time a party runs it gets a budget of 128 operations: each event sent or received, and
each send that finds the queue closed, costs one. A party out of budget gives way at its next
send or receive, as a pause does: it is woken again after the ready tasks have had their turn.
The caller's budget lasts over several operations until one of them has to wait.
-/

namespace ChatStream.Stream

/-- Who uses the channel: the caller, running one operation at a time, or a producer task. -/
inductive Party where
  | caller
  | task (id : Nat)
  deriving DecidableEq, Repr

/-- The bounded queue between producers and the consumer. Its slots are numbered as they are
written: the queue keeps every event written to it and the number of them the consumer took. -/
structure Queue where
  capacity : Nat
  /-- The events written to the queue, in order. -/
  log : List StreamEvent := []
  /-- How many of them the consumer took: the position of the next slot to read. -/
  taken : Nat := 0
  /-- Room not yet handed to a sender. -/
  room : Nat
  /-- Senders waiting for room, oldest first. -/
  waiting : List Party := []
  /-- Senders handed room that have not used it yet. -/
  granted : List Party := []
  receiverOpen : Bool := true
  /-- References to the sending side: the stored one and one per send in progress. -/
  senderRefs : Nat := 1
  /-- The consumer is waiting for an event or for the queue to close. -/
  consumerWaits : Bool := false
  deriving Repr

/-- The events waiting in the queue, oldest first. -/
def Queue.events (q : Queue) : List StreamEvent := q.log.drop q.taken

/-- The one-time completion shared by all handles. -/
structure Completion where
  claimed : Bool := false
  done : Bool := false
  result : Option AssistantMessage := none
  /-- The stored reference to the sending side is still there. -/
  stored : Bool := true
  /-- Live producer handles. -/
  handles : Nat := 1
  deriving Repr

/-- How far a send has come: not started, or holding a reference and waiting for room. -/
inductive SendPhase where
  | fresh
  | holding
  deriving DecidableEq, Repr

/-- A producer task: the events it still has to send, and the message it finishes with. -/
structure Producer where
  events : List StreamEvent
  finish : Option AssistantMessage
  phase : SendPhase := .fresh
  deriving Repr

/-- Everything the channel and its users hold. -/
structure World where
  queue : Queue
  completion : Completion := {}
  /-- Events the consumer took off the queue while waiting for the result; `none` once the
  stream is gone. -/
  backlog : Option (List StreamEvent) := some []
  /-- The caller's handles by number; `false` once dropped or moved into a task. -/
  handles : Array Bool := #[true]
  /-- Producer tasks by number; `none` once finished. -/
  producers : Array (Option Producer) := #[]
  /-- Tasks ready to run, in the order they were woken. -/
  runQueue : List Nat := []
  callerWoken : Bool := false
  /-- What is left of the running party's budget of operations. -/
  budget : Nat := 128
  /-- Parties that gave way, to be woken once the ready tasks have had their turn. -/
  deferred : List Party := []
  deriving Repr

/-- A fresh channel; a capacity of zero counts as one. -/
def World.new (capacity : Nat) : World :=
  { queue := { capacity := max capacity 1, room := max capacity 1 } }

/-- The budget of operations a party gets each time it runs. -/
def budgetPerRun : Nat := 128

namespace World

def wake (w : World) : Party → World
  | .caller => { w with callerWoken := true }
  | .task i => if w.runQueue.contains i then w else { w with runQueue := w.runQueue ++ [i] }

/-- A party gives way: it is woken again once the ready tasks have had their turn. -/
def defer (w : World) (p : Party) : World :=
  if w.deferred.getLast? == some p then w else { w with deferred := w.deferred ++ [p] }

/-- Wake the parties that gave way, the last one to give way first: the runtime keeps them on a
stack. -/
def wakeDeferred (w : World) : World :=
  w.deferred.foldr (fun p w => w.wake p) { w with deferred := [] }

/-- Spend one unit of the running party's budget. -/
def spend (w : World) : World := { w with budget := w.budget - 1 }

/-- Tell a waiting consumer that something changed. -/
def wakeConsumer (w : World) : World :=
  if w.queue.consumerWaits then { w with queue := { w.queue with consumerWaits := false } }.wake .caller
  else w

/-- Give one unit of room back: to the oldest waiting sender, or to the queue. -/
def releaseRoom (w : World) : World :=
  match w.queue.waiting with
  | p :: rest => { w with queue := { w.queue with waiting := rest, granted := w.queue.granted ++ [p] } }.wake p
  | [] => { w with queue := { w.queue with room := w.queue.room + 1 } }

/-- Drop a reference to the sending side; the last one closes the queue for the consumer. -/
def dropRef (w : World) : World :=
  let w := { w with queue := { w.queue with senderRefs := w.queue.senderRefs - 1 } }
  if w.queue.senderRefs = 0 then w.wakeConsumer else w

def enqueue (w : World) (e : StreamEvent) : World :=
  { w with queue := { w.queue with log := w.queue.log ++ [e] } }.wakeConsumer

/-- A sender stops waiting: its place in line is given up, and room it was handed goes back. -/
def leaveLine (w : World) (p : Party) : World :=
  let w := { w with queue := { w.queue with waiting := w.queue.waiting.filter (· != p) } }
  if w.queue.granted.contains p then
    { w with queue := { w.queue with granted := w.queue.granted.filter (· != p) } }.releaseRoom
  else w

/-- The producer tasks waiting in a send, which the completion wakes. -/
def holdingTasks (w : World) : List Nat :=
  (List.range w.producers.size).filter fun i =>
    match w.producers[i]? with
    | some (some p) => p.phase == .holding
    | _ => false

/-- Complete the stream: store the message, mark it done, drop the stored reference. -/
def complete (w : World) (m : AssistantMessage) : World :=
  let c := w.completion
  let w := { w with completion := { c with result := some (c.result.getD m), done := true } }
  let w := w.holdingTasks.foldl (fun w i => w.wake (.task i)) (w.wake .caller)
  if w.completion.stored then { w with completion := { w.completion with stored := false } }.dropRef
  else w

/-- Claim the completion: `true` for the first claim only. -/
def claim (w : World) : Bool × World :=
  if w.completion.claimed then (false, w)
  else (true, { w with completion := { w.completion with claimed := true } })

/-- Complete with a message, if the completion is still unclaimed. -/
def finishWith (w : World) (m : AssistantMessage) : Bool × World :=
  let (won, w) := w.claim
  if won then (true, w.complete m) else (false, w)

/-- One look at a send by party `p` that holds a reference: `some ok` when it has finished. A
party out of budget gives way before anything else; taking room, or finding the queue closed,
costs one unit. -/
def pollHeld (w : World) (p : Party) (e : StreamEvent) : Option Bool × SendPhase × World :=
  if w.budget = 0 then (none, .holding, w.defer p)
  else if w.completion.done then (some false, .fresh, (w.leaveLine p).dropRef)
  else if !w.queue.receiverOpen then (some false, .fresh, (w.spend.leaveLine p).dropRef)
  else if w.queue.granted.contains p then
    let w := { w.spend with queue := { w.queue with granted := w.queue.granted.filter (· != p) } }
    (some true, .fresh, (w.enqueue e).dropRef)
  else if w.queue.waiting.contains p then (none, .holding, w)
  else if w.queue.room > 0 then
    let w := { w.spend with queue := { w.queue with room := w.queue.room - 1 } }
    (some true, .fresh, (w.enqueue e).dropRef)
  else (none, .holding, { w with queue := { w.queue with waiting := w.queue.waiting ++ [p] } })

/-- One look at a send by party `p`: `some ok` when it has finished. A fresh send gives up at
once when the stream is done; otherwise it takes a reference and tries for room. -/
def pollSend (w : World) (p : Party) (e : StreamEvent) : SendPhase → Option Bool × SendPhase × World
  | .fresh =>
    if w.completion.done ∨ !w.completion.stored then (some false, .fresh, w)
    else { w with queue := { w.queue with senderRefs := w.queue.senderRefs + 1 } }.pollHeld p e
  | .holding => w.pollHeld p e

/-- A handle goes away; the last one completes an unclaimed stream with an error. -/
def dropHandle (w : World) : World :=
  let last := w.completion.handles = 1
  let w := { w with completion := { w.completion with handles := w.completion.handles - 1 } }
  if !last then w
  else
    let (won, w) := w.claim
    if !won then w
    else
      let lost := StreamEvent.error (.provider "stream producer exited without finishing")
      let w := if w.completion.stored ∧ w.queue.receiverOpen ∧ w.queue.room > 0 then
        { w with queue := { w.queue with room := w.queue.room - 1 } }.enqueue lost
      else w
      w.complete {}

/-- The consumer takes the next queued event: `some (some e)`, `some none` once the queue is
closed and empty, `none` when it has to wait. Either answer costs one unit of budget; out of
budget, the consumer gives way. -/
def receive (w : World) : Option (Option StreamEvent) × World :=
  if w.budget = 0 then (none, w.defer .caller)
  else
    match w.queue.events with
    | e :: _ =>
      (some (some e), { w.spend with queue := { w.queue with taken := w.queue.taken + 1 } }.releaseRoom)
    | [] =>
      if w.queue.senderRefs = 0 then (some none, w.spend)
      else (none, { w with queue := { w.queue with consumerWaits := true } })

/-- The consumer goes away: waiting senders are turned back and queued events dropped. -/
def dropReceiver (w : World) : World :=
  let waiters := w.queue.waiting
  let w := { w with queue := { w.queue with receiverOpen := false, waiting := [],
                                             taken := w.queue.log.length },
                    backlog := none }
  waiters.foldl (fun w p => w.wake p) w

/-- Run a producer task until it waits or ends. -/
def runProducer (w : World) (i : Nat) (p : Producer) : Option Producer × World :=
  match _h : p.events with
  | e :: rest =>
    match w.pollSend (.task i) e p.phase with
    | (some _, _, w) => w.runProducer i { p with events := rest, phase := .fresh }
    | (none, ph, w) => (some { p with phase := ph }, w)
  | [] =>
    let w := match p.finish with
      | some m => (w.finishWith m).2
      | none => w
    (none, w.dropHandle)
termination_by p.events.length
decreasing_by simp_all

/-- Run the next ready task; `false` when none is ready. -/
def runNext (w : World) : Bool × World :=
  match w.runQueue with
  | [] => (false, w)
  | i :: rest =>
    let w := { w with runQueue := rest, budget := budgetPerRun }
    match w.producers[i]? with
    | some (some p) =>
      let (p', w) := w.runProducer i p
      (true, { w with producers := w.producers.set! i p' })
    | _ => (true, w)

/-- Run up to `n` ready tasks; `true` if the ready list ran empty. -/
def runBatch (w : World) : Nat → Bool × World
  | 0 => (w.runQueue.isEmpty, w)
  | n + 1 =>
    match w.runNext with
    | (false, w) => (true, w)
    | (true, w) => w.runBatch n

end World

/-- An operation of the caller, as far as it has come. -/
inductive Activity where
  | send (e : StreamEvent) (phase : SendPhase)
  /-- The completion is claimed; the error event is being sent. -/
  | finishWithError (e : StreamError) (phase : SendPhase)
  | nextEvent
  | result
  | collect
  /-- Letting the producer tasks run; `true` once they have had their turn. -/
  | pause (resumed : Bool)
  deriving Repr

/-- What a finished operation of the caller gives. -/
inductive Reply where
  | sent (ok : Bool)
  | won (ok : Bool)
  | event (e : Option StreamEvent)
  | message (m : AssistantMessage)
  | unit
  /-- The call needs a handle that is gone, or a stream that was dropped. -/
  | refused
  deriving Repr, DecidableEq

namespace World

/-- The consumer waits for completion, moving queued events to the backlog meanwhile. -/
def awaitResult (w : World) : Nat → Option AssistantMessage × World
  | 0 => (none, w)
  | fuel + 1 =>
    if w.completion.done then (some (w.completion.result.getD {}), w)
    else if w.budget = 0 then (none, w.defer .caller)
    else
      match w.receive with
      | (some (some e), w) => { w with backlog := w.backlog.map (· ++ [e]) }.awaitResult fuel
      | (some none, w) => if w.completion.done then (some (w.completion.result.getD {}), w) else (none, w)
      | (none, w) => (none, w)

/-- The consumer's next event: from the backlog first, then from the queue. -/
def nextEvent (w : World) : Option (Option StreamEvent) × World :=
  match w.backlog with
  | some (e :: rest) => (some (some e), { w with backlog := some rest })
  | _ => w.receive

/-- The consumer discards every event, then takes the result. -/
def collect (w : World) : Nat → Option AssistantMessage × World
  | 0 => (none, w)
  | fuel + 1 =>
    match w.nextEvent with
    | (some (some _), w) => w.collect fuel
    | (some none, w) => w.awaitResult (w.queue.events.length + 1)
    | (none, w) => (none, w)

/-- One look at the caller's operation. -/
def pollActivity (w : World) : Activity → Option Reply × Activity × World
  | .send e ph =>
    match w.pollSend .caller e ph with
    | (some ok, ph, w) => (some (.sent ok), .send e ph, w)
    | (none, ph, w) => (none, .send e ph, w)
  | .finishWithError err ph =>
    match w.pollSend .caller (.error err) ph with
    | (some _, ph, w) => (some (.won true), .finishWithError err ph, w.complete {})
    | (none, ph, w) => (none, .finishWithError err ph, w)
  | .nextEvent =>
    match w.nextEvent with
    | (some e, w) => (some (.event e), .nextEvent, w)
    | (none, w) => (none, .nextEvent, w)
  | .result =>
    match w.awaitResult (w.queue.events.length + 1) with
    | (some m, w) => (some (.message m), .result, w)
    | (none, w) => (none, .result, w)
  | .collect =>
    let fuel := (w.backlog.getD []).length + w.queue.events.length + 1
    match w.collect fuel with
    | (some m, w) => (some (.message m), .collect, w.dropReceiver)
    | (none, w) => (none, .collect, w)
  | .pause resumed => if resumed then (some .unit, .pause true, w) else (none, .pause true, w.defer .caller)

/-- Abandon an operation that can never finish. -/
def abandon (w : World) : Activity → World
  | .send _ .holding => (w.leaveLine .caller).dropRef
  | .finishWithError _ .holding => (w.leaveLine .caller).dropRef
  | .collect => w.dropReceiver
  | _ => w

/-- How many times the caller is looked at before an operation is given up; every look
follows some progress of a task, and tasks have finitely many events. -/
def patience : Nat := 100000

/-- Perform one operation of the caller: its reply, or `none` when it waits forever. -/
def perform (w : World) (a : Activity) : Option Reply × World :=
  match { w with callerWoken := false }.pollActivity a with
  | (some r, _, w) => (some r, w)
  | (none, a, w) => go w a patience
where
  /-- Between looks at the caller, run the ready tasks. -/
  go (w : World) (a : Activity) : Nat → Option Reply × World
    | 0 => (none, w.abandon a)
    | fuel + 1 =>
      let w := (w.runBatch 61).2.wakeDeferred
      if w.callerWoken then
        match { w with callerWoken := false, budget := budgetPerRun }.pollActivity a with
        | (some r, _, w) => (some r, w)
        | (none, a, w) => go w a fuel
      else if w.runQueue.isEmpty then
        -- nothing can happen any more: one last look, then give up
        match { w with budget := budgetPerRun }.pollActivity a with
        | (some r, _, w) => (some r, w)
        | (none, a, w) => (none, w.abandon a)
      else go w a fuel

/-- Start a producer task with a handle moved into it. -/
def spawn (w : World) (events : List StreamEvent) (finish : Option AssistantMessage) : World :=
  let i := w.producers.size
  { w with producers := w.producers.push (some { events, finish }) }.wake (.task i)

end World

/-- A call on a channel pair: on one of the caller's producer handles, by its number, or on the
stream. -/
inductive Op where
  | send (sender : Nat) (e : StreamEvent)
  | finish (sender : Nat) (m : AssistantMessage)
  /-- Claim the completion, send one `error` event, then complete with the empty message. -/
  | finishWithError (sender : Nat) (e : StreamError)
  | clone (sender : Nat)
  | dropSender (sender : Nat)
  /-- Move the handle into a task that sends the events in order, then finishes with the
  message if one is given, then drops the handle. -/
  | spawnProducer (sender : Nat) (events : List StreamEvent) (finish : Option AssistantMessage)
  /-- Let the producer tasks run. -/
  | yield
  | nextEvent
  | result
  /-- Discard the remaining events, take the result, and drop the stream. -/
  | collectResult
  | dropStream
  deriving Repr

namespace World

/-- The caller still holds producer handle `i`. -/
def live (w : World) (i : Nat) : Bool := w.handles.getD i false

def kept (w : World) : Bool := w.backlog.isSome

/-- Perform one call; a call that needs a handle that is gone, or a stream that was dropped, is
refused and changes nothing. -/
def exec (w : World) : Op → Option Reply × World
  | .send i e => if w.live i then w.perform (.send e .fresh) else (some .refused, w)
  | .finish i m =>
    if w.live i then (some (.won (w.finishWith m).1), (w.finishWith m).2) else (some .refused, w)
  | .finishWithError i e =>
    if w.live i then
      match w.claim with
      | (true, w) => w.perform (.finishWithError e .fresh)
      | (false, w) => (some (.won false), w)
    else (some .refused, w)
  | .clone i =>
    if w.live i then
      (some .unit, { w with handles := w.handles.push true,
                            completion := { w.completion with handles := w.completion.handles + 1 } })
    else (some .refused, w)
  | .dropSender i =>
    if w.live i then (some .unit, { w with handles := w.handles.set! i false }.dropHandle)
    else (some .refused, w)
  | .spawnProducer i events finish =>
    if w.live i then (some .unit, { w with handles := w.handles.set! i false }.spawn events finish)
    else (some .refused, w)
  | .yield => (some .unit, (w.perform (.pause false)).2)
  | .nextEvent => if w.kept then w.perform .nextEvent else (some .refused, w)
  | .result => if w.kept then w.perform .result else (some .refused, w)
  | .collectResult =>
    if w.kept then
      match w.perform .collect with
      | (some r, w) => (some r, w)
      | (none, w) => (none, w.dropReceiver)
    else (some .refused, w)
  | .dropStream => if w.kept then (some .unit, w.dropReceiver) else (some .refused, w)

/-- Perform calls one after another: the reply to each, and the world after them. -/
def run (w : World) : List Op → List (Option Reply) × World
  | [] => ([], w)
  | op :: ops =>
    let (r, w) := w.exec op
    let (rs, w) := w.run ops
    (r :: rs, w)

end World

end ChatStream.Stream
