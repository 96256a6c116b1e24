import Mathlib.Tactic.SplitIfs
import ChatStream.Stream.Channel

/-! # What the channel's operations do to its shared state

The scheduler's bookkeeping (who is ready, budgets, the room in the queue and the line of
waiting senders) decides when things happen, never what the stream holds. `World.core` forgets
it: what is left is the queue's log, the consumer's position and whether it is there, the
references to the sending side, the completion, the backlog, the caller's handles and the
producer tasks. Each primitive operation gets one lemma giving its effect on this core; the
scheduler's steps leave it as it is. -/

namespace ChatStream.Stream

/-- The part of a world that the stream's guarantees are about. -/
structure Core where
  log : List StreamEvent
  taken : Nat
  receiverOpen : Bool
  senderRefs : Nat
  completion : Completion
  backlog : Option (List StreamEvent)
  handles : Array Bool
  producers : Array (Option Producer)

namespace World

/-- Forget the scheduler's bookkeeping. -/
def core (w : World) : Core :=
  ⟨w.queue.log, w.queue.taken, w.queue.receiverOpen, w.queue.senderRefs, w.completion, w.backlog,
    w.handles, w.producers⟩

variable (w : World)

section Scheduler

@[simp] theorem core_wake (p : Party) : (w.wake p).core = w.core := by
  cases p with
  | caller => rfl
  | task i => simp only [wake]; split <;> rfl

@[simp] theorem core_foldl_wake {α : Type} (f : α → Party) (xs : List α) :
    (xs.foldl (fun w x => w.wake (f x)) w).core = w.core := by
  induction xs generalizing w with
  | nil => rfl
  | cons x xs ih => simp [ih]

@[simp] theorem core_defer (p : Party) : (w.defer p).core = w.core := by
  unfold defer; split <;> rfl

@[simp] theorem core_wakeDeferred : w.wakeDeferred.core = w.core := by
  unfold wakeDeferred
  induction w.deferred with
  | nil => rfl
  | cons p ps ih => simp [ih]

@[simp] theorem core_spend : w.spend.core = w.core := rfl

@[simp] theorem core_wakeConsumer : w.wakeConsumer.core = w.core := by
  unfold wakeConsumer; split
  · rw [core_wake]; rfl
  · rfl

@[simp] theorem core_releaseRoom : w.releaseRoom.core = w.core := by
  unfold releaseRoom; split
  · rw [core_wake]; rfl
  · rfl

@[simp] theorem core_leaveLine (p : Party) : (w.leaveLine p).core = w.core := by
  unfold leaveLine; dsimp only; split
  · rw [core_releaseRoom]; rfl
  · rfl

end Scheduler

@[simp] theorem core_dropRef :
    w.dropRef.core = { w.core with senderRefs := w.core.senderRefs - 1 } := by
  unfold dropRef; dsimp only; split
  · rw [core_wakeConsumer]; rfl
  · rfl

@[simp] theorem core_enqueue (e : StreamEvent) :
    (w.enqueue e).core = { w.core with log := w.core.log ++ [e] } := by
  rw [enqueue, core_wakeConsumer]; rfl

theorem core_complete (m : AssistantMessage) :
    (w.complete m).core =
      { w.core with
        senderRefs := if w.core.completion.stored then w.core.senderRefs - 1 else w.core.senderRefs
        completion := { w.core.completion with result := some (w.core.completion.result.getD m),
                                               done := true, stored := false } } := by
  unfold complete; dsimp only
  generalize hv : List.foldl _ _ _ = v
  have hcore := congrArg core hv
  rw [core_foldl_wake, core_wake] at hcore
  simp only [core, Core.mk.injEq] at hcore
  obtain ⟨hlog, htaken, hopen, hrefs, hc, hb, hh, hp⟩ := hcore
  clear hv
  split <;> rename_i hs <;> rw [← hc] at hs <;> dsimp only at hs
  · rw [core_dropRef]
    simp only [core, ← hlog, ← htaken, ← hopen, ← hrefs, ← hc, ← hb, ← hh, ← hp, hs, if_true]
  · simp only [core, ← hlog, ← htaken, ← hopen, ← hrefs, ← hc, ← hb, ← hh, ← hp]
    simp [hs]

theorem claim_of_claimed (h : w.completion.claimed = true) : w.claim = (false, w) := by
  simp [claim, h]

theorem claim_of_unclaimed (h : w.completion.claimed = false) :
    w.claim = (true, { w with completion := { w.completion with claimed := true } }) := by
  simp [claim, h]

theorem finishWith_of_claimed (m : AssistantMessage) (h : w.completion.claimed = true) :
    w.finishWith m = (false, w) := by
  simp [finishWith, claim_of_claimed w h]

theorem finishWith_of_unclaimed (m : AssistantMessage) (h : w.completion.claimed = false) :
    w.finishWith m =
      (true, ({ w with completion := { w.completion with claimed := true } } : World).complete m) := by
  simp [finishWith, claim_of_unclaimed w h]

/-- A send holding a reference either waits, holding it still and changing nothing shared, or
finishes and drops it. It queues its event exactly when it reports success, which it does only
while the consumer is there and the stream is not done. -/
theorem pollHeld_spec (p : Party) (e : StreamEvent) :
    match w.pollHeld p e with
    | (none, ph, w') => ph = .holding ∧ w'.core = w.core
    | (some ok, ph, w') =>
      ph = .fresh ∧ (ok = true → w.queue.receiverOpen = true ∧ w.completion.done = false) ∧
      w'.core = { w.core with log := if ok then w.queue.log ++ [e] else w.queue.log,
                              senderRefs := w.queue.senderRefs - 1 } := by
  unfold pollHeld
  split_ifs <;> simp only [core_defer, core_dropRef, core_leaveLine, core_spend, core_enqueue] <;>
    simp_all [core, spend]

/-- A send either waits, holding one more reference than a fresh send did, or finishes with the
references it started with, less the one it held. It queues its event exactly when it reports
success, which it does only while the consumer is there and the stream is not done. -/
theorem pollSend_spec (p : Party) (e : StreamEvent) (ph : SendPhase) :
    match w.pollSend p e ph with
    | (none, ph', w') =>
      ph' = .holding ∧
      w'.core = { w.core with
        senderRefs := if ph = .fresh then w.core.senderRefs + 1 else w.core.senderRefs }
    | (some ok, ph', w') =>
      ph' = .fresh ∧ (ok = true → w.queue.receiverOpen = true ∧ w.completion.done = false) ∧
      w'.core = { w.core with
        log := if ok then w.core.log ++ [e] else w.core.log,
        senderRefs := if ph = .holding then w.core.senderRefs - 1 else w.core.senderRefs } := by
  cases ph with
  | holding => simpa [pollSend, core] using w.pollHeld_spec p e
  | fresh =>
    by_cases hd : w.completion.done = true ∨ (!w.completion.stored) = true
    · rw [pollSend, if_pos hd]
      simp
    · rw [pollSend, if_neg hd]
      have h := pollHeld_spec { w with queue := { w.queue with senderRefs := w.queue.senderRefs + 1 } } p e
      generalize World.pollHeld _ p e = r at h ⊢
      rcases r with ⟨_ | ok, ph', w'⟩ <;> simp_all [core]

/-- A handle that is not the last, or that goes when the completion is already claimed, only
lowers the count. -/
theorem core_dropHandle_of_kept (h : w.completion.handles ≠ 1 ∨ w.completion.claimed = true) :
    w.dropHandle.core =
      { w.core with completion := { w.completion with handles := w.completion.handles - 1 } } := by
  unfold dropHandle
  rcases h with h | h
  · simp [h, core]
  · by_cases hl : w.completion.handles = 1
    · simp [hl, claim, h, core]
    · simp [hl, core]

/-- The last handle, going while the completion is unclaimed, claims it and completes the stream
with the empty message, after queueing the error event if the consumer is there and there is
room for it. -/
theorem core_dropHandle_of_last (h : w.completion.handles = 1) (hc : w.completion.claimed = false) :
    ∃ lost : List StreamEvent,
      (lost = [] ∨ lost = [.error (.provider "stream producer exited without finishing")] ∧
        w.completion.stored = true ∧ w.queue.receiverOpen = true) ∧
      w.dropHandle.core = { w.core with
        log := w.core.log ++ lost
        senderRefs := if w.completion.stored then w.core.senderRefs - 1 else w.core.senderRefs
        completion := { w.completion with handles := 0, claimed := true, done := true,
                                          result := some (w.completion.result.getD {}),
                                          stored := false } } := by
  unfold dropHandle
  simp only [h, decide_true, Bool.not_true, Bool.false_eq_true, if_false, claim, hc]
  by_cases hroom : w.completion.stored = true ∧ w.queue.receiverOpen = true ∧ w.queue.room > 0
  · rw [if_pos hroom]
    refine ⟨_, .inr ⟨rfl, hroom.1, hroom.2.1⟩, ?_⟩
    rw [core_complete, core_enqueue]
    simp [core, hroom.1]
  · rw [if_neg hroom]
    refine ⟨[], .inl rfl, ?_⟩
    rw [core_complete]
    simp [core]

@[simp] theorem producers_complete (m : AssistantMessage) : (w.complete m).producers = w.producers :=
  congrArg Core.producers (w.core_complete m)

@[simp] theorem producers_dropHandle : w.dropHandle.producers = w.producers := by
  by_cases hk : w.completion.handles = 1 ∧ w.completion.claimed = false
  · obtain ⟨lost, -, h⟩ := w.core_dropHandle_of_last hk.1 hk.2
    exact congrArg Core.producers h
  · have hk : w.completion.handles ≠ 1 ∨ w.completion.claimed = true := by
      cases hc : w.completion.claimed <;> simp_all
    exact congrArg Core.producers (w.core_dropHandle_of_kept hk)

@[simp] theorem producers_finishWith (m : AssistantMessage) :
    (w.finishWith m).2.producers = w.producers := by
  cases hc : w.completion.claimed
  · rw [finishWith_of_unclaimed w m hc]
    exact congrArg Core.producers (core_complete _ m)
  · rw [finishWith_of_claimed w m hc]

@[simp] theorem producers_pollSend (p : Party) (e : StreamEvent) (ph : SendPhase) :
    (w.pollSend p e ph).2.2.producers = w.producers := by
  have h := w.pollSend_spec p e ph
  generalize w.pollSend p e ph = r at h
  rcases r with ⟨_ | ok, ph', w'⟩
  · exact congrArg Core.producers h.2
  · exact congrArg Core.producers h.2.2

@[simp] theorem producers_runProducer (i : Nat) (p : Producer) :
    (w.runProducer i p).2.producers = w.producers := by
  fun_induction runProducer w i p with
  | case1 w p e rest _ ok ph w' hpoll ih =>
    rw [ih, ← w.producers_pollSend (.task i) e p.phase, hpoll]
  | case2 w p e rest _ ph w' hpoll =>
    rw [← w.producers_pollSend (.task i) e p.phase, hpoll]
  | case3 w p _ w1 =>
    dsimp only [w1]
    cases p.finish <;> simp

theorem receive_spec :
    match w.receive with
    | (some (some e), w') =>
      w.queue.events.head? = some e ∧ w'.core = { w.core with taken := w.core.taken + 1 }
    | (some none, w') => w.queue.events = [] ∧ w.queue.senderRefs = 0 ∧ w'.core = w.core
    | (none, w') => w'.core = w.core := by
  unfold receive
  by_cases hb : w.budget = 0
  · simp [hb]
  · rw [if_neg hb]
    cases he : w.queue.events with
    | cons e rest =>
      simp only [core_releaseRoom]
      simp [core, spend]
    | nil => by_cases hr : w.queue.senderRefs = 0 <;> simp [hr, core, spend]

@[simp] theorem core_dropReceiver :
    w.dropReceiver.core =
      { w.core with receiverOpen := false, taken := w.core.log.length, backlog := none } := by
  unfold dropReceiver; dsimp only
  rw [core_foldl_wake _ (fun p => p)]
  rfl

@[simp] theorem core_spawn (events : List StreamEvent) (finish : Option AssistantMessage) :
    (w.spawn events finish).core =
      { w.core with producers := w.core.producers.push (some { events, finish }) } := by
  rw [spawn, core_wake]; rfl

end World

/-- `c'` is `c` with at most the consumer's side changed: its position in the log, which never
passes the end of the log, its presence and its backlog. -/
def Core.ConsumerMove (c c' : Core) : Prop :=
  ∃ taken receiverOpen backlog, c' = { c with taken, receiverOpen, backlog } ∧
    (c.taken ≤ c.log.length → taken ≤ c.log.length)

namespace Core.ConsumerMove

theorem refl (c : Core) : c.ConsumerMove c := ⟨c.taken, c.receiverOpen, c.backlog, rfl, id⟩

theorem trans {c c' c'' : Core} (h : c.ConsumerMove c') (h' : c'.ConsumerMove c'') :
    c.ConsumerMove c'' := by
  obtain ⟨t, o, b, rfl, ht⟩ := h
  obtain ⟨t', o', b', rfl, ht'⟩ := h'
  exact ⟨t', o', b', rfl, fun h => ht' (ht h)⟩

theorem backlog (c : Core) (b : Option (List StreamEvent)) :
    c.ConsumerMove { c with backlog := b } :=
  ⟨c.taken, c.receiverOpen, b, rfl, id⟩

end Core.ConsumerMove

namespace World

variable (w : World)

section Consumer

theorem receive_consumerMove : w.core.ConsumerMove w.receive.2.core := by
  have h := w.receive_spec
  generalize w.receive = r at h
  rcases r with ⟨_ | _ | e, w'⟩
  · rw [h]; exact .refl _
  · rw [h.2.2]; exact .refl _
  · -- the event taken was in the log, past the consumer's position
    refine ⟨_, _, _, h.2, fun _ => ?_⟩
    have hlt : w.queue.taken < w.queue.log.length := by
      have := h.1
      simp only [Queue.events, List.head?_drop, List.getElem?_eq_some_iff] at this
      exact this.1
    exact hlt

theorem nextEvent_consumerMove : w.core.ConsumerMove w.nextEvent.2.core := by
  unfold nextEvent
  split
  · exact .backlog _ _
  · exact w.receive_consumerMove

theorem awaitResult_consumerMove (fuel : Nat) : w.core.ConsumerMove (w.awaitResult fuel).2.core := by
  induction fuel generalizing w with
  | zero => exact .refl _
  | succ fuel ih =>
    unfold awaitResult
    split
    · exact .refl _
    · split
      · rw [core_defer]; exact .refl _
      · have h := w.receive_consumerMove
        split <;> rename_i heq <;> rw [heq] at h
        · exact h.trans (Core.ConsumerMove.trans (.backlog _ _) (ih _))
        · split <;> exact h
        · exact h

theorem collect_consumerMove (fuel : Nat) : w.core.ConsumerMove (w.collect fuel).2.core := by
  induction fuel generalizing w with
  | zero => exact .refl _
  | succ fuel ih =>
    unfold collect
    have h := w.nextEvent_consumerMove
    split <;> rename_i heq <;> rw [heq] at h
    · exact h.trans (ih _)
    · exact h.trans (awaitResult_consumerMove _ _)
    · exact h

theorem dropReceiver_consumerMove : w.core.ConsumerMove w.dropReceiver.core :=
  ⟨_, _, _, w.core_dropReceiver, fun _ => Nat.le_refl _⟩

end Consumer

section Loop

/-! The scheduler's loop, as an induction principle: whatever holds of the world at every look
at the caller, and is kept by a batch of tasks, holds when the operation ends. -/

variable (Q : World → Activity → Prop) (R : Option Reply → World → Prop)

theorem runBatch_induct (P : World → Prop) (next : ∀ w, P w → P w.runNext.2) :
    ∀ n w, P w → P (w.runBatch n).2 := by
  intro n
  induction n with
  | zero => intro w hw; exact hw
  | succ n ih =>
    intro w hw
    unfold runBatch
    have h := next w hw
    split <;> rename_i heq <;> rw [heq] at h
    · exact h
    · exact ih _ h

theorem go_induct
    (batch : ∀ w a, Q w a → Q (w.runBatch 61).2.wakeDeferred a)
    (sched : ∀ w a b, Q w a → Q { w with callerWoken := false, budget := b } a ∧
      Q { w with budget := b } a)
    (poll : ∀ w a, Q w a →
      match w.pollActivity a with
      | (some r, _, w') => R (some r) w'
      | (none, a', w') => Q w' a')
    (abandon : ∀ w a, Q w a → R none (w.abandon a)) :
    ∀ fuel w a, Q w a → R (perform.go w a fuel).1 (perform.go w a fuel).2 := by
  intro fuel
  induction fuel with
  | zero => intro w a hw; exact abandon w a hw
  | succ fuel ih =>
    intro w a hw
    have hb := batch w a hw
    rw [perform.go]
    generalize (w.runBatch 61).2.wakeDeferred = v at hb ⊢
    split
    · have hp := poll _ a (sched v a budgetPerRun hb).1
      split <;> rename_i heq <;> rw [heq] at hp
      · exact hp
      · exact ih _ _ hp
    · split
      · have hp := poll _ a (sched v a budgetPerRun hb).2
        split <;> rename_i heq <;> rw [heq] at hp
        · exact hp
        · exact abandon _ _ hp
      · exact ih _ _ hb

theorem perform_induct
    (batch : ∀ w a, Q w a → Q (w.runBatch 61).2.wakeDeferred a)
    (sched : ∀ w a b, Q w a → Q { w with callerWoken := false, budget := b } a ∧
      Q { w with budget := b } a)
    (poll : ∀ w a, Q w a →
      match w.pollActivity a with
      | (some r, _, w') => R (some r) w'
      | (none, a', w') => Q w' a')
    (abandon : ∀ w a, Q w a → R none (w.abandon a))
    (w : World) (a : Activity) (hw : Q { w with callerWoken := false } a) :
    R (w.perform a).1 (w.perform a).2 := by
  have hp := poll _ a hw
  unfold perform
  split <;> rename_i heq <;> rw [heq] at hp
  · exact hp
  · exact go_induct Q R batch sched poll abandon _ _ _ hp

end Loop

/-! ### What one call does -/

/-- The call can go ahead: the caller holds the handle it names, or still has the stream. -/
def admits : Op → Bool
  | .send i _ | .finish i _ | .finishWithError i _ | .clone i | .dropSender i
  | .spawnProducer i _ _ => w.live i
  | .yield => true
  | .nextEvent | .result | .collectResult | .dropStream => w.kept

/-- The caller's handle `i` moved out of its hands. -/
def release (i : Nat) : World := { w with handles := w.handles.set! i false }

/-- The completion claimed, before anything is sent. -/
def claimed : World := { w with completion := { w.completion with claimed := true } }

/-- What one call does, with its reply: refused when it cannot go ahead, and otherwise one
effect per operation. Every invariant of the calls is a case analysis on this. -/
inductive Call : Op → Option Reply × World → Prop
  | refused {op : Op} : w.admits op = false → Call op (some .refused, w)
  | send {i : Nat} (e : StreamEvent) : w.live i = true → Call (.send i e) (w.perform (.send e .fresh))
  | finish {i : Nat} (m : AssistantMessage) : w.live i = true →
      Call (.finish i m) (some (.won (w.finishWith m).1), (w.finishWith m).2)
  | finishLost {i : Nat} (e : StreamError) : w.live i = true → w.completion.claimed = true →
      Call (.finishWithError i e) (some (.won false), w)
  | finishWithError {i : Nat} (e : StreamError) : w.live i = true → w.completion.claimed = false →
      Call (.finishWithError i e) (w.claimed.perform (.finishWithError e .fresh))
  | clone {i : Nat} : w.live i = true →
      Call (.clone i) (some .unit, { w with handles := w.handles.push true,
                                            completion.handles := w.completion.handles + 1 })
  | dropSender {i : Nat} : w.live i = true → Call (.dropSender i) (some .unit, (w.release i).dropHandle)
  | spawnProducer {i : Nat} (events : List StreamEvent) (finish : Option AssistantMessage) :
      w.live i = true →
      Call (.spawnProducer i events finish) (some .unit, (w.release i).spawn events finish)
  | yield : Call .yield (some .unit, (w.perform (.pause false)).2)
  | nextEvent : w.kept = true → Call .nextEvent (w.perform .nextEvent)
  | result : w.kept = true → Call .result (w.perform .result)
  | collected {r : Reply} {w' : World} : w.kept = true → w.perform .collect = (some r, w') →
      Call .collectResult (some r, w')
  | collectAbandoned {w' : World} : w.kept = true → w.perform .collect = (none, w') →
      Call .collectResult (none, w'.dropReceiver)
  | dropStream : w.kept = true → Call .dropStream (some .unit, w.dropReceiver)

theorem exec_call (op : Op) : w.Call op (w.exec op) := by
  cases ha : w.admits op
  · have hr : w.exec op = (some .refused, w) := by
      cases op <;> simp_all [exec, admits]
    rw [hr]
    exact .refused ha
  · cases op with
    | send i e => simp only [admits] at ha; simp only [exec, ha, if_true]; exact .send e ha
    | finish i m => simp only [admits] at ha; simp only [exec, ha, if_true]; exact .finish m ha
    | finishWithError i e =>
      simp only [admits] at ha
      simp only [exec, ha, if_true]
      cases hc : w.completion.claimed
      · rw [claim_of_unclaimed w hc]; exact .finishWithError e ha hc
      · rw [claim_of_claimed w hc]; exact .finishLost e ha hc
    | clone i => simp only [admits] at ha; simp only [exec, ha, if_true]; exact .clone ha
    | dropSender i => simp only [admits] at ha; simp only [exec, ha, if_true]; exact .dropSender ha
    | spawnProducer i events finish =>
      simp only [admits] at ha; simp only [exec, ha, if_true]; exact .spawnProducer events finish ha
    | yield => exact .yield
    | nextEvent => simp only [admits] at ha; simp only [exec, ha, if_true]; exact .nextEvent ha
    | result => simp only [admits] at ha; simp only [exec, ha, if_true]; exact .result ha
    | collectResult =>
      simp only [admits] at ha
      simp only [exec, ha, if_true]
      cases hp : w.perform .collect with
      | mk r w' => cases r with
        | none => exact .collectAbandoned ha hp
        | some r => exact .collected ha hp
    | dropStream => simp only [admits] at ha; simp only [exec, ha, if_true]; exact .dropStream ha

/-- The worlds a channel pair can reach: a fresh channel of any capacity, and whatever one call
makes of a reachable world. -/
inductive Reachable : World → Prop
  | new (capacity : Nat) : Reachable (World.new capacity)
  | exec {w : World} (op : Op) : Reachable w → Reachable (w.exec op).2

theorem Reachable.run {w : World} (hw : w.Reachable) (ops : List Op) : (w.run ops).2.Reachable := by
  induction ops generalizing w with
  | nil => exact hw
  | cons op ops ih => exact ih (.exec op hw)

end World

end ChatStream.Stream
