import ChatStream.Proofs.ChannelDelivery
import ChatStream.Proofs.ChannelRoom
import ChatStream.Proofs.ReadLoop

/-! # A lone producer task, read to the end

One task holds the stream's only handle and sends its events, then finishes with its message;
the caller reads. Whatever the capacity of the queue and however the budgets fall, every call for
the next event is answered: with the task's events in order, then with the end, after which the
result is the task's message (`lone_task_reads_in_order`).

The argument rests on an invariant of such worlds (`Scene`): the slots of the queue add up, a
sender stands in line for room only while there is none, and the task, until it ends, is ready,
has given way, or stands in line. A consumer that waits on an empty queue therefore finds the
task ready, and the task's run sends an event or ends, which wakes the consumer.

The read loop's signals become such a task (`Signal.task`): what they send, then the message of
their completion, an error completion sending its `error` event and finishing with the empty
message. Read this way, the task gives the caller exactly the events and the result that
`Transcript.ofSignals` computes (`signals_task_reads_transcript`), and so the loop over a source
that ends gives what `Processor.drive` computes (`Processor.drive_task_reads_transcript`). -/

namespace ChatStream.Stream

namespace World

/-! ### What a round of the scheduler keeps -/

/-- `w'` comes after `w` in one round of the scheduler: the caller, once woken, stays woken, and
every party that gave way is still to be woken. -/
structure Later (w w' : World) : Prop where
  woken : w.callerWoken = true → w'.callerWoken = true
  deferred : w.deferred ⊆ w'.deferred

namespace Later

theorem refl (w : World) : w.Later w := ⟨id, List.Subset.refl _⟩

theorem trans {w w' w'' : World} (h : w.Later w') (h' : w'.Later w'') : w.Later w'' :=
  ⟨h'.woken ∘ h.woken, List.Subset.trans h.deferred h'.deferred⟩

theorem of_eq {w w' : World} (hw : w'.callerWoken = w.callerWoken) (hd : w'.deferred = w.deferred) :
    w.Later w' :=
  ⟨fun h => hw ▸ h, hd ▸ List.Subset.refl _⟩

theorem after {w v w' : World} (h : v.Later w') (hw : v.callerWoken = w.callerWoken)
    (hd : v.deferred = w.deferred) : w.Later w' :=
  (of_eq hw hd).trans h

end Later

variable (w : World)

theorem later_wake (p : Party) : w.Later (w.wake p) := by
  cases p with
  | caller => exact ⟨fun _ => rfl, List.Subset.refl _⟩
  | task i => simp only [wake]; split <;> exact .of_eq rfl rfl

theorem later_foldl_wake {α : Type} (f : α → Party) (xs : List α) :
    w.Later (xs.foldl (fun w x => w.wake (f x)) w) := by
  induction xs generalizing w with
  | nil => exact .refl w
  | cons x xs ih => exact (w.later_wake (f x)).trans (ih _)

theorem later_defer (p : Party) : w.Later (w.defer p) := by
  unfold defer
  split
  · exact .refl w
  · exact ⟨id, List.subset_append_left _ _⟩

theorem later_wakeConsumer : w.Later w.wakeConsumer := by
  unfold wakeConsumer
  split
  · exact Later.after (later_wake _ .caller) rfl rfl
  · exact .refl w

theorem later_releaseRoom : w.Later w.releaseRoom := by
  unfold releaseRoom
  split
  · exact Later.after (later_wake _ _) rfl rfl
  · exact .of_eq rfl rfl

theorem later_dropRef : w.Later w.dropRef := by
  unfold dropRef
  dsimp only
  split
  · exact Later.after (later_wakeConsumer _) rfl rfl
  · exact .of_eq rfl rfl

theorem later_enqueue (e : StreamEvent) : w.Later (w.enqueue e) :=
  Later.after (later_wakeConsumer _) rfl rfl

theorem later_leaveLine (p : Party) : w.Later (w.leaveLine p) := by
  unfold leaveLine
  dsimp only
  split
  · exact Later.after (later_releaseRoom _) rfl rfl
  · exact .of_eq rfl rfl

theorem later_complete (m : AssistantMessage) : w.Later (w.complete m) := by
  unfold complete
  dsimp only
  generalize hv : List.foldl _ _ _ = v
  have h : w.Later v := by
    rw [← hv]
    exact Later.after ((later_wake _ .caller).trans (later_foldl_wake _ Party.task _)) rfl rfl
  split
  · exact h.trans (Later.after (later_dropRef _) rfl rfl)
  · exact h

theorem later_finishWith (m : AssistantMessage) : w.Later (w.finishWith m).2 := by
  cases hc : w.completion.claimed
  · rw [finishWith_of_unclaimed w m hc]
    exact Later.after (later_complete _ m) rfl rfl
  · rw [finishWith_of_claimed w m hc]
    exact .refl w

theorem later_pollHeld (p : Party) (e : StreamEvent) : w.Later (w.pollHeld p e).2.2 := by
  unfold pollHeld
  split_ifs <;> dsimp only
  · exact w.later_defer p
  · exact (w.later_leaveLine p).trans (later_dropRef _)
  · refine Later.trans ?_ (later_dropRef _)
    exact Later.after (later_leaveLine _ p) rfl rfl
  · refine Later.trans ?_ (later_dropRef _)
    exact Later.after (later_enqueue _ e) rfl rfl
  · exact .refl w
  · refine Later.trans ?_ (later_dropRef _)
    exact Later.after (later_enqueue _ e) rfl rfl
  · exact .of_eq rfl rfl

theorem later_pollSend (p : Party) (e : StreamEvent) (ph : SendPhase) :
    w.Later (w.pollSend p e ph).2.2 := by
  cases ph with
  | holding => exact w.later_pollHeld p e
  | fresh =>
    by_cases hd : w.completion.done = true ∨ (!w.completion.stored) = true
    · rw [pollSend, if_pos hd]
      exact .refl w
    · rw [pollSend, if_neg hd]
      exact Later.after (later_pollHeld _ p e) rfl rfl

theorem later_dropHandle : w.Later w.dropHandle := by
  unfold dropHandle claim
  dsimp only
  split
  · exact .of_eq rfl rfl
  · split
    · exact .of_eq rfl rfl
    · split <;> simp only
      · exact .of_eq rfl rfl
      · have h : ∀ v : World, w.Later v → w.Later (v.complete {}) :=
          fun v hv => hv.trans (later_complete v {})
        split
        · exact h _ (Later.after (later_enqueue _ _) rfl rfl)
        · exact h _ (.of_eq rfl rfl)

theorem later_runProducer (i : Nat) (p : Producer) : w.Later (w.runProducer i p).2 := by
  fun_induction runProducer w i p with
  | case1 w p e rest _ ok ph w' hpoll ih =>
    have h := w.later_pollSend (.task i) e p.phase
    rw [hpoll] at h
    exact h.trans ih
  | case2 w p e rest _ ph w' hpoll =>
    have h := w.later_pollSend (.task i) e p.phase
    rwa [hpoll] at h
  | case3 w p _ w1 =>
    have h : w.Later w1 := by
      dsimp only [w1]
      cases p.finish
      · exact .refl w
      · exact w.later_finishWith _
    exact h.trans (later_dropHandle _)

theorem later_runNext : w.Later w.runNext.2 := by
  unfold runNext
  split
  · exact .refl w
  · rename_i i rest _
    dsimp only
    split
    · rename_i p _
      have h := later_runProducer { w with runQueue := rest, budget := budgetPerRun } i p
      exact ⟨h.woken, h.deferred⟩
    · exact .of_eq rfl rfl

theorem later_runBatch (n : Nat) : w.Later (w.runBatch n).2 :=
  runBatch_induct (fun v => w.Later v) (fun v hv => hv.trans (later_runNext v)) n w (.refl w)

/-! ### One look at a send -/

@[simp] theorem runQueue_wakeConsumer : w.wakeConsumer.runQueue = w.runQueue := by
  unfold wakeConsumer; split <;> rfl

@[simp] theorem runQueue_dropRef : w.dropRef.runQueue = w.runQueue := by
  unfold dropRef; dsimp only; split
  · exact runQueue_wakeConsumer _
  · rfl

@[simp] theorem runQueue_enqueue (e : StreamEvent) : (w.enqueue e).runQueue = w.runQueue :=
  runQueue_wakeConsumer _

@[simp] theorem runQueue_defer (p : Party) : (w.defer p).runQueue = w.runQueue := by
  unfold defer; split <;> rfl

theorem mem_defer (p : Party) : p ∈ (w.defer p).deferred := by
  unfold defer
  split
  · rename_i h
    exact List.mem_of_getLast? (by simpa using h)
  · simp

theorem callerWoken_enqueue (e : StreamEvent) (h : w.queue.consumerWaits = true) :
    (w.enqueue e).callerWoken = true := by
  simp [enqueue, wakeConsumer, h, wake]

theorem runQueue_pollHeld (p : Party) (e : StreamEvent) (hd : w.completion.done = false)
    (ho : w.queue.receiverOpen = true) : (w.pollHeld p e).2.2.runQueue = w.runQueue := by
  unfold pollHeld
  split_ifs <;> simp_all [spend]

theorem pollHeld_waits (p : Party) (e : StreamEvent) (h : (w.pollHeld p e).1 = none) :
    p ∈ (w.pollHeld p e).2.2.queue.waiting ∨ p ∈ (w.pollHeld p e).2.2.deferred := by
  unfold pollHeld at h ⊢
  split_ifs at h ⊢ with hb hd ho hg hw hr
  · exact .inr (w.mem_defer p)
  · exact .inl (List.contains_iff_mem.1 hw)
  · exact .inl (List.mem_append_right _ (List.mem_singleton_self p))

theorem pollHeld_wakes (p : Party) (e : StreamEvent) (hc : w.queue.consumerWaits = true)
    (h : (w.pollHeld p e).1 = some true) : (w.pollHeld p e).2.2.callerWoken = true := by
  unfold pollHeld at h ⊢
  split_ifs at h ⊢ <;> simp only [Option.some.injEq, Bool.false_eq_true] at h
  · exact (later_dropRef _).woken (callerWoken_enqueue _ e hc)
  · exact (later_dropRef _).woken (callerWoken_enqueue _ e hc)

/-- On a live stream, a send with budget left that is not in line goes through when it was
handed room or finds some free. -/
theorem pollHeld_sends (p : Party) (e : StreamEvent) (hb : w.budget ≠ 0)
    (hd : w.completion.done = false) (ho : w.queue.receiverOpen = true)
    (hw : p ∉ w.queue.waiting) (hr : p ∈ w.queue.granted ∨ 0 < w.queue.room) :
    (w.pollHeld p e).1 = some true := by
  unfold pollHeld
  rcases hr with hg | hr
  · simp [hb, hd, ho, hg]
  · by_cases hg : p ∈ w.queue.granted <;> simp [hb, hd, ho, hg, hw, hr]

/-! ### Room is never left free while a sender waits -/

end World

/-- No room is left free while a sender stands in line: room given back goes to the first of
them. -/
def Line.Fair (l : Line) : Prop := l.waiting ≠ [] → l.room = 0

namespace World

variable (w : World)

theorem releaseRoom_fair (h : w.line.Fair) : w.releaseRoom.line.Fair := by
  unfold releaseRoom
  split
  · rename_i p rest hw
    rw [line_wake]
    exact fun _ => h (by simp [line, hw])
  · rename_i hw
    intro hne
    exact absurd (by simp [line, hw]) hne

theorem leaveLine_fair (p : Party) (h : w.line.Fair) : (w.leaveLine p).line.Fair := by
  have hw : ({ w with queue := { w.queue with waiting := w.queue.waiting.filter (· != p) } } : World).line.Fair :=
    fun hne => h fun he => hne (by simp only [line] at he ⊢; simp [he])
  unfold leaveLine
  dsimp only
  split
  · exact releaseRoom_fair _ hw
  · exact hw

theorem pollHeld_fair (p : Party) (e : StreamEvent) (h : w.line.Fair) :
    (w.pollHeld p e).2.2.line.Fair := by
  unfold pollHeld
  split_ifs with hb hd ho hg hw hr <;> dsimp only
  · rwa [line_defer]
  · rw [line_dropRef]; exact w.leaveLine_fair p h
  · rw [line_dropRef]; exact w.spend.leaveLine_fair p h
  · rw [line_dropRef, line_enqueue]; exact h
  · exact h
  · -- free room means nobody stands in line
    rw [line_dropRef, line_enqueue]
    intro hne
    exact absurd (h hne) (Nat.pos_iff_ne_zero.1 hr)
  · exact fun _ => Nat.eq_zero_of_not_pos hr

theorem receive_fair (h : w.line.Fair) : w.receive.2.line.Fair := by
  unfold receive
  split
  · rwa [line_defer]
  · split
    · exact releaseRoom_fair _ h
    · split <;> exact h

/-! ### The scheduler's lists -/

@[simp] theorem deferred_wake (p : Party) : (w.wake p).deferred = w.deferred := by
  cases p with
  | caller => rfl
  | task i => simp only [wake]; split <;> rfl

@[simp] theorem deferred_foldl_wake {α : Type} (f : α → Party) (xs : List α) :
    (xs.foldl (fun w x => w.wake (f x)) w).deferred = w.deferred := by
  induction xs generalizing w with
  | nil => rfl
  | cons x xs ih => simp [ih]

@[simp] theorem deferred_wakeConsumer : w.wakeConsumer.deferred = w.deferred := by
  unfold wakeConsumer; split
  · exact deferred_wake _ _
  · rfl

@[simp] theorem deferred_dropRef : w.dropRef.deferred = w.deferred := by
  unfold dropRef; dsimp only; split
  · exact deferred_wakeConsumer _
  · rfl

@[simp] theorem deferred_enqueue (e : StreamEvent) : (w.enqueue e).deferred = w.deferred :=
  deferred_wakeConsumer _

@[simp] theorem deferred_complete (m : AssistantMessage) : (w.complete m).deferred = w.deferred := by
  unfold complete; dsimp only
  split <;> simp

theorem mem_holdingTasks {i : Nat} (h : i ∈ w.holdingTasks) : i < w.producers.size :=
  List.mem_range.1 (List.mem_filter.1 h).1

/-- The only task is ready, or none is. -/
def RunsOne (w : World) : Prop := w.runQueue = [] ∨ w.runQueue = [0]

theorem runsOne_wake (p : Party) (hp : ∀ i, p = .task i → i = 0) (h : w.RunsOne) :
    (w.wake p).RunsOne := by
  cases p with
  | caller => exact h
  | task i =>
    obtain rfl := hp i rfl
    simp only [RunsOne, wake]
    rcases h with h | h <;> simp [h]

theorem runsOne_foldl_wake (xs : List Nat) (hx : ∀ i ∈ xs, i = 0) (h : w.RunsOne) :
    (xs.foldl (fun w i => w.wake (.task i)) w).RunsOne := by
  induction xs generalizing w with
  | nil => exact h
  | cons x xs ih =>
    exact ih _ (fun i hi => hx i (List.mem_cons_of_mem x hi))
      (runsOne_wake _ _ (fun i he => Party.task.inj he ▸ hx x List.mem_cons_self) h)

theorem runsOne_complete (m : AssistantMessage) (hs : w.producers.size = 1) (h : w.RunsOne) :
    (w.complete m).RunsOne := by
  unfold complete; dsimp only
  generalize hv : List.foldl _ _ _ = v
  have hfold : v.RunsOne := by
    rw [← hv]
    exact runsOne_foldl_wake _ _ (fun i hi => Nat.lt_one_iff.1 (hs ▸ mem_holdingTasks _ hi))
      (runsOne_wake _ .caller (fun _ h => by cases h) h)
  split
  · unfold RunsOne at hfold ⊢
    rw [runQueue_dropRef]
    exact hfold
  · exact hfold

@[simp] theorem backlog_complete (m : AssistantMessage) : (w.complete m).backlog = w.backlog :=
  congrArg Core.backlog (w.core_complete m)

@[simp] theorem log_complete (m : AssistantMessage) : (w.complete m).queue.log = w.queue.log :=
  congrArg Core.log (w.core_complete m)

theorem refs_complete (m : AssistantMessage) :
    (w.complete m).queue.senderRefs =
      if w.completion.stored then w.queue.senderRefs - 1 else w.queue.senderRefs :=
  congrArg Core.senderRefs (w.core_complete m)

theorem callerWoken_complete (m : AssistantMessage) : (w.complete m).callerWoken = true := by
  unfold complete; dsimp only
  generalize hv : List.foldl _ _ _ = v
  have hwoken : v.callerWoken = true := by
    rw [← hv]
    exact (later_foldl_wake _ Party.task _).woken rfl
  split
  · exact (later_dropRef _).woken hwoken
  · exact hwoken

theorem dropHandle_of_claimed (h : w.completion.claimed = true) :
    w.dropHandle = { w with completion := { w.completion with handles := w.completion.handles - 1 } } := by
  unfold dropHandle
  by_cases hl : w.completion.handles = 1 <;> simp [hl, claim, h]

theorem pollHeld_deferred (p : Party) (e : StreamEvent) (hd : w.completion.done = false)
    (ho : w.queue.receiverOpen = true) :
    ∀ q ∈ (w.pollHeld p e).2.2.deferred, q ∈ w.deferred ∨ q = p := by
  intro q hq
  unfold pollHeld at hq
  split_ifs at hq <;> simp_all [defer, spend]
  split at hq <;> simp_all

/-! ### The same for a send that may still have to take its reference -/

theorem pollSend_live (p : Party) (e : StreamEvent) (hd : w.completion.done = false)
    (hs : w.completion.stored = true) :
    w.pollSend p e .fresh =
      ({ w with queue := { w.queue with senderRefs := w.queue.senderRefs + 1 } } : World).pollHeld p e := by
  rw [pollSend, if_neg (by simp [hd, hs])]

section Live

variable (p : Party) (e : StreamEvent) (ph : SendPhase)

theorem runQueue_pollSend (hd : w.completion.done = false) (hs : w.completion.stored = true)
    (ho : w.queue.receiverOpen = true) : (w.pollSend p e ph).2.2.runQueue = w.runQueue := by
  cases ph with
  | holding => exact w.runQueue_pollHeld p e hd ho
  | fresh => rw [w.pollSend_live p e hd hs]; exact runQueue_pollHeld _ p e hd ho

theorem pollSend_deferred (hd : w.completion.done = false) (hs : w.completion.stored = true)
    (ho : w.queue.receiverOpen = true) :
    ∀ q ∈ (w.pollSend p e ph).2.2.deferred, q ∈ w.deferred ∨ q = p := by
  cases ph with
  | holding => exact w.pollHeld_deferred p e hd ho
  | fresh => rw [w.pollSend_live p e hd hs]; exact pollHeld_deferred _ p e hd ho

theorem pollSend_waits (hd : w.completion.done = false) (hs : w.completion.stored = true)
    (h : (w.pollSend p e ph).1 = none) :
    p ∈ (w.pollSend p e ph).2.2.queue.waiting ∨ p ∈ (w.pollSend p e ph).2.2.deferred := by
  cases ph with
  | holding => exact w.pollHeld_waits p e h
  | fresh => rw [w.pollSend_live p e hd hs] at h ⊢; exact pollHeld_waits _ p e h

theorem pollSend_wakes (hd : w.completion.done = false) (hs : w.completion.stored = true)
    (hc : w.queue.consumerWaits = true) (h : (w.pollSend p e ph).1 = some true) :
    (w.pollSend p e ph).2.2.callerWoken = true := by
  cases ph with
  | holding => exact w.pollHeld_wakes p e hc h
  | fresh => rw [w.pollSend_live p e hd hs] at h ⊢; exact pollHeld_wakes _ p e hc h

theorem pollSend_sends (hd : w.completion.done = false) (hs : w.completion.stored = true)
    (ho : w.queue.receiverOpen = true) (hb : w.budget ≠ 0) (hw : p ∉ w.queue.waiting)
    (hr : p ∈ w.queue.granted ∨ 0 < w.queue.room) : (w.pollSend p e ph).1 = some true := by
  cases ph with
  | holding => exact w.pollHeld_sends p e hb hd ho hw hr
  | fresh => rw [w.pollSend_live p e hd hs]; exact pollHeld_sends _ p e hb hd ho hw hr

theorem pollSend_fair (h : w.line.Fair) : (w.pollSend p e ph).2.2.line.Fair := by
  cases ph with
  | holding => exact w.pollHeld_fair p e h
  | fresh =>
    by_cases hd : w.completion.done = true ∨ (!w.completion.stored) = true
    · rw [pollSend, if_pos hd]
      exact h
    · rw [pollSend, if_neg hd]
      exact pollHeld_fair _ p e h

end Live

/-! ### One task holding the only handle -/

/-- What a stream read by the caller, whose only producer is task 0, keeps between the
scheduler's steps: the caller has moved nothing to its backlog, the line is in order with only
the task in it, no room sits free while it waits, and only the task and the caller are ever to
be woken. -/
structure Lone (cap : Nat) (w : World) : Prop where
  kept : w.backlog = some []
  line : w.line.Ok cap 0 (· = .task 0)
  fair : w.line.Fair
  capacity : 0 < cap
  runsOne : w.RunsOne
  deferred : ∀ q ∈ w.deferred, q = .caller ∨ q = .task 0

theorem Lone.receiverOpen {cap : Nat} {w : World} (h : w.Lone cap) : w.queue.receiverOpen = true := by
  have hk : w.backlog.isSome = w.queue.receiverOpen := h.line.kept
  rw [h.kept] at hk
  exact hk.symm

theorem Lone.start {cap : Nat} {w : World} (h : w.Lone cap) (b : Nat) :
    ({ w with runQueue := [], budget := b } : World).Lone cap :=
  ⟨h.kept, h.line, h.fair, h.capacity, .inl rfl, h.deferred⟩

/-- While task 0 runs, with `p` left of it: the log and what it has still to send make `es`, it
will finish with `m`, nobody has claimed the completion, and the references are the stored one and
the one its send holds. -/
structure Sending (es : List StreamEvent) (m : AssistantMessage) (w : World) (p : Producer) : Prop where
  log : w.queue.log ++ p.events = es
  finish : p.finish = some m
  completion : w.completion = {}
  refs : w.queue.senderRefs = p.phase.refs + 1
  holding : p.phase = .holding → p.events ≠ []
  lined : Party.task 0 ∈ w.queue.waiting ++ w.queue.granted → p.phase = .holding

/-- Once task 0 has ended: every event is in the log, and the stream is completed with `m`. -/
structure Ended (es : List StreamEvent) (m : AssistantMessage) (w : World) : Prop where
  log : w.queue.log = es
  completion : w.completion =
    { claimed := true, done := true, result := some m, stored := false, handles := 0 }
  refs : w.queue.senderRefs = 0

variable {w} {cap : Nat} {es : List StreamEvent} {m : AssistantMessage}

theorem Sending.of_queue {w' : World} {p : Producer} (h : w.Sending es m p)
    (hlog : w'.queue.log = w.queue.log) (hrefs : w'.queue.senderRefs = w.queue.senderRefs)
    (hc : w'.completion = w.completion)
    (hline : Party.task 0 ∈ w'.queue.waiting ++ w'.queue.granted →
      Party.task 0 ∈ w.queue.waiting ++ w.queue.granted) : w'.Sending es m p where
  log := by rw [hlog]; exact h.log
  finish := h.finish
  completion := by rw [hc]; exact h.completion
  refs := by rw [hrefs]; exact h.refs
  holding := h.holding
  lined := fun hm => h.lined (hline hm)

theorem Ended.of_queue {w' : World} (h : w.Ended es m) (hlog : w'.queue.log = w.queue.log)
    (hrefs : w'.queue.senderRefs = w.queue.senderRefs) (hc : w'.completion = w.completion) :
    w'.Ended es m where
  log := by rw [hlog]; exact h.log
  completion := by rw [hc]; exact h.completion
  refs := by rw [hrefs]; exact h.refs

/-- One look at the task's send: it goes through, leaving the task fresh for the rest and waking a
consumer that waits, or it waits, in line or having given way. -/
theorem Lone.pollSend {p : Producer} {e : StreamEvent} {rest : List StreamEvent} (hl : w.Lone cap)
    (hs : w.Sending es m p) (he : p.events = e :: rest) :
    match w.pollSend (.task 0) e p.phase with
    | (some _, _, w') => w'.Lone cap ∧ w'.Sending es m { p with events := rest, phase := .fresh } ∧
        (w.queue.consumerWaits = true → w'.callerWoken = true)
    | (none, ph, w') => w'.Lone cap ∧ w'.Sending es m { p with phase := ph } ∧
        (.task 0 ∈ w'.queue.waiting ∨ .task 0 ∈ w'.deferred) := by
  have hd : w.completion.done = false := by rw [hs.completion]
  have hst : w.completion.stored = true := by rw [hs.completion]
  have ho := hl.receiverOpen
  have hspec := w.pollSend_spec (.task 0) e p.phase
  have hline := w.pollSend_ok (.task 0) e p.phase hl.line fun hph hm => by
    have := hs.lined hm
    rw [hph] at this
    cases this
  have hfair := w.pollSend_fair (.task 0) e p.phase hl.fair
  have hrq := w.runQueue_pollSend (.task 0) e p.phase hd hst ho
  have hdef := w.pollSend_deferred (.task 0) e p.phase hd hst ho
  have hwaits := w.pollSend_waits (.task 0) e p.phase hd hst
  have hwakes := w.pollSend_wakes (.task 0) e p.phase hd hst
  have hsent : ∀ ok, (w.pollSend (.task 0) e p.phase).1 = some ok → ok = true :=
    fun _ h => w.pollSend_sent (.task 0) e p.phase h hd hst ho
  have lone : ∀ w' : World, w'.core.backlog = w.core.backlog → w'.line.Ok cap 0 (· = .task 0) →
      w'.line.Fair → w'.runQueue = w.runQueue →
      (∀ q ∈ w'.deferred, q ∈ w.deferred ∨ q = .task 0) → w'.Lone cap := by
    intro w' hb hl' hf hq hq'
    have hrun : w'.RunsOne := by unfold RunsOne; rw [hq]; exact hl.runsOne
    refine ⟨hb.trans hl.kept, hl', hf, hl.capacity, hrun, fun q hmem => ?_⟩
    rcases hq' q hmem with hmem | rfl
    · exact hl.deferred q hmem
    · exact .inr rfl
  generalize w.pollSend (.task 0) e p.phase = r at hspec hline hfair hrq hdef hwaits hwakes hsent
  rcases r with ⟨_ | ok, ph, w'⟩
  · obtain ⟨rfl, hcore⟩ := hspec
    have hb := congrArg Core.backlog hcore
    refine ⟨lone w' hb (hline.mono fun _ _ hq => hq.elim id id) hfair hrq hdef, ?_, hwaits rfl⟩
    -- the send waits holding its reference; nothing was queued
    refine ⟨?_, hs.finish, ?_, ?_, fun _ => by simp [he], fun _ => rfl⟩
    · rw [← hs.log]; exact congrArg (· ++ p.events) (congrArg Core.log hcore)
    · rw [← hs.completion]; exact congrArg Core.completion hcore
    · have := congrArg Core.senderRefs hcore
      simp only [core] at this
      rw [this, hs.refs]
      cases p.phase <;> rfl
  · obtain ⟨rfl, -, hcore⟩ := hspec
    obtain rfl := hsent ok rfl
    have hb := congrArg Core.backlog hcore
    have hout : Party.task 0 ∉ w'.queue.waiting ++ w'.queue.granted := fun hm =>
      (hline.lined _ hm).1 rfl
    refine ⟨lone w' hb (hline.mono fun _ _ hq => hq.2) hfair hrq hdef, ?_, fun hc => hwakes hc rfl⟩
    -- the event went to the log, and the send's reference with it
    refine ⟨?_, hs.finish, ?_, ?_, (fun h => by cases h), fun hm => absurd hm hout⟩
    · have := congrArg Core.log hcore
      simp only [core, if_true] at this
      show w'.queue.log ++ rest = es
      rw [this, List.append_assoc, List.singleton_append, ← he, hs.log]
    · rw [← hs.completion]; exact congrArg Core.completion hcore
    · have := congrArg Core.senderRefs hcore
      simp only [core] at this
      rw [this, hs.refs]
      cases p.phase <;> rfl

theorem Lone.finish {p : Producer} (hl : w.Lone cap) (hs : w.Sending es m p) (he : p.events = [])
    (hsize : w.producers.size = 1) :
    (w.finishWith m).2.dropHandle.Lone cap ∧ (w.finishWith m).2.dropHandle.Ended es m ∧
      (w.finishWith m).2.dropHandle.callerWoken = true := by
  have hc : w.completion.claimed = false := by rw [hs.completion]
  have hph : p.phase = .fresh := by
    cases h : p.phase
    · rfl
    · exact absurd he (hs.holding h)
  rw [finishWith_of_unclaimed w m hc]
  dsimp only
  set v : World := { w with completion := { w.completion with claimed := true } } with hv
  have hvc : (v.complete m).completion =
      { claimed := true, done := true, result := some m, stored := false, handles := 1 } := by
    rw [completion_complete, hv, hs.completion]
    rfl
  rw [dropHandle_of_claimed _ (by rw [hvc])]
  refine ⟨⟨?_, ?_, ?_, hl.capacity, ?_, ?_⟩, ⟨?_, ?_, ?_⟩, callerWoken_complete v m⟩
  · show (v.complete m).backlog = some []
    rw [backlog_complete]
    exact hl.kept
  · show (v.complete m).line.Ok cap 0 _
    rw [line_complete]
    exact hl.line
  · show (v.complete m).line.Fair
    rw [line_complete]
    exact hl.fair
  · exact runsOne_complete v m hsize hl.runsOne
  · show ∀ q ∈ (v.complete m).deferred, _
    rw [deferred_complete]
    exact hl.deferred
  · show (v.complete m).queue.log = es
    rw [log_complete, ← hs.log, he, List.append_nil]
  · dsimp only
    rw [hvc]
    rfl
  · show (v.complete m).queue.senderRefs = 0
    rw [refs_complete]
    simp [v, hs.completion, hs.refs, hph, SendPhase.refs]

/-- A run of task 0 keeps the world in order. It ends waiting in a send, in line or having given
way, or it ends the task, having completed the stream with `m` and woken the caller. -/
theorem Lone.runProducer {p : Producer} (hl : w.Lone cap) (hs : w.Sending es m p)
    (hsize : w.producers.size = 1) :
    match w.runProducer 0 p with
    | (some p', w') => w'.Lone cap ∧ w'.Sending es m p' ∧
        (.task 0 ∈ w'.queue.waiting ∨ .task 0 ∈ w'.deferred)
    | (none, w') => w'.Lone cap ∧ w'.Ended es m ∧ w'.callerWoken = true := by
  fun_induction World.runProducer w 0 p with
  | case1 w p e rest he ok ph w' hpoll ih =>
    have h := hl.pollSend hs he
    rw [hpoll] at h
    obtain ⟨hl', hs', -⟩ := h
    have hprod := w.producers_pollSend (.task 0) e p.phase
    rw [hpoll] at hprod
    have hsize' : w'.producers.size = 1 := by
      rw [show w'.producers = w.producers from hprod]
      exact hsize
    exact ih hl' hs' hsize'
  | case2 w p e rest he ph w' hpoll =>
    have h := hl.pollSend hs he
    rw [hpoll] at h
    exact h
  | case3 w p he w1 =>
    have hw1 : w1 = (w.finishWith m).2 := by simp only [w1, hs.finish]
    rw [hw1]
    exact hl.finish hs he hsize

theorem events_ne_nil_iff {v : World} : v.queue.events ≠ [] ↔ v.queue.taken < v.queue.log.length := by
  simp only [Queue.events, ne_eq, List.drop_eq_nil_iff, not_le]

/-- A run of task 0 that starts while the consumer waits, with budget and room for its first
event, wakes the consumer: it queues that event, or has nothing left to send and ends. -/
theorem Lone.runProducer_wakes {p : Producer} (hl : w.Lone cap) (hs : w.Sending es m p)
    (hsize : w.producers.size = 1) (hc : w.queue.consumerWaits = true) (hb : w.budget ≠ 0)
    (hw : Party.task 0 ∉ w.queue.waiting) (hr : Party.task 0 ∈ w.queue.granted ∨ 0 < w.queue.room) :
    (w.runProducer 0 p).2.callerWoken = true ∧
      ((w.runProducer 0 p).2.queue.events ≠ [] ∨ (w.runProducer 0 p).1 = none) := by
  have hd : w.completion.done = false := by rw [hs.completion]
  have hst : w.completion.stored = true := by rw [hs.completion]
  fun_cases World.runProducer w 0 p with
  | case1 e rest he ok ph w' hpoll =>
    have hok : ok = true := w.pollSend_sent _ _ _ (by rw [hpoll]) hd hst hl.receiverOpen
    subst hok
    have hwoken := w.pollSend_wakes (.task 0) e p.phase hd hst hc
    have hspec := w.pollSend_spec (.task 0) e p.phase
    rw [hpoll] at hwoken hspec
    obtain ⟨-, -, hcore⟩ := hspec
    obtain ⟨htaken, -, -, hprefix⟩ := w'.runProducer_senderMove 0 { p with events := rest, phase := .fresh }
    refine ⟨(w'.later_runProducer 0 _).woken (hwoken rfl), .inl (events_ne_nil_iff.2 ?_)⟩
    -- the event sent stays queued: the task takes nothing off the queue
    have hlog : w'.queue.log = w.queue.log ++ [e] := by
      have := congrArg Core.log hcore
      simpa [core] using this
    have ht : w'.queue.taken = w.queue.taken := congrArg Core.taken hcore
    have hle := hprefix.length_le
    simp only [core] at htaken hle
    rw [hlog, List.length_append, List.length_singleton] at hle
    have : w.queue.taken ≤ w.queue.log.length := hl.line.taken
    omega
  | case2 e rest he ph w' hpoll =>
    have hsend := w.pollSend_sends (.task 0) e p.phase hd hst hl.receiverOpen hb hw hr
    rw [hpoll] at hsend
    cases hsend
  | case3 he w1 =>
    have hw1 : w1 = (w.finishWith m).2 := by simp only [w1, hs.finish]
    rw [hw1]
    exact ⟨(hl.finish hs he hsize).2.2, .inr rfl⟩

/-! ### The scene -/

/-- A stream whose only producer is task 0, sending `es` and then finishing with `m`, read by the
caller. The task runs, with `p` left of it, and is ready, in line or has given way; or it has
ended. -/
structure Scene (cap : Nat) (es : List StreamEvent) (m : AssistantMessage) (w : World) : Prop
    extends Lone cap w where
  task : (∃ p, w.producers = #[some p] ∧ w.Sending es m p ∧
      (0 ∈ w.runQueue ∨ .task 0 ∈ w.queue.waiting ∨ .task 0 ∈ w.deferred)) ∨
    w.producers = #[none] ∧ w.Ended es m

theorem Scene.size (h : w.Scene cap es m) : w.producers.size = 1 := by
  rcases h.task with ⟨p, hp, -⟩ | ⟨hp, -⟩ <;> rw [hp] <;> rfl

/-- Running the next ready task keeps the scene: the task's run ends in line, having given way,
or with the task ended. -/
theorem Scene.runNext (h : w.Scene cap es m) : w.runNext.2.Scene cap es m := by
  rcases h.runsOne with hq | hq
  · rwa [show w.runNext = (false, w) by simp [World.runNext, hq]]
  rcases h.task with ⟨p, hp, hs, -⟩ | ⟨hp, he⟩
  · let u : World := { w with runQueue := [], budget := budgetPerRun }
    have hl : u.Lone cap := h.start budgetPerRun
    have hrun := hl.runProducer (hs.of_queue rfl rfl rfl id : u.Sending es m p) h.size
    rw [runNext_of_head w hq (by rw [hp]; rfl)]
    generalize u.runProducer 0 p = r at hrun
    rcases r with ⟨_ | p', w'⟩
    · obtain ⟨hl', he', -⟩ := hrun
      exact { hl' with task := .inr ⟨by rw [hp]; rfl, he'.of_queue rfl rfl rfl⟩ }
    · obtain ⟨hl', hs', hwait⟩ := hrun
      exact { hl' with task := .inl ⟨p', by rw [hp]; rfl, hs'.of_queue rfl rfl rfl id, .inr hwait⟩ }
  · have hrun : w.runNext = (true, { w with runQueue := [], budget := budgetPerRun }) := by
      simp [World.runNext, hq, hp]
    rw [hrun]
    exact { toLone := h.start budgetPerRun, task := .inr ⟨hp, he.of_queue rfl rfl rfl⟩ }

theorem Scene.runBatch (h : w.Scene cap es m) (n : Nat) : (w.runBatch n).2.Scene cap es m :=
  runBatch_induct (fun v => v.Scene cap es m) (fun _ hv => hv.runNext) n w h

/-- Waking the parties that gave way leaves none to wake, and makes ready the task if it gave
way, and the caller if it did. -/
theorem wakeDeferred_of_lone (h : w.Lone cap) :
    ∃ rq c, w.wakeDeferred = { w with runQueue := rq, callerWoken := c, deferred := [] } ∧
      (rq = [] ∨ rq = [0]) ∧ (0 ∈ w.runQueue ∨ .task 0 ∈ w.deferred → 0 ∈ rq) ∧
      (w.callerWoken = true ∨ .caller ∈ w.deferred → c = true) := by
  unfold wakeDeferred
  have hds := h.deferred
  have hrq := h.runsOne
  generalize w.deferred = ds at hds ⊢
  induction ds with
  | nil =>
    refine ⟨w.runQueue, w.callerWoken, rfl, hrq, ?_, ?_⟩
    · rintro (hm | hm)
      · exact hm
      · cases hm
    · rintro (hc | hm)
      · exact hc
      · cases hm
  | cons q qs ih =>
    obtain ⟨rq, c, heq, hshape, hzero, hcaller⟩ :=
      ih (fun q' hq' => hds q' (List.mem_cons_of_mem q hq'))
    rw [List.foldr_cons, heq]
    rcases hds q List.mem_cons_self with rfl | rfl
    · refine ⟨rq, true, rfl, hshape, fun hm => hzero (hm.imp id ?_), fun _ => rfl⟩
      exact List.mem_of_ne_of_mem (by simp)
    · refine ⟨[0], c, ?_, .inr rfl, fun _ => List.mem_singleton_self 0, fun hm => hcaller (hm.imp id ?_)⟩
      · rcases hshape with rfl | rfl <;> simp [wake]
      · exact List.mem_of_ne_of_mem (by simp)

theorem Scene.wakeDeferred (h : w.Scene cap es m) :
    w.wakeDeferred.Scene cap es m ∧ w.wakeDeferred.deferred = [] ∧ w.wakeDeferred.queue = w.queue ∧
      (w.callerWoken = true ∨ .caller ∈ w.deferred → w.wakeDeferred.callerWoken = true) := by
  obtain ⟨rq, c, heq, hshape, hzero, hcaller⟩ := wakeDeferred_of_lone h.toLone
  rw [heq]
  refine ⟨⟨⟨h.kept, h.line, h.fair, h.capacity, hshape, fun _ hq => by cases hq⟩, ?_⟩, rfl, rfl,
    hcaller⟩
  rcases h.task with ⟨p, hp, hs, hlive⟩ | ⟨hp, he⟩
  · refine .inl ⟨p, hp, hs.of_queue rfl rfl rfl id, ?_⟩
    rcases hlive with hq | hw | hd
    · exact .inl (hzero (.inl hq))
    · exact .inr (.inl hw)
    · exact .inl (hzero (.inr hd))
  · exact .inr ⟨hp, he.of_queue rfl rfl rfl⟩

/-- With the queue empty, the task does not stand in line, and there is room for its next event:
free, or handed to it. -/
theorem Lone.room_of_empty (hl : w.Lone cap) (he : w.queue.events = []) :
    Party.task 0 ∉ w.queue.waiting ∧ (Party.task 0 ∈ w.queue.granted ∨ 0 < w.queue.room) := by
  have hload : w.queue.room + w.queue.granted.length + (w.queue.log.length - w.queue.taken) + 0 =
      cap := hl.line.load hl.receiverOpen
  have hlen : w.queue.log.length ≤ w.queue.taken := by
    simpa [Queue.events, List.drop_eq_nil_iff] using he
  -- the capacity is not zero, so the slots not taken by events are room, free or handed out
  have hroom : Party.task 0 ∈ w.queue.granted ∨ 0 < w.queue.room := by
    by_cases hr : 0 < w.queue.room
    · exact .inr hr
    · obtain ⟨q, hq⟩ := List.exists_mem_of_length_pos (by have := hl.capacity; omega :
        0 < w.queue.granted.length)
      have hlined : q = Party.task 0 := hl.line.lined q (List.mem_append_right _ hq)
      exact .inl (hlined ▸ hq)
  refine ⟨fun hw => ?_, hroom⟩
  -- a sender in line means no free room, so the task holds room too, and stands in line twice
  have hr0 : w.queue.room = 0 := hl.fair (List.ne_nil_of_mem hw)
  have hg : Party.task 0 ∈ w.queue.granted := hroom.resolve_right (by omega)
  exact (List.nodup_append.1 hl.line.nodup).2.2 _ hw _ hg rfl

theorem runNext_fst_of_cons {i : Nat} {rest : List Nat} (h : w.runQueue = i :: rest) :
    w.runNext.1 = true := by
  unfold World.runNext
  rw [h]
  dsimp only
  split <;> rfl

theorem runBatch_succ_of_runNext (h : w.runNext.1 = true) (n : Nat) :
    w.runBatch (n + 1) = w.runNext.2.runBatch n := by
  rw [World.runBatch]
  generalize w.runNext = r at h
  rcases r with ⟨_ | _, v⟩
  · cases h
  · rfl

/-- A round of the scheduler: the ready tasks run, then the parties that gave way are woken. -/
def round (w : World) : World := (w.runBatch 61).2.wakeDeferred

/-- A round keeps the scene and the consumer's position, and leaves nobody to wake; a caller that
gave way is woken. -/
theorem Scene.round (h : w.Scene cap es m) :
    w.round.Scene cap es m ∧ w.round.deferred = [] ∧ w.round.queue.taken = w.queue.taken ∧
      (.caller ∈ w.deferred → w.round.callerWoken = true) := by
  obtain ⟨hs, hd, hq, hc⟩ := (h.runBatch 61).wakeDeferred
  have hlater := w.later_runBatch 61
  refine ⟨hs, hd, ?_, fun hm => hc (.inr (hlater.deferred hm))⟩
  rw [World.round, hq]
  exact (w.runBatch_senderMove 61).1

/-- A consumer waiting on an empty queue, with the task still holding the sending side, is woken
within one round, and then finds an event queued or the queue closed. -/
theorem Scene.round_wakes (h : w.Scene cap es m) (hd : w.deferred = [])
    (hc : w.queue.consumerWaits = true) (he : w.queue.events = []) (hr : w.queue.senderRefs ≠ 0) :
    w.round.callerWoken = true ∧ (w.round.queue.events ≠ [] ∨ w.round.queue.senderRefs = 0) := by
  obtain ⟨p, hp, hs, hlive⟩ : ∃ p, w.producers = #[some p] ∧ w.Sending es m p ∧
      (0 ∈ w.runQueue ∨ .task 0 ∈ w.queue.waiting ∨ .task 0 ∈ w.deferred) := by
    rcases h.task with hrun | ⟨-, hend⟩
    · exact hrun
    · exact absurd hend.refs hr
  obtain ⟨hnw, hroom⟩ := h.room_of_empty he
  -- the task is ready: it neither stands in line nor gave way
  have hq : w.runQueue = [0] := by
    have h0 : 0 ∈ w.runQueue := by
      rcases hlive with h0 | hw | hdf
      · exact h0
      · exact absurd hw hnw
      · rw [hd] at hdf; cases hdf
    rcases h.runsOne with he' | he'
    · rw [he'] at h0; cases h0
    · exact he'
  set u : World := { w with runQueue := [], budget := budgetPerRun } with hu
  have hl : u.Lone cap := h.start budgetPerRun
  have hsu : u.Sending es m p := hs.of_queue rfl rfl rfl id
  obtain ⟨hwoken, hprog⟩ := hl.runProducer_wakes hsu h.size hc (show budgetPerRun ≠ 0 by decide) hnw hroom
  have hrun := hl.runProducer hsu h.size
  have hnext : w.runNext.2 =
      { (u.runProducer 0 p).2 with producers := w.producers.set! 0 (u.runProducer 0 p).1 } :=
    runNext_of_head w hq (by rw [hp]; rfl)
  have hscene := h.runNext
  have hbatch := runBatch_succ_of_runNext (runNext_fst_of_cons hq) 60
  unfold World.round
  rw [show (61 : Nat) = 60 + 1 from rfl, hbatch]
  rw [hnext] at hscene ⊢
  generalize u.runProducer 0 p = r at hwoken hprog hrun hscene ⊢
  rcases r with ⟨x, v⟩
  set v' : World := { v with producers := w.producers.set! 0 x } with hv'
  obtain ⟨-, -, hqueue, hcall⟩ := (hscene.runBatch 60).wakeDeferred
  rw [hqueue]
  refine ⟨hcall (.inl ((v'.later_runBatch 60).woken hwoken)), ?_⟩
  rcases hprog with hev | hnone
  · -- the event queued stays queued through the rest of the round
    left
    obtain ⟨htaken, -, -, hprefix⟩ := v'.runBatch_senderMove 60
    apply events_ne_nil_iff.2
    have hlt : v.queue.taken < v.queue.log.length := events_ne_nil_iff.1 hev
    have hle := hprefix.length_le
    simp only [core] at htaken hle
    show (v'.runBatch 60).2.queue.taken < (v'.runBatch 60).2.queue.log.length
    rw [htaken]
    exact Nat.lt_of_lt_of_le hlt hle
  · -- the task ended: no task is left, and the queue is closed
    right
    have hx : x = none := hnone
    subst hx
    obtain ⟨-, hend, -⟩ := hrun
    have hidle : v'.idle := by
      intro i q
      rw [hv', hp]
      cases i <;> simp
    obtain ⟨rq, b, heq⟩ := v'.runBatch_idle 60 hidle
    rw [heq]
    exact hend.refs

/-! ### The consumer's look at the queue -/

theorem defer_eq (p : Party) : ∃ ds, w.defer p = { w with deferred := ds } ∧
    (∀ q ∈ ds, q ∈ w.deferred ∨ q = p) ∧ w.deferred ⊆ ds ∧ p ∈ ds := by
  refine ⟨(w.defer p).deferred, ?_, fun q hq => ?_, (w.later_defer p).deferred, w.mem_defer p⟩
  · unfold defer; split <;> rfl
  · unfold defer at hq
    split at hq
    · exact .inl hq
    · simpa using hq

@[simp] theorem deferred_releaseRoom : w.releaseRoom.deferred = w.deferred := by
  unfold releaseRoom; split
  · exact deferred_wake _ _
  · rfl

/-- Room given back goes to the task if it stands in line, which makes it ready. -/
theorem releaseRoom_lone (hlined : ∀ q ∈ w.queue.waiting, q = .task 0) (hrun : w.RunsOne) :
    w.releaseRoom.RunsOne ∧ (0 ∈ w.runQueue ∨ .task 0 ∈ w.queue.waiting → 0 ∈ w.releaseRoom.runQueue) ∧
      (.task 0 ∈ w.releaseRoom.queue.waiting ++ w.releaseRoom.queue.granted →
        .task 0 ∈ w.queue.waiting ++ w.queue.granted) := by
  unfold World.releaseRoom
  split
  · rename_i q rest hw
    have hq : q = .task 0 := hlined q (by simp [hw])
    subst hq
    refine ⟨runsOne_wake _ _ (fun i he => (Party.task.inj he).symm) hrun, fun _ => ?_,
      fun _ => List.mem_append_left _ (by simp [hw])⟩
    simp only [wake]
    split <;> simp_all
  · rename_i hw
    refine ⟨hrun, fun h => h.resolve_right (by simp [hw]), fun hm => ?_⟩
    simpa [hw] using hm

theorem pollActivity_nextEvent_of_kept (hb : w.backlog = some []) :
    w.pollActivity .nextEvent = (w.receive.1.map .event, .nextEvent, w.receive.2) := by
  simp only [pollActivity, nextEvent, hb]
  generalize w.receive = r
  rcases r with ⟨_ | _, v⟩ <;> rfl

/-- A change that leaves the queue's line, the completion, the tasks and who is ready alone, and
gives way to nobody but the caller, keeps the scene. -/
theorem Scene.of_line {w' : World} (h : w.Scene cap es m) (hb : w'.backlog = w.backlog)
    (hline : w'.line.Ok cap 0 (· = .task 0)) (hfair : w'.line.Fair) (hrq : w'.runQueue = w.runQueue)
    (hdef : ∀ q ∈ w'.deferred, q ∈ w.deferred ∨ q = .caller) (hdef' : w.deferred ⊆ w'.deferred)
    (hlog : w'.queue.log = w.queue.log) (hrefs : w'.queue.senderRefs = w.queue.senderRefs)
    (hc : w'.completion = w.completion) (hp : w'.producers = w.producers)
    (hq : w'.queue.waiting = w.queue.waiting) (hg : w'.queue.granted = w.queue.granted) :
    w'.Scene cap es m := by
  refine ⟨⟨hb.trans h.kept, hline, hfair, h.capacity, ?_, fun q hm => ?_⟩, ?_⟩
  · unfold RunsOne; rw [hrq]; exact h.runsOne
  · rcases hdef q hm with hm | rfl
    · exact h.deferred q hm
    · exact .inl rfl
  · rcases h.task with ⟨p, hp', hs, hlive⟩ | ⟨hp', he⟩
    · refine .inl ⟨p, hp.trans hp', hs.of_queue hlog hrefs hc (by rw [hq, hg]; exact id), ?_⟩
      rw [hrq, hq]
      exact hlive.imp_right (Or.imp_right fun hm => hdef' hm)
    · exact .inr ⟨hp.trans hp', he.of_queue hlog hrefs hc⟩

theorem Scene.receive (h : w.Scene cap es m) :
    w.receive.2.Scene cap es m ∧ ∀ q ∈ w.receive.2.deferred, q ∈ w.deferred ∨ q = .caller := by
  have hline := w.receive_ok h.line
  have hfair := w.receive_fair h.fair
  have hcore := w.receive_spec
  by_cases hb : w.budget = 0
  · -- out of budget, the caller gives way
    obtain ⟨ds, hds, hdef, hsub, -⟩ := w.defer_eq .caller
    have hr : w.receive = (none, { w with deferred := ds }) := by simp [World.receive, hb, hds]
    rw [hr] at hline hfair ⊢
    exact ⟨h.of_line rfl hline hfair rfl hdef hsub rfl rfl rfl rfl rfl rfl, hdef⟩
  cases he : w.queue.events with
  | cons e rest =>
    -- an event is taken, and its slot goes back to the line or to the free room
    set v : World := { w.spend with queue := { w.queue with taken := w.queue.taken + 1 } } with hv
    have hr : w.receive = (some (some e), v.releaseRoom) := by simp [World.receive, hb, he, v]
    rw [hr] at hline hfair hcore ⊢
    have hlined : ∀ q ∈ v.queue.waiting, q = .task 0 :=
      fun q hq => h.line.lined q (List.mem_append_left _ hq)
    obtain ⟨hrun, hzero, hmem⟩ := releaseRoom_lone hlined h.runsOne
    have hc : v.releaseRoom.core = v.core := core_releaseRoom v
    have hdef : ∀ q ∈ v.releaseRoom.deferred, q ∈ w.deferred ∨ q = .caller := by
      intro q hq
      rw [deferred_releaseRoom] at hq
      exact .inl hq
    refine ⟨⟨⟨(congrArg Core.backlog hc).trans h.kept, hline, hfair, h.capacity, hrun, ?_⟩, ?_⟩, hdef⟩
    · rw [deferred_releaseRoom]; exact h.deferred
    · rcases h.task with ⟨p, hp, hs, hlive⟩ | ⟨hp, hend⟩
      · refine .inl ⟨p, (congrArg Core.producers hc).trans hp,
          hs.of_queue (congrArg Core.log hc) (congrArg Core.senderRefs hc)
            (congrArg Core.completion hc) hmem, ?_⟩
        rcases hlive with hq | hq | hq
        · exact .inl (hzero (.inl hq))
        · exact .inl (hzero (.inr hq))
        · exact .inr (.inr (by rw [deferred_releaseRoom]; exact hq))
      · exact .inr ⟨(congrArg Core.producers hc).trans hp,
          hend.of_queue (congrArg Core.log hc) (congrArg Core.senderRefs hc)
            (congrArg Core.completion hc)⟩
  | nil =>
    by_cases hr0 : w.queue.senderRefs = 0
    · have hr : w.receive = (some none, w.spend) := by simp [World.receive, hb, he, hr0]
      rw [hr] at hline hfair ⊢
      exact ⟨h.of_line rfl hline hfair rfl (fun q hq => .inl hq) (List.Subset.refl _) rfl rfl rfl rfl
        rfl rfl, fun q hq => .inl hq⟩
    · have hr : w.receive = (none, { w with queue := { w.queue with consumerWaits := true } }) := by
        simp [World.receive, hb, he, hr0]
      rw [hr] at hline hfair ⊢
      exact ⟨h.of_line rfl hline hfair rfl (fun q hq => .inl hq) (List.Subset.refl _) rfl rfl rfl rfl
        rfl rfl, fun q hq => .inl hq⟩

theorem Scene.sched (h : w.Scene cap es m) (c : Bool) (b : Nat) :
    ({ w with callerWoken := c, budget := b } : World).Scene cap es m :=
  h.of_line rfl h.line h.fair rfl (fun _ hq => .inl hq) (List.Subset.refl _) rfl rfl rfl rfl rfl rfl

theorem Scene.waits (h : w.Scene cap es m) :
    ({ w with queue := { w.queue with consumerWaits := true } } : World).Scene cap es m :=
  h.of_line rfl h.line h.fair rfl (fun _ hq => .inl hq) (List.Subset.refl _) rfl rfl rfl rfl rfl rfl

theorem Scene.log_prefix (h : w.Scene cap es m) : w.queue.log <+: es := by
  rcases h.task with ⟨p, -, hs, -⟩ | ⟨-, he⟩
  · exact ⟨p.events, hs.log⟩
  · rw [he.log]

theorem Scene.ended_of_closed (h : w.Scene cap es m) (hr : w.queue.senderRefs = 0) : w.Ended es m := by
  rcases h.task with ⟨p, -, hs, -⟩ | ⟨-, he⟩
  · rw [hs.refs] at hr; cases hr
  · exact he

/-- With budget left, a look at a queue that holds an event or is closed answers with the event
at the consumer's position, or with none past the end of `es`. -/
theorem Scene.receive_reply (h : w.Scene cap es m) (hb : w.budget ≠ 0)
    (hp : w.queue.events ≠ [] ∨ w.queue.senderRefs = 0) :
    w.receive.1 = some es[w.queue.taken]? ∧
      w.receive.2.queue.taken = (if w.queue.taken < es.length then w.queue.taken + 1 else w.queue.taken) ∧
      w.receive.2.deferred = w.deferred ∧
      (es.length ≤ w.queue.taken → w.receive.2.Ended es m) := by
  obtain ⟨rest, hrest⟩ := h.log_prefix
  have ht : w.queue.taken ≤ w.queue.log.length := h.line.taken
  cases he : w.queue.events with
  | cons e evs =>
    have hr : w.receive = (some (some e), ({ w.spend with queue := { w.queue with
        taken := w.queue.taken + 1 } } : World).releaseRoom) := by simp [World.receive, hb, he]
    have hlt : w.queue.taken < w.queue.log.length := by
      have := congrArg List.length he
      simp only [Queue.events, List.length_drop, List.length_cons] at this
      omega
    have hes : es.length = w.queue.log.length + rest.length := by rw [← hrest, List.length_append]
    have hget : es[w.queue.taken]? = some e := by
      have := congrArg List.head? he
      simp only [Queue.events, List.head?_drop, List.head?_cons] at this
      rw [← hrest, List.getElem?_append_left hlt, this]
    rw [hr, hget, if_pos (by omega)]
    exact ⟨rfl, congrArg Core.taken (core_releaseRoom _), deferred_releaseRoom,
      fun h => absurd h (by omega)⟩
  | nil =>
    have hr0 : w.queue.senderRefs = 0 := hp.resolve_left (by simp [he])
    have hr : w.receive = (some none, w.spend) := by simp [World.receive, hb, he, hr0]
    have hend := h.ended_of_closed hr0
    -- all of `es` is in the log, and the consumer has taken it
    have hlen : es.length ≤ w.queue.taken := by
      rw [← hend.log]
      simpa [Queue.events] using he
    rw [hr, List.getElem?_eq_none hlen, if_neg (by omega)]
    exact ⟨rfl, rfl, rfl, fun _ => hend.of_queue rfl rfl rfl⟩

/-- The call for the next event made at position `t` is answered with the event there, none past
the end of `es`; the scene is kept with nobody left to wake, the consumer has moved past the
event, and past the end the task has ended. -/
def ReadsAt (cap : Nat) (es : List StreamEvent) (m : AssistantMessage) (t : Nat)
    (r : Option Reply × World) : Prop :=
  r.1 = some (.event es[t]?) ∧ r.2.Scene cap es m ∧ r.2.deferred = [] ∧
    r.2.queue.taken = (if t < es.length then t + 1 else t) ∧ (es.length ≤ t → r.2.Ended es m)

theorem Scene.look (h : w.Scene cap es m) (hd : w.deferred = []) (hb : w.budget ≠ 0)
    (hp : w.queue.events ≠ [] ∨ w.queue.senderRefs = 0) :
    w.pollActivity .nextEvent = (some (.event es[w.queue.taken]?), .nextEvent, w.receive.2) ∧
      ReadsAt cap es m w.queue.taken (some (.event es[w.queue.taken]?), w.receive.2) := by
  obtain ⟨hreply, htaken, hdef, hend⟩ := h.receive_reply hb hp
  rw [pollActivity_nextEvent_of_kept h.kept, hreply]
  exact ⟨rfl, rfl, h.receive.1, hdef.trans hd, htaken, hend⟩

theorem Scene.look_waits (h : w.Scene cap es m) (hb : w.budget ≠ 0) (he : w.queue.events = [])
    (hr : w.queue.senderRefs ≠ 0) :
    w.pollActivity .nextEvent =
      (none, .nextEvent, { w with queue := { w.queue with consumerWaits := true } }) := by
  rw [pollActivity_nextEvent_of_kept h.kept]
  simp [World.receive, hb, he, hr]

/-- A round after the consumer started to wait answers it. -/
theorem Scene.go_waiting (h : w.Scene cap es m) (hd : w.deferred = [])
    (hc : w.queue.consumerWaits = true) (he : w.queue.events = []) (hr : w.queue.senderRefs ≠ 0)
    (fuel : Nat) : ReadsAt cap es m w.queue.taken (perform.go w .nextEvent (fuel + 1)) := by
  obtain ⟨hwoken, hprog⟩ := h.round_wakes hd hc he hr
  obtain ⟨hround, hdr, htaken, -⟩ := h.round
  rw [perform.go, show (w.runBatch 61).2.wakeDeferred = w.round from rfl]
  rw [if_pos hwoken]
  obtain ⟨hpoll, hreads⟩ :=
    (hround.sched false budgetPerRun).look hdr (show budgetPerRun ≠ 0 by decide) hprog
  rw [hpoll]
  rw [← htaken]
  exact hreads

/-- A look with budget left answers, or the consumer waits and the next round answers it. -/
theorem Scene.look_then_go (h : w.Scene cap es m) (hd : w.deferred = []) (hb : w.budget ≠ 0)
    (fuel : Nat) :
    ReadsAt cap es m w.queue.taken
      (match w.pollActivity .nextEvent with
        | (some r, _, w') => (some r, w')
        | (none, a, w') => perform.go w' a (fuel + 1)) := by
  by_cases hp : w.queue.events ≠ [] ∨ w.queue.senderRefs = 0
  · obtain ⟨hpoll, hreads⟩ := h.look hd hb hp
    rw [hpoll]
    exact hreads
  · have he : w.queue.events = [] := by simpa using (not_or.1 hp).1
    have hr : w.queue.senderRefs ≠ 0 := (not_or.1 hp).2
    rw [h.look_waits hb he hr]
    exact h.waits.go_waiting hd rfl he hr fuel

/-- A round after the caller gave way wakes it; its look answers, or it waits and the next round
answers it. -/
theorem Scene.go_deferred (h : w.Scene cap es m) (hd : .caller ∈ w.deferred) (fuel : Nat) :
    ReadsAt cap es m w.queue.taken (perform.go w .nextEvent (fuel + 2)) := by
  obtain ⟨hround, hdr, htaken, hwoken⟩ := h.round
  rw [perform.go, show (w.runBatch 61).2.wakeDeferred = w.round from rfl]
  rw [if_pos (hwoken hd), ← htaken]
  exact (hround.sched false budgetPerRun).look_then_go hdr (show budgetPerRun ≠ 0 by decide) fuel

/-- The call for the next event is answered, with the event at the consumer's position. -/
theorem Scene.perform_nextEvent (h : w.Scene cap es m) (hd : w.deferred = []) :
    ReadsAt cap es m w.queue.taken (w.perform .nextEvent) := by
  set X : World := { w with callerWoken := false } with hX
  have h0 : X.Scene cap es m := h.sched false w.budget
  unfold perform
  by_cases hb : w.budget = 0
  · -- out of budget: the caller gives way and is woken by the next round
    obtain ⟨ds, hds, -, -, hmem⟩ := X.defer_eq .caller
    have hrec : X.receive = (none, { X with deferred := ds }) := by
      unfold World.receive
      rw [if_pos (show X.budget = 0 from hb), hds]
    have hpoll : X.pollActivity .nextEvent = (none, .nextEvent, { X with deferred := ds }) := by
      rw [pollActivity_nextEvent_of_kept h0.kept, hrec]
      rfl
    have hscene : ({ X with deferred := ds } : World).Scene cap es m := by
      have := h0.receive.1
      rwa [hrec] at this
    rw [hpoll]
    exact hscene.go_deferred hmem 99998
  exact h0.look_then_go hd hb 99999

/-! ### Reading to the end -/

theorem run_append (ops ops' : List Op) :
    w.run (ops ++ ops') = ((w.run ops).1 ++ ((w.run ops).2.run ops').1, ((w.run ops).2.run ops').2) := by
  induction ops generalizing w with
  | nil => rfl
  | cons op ops ih => simp only [List.cons_append, World.run, ih, List.cons_append]

theorem Scene.exec_nextEvent (h : w.Scene cap es m) : w.exec .nextEvent = w.perform .nextEvent := by
  simp [exec, kept, h.kept]

/-- Calls for the next event, made one after another from position `t`, are answered with the
events of `es` from `t` on, then with none; once past the end, the task has ended. -/
theorem Scene.run_nextEvent (h : w.Scene cap es m) (hd : w.deferred = []) (k : Nat) :
    (w.run (List.replicate k .nextEvent)).1 =
        (List.range k).map (fun i => some (.event es[w.queue.taken + i]?)) ∧
      (w.run (List.replicate k .nextEvent)).2.Scene cap es m ∧
      (es.length < w.queue.taken + k → (w.run (List.replicate k .nextEvent)).2.Ended es m) := by
  induction k generalizing w with
  | zero =>
    obtain ⟨rest, hrest⟩ := h.log_prefix
    have ht : w.queue.taken ≤ w.queue.log.length := h.line.taken
    have hlen : w.queue.log.length ≤ es.length := by rw [← hrest, List.length_append]; omega
    exact ⟨rfl, h, fun hlt => absurd hlt (by omega)⟩
  | succ k ih =>
    obtain ⟨hr, hs, hd', ht, hend⟩ := h.perform_nextEvent hd
    rw [List.replicate_succ, World.run, h.exec_nextEvent]
    generalize w.perform .nextEvent = r at hr hs hd' ht hend
    rcases r with ⟨r, w'⟩
    obtain ⟨ih1, ih2, ih3⟩ := ih hs hd'
    simp only at hr ih1 ih2 ih3 ht hend ⊢
    -- past the end, every later call finds the same nothing
    have hshift : ∀ i, es[w'.queue.taken + i]? = es[w.queue.taken + (i + 1)]? := by
      intro i
      rw [ht]
      split
      · congr 1; omega
      · rw [List.getElem?_eq_none (by omega), List.getElem?_eq_none (by omega)]
    refine ⟨?_, ih2, fun hlt => ?_⟩
    · rw [hr, ih1, List.range_succ_eq_map, List.map_cons, List.map_map]
      simp only [Nat.add_zero, Function.comp_def, hshift]
    · by_cases hk : es.length < w'.queue.taken + k
      · exact ih3 hk
      · -- the last call was made at the end, and found the task ended
        have hk0 : k = 0 := by rw [ht] at hk; split at hk <;> omega
        subst hk0
        exact hend (by rw [ht] at hk; split at hk <;> omega)

/-- The caller moves its only handle into a task that sends `es` and finishes with `m`. -/
theorem new_spawn_scene (cap : Nat) (es : List StreamEvent) (m : AssistantMessage) :
    ((World.new cap).exec (.spawnProducer 0 es (some m))).1 = some .unit ∧
      ((World.new cap).exec (.spawnProducer 0 es (some m))).2.Scene (max cap 1) es m ∧
      ((World.new cap).exec (.spawnProducer 0 es (some m))).2.deferred = [] ∧
      ((World.new cap).exec (.spawnProducer 0 es (some m))).2.queue.taken = 0 := by
  have heq : (World.new cap).exec (.spawnProducer 0 es (some m)) =
      (some .unit,
        { queue := ({ capacity := max cap 1, room := max cap 1 } : Queue)
          handles := #[false]
          producers := #[some { events := es, finish := some m }]
          runQueue := [0] }) := rfl
  rw [heq]
  refine ⟨rfl, ⟨⟨rfl, ?_, fun hw => absurd rfl hw, by omega, .inr rfl, fun _ hq => by cases hq⟩, ?_⟩,
    rfl, rfl⟩
  · refine ⟨List.nodup_nil, (fun _ hq => by cases hq), fun _ => ?_, Nat.le_refl 0, rfl⟩
    show max cap 1 + 0 + (0 - 0) + 0 = max cap 1
    simp
  · refine .inl ⟨_, rfl, ⟨List.nil_append es, rfl, rfl, rfl, (fun h => by cases h),
      (fun h => by cases h)⟩, .inl (List.mem_singleton_self 0)⟩

theorem map_getElem?_range {α β : Type} (f : Option α → β) (l : List α) :
    (List.range l.length).map (fun i => f l[i]?) = l.map (fun a => f (some a)) := by
  apply List.ext_getElem (by simp)
  intro i _ h2
  have hi : i < l.length := by simpa using h2
  simp [List.getElem?_eq_getElem hi]

end World

open World in
/-- One task holds the stream's only handle, sends `es` and finishes with `m`, while the caller
reads. Whatever the queue's capacity, the caller's calls for the next event are all answered:
with the events of `es` in order, then with the end; the result is then `m`. -/
theorem lone_task_reads_in_order (cap : Nat) (es : List StreamEvent) (m : AssistantMessage) :
    ((World.new cap).run (.spawnProducer 0 es (some m) ::
        (List.replicate (es.length + 1) .nextEvent ++ [.result]))).1 =
      some .unit :: (es.map (fun e => some (.event (some e))) ++
        [some (.event none), some (.message m)]) := by
  obtain ⟨h1, hs, hd, ht⟩ := new_spawn_scene cap es m
  rw [World.run]
  generalize (World.new cap).exec (.spawnProducer 0 es (some m)) = r at h1 hs hd ht ⊢
  rcases r with ⟨r, w⟩
  simp only at h1 hs hd ht ⊢
  rw [h1, run_append]
  obtain ⟨hreads, hs', hend⟩ := hs.run_nextEvent hd (es.length + 1)
  have hdone := hend (by omega)
  have hres := exec_result_of_done (w.run (List.replicate (es.length + 1) .nextEvent)).2
    (by simp [kept, hs'.kept]) (by rw [hdone.completion])
  simp only [World.run, hres, hdone.completion, Option.getD_some, hreads, ht, Nat.zero_add,
    List.range_succ, List.map_append, List.map_cons, List.map_nil,
    List.getElem?_eq_none (Nat.le_refl _), List.cons.injEq, true_and, List.append_assoc,
    List.singleton_append]
  exact congrArg (· ++ _) (map_getElem?_range (fun o => some (Reply.event o)) es)

example : ((World.new 1).run (.spawnProducer 0 [.ping, .ping] (some {}) ::
    (List.replicate 3 .nextEvent ++ [.result]))).1 =
    [some .unit, some (.event (some .ping)), some (.event (some .ping)), some (.event none),
      some (.message {})] := by
  decide +kernel

end ChatStream.Stream

/-! ### The read loop as a producer task -/

open ChatStream.Stream

namespace ChatStream

/-- The producer task that performs `sigs`: it sends what the signals send up to the first
completion, and finishes as that completion says. A completion with an error becomes its `error`
event and a finish with the empty message, which is what `finishWithError` shows the consumer of
a task holding the only handle. A list that never completes gives a task with no message. -/
def Signal.task : List Signal → Producer
  | [] => { events := [], finish := none }
  | .send e :: rest => { events := e :: (Signal.task rest).events, finish := (Signal.task rest).finish }
  | .finish m :: _ => { events := [], finish := some m }
  | .finishWithError e :: _ => { events := [.error e], finish := some {} }

/-- A task performing signals that complete sends the transcript's events and finishes with its
message. -/
theorem Signal.task_of_completes {sigs : List Signal} (h : ∃ c ∈ sigs, c.completes = true) :
    (Signal.task sigs).events = (Transcript.ofSignals sigs).events ∧
      (Signal.task sigs).finish = some (Transcript.ofSignals sigs).result := by
  induction sigs with
  | nil => simp at h
  | cons s rest ih =>
    cases s with
    | send e =>
      have hrest : ∃ c ∈ rest, c.completes = true := by
        obtain ⟨c, hc, hcomp⟩ := h
        rcases List.mem_cons.1 hc with rfl | hc
        · cases hcomp
        · exact ⟨c, hc, hcomp⟩
      obtain ⟨he, hf⟩ := ih hrest
      simp [Signal.task, Transcript.ofSignals, Transcript.after, he, hf]
    | finish m => exact ⟨rfl, rfl⟩
    | finishWithError e => exact ⟨rfl, rfl⟩

/-- A producer task performing signals that complete, holding the stream's only handle while the
caller reads: the caller's calls for the next event are answered with the events the transcript
of the signals lists, then with the end, and the result is the transcript's message, whatever the
capacity of the queue. -/
theorem signals_task_reads_transcript (cap : Nat) (sigs : List Signal)
    (h : ∃ c ∈ sigs, c.completes = true) :
    let t := Transcript.ofSignals sigs
    ((World.new cap).run (.spawnProducer 0 (Signal.task sigs).events (Signal.task sigs).finish ::
        (List.replicate (t.events.length + 1) .nextEvent ++ [.result]))).1 =
      some .unit :: (t.events.map (fun e => some (.event (some e))) ++
        [some (.event none), some (.message t.result)]) := by
  obtain ⟨he, hf⟩ := Signal.task_of_completes h
  rw [he, hf]
  exact lone_task_reads_in_order cap _ _

/-- The read loop over a source that ends, run as the producer task of a stream the caller reads:
the caller reads what `drive` computes, event by event, then the end, then its message. -/
theorem Processor.drive_task_reads_transcript {σ α : Type} (p : Processor σ α) (cancelled : Bool)
    (s : σ) (items : List (SourceItem α)) (cap : Nat) :
    let sigs := p.signals { items, cancelAt := if cancelled then some 0 else none } s
    let t := p.drive cancelled s items
    ((World.new cap).run (.spawnProducer 0 (Signal.task sigs).events (Signal.task sigs).finish ::
        (List.replicate (t.events.length + 1) .nextEvent ++ [.result]))).1 =
      some .unit :: (t.events.map (fun e => some (.event (some e))) ++
        [some (.event none), some (.message t.result)]) := by
  intro sigs t
  -- the source ends, so the loop completes the stream with its last signal
  have hwait := p.reading_not_waiting
    (show ({ items, cancelAt := if cancelled then some 0 else none } : Source α).ends = true from rfl)
    0 s items
  obtain ⟨sent, c, hsig, hc⟩ := (p.readingSignals_completes _).1 hwait
  have hcomp : ∃ c ∈ sigs, c.completes = true :=
    ⟨c, by rw [show sigs = _ from p.signals_eq_reading _ s, hsig]; simp, hc⟩
  exact signals_task_reads_transcript cap sigs hcomp

end ChatStream
