import ChatStream.Proofs.ChannelClosing

/-! # The consumer reads every event once, in order

Events can wait in two places: the queue, and the backlog that waiting for the result fills
with events it takes off a full queue. The queue keeps the log of everything written to it; the
consumer's reads, then what is pending for it (the backlog, then the unread part of the queue),
are always the log (`Core.Reads`). Producers only add to the end of the log (`SenderMove`); the
consumer only moves events from pending to read, or from the queue to the backlog. -/

namespace ChatStream.Stream

/-- `c'` is `c` with at most the sending side changed: events added to the end of the log, the
references, the completion, the handles and the tasks. The consumer's position, presence and
backlog stay. -/
def Core.SenderMove (c c' : Core) : Prop :=
  c'.taken = c.taken ∧ c'.receiverOpen = c.receiverOpen ∧ c'.backlog = c.backlog ∧ c.log <+: c'.log

namespace Core.SenderMove

theorem refl (c : Core) : c.SenderMove c := ⟨rfl, rfl, rfl, List.prefix_refl _⟩

theorem trans {c c' c'' : Core} (h : c.SenderMove c') (h' : c'.SenderMove c'') : c.SenderMove c'' :=
  ⟨h'.1.trans h.1, h'.2.1.trans h.2.1, h'.2.2.1.trans h.2.2.1, h.2.2.2.trans h'.2.2.2⟩

theorem pending {c c' : Core} (h : c.SenderMove c') (ht : c.taken ≤ c.log.length) :
    ∃ xs, c'.log = c.log ++ xs ∧ c'.pending = c.pending ++ xs := by
  obtain ⟨xs, hxs⟩ := h.2.2.2
  refine ⟨xs, hxs.symm, ?_⟩
  simp only [Core.pending, h.1, h.2.2.1, ← hxs, List.drop_append_of_le_length ht, List.append_assoc]

end Core.SenderMove

/-- The call leaves the consumer its stream: it neither collects the result nor drops the stream. -/
def Op.keepsStream : Op → Bool
  | .collectResult | .dropStream => false
  | _ => true

/-- The events an answer gives the consumer: the event of a `nextEvent` answer, if any. -/
def Reply.read : Option Reply → List StreamEvent
  | some (.event (some e)) => [e]
  | _ => []

/-- The consumer has read `d`, and still has the stream: what it read, then what is pending for
it, is the log. -/
def Core.Reads (d : List StreamEvent) (c : Core) : Prop :=
  d ++ c.pending = c.log ∧ c.backlog.isSome ∧ c.taken ≤ c.log.length

theorem Core.Reads.senderMove {d : List StreamEvent} {c c' : Core} (h : c.Reads d)
    (hm : c.SenderMove c') : c'.Reads d := by
  obtain ⟨xs, hlog, hp⟩ := hm.pending h.2.2
  refine ⟨by rw [hp, hlog, ← List.append_assoc, h.1], hm.2.2.1 ▸ h.2.1, ?_⟩
  rw [hm.1, hlog, List.length_append]
  exact Nat.le_add_right_of_le h.2.2

namespace World

variable (w : World)

theorem pollSend_senderMove (p : Party) (e : StreamEvent) (ph : SendPhase) :
    w.core.SenderMove (w.pollSend p e ph).2.2.core := by
  have h := w.pollSend_spec p e ph
  generalize w.pollSend p e ph = r at h
  rcases r with ⟨_ | ok, ph', w'⟩
  · rw [h.2]; exact .refl _
  · rw [h.2.2]
    refine ⟨rfl, rfl, rfl, ?_⟩
    split
    · exact List.prefix_append _ _
    · exact List.prefix_refl _

theorem complete_senderMove (m : AssistantMessage) : w.core.SenderMove (w.complete m).core := by
  rw [core_complete]; exact ⟨rfl, rfl, rfl, List.prefix_refl _⟩

theorem finishWith_senderMove (m : AssistantMessage) : w.core.SenderMove (w.finishWith m).2.core := by
  cases hc : w.completion.claimed
  · rw [finishWith_of_unclaimed w m hc]
    exact complete_senderMove _ m
  · rw [finishWith_of_claimed w m hc]; exact .refl _

theorem dropHandle_senderMove : w.core.SenderMove w.dropHandle.core := by
  by_cases hk : w.completion.handles = 1 ∧ w.completion.claimed = false
  · obtain ⟨lost, -, h⟩ := w.core_dropHandle_of_last hk.1 hk.2
    rw [h]; exact ⟨rfl, rfl, rfl, List.prefix_append _ _⟩
  · have hk : w.completion.handles ≠ 1 ∨ w.completion.claimed = true := by
      cases hc : w.completion.claimed <;> simp_all
    rw [w.core_dropHandle_of_kept hk]; exact ⟨rfl, rfl, rfl, List.prefix_refl _⟩

theorem runProducer_senderMove (i : Nat) (p : Producer) :
    w.core.SenderMove (w.runProducer i p).2.core := by
  fun_induction runProducer w i p with
  | case1 w p e rest _ ok ph w' hpoll ih =>
    have h := w.pollSend_senderMove (.task i) e p.phase
    rw [hpoll] at h
    exact h.trans ih
  | case2 w p e rest _ ph w' hpoll =>
    have h := w.pollSend_senderMove (.task i) e p.phase
    rw [hpoll] at h
    exact h
  | case3 w p _ w1 =>
    dsimp only [w1]
    cases p.finish with
    | none => exact w.dropHandle_senderMove
    | some m => exact (w.finishWith_senderMove m).trans (dropHandle_senderMove _)

theorem runNext_senderMove : w.core.SenderMove w.runNext.2.core := by
  unfold runNext
  split
  · exact .refl _
  · rename_i i rest _
    dsimp only
    split
    · rename_i p hp
      have h := runProducer_senderMove { w with runQueue := rest, budget := budgetPerRun } i p
      generalize World.runProducer _ i p = res at h ⊢
      rcases res with ⟨p', w'⟩
      exact ⟨h.1, h.2.1, h.2.2.1, h.2.2.2⟩
    · exact .refl _

theorem runBatch_senderMove (n : Nat) : w.core.SenderMove (w.runBatch n).2.core :=
  runBatch_induct (fun v => w.core.SenderMove v.core) (fun v h => h.trans v.runNext_senderMove)
    n w (.refl _)

/-- On a kept stream, the consumer's next event is the first pending one, or none when nothing
is pending; while it waits nothing changes. -/
theorem nextEvent_pending (hk : w.backlog.isSome) :
    match w.nextEvent with
    | (some x, v) => x = w.core.pending.head? ∧ v.core.pending = w.core.pending.tail ∧
        v.backlog.isSome
    | (none, v) => v.core = w.core := by
  unfold nextEvent
  cases hb : w.backlog with
  | none => simp [hb] at hk
  | some b =>
    cases b with
    | cons e rest => simp [Core.pending, core, hb]
    | nil =>
      have hs := w.receive_spec
      simp only
      generalize w.receive = res at hs ⊢
      rcases res with ⟨_ | _ | e, v⟩ <;> dsimp only at hs ⊢
      · exact hs
      · -- the queue is closed and empty: nothing is pending
        obtain ⟨he, -, hv⟩ := hs
        simp only [Queue.events] at he
        have hvb : v.backlog = some [] := by
          rw [show v.backlog = v.core.backlog from rfl, hv]; exact hb
        rw [hv]
        simp [Core.pending, core, hb, he, hvb]
      · obtain ⟨he, hv⟩ := hs
        simp only [Queue.events] at he
        have hvb : v.backlog = some [] := by
          rw [show v.backlog = v.core.backlog from rfl, hv]; exact hb
        refine ⟨?_, ?_, by simp [hvb]⟩
        · simp [Core.pending, core, hb, he]
        · rw [hv]
          simp only [Core.pending, core, hb, Option.getD_some, List.nil_append]
          rw [← List.drop_drop, List.drop_one]

theorem awaitResult_pending (fuel : Nat) (hk : w.backlog.isSome) :
    (w.awaitResult fuel).2.core.pending = w.core.pending ∧ (w.awaitResult fuel).2.backlog.isSome := by
  induction fuel generalizing w with
  | zero => exact ⟨rfl, hk⟩
  | succ fuel ih =>
    have same : ∀ v : World, v.core = w.core → v.core.pending = w.core.pending ∧ v.backlog.isSome :=
      fun v hv => ⟨by rw [hv], by rw [show v.backlog = v.core.backlog from rfl, hv]; exact hk⟩
    rw [awaitResult]
    split
    · exact ⟨rfl, hk⟩
    · split
      · exact same _ (core_defer w .caller)
      · have hs := w.receive_spec
        generalize w.receive = res at hs ⊢
        rcases res with ⟨_ | _ | e, v⟩ <;> dsimp only at hs ⊢
        · exact same v hs
        · split <;> exact same v hs.2.2
        · -- the event taken off the queue goes to the end of the backlog
          obtain ⟨he, hv⟩ := hs
          obtain ⟨t, ht⟩ := List.head?_eq_some_iff.1 he
          have hvb : v.backlog = w.backlog := by
            rw [show v.backlog = v.core.backlog from rfl, hv]; rfl
          obtain ⟨b, hb⟩ := Option.isSome_iff_exists.1 hk
          obtain ⟨h1, h2⟩ := ih { v with backlog := v.backlog.map (· ++ [e]) } (by simp [hvb, hb])
          refine ⟨?_, h2⟩
          rw [h1]
          have hlog : v.queue.log.drop v.queue.taken = t := by
            rw [show v.queue.log = v.core.log from rfl, show v.queue.taken = v.core.taken from rfl, hv]
            simp only [core, Queue.events] at ht ⊢
            rw [← List.drop_drop, ht, List.drop_one, List.tail_cons]
          simp only [Core.pending, core, hvb, hb, Option.map_some, Option.getD_some, hlog,
            List.append_assoc, List.singleton_append]
          simp only [Queue.events] at ht
          rw [ht]

/-- One look at the caller's operation, other than a collection: what it answers is the next
pending event when it reads one, and the consumer keeps reading the log in order. -/
theorem pollActivity_reads (a : Activity) (d : List StreamEvent) (h : w.core.Reads d)
    (ha : a ≠ .collect) :
    match w.pollActivity a with
    | (some r, _, v) => v.core.Reads (d ++ Reply.read (some r)) ∧ w.core.log <+: v.core.log
    | (none, a', v) => v.core.Reads d ∧ a' ≠ .collect ∧ w.core.log <+: v.core.log := by
  have consumer : ∀ v : World, w.core.ConsumerMove v.core → v.core.pending = w.core.pending →
      v.backlog.isSome → v.core.Reads d ∧ w.core.log <+: v.core.log := by
    rintro v ⟨t, o, b, hv, ht⟩ hp hb
    have hlog : v.core.log = w.core.log := by rw [hv]
    refine ⟨⟨by rw [hp, hlog]; exact h.1, hb, ?_⟩, by rw [hlog]⟩
    rw [hv]; exact ht h.2.2
  cases a with
  | send e ph =>
    have hm := w.pollSend_senderMove .caller e ph
    simp only [pollActivity]
    generalize w.pollSend .caller e ph = res at hm ⊢
    rcases res with ⟨_ | ok, ph', v⟩
    · exact ⟨h.senderMove hm, (by simp), hm.2.2.2⟩
    · exact ⟨by simpa [Reply.read] using h.senderMove hm, hm.2.2.2⟩
  | finishWithError err ph =>
    have hm := w.pollSend_senderMove .caller (.error err) ph
    simp only [pollActivity]
    generalize w.pollSend .caller (.error err) ph = res at hm ⊢
    rcases res with ⟨_ | ok, ph', v⟩
    · exact ⟨h.senderMove hm, (by simp), hm.2.2.2⟩
    · have hm := hm.trans (v.complete_senderMove {})
      exact ⟨by simpa [Reply.read] using h.senderMove hm, hm.2.2.2⟩
  | nextEvent =>
    have hp := w.nextEvent_pending h.2.1
    have hm := w.nextEvent_consumerMove
    simp only [pollActivity]
    generalize w.nextEvent = res at hp hm ⊢
    rcases res with ⟨_ | x, v⟩ <;> dsimp only at hp ⊢
    · exact ⟨by rw [hp]; exact h, (by simp), by rw [hp]⟩
    · -- the answer is the first pending event: it moves from pending to read
      obtain ⟨t, o, b, hv, ht⟩ := hm
      obtain ⟨hx, hpend, hb⟩ := hp
      refine ⟨⟨?_, hb, by rw [hv]; exact ht h.2.2⟩, by rw [hv]⟩
      rw [hpend, show v.core.log = w.core.log by rw [hv], ← h.1, hx]
      cases w.core.pending <;> simp [Reply.read]
  | result =>
    have hp := w.awaitResult_pending (w.queue.events.length + 1) h.2.1
    have hm := w.awaitResult_consumerMove (w.queue.events.length + 1)
    simp only [pollActivity]
    generalize w.awaitResult _ = res at hp hm ⊢
    rcases res with ⟨_ | m, v⟩
    · exact ⟨(consumer v hm hp.1 hp.2).1, (by simp), (consumer v hm hp.1 hp.2).2⟩
    · simpa [Reply.read] using consumer v hm hp.1 hp.2
  | collect => exact absurd rfl ha
  | pause resumed =>
    cases resumed
    · have hv : (w.defer .caller).core = w.core := core_defer w .caller
      simp only [pollActivity, Bool.false_eq_true, if_false]
      exact ⟨by rw [hv]; exact h, (by simp), by rw [hv]⟩
    · simp only [pollActivity, if_true]
      exact ⟨by simpa [Reply.read] using h, List.prefix_refl _⟩

theorem abandon_senderMove (a : Activity) (ha : a ≠ .collect) :
    w.core.SenderMove (w.abandon a).core := by
  cases a with
  | send e ph =>
    cases ph
    · exact .refl _
    · simp only [abandon, core_dropRef, core_leaveLine]
      exact ⟨rfl, rfl, rfl, List.prefix_refl _⟩
  | finishWithError err ph =>
    cases ph
    · exact .refl _
    · simp only [abandon, core_dropRef, core_leaveLine]
      exact ⟨rfl, rfl, rfl, List.prefix_refl _⟩
  | collect => exact absurd rfl ha
  | nextEvent => exact .refl _
  | result => exact .refl _
  | pause resumed => exact .refl _

/-- An operation of the caller, other than a collection, keeps the consumer reading the log in
order: it reads the event it answers with, if any, and the log only grows. -/
theorem perform_reads (a : Activity) (ha : a ≠ .collect) (d : List StreamEvent)
    (h : w.core.Reads d) :
    (w.perform a).2.core.Reads (d ++ Reply.read (w.perform a).1) ∧
      w.core.log <+: (w.perform a).2.core.log := by
  refine perform_induct
    (fun v a => v.core.Reads d ∧ a ≠ .collect ∧ w.core.log <+: v.core.log)
    (fun r v => v.core.Reads (d ++ Reply.read r) ∧ w.core.log <+: v.core.log)
    ?batch (fun _ _ _ hq => ⟨hq, hq⟩) ?poll ?abandon w a ⟨h, ha, List.prefix_refl _⟩
  case batch =>
    rintro v a ⟨hv, ha, hl⟩
    have hm : v.core.SenderMove (v.runBatch 61).2.wakeDeferred.core := by
      rw [core_wakeDeferred]; exact v.runBatch_senderMove 61
    exact ⟨hv.senderMove hm, ha, hl.trans hm.2.2.2⟩
  case poll =>
    rintro v a ⟨hv, ha, hl⟩
    have hp := v.pollActivity_reads a d hv ha
    generalize v.pollActivity a = res at hp ⊢
    rcases res with ⟨_ | r, a', v'⟩
    · exact ⟨hp.1, hp.2.1, hl.trans hp.2.2⟩
    · exact ⟨hp.1, hl.trans hp.2⟩
  case abandon =>
    rintro v a ⟨hv, ha, hl⟩
    have hm := v.abandon_senderMove a ha
    exact ⟨by simpa [Reply.read] using hv.senderMove hm, hl.trans hm.2.2.2⟩

theorem perform_read_nil (a : Activity) (ha : a ≠ .nextEvent) : Reply.read (w.perform a).1 = [] := by
  refine perform_induct (fun _ a => a ≠ .nextEvent) (fun r _ => Reply.read r = [])
    (fun _ _ h => h) (fun _ _ _ h => ⟨h, h⟩) ?_ (fun _ _ _ => rfl) w a ha
  intro v a ha
  cases a with
  | send e ph =>
    simp only [pollActivity]
    generalize v.pollSend .caller e ph = res
    rcases res with ⟨_ | ok, ph', v'⟩
    · simp
    · rfl
  | finishWithError err ph =>
    simp only [pollActivity]
    generalize v.pollSend .caller (.error err) ph = res
    rcases res with ⟨_ | ok, ph', v'⟩
    · simp
    · rfl
  | nextEvent => exact absurd rfl ha
  | result =>
    simp only [pollActivity]
    generalize v.awaitResult _ = res
    rcases res with ⟨_ | m, v'⟩
    · simp
    · rfl
  | collect =>
    simp only [pollActivity]
    generalize v.collect _ = res
    rcases res with ⟨_ | m, v'⟩
    · simp
    · rfl
  | pause resumed =>
    cases resumed
    · simp [pollActivity]
    · rfl

/-- Every call that leaves the consumer its stream keeps it reading the log in order: it reads
the event it answers with, if any, and the log only grows. -/
theorem exec_reads (op : Op) (hop : op.keepsStream = true) (d : List StreamEvent)
    (h : w.core.Reads d) :
    (w.exec op).2.core.Reads (d ++ Reply.read (w.exec op).1) ∧
      w.core.log <+: (w.exec op).2.core.log := by
  -- a call answering without reading moves the sending side only
  have sender : ∀ (r : Option Reply) (v : World), Reply.read r = [] → w.core.SenderMove v.core →
      v.core.Reads (d ++ Reply.read r) ∧ w.core.log <+: v.core.log :=
    fun r v hr hm => ⟨by rw [hr, List.append_nil]; exact h.senderMove hm, hm.2.2.2⟩
  have same : w.core.Reads (d ++ Reply.read (some .refused)) ∧ w.core.log <+: w.core.log :=
    sender _ w rfl (.refl _)
  have hc := w.exec_call op
  generalize w.exec op = r at hc ⊢
  cases hc with
  | refused _ | finishLost _ _ _ => exact same
  | send _ _ | nextEvent _ | result _ => exact w.perform_reads _ (by simp) d h
  | finish m _ => exact sender _ _ rfl (w.finishWith_senderMove m)
  | finishWithError e _ _ =>
    have hm : w.core.SenderMove w.claimed.core := ⟨rfl, rfl, rfl, List.prefix_refl _⟩
    exact w.claimed.perform_reads (.finishWithError e .fresh) (by simp) d (h.senderMove hm)
  | clone _ => exact sender _ _ rfl ⟨rfl, rfl, rfl, List.prefix_refl _⟩
  | dropSender _ =>
    exact sender _ _ rfl (Core.SenderMove.trans (⟨rfl, rfl, rfl, List.prefix_refl _⟩ :
      w.core.SenderMove (w.release _).core) (dropHandle_senderMove _))
  | spawnProducer events finish _ =>
    refine sender _ _ rfl ?_
    rw [core_spawn]; exact ⟨rfl, rfl, rfl, List.prefix_refl _⟩
  | yield =>
    have hp := w.perform_reads (.pause false) (by simp) d h
    rw [w.perform_read_nil (.pause false) (by simp), List.append_nil] at hp
    exact ⟨by simpa [Reply.read] using hp.1, hp.2⟩
  | collected _ _ | collectAbandoned _ _ | dropStream _ => cases hop

/-- Over a run of calls that leave the consumer its stream, it reads the log in order: what it
read before, the events the calls answered with, then what is pending, is the log. -/
theorem run_reads (ops : List Op) (hops : ∀ op ∈ ops, op.keepsStream = true) (d : List StreamEvent)
    (h : w.core.Reads d) :
    (w.run ops).2.core.Reads (d ++ (w.run ops).1.flatMap Reply.read) ∧
      w.core.log <+: (w.run ops).2.core.log := by
  induction ops generalizing w d with
  | nil => simpa [run] using h
  | cons op ops ih =>
    have hstep := w.exec_reads op (hops op (by simp)) d h
    have hrest := ih _ (fun op hop => hops op (by simp [hop])) _ hstep.1
    simp only [run, List.flatMap_cons, ← List.append_assoc]
    exact ⟨hrest.1, hstep.2.trans hrest.2⟩

theorem nextEvent_end (h : w.nextEvent.1 = some none) :
    w.queue.senderRefs = 0 ∧ w.nextEvent.2.core = w.core := by
  unfold nextEvent at h ⊢
  split at h
  · cases h
  · have hs := w.receive_spec
    generalize w.receive = res at h hs ⊢
    rcases res with ⟨_ | _ | e, v⟩
    · cases h
    · exact ⟨hs.2.1, hs.2.2⟩
    · cases h

theorem perform_nextEvent_end (hk : w.backlog.isSome) (h : w.core.Inv 0 0)
    (hr : (w.perform .nextEvent).1 = some (.event none)) :
    (w.perform .nextEvent).2.completion.done = true ∧ (w.perform .nextEvent).2.core.pending = [] := by
  refine perform_induct (fun v a => a = .nextEvent ∧ v.core.Inv 0 0 ∧ v.backlog.isSome)
    (fun r v => r = some (.event none) → v.completion.done = true ∧ v.core.pending = [])
    ?batch (fun _ _ _ hq => ⟨hq, hq⟩) ?poll (fun _ _ _ h => by cases h) w _ ⟨rfl, h, hk⟩ hr
  case batch =>
    rintro v a ⟨rfl, hv, hb⟩
    have hm : v.core.SenderMove (v.runBatch 61).2.wakeDeferred.core := by
      rw [core_wakeDeferred]; exact v.runBatch_senderMove 61
    refine ⟨rfl, ?_, ?_⟩
    · rw [core_wakeDeferred]; exact v.runBatch_inv 61 hv
    · rw [show (v.runBatch 61).2.wakeDeferred.backlog = (v.runBatch 61).2.wakeDeferred.core.backlog
        from rfl, hm.2.2.1]; exact hb
  case poll =>
    rintro v a ⟨rfl, hv, hb⟩
    have hp := v.nextEvent_pending hb
    have hend := v.nextEvent_end
    simp only [pollActivity]
    generalize v.nextEvent = res at hp hend ⊢
    rcases res with ⟨_ | x, v'⟩ <;> dsimp only at hp hend ⊢
    · refine ⟨rfl, by rw [hp]; exact hv, ?_⟩
      rw [show v'.backlog = v'.core.backlog from rfl, hp]; exact hb
    · -- the end: the queue is closed, so the stored reference is gone and the stream done
      rintro hx
      simp only [Option.some.injEq, Reply.event.injEq] at hx
      subst hx
      obtain ⟨hrefs, hcore⟩ := hend rfl
      have href := hv.refs
      have hst := hv.stored
      refine ⟨?_, by rw [hcore]; exact List.head?_eq_none_iff.1 hp.1.symm⟩
      rw [show v'.completion = v'.core.completion from rfl, hcore]
      simp only [core] at href hst hrefs ⊢
      cases hs : v.completion.stored
      · simpa [hs] using hst.symm
      · simp [hs] at href; omega

theorem pollSend_log (p : Party) (e : StreamEvent) (ph : SendPhase) :
    (w.pollSend p e ph).2.2.queue.log =
      w.queue.log ++ (if (w.pollSend p e ph).1 = some true then [e] else []) := by
  have h := w.pollSend_spec p e ph
  generalize w.pollSend p e ph = res at h
  rcases res with ⟨_ | ok, ph', v⟩
  · have := congrArg Core.log h.2
    simp only [core] at this
    simpa using this
  · have := congrArg Core.log h.2.2
    simp only [core] at this
    cases ok <;> simpa using this

end World

open World in
/-- On a channel pair whose stream is kept, the consumer reads exactly the events written to the
queue, each once and in the order written, whether it takes them from the queue or from the
backlog that waiting for the result filled; the log only grows, and a send writes its event
exactly when it reports success. The end of the stream is read only once the stream is done and
everything was read, and from then on the result answers at once. -/
theorem stream_reads_every_event_in_order (capacity : Nat) (ops : List Op)
    (hkeep : ∀ op ∈ ops, op.keepsStream = true) :
    let w := ((World.new capacity).run ops).2
    ((World.new capacity).run ops).1.flatMap Reply.read ++ w.core.pending = w.queue.log ∧
    (∀ op, op.keepsStream = true → w.queue.log <+: (w.exec op).2.queue.log) ∧
    (∀ (v : World) (p : Party) (e : StreamEvent) (ph : SendPhase),
      (v.pollSend p e ph).2.2.queue.log =
        v.queue.log ++ (if (v.pollSend p e ph).1 = some true then [e] else [])) ∧
    ((w.exec .nextEvent).1 = some (.event none) →
      (w.exec .nextEvent).2.completion.done = true ∧ (w.exec .nextEvent).2.core.pending = [] ∧
      ∀ more, (∀ op ∈ more, op.keepsStream = true) →
        let v := ((w.exec .nextEvent).2.run more).2
        v.exec .result =
          (some (.message (v.completion.result.getD {})), { v with callerWoken := false })) := by
  dsimp only
  have hreach := (Reachable.new capacity).run ops
  have hfresh : (World.new capacity).core.Reads [] := ⟨by simp [Core.pending, core, World.new],
    by simp [core, World.new], by simp [core, World.new]⟩
  have hreads := ((World.new capacity).run_reads ops hkeep [] hfresh).1
  rw [List.nil_append] at hreads
  generalize ((World.new capacity).run ops).1.flatMap Reply.read = d at hreads ⊢
  generalize ((World.new capacity).run ops).2 = w at hreach hreads ⊢
  refine ⟨hreads.1, fun op hop => (w.exec_reads op hop d hreads).2, pollSend_log, fun hend => ?_⟩
  have hkept : w.kept = true := hreads.2.1
  simp only [exec, hkept, if_true] at hend ⊢
  obtain ⟨hd, hp⟩ := w.perform_nextEvent_end hreads.2.1 hreach.inv hend
  refine ⟨hd, hp, fun more hmore => ?_⟩
  have hreach' : (w.perform .nextEvent).2.Reachable := by
    have := Reachable.exec .nextEvent hreach
    simpa [exec, hkept] using this
  have hreads' := (w.exec_reads .nextEvent rfl d hreads).1
  simp only [exec, hkept, if_true] at hreads'
  have hv := ((w.perform .nextEvent).2.run_reads more hmore _ hreads').1
  have hstage := (w.perform .nextEvent).2.run_completed more _ hreach'.sound
    (show (w.perform .nextEvent).2.completion.stage =
      .completed ((w.perform .nextEvent).2.completion.result.getD {}) by simp [Completion.stage, hd])
  exact exec_result_of_done _ hv.2.1 (Completion.done_of_stage hstage)

/-- A task sends two events while the caller waits for the result: the first goes to the
backlog, and the consumer then reads both, in order, and the end. -/
theorem task_events_read_in_order :
    let ops := [Op.spawnProducer 0 [.ping, .messageDelta none none] none, .result]
    (∀ op ∈ ops, op.keepsStream = true) ∧
    let w := ((World.new 1).run ops).2
    ((World.new 1).run ops).1.flatMap Reply.read ++ w.core.pending = w.queue.log ∧
    (∀ op, op.keepsStream = true → w.queue.log <+: (w.exec op).2.queue.log) ∧
    (∀ (v : World) (p : Party) (e : StreamEvent) (ph : SendPhase),
      (v.pollSend p e ph).2.2.queue.log =
        v.queue.log ++ (if (v.pollSend p e ph).1 = some true then [e] else [])) ∧
    ((w.exec .nextEvent).1 = some (.event none) →
      (w.exec .nextEvent).2.completion.done = true ∧ (w.exec .nextEvent).2.core.pending = [] ∧
      ∀ more, (∀ op ∈ more, op.keepsStream = true) →
        let v := ((w.exec .nextEvent).2.run more).2
        v.exec .result =
          (some (.message (v.completion.result.getD {})), { v with callerWoken := false })) :=
  ⟨by decide, stream_reads_every_event_in_order 1 _ (by decide)⟩

example : ((World.new 1).run [.spawnProducer 0 [.ping, .messageDelta none none] none, .result,
    .nextEvent, .nextEvent, .nextEvent]).1.flatMap Reply.read = [.ping, .messageDelta none none] := by
  decide +kernel

end ChatStream.Stream
