import ChatStream.Proofs.ChannelCompletion
import ChatStream.Proofs.ChannelCounts

/-! # A stream with no handle left is done

The last handle to go completes a stream nobody has claimed. A claim that is not completed at
once comes only from `finishWithError`, which claims before it sends its error event: if that
call is given up while the event waits for room, the claim stays and nothing completes the
stream (`abandoned_error_leaves_stream_open`). Over runs in which every finish with an error
answered, a stream without handles is done, its queue is closed, and reading it gives what is
pending and then the end (`closed_stream_completes`). -/

namespace ChatStream.Stream

/-- The events the consumer has still to read: the backlog, then the queue. -/
def Core.pending (c : Core) : List StreamEvent := c.backlog.getD [] ++ c.log.drop c.taken

theorem Core.slots_none_of_liveTasks {c : Core} (h : c.liveTasks = 0) :
    ∀ o ∈ c.producers.toList, o = none := by
  intro o ho
  have := List.sum_eq_zero_iff_forall_eq_nat.1 h (slotHandles o) (List.mem_map_of_mem ho)
  cases o with
  | none => rfl
  | some p => simp at this

/-- With no handle left no task is left, and once the stream is done no reference either: the
queue is closed for good. -/
theorem Core.Inv.closed {c : Core} (h : c.Inv 0 0) (hh : c.completion.handles = 0) :
    (∀ (i : Nat) (p : Producer), c.producers[i]? ≠ some (some p)) ∧
      (c.completion.done = true → c.senderRefs = 0) := by
  have hcount := h.handles
  rw [hh] at hcount
  have hnone := Core.slots_none_of_liveTasks (c := c) (by omega)
  refine ⟨fun i p hp => ?_, fun hd => ?_⟩
  · cases hnone _ (Array.mem_toList_iff.2 (Array.mem_of_getElem? hp))
  · have hrefs := h.refs
    have ht : c.taskRefs = 0 := List.sum_eq_zero_iff_forall_eq_nat.2 fun x hx => by
      obtain ⟨o, ho, rfl⟩ := List.mem_map.1 hx
      rw [hnone o ho]; rfl
    rw [h.stored, hd] at hrefs
    simpa [ht] using hrefs

namespace World

variable (w : World)

theorem perform_finishWithError_done (e : StreamError) (ph : SendPhase)
    (h : (w.perform (.finishWithError e ph)).1.isSome) :
    (w.perform (.finishWithError e ph)).2.completion.done = true := by
  refine perform_induct (fun _ a => a.finishing = true)
    (fun r v => r.isSome → v.completion.done = true)
    (fun _ _ h => h) (fun _ _ _ h => ⟨h, h⟩) ?_ (fun _ _ _ h => by simp at h) w _ rfl h
  intro v a ha
  cases a with
  | finishWithError err ph =>
    simp only [pollActivity]
    generalize v.pollSend .caller (.error err) ph = res
    rcases res with ⟨_ | ok, ph', v'⟩
    · rfl
    · intro _
      rw [completion_complete]
  | _ => simp [Activity.finishing] at ha

/-- A claim left without a completion comes only from a finish with an error that is still
sending: a call that answers, or any other call, leaves none behind. -/
theorem exec_not_pending (op : Op) (hw : w.completion.Sound) (hs : w.completion.stage ≠ .claimed)
    (hans : ∀ i e, op = .finishWithError i e → (w.exec op).1.isSome) :
    (w.exec op).2.completion.stage ≠ .claimed := by
  rcases (w.exec_settles op hw).2 with h | ⟨h0, ⟨⟨i, e, rfl⟩, h⟩ | ⟨m, -, h⟩⟩
  · rw [h]; exact hs
  · -- the finish with an error claimed the completion; having answered, it completed it
    have hc : w.completion.claimed = false := hw.stage_unclaimed.1 h0
    have ha := hans i e rfl
    have hcall := w.exec_call (.finishWithError i e)
    generalize w.exec (.finishWithError i e) = r at hcall ha h ⊢
    cases hcall with
    | refused _ => rw [h0] at h; cases h
    | finishLost _ _ hc' => rw [hc] at hc'; cases hc'
    | finishWithError _ _ _ =>
      have hd := perform_finishWithError_done _ e .fresh ha
      simp [Completion.stage, hd]
  · rw [h]; simp

/-- Over a run in which every finish with an error answered, no claim is left without a
completion. -/
theorem run_not_pending (ops : List Op) (hw : w.completion.Sound) (hs : w.completion.stage ≠ .claimed)
    (hans : ∀ i e, (Op.finishWithError i e, none) ∉ ops.zip (w.run ops).1) :
    (w.run ops).2.completion.stage ≠ .claimed := by
  induction ops generalizing w with
  | nil => exact hs
  | cons op ops ih =>
    simp only [run] at hans ⊢
    have hstep := w.exec_not_pending op hw hs fun i e hop => by
      have := hans i e
      rw [hop] at this ⊢
      simp only [List.zip_cons_cons, List.mem_cons, Prod.mk.injEq, true_and, not_or] at this
      exact Option.isSome_iff_ne_none.2 (Ne.symm this.1)
    refine ih _ (w.exec_settles op hw).1 hstep fun i e hmem => hans i e ?_
    simp [List.zip_cons_cons, hmem]

/-! ### Reading a closed stream to its end -/


/-- No task is left to run. -/
def idle : Prop := ∀ (i : Nat) (p : Producer), w.producers[i]? ≠ some (some p)

theorem runBatch_idle (n : Nat) (h : w.idle) :
    ∃ rq b, (w.runBatch n).2 = { w with runQueue := rq, budget := b } := by
  refine runBatch_induct (fun v => ∃ rq b, v = { w with runQueue := rq, budget := b })
    ?_ n w ⟨w.runQueue, w.budget, rfl⟩
  rintro v ⟨rq, b, rfl⟩
  unfold runNext
  split
  · exact ⟨rq, b, rfl⟩
  · rename_i i rest _
    dsimp only
    split
    · rename_i p hp
      exact absurd hp (h i p)
    · exact ⟨rest, budgetPerRun, rfl⟩

theorem callerWoken_wake (v : World) (p : Party) (h : v.callerWoken = true) :
    (v.wake p).callerWoken = true := by
  cases p with
  | caller => rfl
  | task i => simp only [wake]; split <;> exact h

theorem callerWoken_foldr_wake (ps : List Party) (v : World) (h : Party.caller ∈ ps) :
    (ps.foldr (fun p w => w.wake p) v).callerWoken = true := by
  induction ps with
  | nil => cases h
  | cons p ps ih =>
    rw [List.foldr_cons]
    rcases List.mem_cons.1 h with rfl | h
    · rfl
    · exact callerWoken_wake _ p (ih h)

theorem caller_mem_defer : Party.caller ∈ (w.defer .caller).deferred := by
  unfold defer
  split
  · rename_i h
    exact List.mem_of_getLast? (by simpa using h)
  · simp

/-- With budget left and the queue closed, the consumer takes the first queued event, or finds
the queue empty for good. -/
theorem receive_closed (hb : w.budget ≠ 0) (hr : w.queue.senderRefs = 0) :
    w.receive.1 = some w.queue.events.head? ∧
      w.receive.2.core = { w.core with taken := w.core.taken + min 1 w.queue.events.length } := by
  unfold receive
  rw [if_neg hb]
  cases he : w.queue.events with
  | cons e rest =>
    simp only [List.head?_cons, List.length_cons, true_and]
    rw [core_releaseRoom]
    simp [core, spend]
  | nil => simp [hr, core, spend]

/-- On a kept stream whose queue is closed, the consumer's next event is the first pending one,
or none when nothing is pending, unless it is out of budget with nothing in the backlog. -/
theorem nextEvent_closed (hk : w.backlog.isSome) (hr : w.queue.senderRefs = 0)
    (hgo : 0 < w.budget ∨ w.backlog ≠ some []) :
    w.nextEvent.1 = some w.core.pending.head? ∧ w.nextEvent.2.core.pending = w.core.pending.tail ∧
      w.nextEvent.2.backlog.isSome := by
  unfold nextEvent
  cases hb : w.backlog with
  | none => simp [hb] at hk
  | some b =>
    cases b with
    | cons e rest => simp [Core.pending, core, hb]
    | nil =>
      have hbud : w.budget ≠ 0 := by
        rcases hgo with h | h
        · omega
        · exact absurd hb h
      obtain ⟨h1, h2⟩ := w.receive_closed hbud hr
      simp only
      refine ⟨by simpa [Core.pending, core, hb, Queue.events] using h1, ?_, ?_⟩
      · -- taking the first event shortens what is left of the log by one
        rw [h2]
        simp only [Core.pending, core, hb, Option.getD_some, List.nil_append, Queue.events]
        cases he : w.queue.log.drop w.queue.taken with
        | nil => simp [he]
        | cons e rest =>
          rw [List.length_cons, show min 1 (rest.length + 1) = 1 by omega, ← List.drop_drop, he]
          rfl
      · have := congrArg Core.backlog h2
        simp only [core] at this
        simp [this, hb]

/-- On a kept stream whose queue is closed and with no task left, the call for the next event
answers with the first pending event, or with none when nothing is pending: out of budget, it
gives way once and is woken at once. -/
theorem perform_nextEvent_closed (hk : w.backlog.isSome) (hr : w.queue.senderRefs = 0)
    (hi : w.idle) :
    (w.perform .nextEvent).1 = some (.event w.core.pending.head?) ∧
      (w.perform .nextEvent).2.core.pending = w.core.pending.tail ∧
      (w.perform .nextEvent).2.backlog.isSome ∧ (w.perform .nextEvent).2.queue.senderRefs = 0 ∧
      (w.perform .nextEvent).2.idle := by
  have answer : ∀ v : World, v.core = w.core → (0 < v.budget ∨ v.backlog ≠ some []) →
      ∃ v', v.pollActivity .nextEvent = (some (.event w.core.pending.head?), .nextEvent, v') ∧
        v'.core.pending = w.core.pending.tail ∧ v'.backlog.isSome ∧ v'.queue.senderRefs = 0 ∧
        v'.idle := by
    intro v hv hgo
    have hk' : v.backlog.isSome := by rw [show v.backlog = v.core.backlog from rfl, hv]; exact hk
    have hr' : v.queue.senderRefs = 0 := by
      rw [show v.queue.senderRefs = v.core.senderRefs from rfl, hv]; exact hr
    obtain ⟨h1, h2, h3⟩ := v.nextEvent_closed hk' hr' hgo
    obtain ⟨t, o, b, hm, -⟩ := v.nextEvent_consumerMove
    rw [hv] at h1 h2 hm
    simp only [pollActivity]
    generalize v.nextEvent = res at h1 h2 h3 hm
    rcases res with ⟨_ | x, v'⟩
    · cases h1
    · simp only [Option.some.injEq] at h1
      subst h1
      refine ⟨v', rfl, h2, h3, ?_, ?_⟩
      · rw [show v'.queue.senderRefs = v'.core.senderRefs from rfl, hm]; exact hr
      · intro i p
        rw [show v'.producers = v'.core.producers from rfl, hm]; exact hi i p
  unfold perform
  by_cases hgo : 0 < w.budget ∨ w.backlog ≠ some []
  · obtain ⟨v', hv', h⟩ := answer { w with callerWoken := false } rfl hgo
    rw [hv']
    exact ⟨rfl, h⟩
  · -- out of budget with an empty backlog: the consumer gives way, and is the first to be woken
    have hb0 : w.budget = 0 := by omega
    have hbl : w.backlog = some [] := Classical.byContradiction fun h => hgo (.inr h)
    let v := ({ w with callerWoken := false } : World).defer .caller
    have hpoll : ({ w with callerWoken := false } : World).pollActivity .nextEvent =
        (none, .nextEvent, v) := by
      simp [pollActivity, nextEvent, hbl, receive, hb0, v]
    rw [hpoll]
    dsimp only
    rw [show patience = 99999 + 1 from rfl, perform.go]
    obtain ⟨rq, b, hbatch⟩ := v.runBatch_idle 61 (fun i p => by
      have := congrArg Core.producers (core_defer { w with callerWoken := false } .caller)
      simp only [core] at this
      rw [this]; exact hi i p)
    rw [hbatch]
    let u := ({ v with runQueue := rq, budget := b } : World).wakeDeferred
    have hwoken : u.callerWoken = true :=
      callerWoken_foldr_wake _ _ (caller_mem_defer { w with callerWoken := false })
    have hcore : ({ u with callerWoken := false, budget := budgetPerRun } : World).core = w.core := by
      show u.core = w.core
      rw [core_wakeDeferred]
      exact core_defer { w with callerWoken := false } .caller
    obtain ⟨v', hv', h⟩ := answer _ hcore (.inl (show 0 < budgetPerRun by decide))
    simp only [u] at hwoken hv'
    simp only [hwoken, if_true]
    rw [hv']
    exact ⟨rfl, h⟩

/-- Reading a kept stream whose queue is closed and with no task left gives the pending events in
order, then none. -/
theorem run_nextEvent_closed (hk : w.backlog.isSome) (hr : w.queue.senderRefs = 0) (hi : w.idle) :
    (w.run (List.replicate (w.core.pending.length + 1) .nextEvent)).1 =
      w.core.pending.map (fun e => some (.event (some e))) ++ [some (.event none)] := by
  generalize hn : w.core.pending.length = n
  induction n generalizing w with
  | zero =>
    have hp : w.core.pending = [] := List.eq_nil_of_length_eq_zero hn
    obtain ⟨h1, -⟩ := w.perform_nextEvent_closed hk hr hi
    simp [run, exec, kept, hk, h1, hp]
  | succ n ih =>
    obtain ⟨h1, h2, h3, h4, h5⟩ := w.perform_nextEvent_closed hk hr hi
    obtain ⟨e, rest, hp⟩ : ∃ e rest, w.core.pending = e :: rest :=
      List.exists_cons_of_length_eq_add_one hn
    have hrest := ih _ h3 h4 h5 (by rw [h2, hp]; simpa [hp] using hn)
    rw [List.replicate_succ]
    simp only [run, exec, kept, hk, if_true]
    rw [h1, hrest, h2, hp]
    simp

theorem exec_result_of_done (hk : w.kept = true) (hd : w.completion.done = true) :
    w.exec .result = (some (.message (w.completion.result.getD {})), { w with callerWoken := false }) := by
  simp [exec, hk, perform, pollActivity, awaitResult, hd]

end World

open World in
/-- A stream whose handles are all gone is done, provided no finish with an error was given up
while its event waited for room. Reading it then gives the pending events in order, then none,
and the result answers at once with the stream's message. -/
theorem closed_stream_completes (capacity : Nat) (ops : List Op)
    (hans : ∀ i e, (Op.finishWithError i e, none) ∉ ops.zip ((World.new capacity).run ops).1) :
    let w := ((World.new capacity).run ops).2
    w.completion.handles = 0 →
      w.completion.done = true ∧
      (w.kept = true →
        w.exec .result =
          (some (.message (w.completion.result.getD {})), { w with callerWoken := false }) ∧
        (w.run (List.replicate (w.core.pending.length + 1) .nextEvent)).1 =
          w.core.pending.map (fun e => some (.event (some e))) ++ [some (.event none)]) := by
  dsimp only
  intro hh
  have hreach := (Reachable.new capacity).run ops
  have hpend := (World.new capacity).run_not_pending ops (Reachable.new capacity).sound
    (by simp [World.new, Completion.stage]) hans
  generalize ((World.new capacity).run ops).2 = w at hreach hpend hh ⊢
  have hinv := hreach.inv
  -- with no handle left the completion was claimed, and no claim is left without a completion
  have hc : w.completion.claimed = true := by
    cases hcl : w.completion.claimed
    · have := hinv.unclaimed hcl
      simp only [core] at this
      omega
    · rfl
  have hd : w.completion.done = true := by
    cases hdn : w.completion.done
    · exact absurd (by simp [Completion.stage, hdn, hc]) hpend
    · rfl
  obtain ⟨hidle, hrefs⟩ := hinv.closed hh
  exact ⟨hd, fun hk => ⟨w.exec_result_of_done hk hd, w.run_nextEvent_closed hk (hrefs hd) hidle⟩⟩

/-- A finish with an error that sends its event, then the last handle dropped: the stream is
done, and reading it gives the error event, then none. -/
theorem error_then_drop_completes :
    let ops := [Op.finishWithError 0 .cancelled, .dropSender 0]
    (∀ i e, (Op.finishWithError i e, none) ∉ ops.zip ((World.new 1).run ops).1) ∧
    let w := ((World.new 1).run ops).2
    (w.completion.handles = 0 →
      w.completion.done = true ∧
      (w.kept = true →
        w.exec .result =
          (some (.message (w.completion.result.getD {})), { w with callerWoken := false }) ∧
        (w.run (List.replicate (w.core.pending.length + 1) .nextEvent)).1 =
          w.core.pending.map (fun e => some (.event (some e))) ++ [some (.event none)])) := by
  have hans : ∀ i e, (Op.finishWithError i e, none) ∉
      [Op.finishWithError 0 .cancelled, .dropSender 0].zip
        ((World.new 1).run [Op.finishWithError 0 .cancelled, .dropSender 0]).1 := by
    have hr : ((World.new 1).run [Op.finishWithError 0 .cancelled, .dropSender 0]).1 =
        [some (.won true), some .unit] := by decide
    simp [hr]
  exact ⟨hans, closed_stream_completes 1 _ hans⟩

/-- A finish with an error given up while its event waits for room leaves the completion claimed
and never completed: once the last handle is dropped no handle is left, yet the stream is not
done and the result never comes. -/
theorem abandoned_error_leaves_stream_open :
    let ops := [Op.send 0 .ping, .finishWithError 0 (.decode "d"), .dropSender 0]
    let w := ((World.new 1).run ops).2
    ((World.new 1).run ops).1 = [some (.sent true), none, some .unit] ∧
      w.completion.handles = 0 ∧ w.completion.done = false ∧ (w.exec .result).1 = none := by
  decide

end ChatStream.Stream
