import ChatStream.Proofs.ChannelCore

/-! # The completion is decided once

Three kinds of call can complete a stream: `finish` with a message, `finishWithError`, which
claims the completion and then sends its error event, and the last handle going away. Whichever
claims first decides: its message (or the empty one) is the stream's result for good, and every
later finish answers false. Producer tasks finish the same way, so a call that lets the tasks
run may see a task win.

`Completion.stage` reads the completion as unclaimed, claimed, or completed with a message; each
step of the channel is shown to move it forward only, and only as its caller may
(`SettlesWith`, `TaskSettles`, `CallSettles`). -/

namespace ChatStream.Stream

/-- How far the one-time completion has come. -/
inductive Stage where
  | unclaimed
  | claimed
  /-- Done, with the message `result` gives. -/
  | completed (m : AssistantMessage)

namespace Completion

def stage (c : Completion) : Stage :=
  if c.done then .completed (c.result.getD {}) else if c.claimed then .claimed else .unclaimed

/-- The flags agree: only a claimed completion is done, and a message is stored only once it is. -/
structure Sound (c : Completion) : Prop where
  claimed_of_done : c.done = true → c.claimed = true
  result_of_not_done : c.done = false → c.result = none

variable {c : Completion}

theorem Sound.stage_unclaimed (h : c.Sound) : c.stage = .unclaimed ↔ c.claimed = false := by
  unfold stage
  cases hd : c.done <;> cases hc : c.claimed <;> simp_all [h.claimed_of_done]

theorem done_of_stage {m : AssistantMessage} (h : c.stage = .completed m) : c.done = true := by
  unfold stage at h
  split at h
  · assumption
  · split at h <;> cases h

theorem Sound.done_of_unclaimed (h : c.Sound) (hc : c.claimed = false) : c.done = false := by
  cases hd : c.done
  · rfl
  · simp [h.claimed_of_done hd] at hc

theorem Sound.claim (h : c.Sound) : { c with claimed := true }.Sound :=
  ⟨fun _ => rfl, h.result_of_not_done⟩

theorem sound_complete (hc : c.claimed = true) (m : AssistantMessage) :
    { c with result := some (c.result.getD m), done := true, stored := false }.Sound :=
  ⟨fun _ => hc, by simp⟩

theorem stage_complete (m : AssistantMessage) :
    { c with result := some (c.result.getD m), done := true, stored := false }.stage =
      .completed (c.result.getD m) := by
  simp [stage]

end Completion

namespace World

variable (w : World)

theorem completion_complete (m : AssistantMessage) :
    (w.complete m).completion = { w.completion with result := some (w.completion.result.getD m),
                                                    done := true, stored := false } :=
  congrArg Core.completion (w.core_complete m)


/-- A producer task of `w` would complete the stream with `m`: the message it finishes with, or the
empty one when it has none and its handle is the last. -/
def finishesWith (m : AssistantMessage) : Prop :=
  ∃ p, some p ∈ w.producers ∧ p.finish.getD {} = m

/-- From `w` to `w'` the completion stays sound, and stands where it stood or goes from
unclaimed to completed with `m`. -/
def SettlesWith (m : AssistantMessage) (w w' : World) : Prop :=
  w'.completion.Sound ∧
    (w'.completion.stage = w.completion.stage ∨
      w.completion.stage = .unclaimed ∧ w'.completion.stage = .completed m)

namespace SettlesWith

variable {w} {m : AssistantMessage} {w' w'' : World}

theorem of_stage (hs : w'.completion.Sound) (h : w'.completion.stage = w.completion.stage) :
    SettlesWith m w w' :=
  ⟨hs, .inl h⟩

theorem trans (h : SettlesWith m w w') (h' : SettlesWith m w' w'') : SettlesWith m w w'' := by
  refine ⟨h'.1, ?_⟩
  rcases h.2 with h1 | ⟨h0, h1⟩ <;> rcases h'.2 with h2 | ⟨h2, h3⟩
  · exact .inl (h2.trans h1)
  · exact .inr ⟨h1 ▸ h2, h3⟩
  · exact .inr ⟨h0, h2.trans h1⟩
  · rw [h1] at h2; cases h2

end SettlesWith

theorem completion_dropHandle_of_claimed (h : w.completion.claimed = true) :
    w.dropHandle.completion = { w.completion with handles := w.completion.handles - 1 } :=
  congrArg Core.completion (w.core_dropHandle_of_kept (.inr h))

theorem finishWith_settles (m : AssistantMessage) (hw : w.completion.Sound) :
    SettlesWith m w (w.finishWith m).2 := by
  cases hc : w.completion.claimed
  · rw [finishWith_of_unclaimed w m hc]
    refine ⟨?_, .inr ⟨(hw.stage_unclaimed).2 hc, ?_⟩⟩
    · rw [completion_complete]
      exact Completion.sound_complete rfl m
    · rw [completion_complete, Completion.stage_complete]
      simp [hw.result_of_not_done (hw.done_of_unclaimed hc)]
  · rw [finishWith_of_claimed w m hc]
    exact .of_stage hw rfl

theorem claimed_finishWith (m : AssistantMessage) :
    (w.finishWith m).2.completion.claimed = true := by
  cases hc : w.completion.claimed
  · rw [finishWith_of_unclaimed w m hc, completion_complete]
  · rw [finishWith_of_claimed w m hc, hc]

theorem dropHandle_settles_of_claimed {m : AssistantMessage} (hw : w.completion.Sound)
    (hc : w.completion.claimed = true) : SettlesWith m w w.dropHandle := by
  unfold SettlesWith
  rw [w.completion_dropHandle_of_claimed hc]
  exact ⟨⟨hw.claimed_of_done, hw.result_of_not_done⟩, .inl (by simp [Completion.stage])⟩

theorem dropHandle_settles (hw : w.completion.Sound) : SettlesWith {} w w.dropHandle := by
  unfold SettlesWith
  by_cases hk : w.completion.handles = 1 ∧ w.completion.claimed = false
  · -- the last handle goes while nothing is claimed: it completes the stream
    obtain ⟨lost, -, h⟩ := w.core_dropHandle_of_last hk.1 hk.2
    have h := congrArg Core.completion h
    simp only [core] at h
    rw [h]
    refine ⟨⟨fun _ => rfl, by simp⟩, .inr ⟨hw.stage_unclaimed.2 hk.2, ?_⟩⟩
    simp [Completion.stage, hw.result_of_not_done (hw.done_of_unclaimed hk.2)]
  · have hk : w.completion.handles ≠ 1 ∨ w.completion.claimed = true := by
      cases hc : w.completion.claimed <;> simp_all
    have h := congrArg Core.completion (w.core_dropHandle_of_kept hk)
    simp only [core] at h
    rw [h]
    exact ⟨⟨hw.claimed_of_done, hw.result_of_not_done⟩, .inl (by simp [Completion.stage])⟩

theorem pollSend_moves (p : Party) (e : StreamEvent) (ph : SendPhase) :
    ∃ log refs, (w.pollSend p e ph).2.2.core = { w.core with log, senderRefs := refs } := by
  have h := w.pollSend_spec p e ph
  generalize w.pollSend p e ph = r at h
  rcases r with ⟨_ | ok, ph', w'⟩
  · exact ⟨_, _, h.2⟩
  · exact ⟨_, _, h.2.2⟩

theorem pollSend_completion (p : Party) (e : StreamEvent) (ph : SendPhase) :
    (w.pollSend p e ph).2.2.completion = w.completion ∧
      (w.pollSend p e ph).2.2.producers = w.producers := by
  obtain ⟨log, refs, h⟩ := w.pollSend_moves p e ph
  exact ⟨congrArg Core.completion h, congrArg Core.producers h⟩

/-- A producer task settles the completion, if at all, with its own message, or with the empty
one when it ends without a message and its handle was the last; it keeps its message. -/
theorem runProducer_settles (i : Nat) (p : Producer) (hw : w.completion.Sound) :
    SettlesWith (p.finish.getD {}) w (w.runProducer i p).2 ∧
    ∀ q, (w.runProducer i p).1 = some q → q.finish = p.finish := by
  fun_induction runProducer w i p with
  | case1 w p e rest _ ok ph w' hpoll ih =>
    have hsend := w.pollSend_completion (.task i) e p.phase
    rw [hpoll] at hsend
    obtain ⟨hs, hq⟩ := ih (hsend.1 ▸ hw)
    exact ⟨(SettlesWith.of_stage (hsend.1 ▸ hw) (by rw [hsend.1])).trans hs, hq⟩
  | case2 w p e rest _ ph w' hpoll =>
    have hsend := w.pollSend_completion (.task i) e p.phase
    rw [hpoll] at hsend
    exact ⟨.of_stage (hsend.1 ▸ hw) (by rw [hsend.1]), by simp⟩
  | case3 w p _ w1 =>
    dsimp only [w1]
    refine ⟨?_, by simp⟩
    cases hf : p.finish with
    | none => exact w.dropHandle_settles hw
    | some m =>
      -- the finish claimed the completion, or found it claimed: the drop changes nothing
      have h1 := w.finishWith_settles m hw
      rw [Option.getD_some]
      exact h1.trans ((w.finishWith m).2.dropHandle_settles_of_claimed h1.1 (claimed_finishWith _ m))

/-- From `w` to `w'` only producer tasks of `w` acted on the completion: it stays sound, and
stands where it stood, or was unclaimed and a task of `w` completed it with its message. No new
task appears. -/
def TaskSettles (w w' : World) : Prop :=
  w'.completion.Sound ∧ (∀ m, w'.finishesWith m → w.finishesWith m) ∧
    (w'.completion.stage = w.completion.stage ∨
      w.completion.stage = .unclaimed ∧ ∃ m, w.finishesWith m ∧ w'.completion.stage = .completed m)

namespace TaskSettles

variable {w} {w' w'' : World}

theorem of_stage (hs : w'.completion.Sound) (hc : w'.completion.stage = w.completion.stage)
    (hp : w'.producers = w.producers) : TaskSettles w w' :=
  ⟨hs, fun m h => by rwa [finishesWith, ← hp], .inl hc⟩

theorem of_completion (hw : w.completion.Sound) (hc : w'.completion = w.completion)
    (hp : w'.producers = w.producers) : TaskSettles w w' :=
  of_stage (hc ▸ hw) (by rw [hc]) hp

theorem refl (hw : w.completion.Sound) : TaskSettles w w := of_completion hw rfl rfl

theorem claimed (h : TaskSettles w w') (hw : w.completion.Sound) (hc : w.completion.claimed = true) :
    w'.completion.claimed = true := by
  rcases h.2.2 with h' | ⟨h', -⟩
  · cases hc' : w'.completion.claimed
    · have := (h.1.stage_unclaimed).2 hc'
      rw [h', hw.stage_unclaimed] at this
      simp [hc] at this
    · rfl
  · rw [hw.stage_unclaimed] at h'
    simp [hc] at h'

theorem trans (h : TaskSettles w w') (h' : TaskSettles w' w'') : TaskSettles w w'' := by
  refine ⟨h'.1, fun m hm => h.2.1 m (h'.2.1 m hm), ?_⟩
  rcases h.2.2 with h1 | ⟨h0, h1⟩ <;> rcases h'.2.2 with h2 | ⟨h2, m, hm, h3⟩
  · exact .inl (h2.trans h1)
  · exact .inr ⟨h1 ▸ h2, m, h.2.1 m hm, h3⟩
  · exact .inr ⟨h0, h1.imp fun m hm => ⟨hm.1, h2.trans hm.2⟩⟩
  · obtain ⟨m', -, h1⟩ := h1
    rw [h1] at h2; cases h2

end TaskSettles

theorem runNext_settles (hw : w.completion.Sound) : TaskSettles w w.runNext.2 := by
  unfold runNext
  split
  · exact .refl hw
  · rename_i i rest _
    dsimp only
    split
    · rename_i p hp
      obtain ⟨hs, hq⟩ := runProducer_settles { w with runQueue := rest, budget := budgetPerRun } i p hw
      have hprod := producers_runProducer { w with runQueue := rest, budget := budgetPerRun } i p
      generalize World.runProducer _ i p = r at hs hprod hq ⊢
      rcases r with ⟨p', w'⟩
      have hmem : some p ∈ w.producers := Array.mem_of_getElem? hp
      refine ⟨hs.1, ?_, ?_⟩
      · -- the task's entry is replaced by what is left of it, with the same message
        rintro m ⟨q, hq', rfl⟩
        rcases Array.mem_or_eq_of_mem_setIfInBounds hq' with hq' | hq'
        · exact ⟨q, hprod ▸ hq', rfl⟩
        · exact ⟨p, hmem, by rw [← hq _ hq'.symm]⟩
      · rcases hs.2 with h | ⟨h0, h1⟩
        · exact .inl h
        · exact .inr ⟨h0, _, ⟨p, hmem, rfl⟩, h1⟩
    · exact .of_completion hw rfl rfl

theorem runBatch_settles (n : Nat) (hw : w.completion.Sound) : TaskSettles w (w.runBatch n).2 :=
  runBatch_induct (TaskSettles w) (fun _ h => h.trans (runNext_settles _ h.1)) n w (.refl hw)

namespace TaskSettles

theorem of_consumerMove {w w' : World} (hw : w.completion.Sound) (h : w.core.ConsumerMove w'.core) :
    TaskSettles w w' := by
  obtain ⟨t, o, b, h, -⟩ := h
  exact of_completion hw (congrArg Core.completion h) (congrArg Core.producers h)

end TaskSettles

end World

/-- The caller's operation is a finish with an error. -/
def Activity.finishing : Activity → Bool
  | .finishWithError _ _ => true
  | _ => false

namespace World

variable (w : World)

/-- One look at the caller's operation, started on `w₀` and come to `w`: nothing but tasks of
`w₀` acted on the completion, except that a finish with an error, which claimed it, completes it
with the empty message once its event is sent. -/
theorem pollActivity_settles (w₀ : World) (a : Activity) (f : Bool) (h : TaskSettles w₀ w)
    (ha : a.finishing = f) (hc : f = true → w.completion.claimed = true) :
    match w.pollActivity a with
    | (some _, _, w') => w'.completion.Sound ∧ (TaskSettles w₀ w' ∨
        f = true ∧ w₀.completion.stage = .claimed ∧ w'.completion.stage = .completed {})
    | (none, a', w') => TaskSettles w₀ w' ∧ a'.finishing = f ∧ (f = true → w'.completion.claimed = true) := by
  have hw := h.1
  have consumer : ∀ w', w.core.ConsumerMove w'.core → TaskSettles w₀ w' ∧ (f = true → w'.completion.claimed = true) :=
    fun w' hm => ⟨h.trans (.of_consumerMove hw hm), fun hf => by
      obtain ⟨t, o, b, hm, -⟩ := hm
      rw [show w'.completion = w.completion from congrArg Core.completion hm]
      exact hc hf⟩
  cases a with
  | send e ph =>
    have hs := w.pollSend_completion .caller e ph
    simp only [pollActivity]
    generalize w.pollSend .caller e ph = r at hs ⊢
    rcases r with ⟨_ | ok, ph', w'⟩
    · exact ⟨h.trans (.of_completion hw hs.1 hs.2), ha, fun hf => hs.1 ▸ hc hf⟩
    · exact ⟨hs.1 ▸ hw, .inl (h.trans (.of_completion hw hs.1 hs.2))⟩
  | finishWithError err ph =>
    have hs := w.pollSend_completion .caller (.error err) ph
    simp only [Activity.finishing] at ha
    subst ha
    simp only [pollActivity]
    generalize w.pollSend .caller (.error err) ph = r at hs ⊢
    rcases r with ⟨_ | ok, ph', w'⟩
    · exact ⟨h.trans (.of_completion hw hs.1 hs.2), rfl, fun _ => hs.1 ▸ hc rfl⟩
    · -- the error event is sent: the claimed completion is completed
      have hcl : w'.completion.claimed = true := hs.1 ▸ hc rfl
      have hsound : (w'.complete {}).completion.Sound := by
        rw [completion_complete]; exact Completion.sound_complete hcl _
      refine ⟨hsound, ?_⟩
      cases hd : w.completion.done
      · -- not done yet: the completion was claimed by this finish and nothing else
        have hst : w.completion.stage = .claimed := by simp [Completion.stage, hd, hc rfl]
        refine .inr ⟨trivial, ?_, ?_⟩
        · rcases h.2.2 with h' | ⟨-, m, -, h'⟩ <;> rw [hst] at h'
          · exact h'.symm
          · cases h'
        · rw [completion_complete, Completion.stage_complete, hs.1, hw.result_of_not_done hd]
          rfl
      · -- already completed by a task: the result stays
        refine .inl (h.trans (.of_stage hsound ?_ (by rw [producers_complete, hs.2])))
        rw [completion_complete, Completion.stage_complete, hs.1]
        simp [Completion.stage, hd]
  | nextEvent =>
    have hm := w.nextEvent_consumerMove
    simp only [pollActivity]
    generalize w.nextEvent = r at hm ⊢
    rcases r with ⟨_ | e, w'⟩
    · exact ⟨(consumer w' hm).1, ha, (consumer w' hm).2⟩
    · exact ⟨(consumer w' hm).1.1, .inl (consumer w' hm).1⟩
  | result =>
    have hm := w.awaitResult_consumerMove (w.queue.events.length + 1)
    simp only [pollActivity]
    generalize w.awaitResult _ = r at hm ⊢
    rcases r with ⟨_ | m, w'⟩
    · exact ⟨(consumer w' hm).1, ha, (consumer w' hm).2⟩
    · exact ⟨(consumer w' hm).1.1, .inl (consumer w' hm).1⟩
  | collect =>
    have hm := w.collect_consumerMove ((w.backlog.getD []).length + w.queue.events.length + 1)
    simp only [pollActivity]
    generalize w.collect _ = r at hm ⊢
    rcases r with ⟨_ | m, w'⟩
    · exact ⟨(consumer w' hm).1, ha, (consumer w' hm).2⟩
    · have hm := hm.trans w'.dropReceiver_consumerMove
      exact ⟨(consumer _ hm).1.1, .inl (consumer _ hm).1⟩
  | pause resumed =>
    cases resumed
    · have hm : w.core.ConsumerMove (w.defer .caller).core := by rw [core_defer]; exact .refl _
      exact ⟨(consumer _ hm).1, ha, (consumer _ hm).2⟩
    · exact ⟨hw, .inl h⟩

theorem abandon_completion (a : Activity) :
    (w.abandon a).completion = w.completion ∧ (w.abandon a).producers = w.producers := by
  unfold abandon
  split <;> simp [core_dropRef, core_leaveLine, core_dropReceiver,
    show ∀ v : World, v.completion = v.core.completion from fun _ => rfl,
    show ∀ v : World, v.producers = v.core.producers from fun _ => rfl]

/-- An operation of the caller, started on `w`: nothing but tasks of `w` act on the completion,
except that a finish with an error, which claimed it, completes it with the empty message. -/
theorem perform_settles (a : Activity) (f : Bool) (hw : w.completion.Sound) (ha : a.finishing = f)
    (hc : f = true → w.completion.claimed = true) :
    (w.perform a).2.completion.Sound ∧ (TaskSettles w (w.perform a).2 ∨
      f = true ∧ w.completion.stage = .claimed ∧ (w.perform a).2.completion.stage = .completed {}) := by
  refine perform_induct
    (fun v a => TaskSettles w v ∧ a.finishing = f ∧ (f = true → v.completion.claimed = true))
    (fun _ v => v.completion.Sound ∧ (TaskSettles w v ∨
      f = true ∧ w.completion.stage = .claimed ∧ v.completion.stage = .completed {}))
    ?batch (fun _ _ _ hq => ⟨hq, hq⟩) ?poll ?abandon w a ⟨.refl hw, ha, hc⟩
  case batch =>
    rintro v a ⟨hv, ha, hc⟩
    have hb := (v.runBatch_settles 61 hv.1).trans
      (.of_completion (runBatch_settles v 61 hv.1).1
        (congrArg Core.completion (core_wakeDeferred _)) (congrArg Core.producers (core_wakeDeferred _)))
    exact ⟨hv.trans hb, ha, fun hf => hb.claimed hv.1 (hc hf)⟩
  case poll =>
    rintro v a ⟨hv, ha, hc⟩
    exact v.pollActivity_settles w a f hv ha hc
  case abandon =>
    rintro v a ⟨hv, -, -⟩
    have h := v.abandon_completion a
    exact ⟨h.1 ▸ hv.1, .inl (hv.trans (.of_completion hv.1 h.1 h.2))⟩

/-- The message with which a call on `w` completes a stream it finds unclaimed: a finish's own
message; the empty message for a finish with an error or for the last handle dropped; for any
other call, one that a producer task of `w` finishes with. -/
def WinsWith : Op → AssistantMessage → Prop
  | .finish _ m, m' => m' = m
  | .finishWithError _ _, m' => m' = {}
  | .dropSender _, m' => m' = {}
  | _, m' => w.finishesWith m'

/-- What one call does to the completion: it stays sound, and stands where it stood, or it was
unclaimed and the call claimed it by a finish with an error that is still sending, or completed
it with the message it wins with. -/
def CallSettles (op : Op) (w' : World) : Prop :=
  w'.completion.Sound ∧
    (w'.completion.stage = w.completion.stage ∨
      w.completion.stage = .unclaimed ∧
        ((∃ i e, op = .finishWithError i e) ∧ w'.completion.stage = .claimed ∨
          ∃ m, w.WinsWith op m ∧ w'.completion.stage = .completed m))

namespace CallSettles

variable {w} {op : Op} {w' : World}

theorem of_stage (hs : w'.completion.Sound) (h : w'.completion.stage = w.completion.stage) :
    w.CallSettles op w' :=
  ⟨hs, .inl h⟩

theorem of_completion (hw : w.completion.Sound) (h : w'.completion = w.completion) :
    w.CallSettles op w' :=
  ⟨h ▸ hw, .inl (by rw [h])⟩

theorem congr {w'' : World} (h : w.CallSettles op w') (h' : w''.completion = w'.completion) :
    w.CallSettles op w'' := by
  unfold CallSettles; rw [h']; exact h

theorem of_settlesWith {m : AssistantMessage} (h : SettlesWith m w w') (hop : w.WinsWith op m) :
    w.CallSettles op w' :=
  ⟨h.1, h.2.imp_right fun h => ⟨h.1, .inr ⟨m, hop, h.2⟩⟩⟩

theorem of_taskSettles (h : TaskSettles w w') (hop : ∀ m, w.finishesWith m → w.WinsWith op m) :
    w.CallSettles op w' :=
  ⟨h.1, h.2.2.imp_right fun ⟨h0, m, hm, h1⟩ => ⟨h0, .inr ⟨m, hop m hm, h1⟩⟩⟩

end CallSettles

theorem perform_callSettles (a : Activity) (op : Op) (hw : w.completion.Sound)
    (ha : a.finishing = false) (hop : ∀ m, w.finishesWith m → w.WinsWith op m) :
    w.CallSettles op (w.perform a).2 := by
  obtain ⟨-, h | ⟨h, -⟩⟩ := w.perform_settles a false hw ha (by simp)
  · exact .of_taskSettles h hop
  · cases h

theorem exec_settles (op : Op) (hw : w.completion.Sound) : w.CallSettles op (w.exec op).2 := by
  have hc := w.exec_call op
  generalize w.exec op = r at hc ⊢
  cases hc with
  | refused _ | finishLost _ _ _ => exact .of_stage hw rfl
  | send _ _ | yield | nextEvent _ | result _ => exact w.perform_callSettles _ _ hw rfl fun _ h => h
  | finish m _ => exact .of_settlesWith (w.finishWith_settles m hw) rfl
  | finishWithError e _ hc =>
    have hst : w.completion.stage = .unclaimed := hw.stage_unclaimed.2 hc
    obtain ⟨hs, h | ⟨-, -, h⟩⟩ :=
      w.claimed.perform_settles (.finishWithError e .fresh) true hw.claim rfl (fun _ => rfl)
    · -- still sending: the claim stands
      refine ⟨hs, .inr ⟨hst, .inl ⟨⟨_, e, rfl⟩, ?_⟩⟩⟩
      rcases h.2.2 with h | ⟨h, -⟩
      · rw [h]; simp [claimed, Completion.stage, hw.done_of_unclaimed hc]
      · simp [claimed, Completion.stage, hw.done_of_unclaimed hc] at h
    · exact ⟨hs, .inr ⟨hst, .inr ⟨{}, rfl, h⟩⟩⟩
  | clone _ => exact ⟨⟨hw.claimed_of_done, hw.result_of_not_done⟩, .inl (by simp [Completion.stage])⟩
  | dropSender _ => exact .of_settlesWith (dropHandle_settles _ hw) rfl
  | spawnProducer events finish _ =>
    exact .of_completion hw (congrArg Core.completion (core_spawn _ events finish))
  | collected _ hp => exact hp ▸ w.perform_callSettles .collect .collectResult hw rfl fun _ h => h
  | collectAbandoned _ hp =>
    have h := w.perform_callSettles .collect .collectResult hw rfl fun _ h => h
    rw [hp] at h
    exact h.congr (congrArg Core.completion (core_dropReceiver _))
  | dropStream _ => exact .of_completion hw (congrArg Core.completion (core_dropReceiver w))

theorem Reachable.sound (hw : w.Reachable) : w.completion.Sound := by
  induction hw with
  | new capacity => exact ⟨by simp [World.new], fun _ => rfl⟩
  | exec op _ ih => exact (exec_settles _ op ih).1

/-! ### What the calls answer -/

theorem awaitResult_stage (fuel : Nat) (m : AssistantMessage) (h : (w.awaitResult fuel).1 = some m) :
    (w.awaitResult fuel).2.completion.stage = .completed m := by
  induction fuel generalizing w with
  | zero => simp [awaitResult] at h
  | succ fuel ih =>
    rw [awaitResult] at h ⊢
    by_cases hd : w.completion.done = true
    · simp only [hd, if_true, Option.some.injEq] at h ⊢
      simp [Completion.stage, hd, h]
    · simp only [hd, Bool.false_eq_true, if_false] at h ⊢
      by_cases hb : w.budget = 0
      · simp [hb] at h
      · simp only [hb, if_false] at h ⊢
        generalize w.receive = r at h ⊢
        rcases r with ⟨_ | _ | e, w'⟩
        · simp at h
        · by_cases hd' : w'.completion.done = true
          · simp only [hd', if_true, Option.some.injEq] at h ⊢
            simp [Completion.stage, hd', h]
          · simp [hd'] at h
        · exact ih _ h

theorem collect_stage (fuel : Nat) (m : AssistantMessage) (h : (w.collect fuel).1 = some m) :
    (w.collect fuel).2.completion.stage = .completed m := by
  induction fuel generalizing w with
  | zero => simp [collect] at h
  | succ fuel ih =>
    rw [collect] at h ⊢
    generalize w.nextEvent = r at h ⊢
    rcases r with ⟨_ | _ | e, w'⟩
    · simp at h
    · exact awaitResult_stage _ _ m h
    · exact ih _ h

/-- One look at the caller's operation: only a finish with an error answers that it won, and an
answer with a message comes only once the stream is done, with its message. -/
theorem pollActivity_reply (a : Activity) :
    match w.pollActivity a with
    | (some r, _, w') =>
      (r = .won true → a.finishing = true) ∧ ∀ m, r = .message m → w'.completion.stage = .completed m
    | (none, a', _) => a'.finishing = a.finishing := by
  cases a with
  | send e ph =>
    simp only [pollActivity]
    generalize w.pollSend .caller e ph = r
    rcases r with ⟨_ | ok, ph', w'⟩ <;> simp [Activity.finishing]
  | finishWithError err ph =>
    simp only [pollActivity]
    generalize w.pollSend .caller (.error err) ph = r
    rcases r with ⟨_ | ok, ph', w'⟩ <;> simp [Activity.finishing]
  | nextEvent =>
    simp only [pollActivity]
    generalize w.nextEvent = r
    rcases r with ⟨_ | e, w'⟩ <;> simp
  | result =>
    have h := w.awaitResult_stage (w.queue.events.length + 1)
    simp only [pollActivity]
    generalize w.awaitResult _ = r at h
    rcases r with ⟨_ | m, w'⟩
    · simp
    · simp only [reduceCtorEq, false_implies, Reply.message.injEq, true_and]
      rintro m' rfl
      exact h _ rfl
  | collect =>
    have h := w.collect_stage ((w.backlog.getD []).length + w.queue.events.length + 1)
    simp only [pollActivity]
    generalize w.collect _ = r at h
    rcases r with ⟨_ | m, w'⟩
    · simp
    · simp only [reduceCtorEq, false_implies, Reply.message.injEq, true_and]
      rintro m' rfl
      rw [show w'.dropReceiver.completion = w'.completion from
        congrArg Core.completion (core_dropReceiver w')]
      exact h _ rfl
  | pause resumed => cases resumed <;> simp [pollActivity, Activity.finishing]

theorem perform_reply (a : Activity) :
    ((w.perform a).1 = some (.won true) → a.finishing = true) ∧
      ∀ m, (w.perform a).1 = some (.message m) → (w.perform a).2.completion.stage = .completed m := by
  refine perform_induct (fun _ a' => a'.finishing = a.finishing)
    (fun r v => (r = some (.won true) → a.finishing = true) ∧
      ∀ m, r = some (.message m) → v.completion.stage = .completed m)
    (fun _ _ h => h) (fun _ _ _ h => ⟨h, h⟩) ?_ (fun _ _ _ => by simp) w a rfl
  intro v a' ha'
  have h := v.pollActivity_reply a'
  generalize v.pollActivity a' = r at h ⊢
  rcases r with ⟨_ | r, a'', v'⟩
  · exact h.trans ha'
  · exact ⟨fun hr => ha' ▸ h.1 (Option.some.inj hr), fun m hm => h.2 m (Option.some.inj hm)⟩

/-- Once the completion is claimed, a finish answers that it lost, or is refused, and changes
nothing. -/
theorem exec_finish_of_claimed (i : Nat) (m : AssistantMessage) (hc : w.completion.claimed = true) :
    w.exec (.finish i m) = (some (if w.live i then .won false else .refused), w) := by
  simp only [exec, finishWith_of_claimed w m hc]
  split <;> rfl

/-- Once the completion is claimed, a finish with an error answers that it lost, or is refused,
and changes nothing. -/
theorem exec_finishWithError_of_claimed (i : Nat) (e : StreamError)
    (hc : w.completion.claimed = true) :
    w.exec (.finishWithError i e) = (some (if w.live i then .won false else .refused), w) := by
  simp only [exec, claim_of_claimed w hc]
  split <;> rfl

theorem CallSettles.claimed {v : World} {op : Op} {w' : World} (h : v.CallSettles op w')
    (hv : v.completion.Sound) (hc : v.completion.claimed = true) : w'.completion.claimed = true := by
  rcases h.2 with h' | ⟨h', -⟩
  · cases hc' : w'.completion.claimed
    · have := h.1.stage_unclaimed.2 hc'
      rw [h', hv.stage_unclaimed] at this
      simp [hc] at this
    · rfl
  · rw [hv.stage_unclaimed] at h'
    simp [hc] at h'

/-- A call answers that it won only as a finish, or a finish with an error, that found the
completion unclaimed; it leaves it claimed. -/
theorem exec_won (op : Op) (hw : w.completion.Sound) (h : (w.exec op).1 = some (.won true)) :
    w.completion.claimed = false ∧ (w.exec op).2.completion.claimed = true := by
  -- only a finish with an error, among the caller's operations, answers that it won
  have other : ∀ a : Activity, a.finishing = false → (w.perform a).1 ≠ some (.won true) :=
    fun a ha hr => by simpa [ha] using (w.perform_reply a).1 hr
  have hc := w.exec_call op
  generalize w.exec op = r at hc h ⊢
  cases hc with
  | refused _ | finishLost _ _ _ | clone _ | dropSender _ | spawnProducer _ _ _ | yield
  | collectAbandoned _ _ | dropStream _ => cases h
  | send _ _ | nextEvent _ | result _ => exact absurd h (other _ rfl)
  | collected _ hp => exact absurd (by rw [hp]; exact h) (other .collect rfl)
  | finish m _ =>
    cases hc : w.completion.claimed
    · exact ⟨rfl, claimed_finishWith w m⟩
    · rw [finishWith_of_claimed w m hc] at h; cases h
  | finishWithError e _ hc =>
    refine ⟨hc, ?_⟩
    obtain ⟨hs, h' | ⟨-, -, h'⟩⟩ :=
      w.claimed.perform_settles (.finishWithError e .fresh) true hw.claim rfl (fun _ => rfl)
    · exact h'.claimed hw.claim rfl
    · exact hs.claimed_of_done (Completion.done_of_stage h')

theorem exec_message (op : Op) (m : AssistantMessage) (h : (w.exec op).1 = some (.message m)) :
    (w.exec op).2.completion.stage = .completed m := by
  have hc := w.exec_call op
  generalize w.exec op = r at hc h ⊢
  cases hc with
  | refused _ | finish _ _ | finishLost _ _ _ | clone _ | dropSender _ | spawnProducer _ _ _ | yield
  | collectAbandoned _ _ | dropStream _ => cases h
  | send _ _ | nextEvent _ | result _ => exact (w.perform_reply _).2 m h
  | finishWithError e _ _ => exact (w.claimed.perform_reply _).2 m h
  | collected _ hp =>
    have hm := (w.perform_reply .collect).2 m
    rw [hp] at hm
    exact hm h

/-- Over any run, at most one call answers that it won, and none once the completion is claimed. -/
theorem run_won_count (ops : List Op) (hw : w.completion.Sound) :
    (w.run ops).1.count (some (.won true)) ≤ if w.completion.claimed then 0 else 1 := by
  induction ops generalizing w with
  | nil => simp [run]
  | cons op ops ih =>
    have hs := w.exec_settles op hw
    have hrest := ih _ hs.1
    simp only [run, List.count_cons, beq_iff_eq]
    generalize hr : w.exec op = r at hs hrest
    rcases r with ⟨r, w'⟩
    dsimp only at hs hrest ⊢
    by_cases hwon : r = some (.won true)
    · -- this call won: the completion was unclaimed, and is claimed for the rest of the run
      have h := w.exec_won op hw (by rw [hr, hwon])
      rw [hr] at h
      dsimp only at h
      simp only [h.2, if_true] at hrest
      simp [hwon, h.1, hrest]
    · cases hc : w.completion.claimed
      · have : (if w'.completion.claimed then 0 else 1) ≤ 1 := by split <;> omega
        simp [hwon]; omega
      · simp only [hs.claimed hw hc, if_true] at hrest
        simp [hwon, hrest]

theorem run_completed (ops : List Op) (m : AssistantMessage) (hw : w.completion.Sound)
    (h : w.completion.stage = .completed m) : (w.run ops).2.completion.stage = .completed m := by
  induction ops generalizing w with
  | nil => exact h
  | cons op ops ih =>
    have hs := w.exec_settles op hw
    simp only [run]
    refine ih _ hs.1 ?_
    rcases hs.2 with h' | ⟨h', -⟩
    · rw [h', h]
    · rw [h] at h'; cases h'

/-- A call that completes the stream found the completion unclaimed, and completes it with the
message it wins with. -/
theorem exec_completes (op : Op) (hw : w.completion.Sound) (hd : w.completion.done = false)
    (hd' : (w.exec op).2.completion.done = true) :
    w.completion.claimed = false ∧
      ∃ m, w.WinsWith op m ∧ (w.exec op).2.completion.stage = .completed m := by
  have hnot : ∀ c : Completion, c.done = true → c.stage = .completed (c.result.getD {}) :=
    fun c h => by simp [Completion.stage, h]
  rcases (w.exec_settles op hw).2 with h | ⟨h0, ⟨-, h⟩ | h⟩
  · rw [hnot _ hd'] at h
    simp [Completion.stage, hd] at h
    split at h <;> cases h
  · rw [hnot _ hd'] at h; cases h
  · exact ⟨hw.stage_unclaimed.1 h0, h⟩

end World

open World in
/-- The completion of a channel pair is decided once. Over any run from a fresh channel, at most
one finish or finish with an error answers that it won. In the world it reaches, once the
completion is claimed, a finish or a finish with an error answers false (or is refused) and
changes nothing. A call completes the stream only if it found the completion unclaimed, and then
with the message it wins with: its own, the empty one for a finish with an error or a last
handle dropped, or a producer task's. A completed stream keeps its message over every later run,
and a call answers with a message only once the stream is done, with that message. -/
theorem completion_decided_once (capacity : Nat) (ops : List Op) :
    let w := ((World.new capacity).run ops).2
    ((World.new capacity).run ops).1.count (some (.won true)) ≤ 1 ∧
    (w.completion.claimed = true → ∀ i m e,
      w.exec (.finish i m) = (some (if w.live i then .won false else .refused), w) ∧
      w.exec (.finishWithError i e) = (some (if w.live i then .won false else .refused), w)) ∧
    (∀ op, w.completion.done = false → (w.exec op).2.completion.done = true →
      w.completion.claimed = false ∧
        ∃ m, w.WinsWith op m ∧ (w.exec op).2.completion.stage = .completed m) ∧
    (∀ m more, w.completion.stage = .completed m →
      (w.run more).2.completion.stage = .completed m) ∧
    (∀ op m, (w.exec op).1 = some (.message m) →
      (w.exec op).2.completion.done = true ∧ (w.exec op).2.completion.stage = .completed m) := by
  intro w
  have hnew : (World.new capacity).completion.Sound := (Reachable.new capacity).sound
  have hw : w.completion.Sound := ((Reachable.new capacity).run ops).sound
  refine ⟨?_, fun hc i m e => ⟨w.exec_finish_of_claimed i m hc,
    w.exec_finishWithError_of_claimed i e hc⟩, fun op hd hd' => w.exec_completes op hw hd hd',
    fun m more h => w.run_completed more m hw h, fun op m h => ?_⟩
  · have h := (World.new capacity).run_won_count ops hnew
    simpa [World.new] using h
  · have h := w.exec_message op m h
    exact ⟨Completion.done_of_stage h, h⟩

example : ((World.new 1).run [.clone 0, .finishWithError 1 .cancelled, .finish 0 {}]).1 =
    [some .unit, some (.won true), some (.won false)] := by decide

end ChatStream.Stream
