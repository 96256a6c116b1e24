import Mathlib
import ChatStream.Proofs.ChannelCore

/-! # The channel's counts add up

The queue closes for the consumer when the last reference to the sending side goes, and the
stream is completed when the last handle goes. Both are counters, kept apart from the things they
count: the stored reference and one per send waiting for room; the caller's handles and one per
task that has not finished. `Core.Inv` says the counters match what they count, with the
references and the handle that the party running at the moment holds outside the tables, and
every call is shown to keep it (`Reachable.inv`). -/

namespace ChatStream.Stream

def arraySum {α : Type} (g : α → Nat) (xs : Array α) : Nat := (xs.toList.map g).sum

section ArraySum

variable {α : Type} (g : α → Nat)

theorem sum_map_set (l : List α) (i : Nat) (x : α) (hi : i < l.length) :
    ((l.set i x).map g).sum + g l[i] = (l.map g).sum + g x := by
  induction l generalizing i with
  | nil => simp at hi
  | cons y l ih =>
    cases i with
    | zero => simp; omega
    | succ i =>
      have := ih i (by simpa using hi)
      simp only [List.set_cons_succ, List.map_cons, List.sum_cons, List.getElem_cons_succ]
      omega

@[simp] theorem arraySum_push (xs : Array α) (x : α) :
    arraySum g (xs.push x) = arraySum g xs + g x := by
  simp [arraySum]

theorem arraySum_set (xs : Array α) (i : Nat) (x : α) (hi : i < xs.size) :
    arraySum g (xs.set! i x) + g xs[i] = arraySum g xs + g x := by
  have h := sum_map_set g xs.toList i x (by simpa using hi)
  simp only [Array.getElem_toList] at h
  simpa [arraySum] using h

end ArraySum

/-- The references a send holds: one while it waits for room. -/
def SendPhase.refs : SendPhase → Nat
  | .fresh => 0
  | .holding => 1

/-- The references the caller's operation holds. -/
def Activity.refs : Activity → Nat
  | .send _ ph => ph.refs
  | .finishWithError _ ph => ph.refs
  | _ => 0

/-- The references a task slot holds: one while its task waits in a send. -/
def slotRefs (o : Option Producer) : Nat := o.elim 0 fun p => p.phase.refs

/-- The handles a task slot holds: one until its task ends. -/
def slotHandles (o : Option Producer) : Nat := o.elim 0 fun _ => 1

@[simp] theorem slotRefs_none : slotRefs none = 0 := rfl
@[simp] theorem slotRefs_some (p : Producer) : slotRefs (some p) = p.phase.refs := rfl
@[simp] theorem slotHandles_none : slotHandles none = 0 := rfl
@[simp] theorem slotHandles_some (p : Producer) : slotHandles (some p) = 1 := rfl

namespace Core

/-- References to the sending side held by the tasks waiting in a send. -/
def taskRefs (c : Core) : Nat := arraySum slotRefs c.producers

/-- The tasks that have not finished; each holds a handle. -/
def liveTasks (c : Core) : Nat := arraySum slotHandles c.producers

def liveHandles (c : Core) : Nat := arraySum (fun b => if b then 1 else 0) c.handles

/-- The counts of a core add up, with `r` references and `k` handles held outside its tables: by
the caller's send in progress, or by a task taken out of the table while it runs. -/
structure Inv (r k : Nat) (c : Core) : Prop where
  stored : c.completion.stored = !c.completion.done
  refs : c.senderRefs = (if c.completion.stored then 1 else 0) + c.taskRefs + r
  handles : c.completion.handles = c.liveHandles + c.liveTasks + k
  holding : ∀ p, some p ∈ c.producers → p.phase = .holding → p.events ≠ []
  taken : c.taken ≤ c.log.length
  /-- Handles run out only after a claim: the last one claims when it goes. -/
  unclaimed : c.completion.claimed = false → 0 < c.completion.handles

namespace Inv

variable {r k : Nat} {c : Core}

theorem claim (h : c.Inv r k) : { c with completion := { c.completion with claimed := true } }.Inv r k :=
  ⟨h.stored, h.refs, h.handles, h.holding, h.taken, fun h' => by cases h'⟩

theorem stored_of_not_done (h : c.Inv r k) (hd : c.completion.done = false) :
    c.completion.stored = true := by
  rw [h.stored, hd]
  rfl

theorem sendDone (ph : SendPhase) (h : c.Inv (r + ph.refs) k) (log : List StreamEvent)
    (hlog : c.log <+: log) :
    { c with log, senderRefs := if ph = SendPhase.holding then c.senderRefs - 1 else c.senderRefs }.Inv r k := by
  refine ⟨h.stored, ?_, h.handles, h.holding, Nat.le_trans h.taken hlog.length_le, h.unclaimed⟩
  have := h.refs
  cases ph <;> simp [SendPhase.refs, taskRefs] at this ⊢ <;> omega

theorem dropRef (h : c.Inv (r + 1) k) : { c with senderRefs := c.senderRefs - 1 }.Inv r k := by
  refine ⟨h.stored, ?_, h.handles, h.holding, h.taken, h.unclaimed⟩
  have := h.refs
  simp only [taskRefs] at this ⊢
  omega

theorem sendWaits (ph : SendPhase) (h : c.Inv (r + ph.refs) k) :
    { c with senderRefs := if ph = SendPhase.fresh then c.senderRefs + 1 else c.senderRefs }.Inv (r + 1) k := by
  refine ⟨h.stored, ?_, h.handles, h.holding, h.taken, h.unclaimed⟩
  have := h.refs
  cases ph <;> simp [SendPhase.refs, taskRefs] at this ⊢ <;> omega

theorem complete (h : c.Inv r k) (m : AssistantMessage) :
    { c with
      senderRefs := if c.completion.stored then c.senderRefs - 1 else c.senderRefs
      completion := { c.completion with result := some (c.completion.result.getD m),
                                        done := true, stored := false } }.Inv r k := by
  refine ⟨rfl, ?_, h.handles, h.holding, h.taken, h.unclaimed⟩
  have := h.refs
  cases hs : c.completion.stored <;> simp [hs, taskRefs] at this ⊢ <;> omega

theorem consumer {c' : Core} (h : c.Inv r k) (hm : c.ConsumerMove c') : c'.Inv r k := by
  obtain ⟨t, o, b, rfl, ht⟩ := hm
  exact ⟨h.stored, h.refs, h.handles, h.holding, ht h.taken, h.unclaimed⟩

theorem dropKept (h : c.Inv r (k + 1)) (hk : c.completion.handles ≠ 1 ∨ c.completion.claimed = true) :
    { c with completion := { c.completion with handles := c.completion.handles - 1 } }.Inv r k := by
  refine ⟨h.stored, h.refs, ?_, h.holding, h.taken, fun hc => ?_⟩
  · have := h.handles
    simp [liveHandles, liveTasks] at this ⊢
    omega
  · -- a handle that is not the last leaves one behind
    have := h.unclaimed hc
    rcases hk with hk | hk
    · simp only at this ⊢; omega
    · simp only at hc; simp [hk] at hc

/-- The last handle, going while nothing is claimed, completes the stream; its error event, if
queued, is one more event in the log. -/
theorem dropLast (h : c.Inv r (k + 1)) (hl : c.completion.handles = 1) (lost : List StreamEvent) :
    { c with
      log := c.log ++ lost
      senderRefs := if c.completion.stored then c.senderRefs - 1 else c.senderRefs
      completion := { c.completion with handles := 0, claimed := true, done := true,
                                        result := some (c.completion.result.getD {}),
                                        stored := false } }.Inv r k := by
  refine ⟨rfl, ?_, ?_, h.holding, Nat.le_trans h.taken (by simp), fun h' => by cases h'⟩
  · have := h.refs
    cases hs : c.completion.stored <;> simp [hs, taskRefs] at this ⊢ <;> omega
  · have := h.handles
    simp [liveHandles, liveTasks] at this ⊢
    omega

theorem clone (h : c.Inv r k) :
    { c with handles := c.handles.push true,
             completion := { c.completion with handles := c.completion.handles + 1 } }.Inv r k := by
  refine ⟨h.stored, h.refs, ?_, h.holding, h.taken, fun _ => by simp⟩
  have := h.handles
  simp only [liveHandles, liveTasks, arraySum_push, if_true] at this ⊢
  omega

/-- A handle of the caller given up, to be dropped or moved into a task: it is held outside the
table meanwhile. -/
theorem release {i : Nat} (h : c.Inv r k) (hi : c.handles[i]? = some true) :
    { c with handles := c.handles.set! i false }.Inv r (k + 1) := by
  obtain ⟨hlt, hget⟩ := Array.getElem?_eq_some_iff.1 hi
  have hh := arraySum_set (fun b => if b then 1 else 0) c.handles i false hlt
  rw [hget] at hh
  refine ⟨h.stored, h.refs, ?_, h.holding, h.taken, h.unclaimed⟩
  have := h.handles
  simp only [liveHandles, liveTasks] at this hh ⊢
  simp only [Bool.false_eq_true, if_false, if_true] at hh
  omega

theorem spawn (h : c.Inv r (k + 1)) (events : List StreamEvent) (finish : Option AssistantMessage) :
    { c with producers := c.producers.push (some { events, finish }) }.Inv r k := by
  refine ⟨h.stored, ?_, ?_, ?_, h.taken, h.unclaimed⟩
  · have := h.refs
    simp only [taskRefs, arraySum_push, slotRefs_some] at this ⊢
    simp [SendPhase.refs, this]
  · have := h.handles
    simp only [liveHandles, liveTasks, arraySum_push, slotHandles_some] at this ⊢
    omega
  · intro q hq hph
    rcases Array.mem_push.1 hq with hq | hq
    · exact h.holding q hq hph
    · cases hq; cases hph

theorem takeOut {i : Nat} {p : Producer} (h : c.Inv r k) (hi : c.producers[i]? = some (some p)) :
    { c with producers := c.producers.set! i none }.Inv (r + p.phase.refs) (k + 1) ∧
      (p.phase = .holding → p.events ≠ []) := by
  obtain ⟨hlt, hget⟩ := Array.getElem?_eq_some_iff.1 hi
  have hr := arraySum_set slotRefs c.producers i none hlt
  have hh := arraySum_set slotHandles c.producers i none hlt
  rw [hget] at hr hh
  simp only [slotRefs_some, slotRefs_none, slotHandles_some, slotHandles_none] at hr hh
  refine ⟨⟨h.stored, ?_, ?_, ?_, h.taken, h.unclaimed⟩, h.holding p (Array.mem_of_getElem? hi)⟩
  · have := h.refs
    simp only [taskRefs] at this ⊢
    omega
  · have := h.handles
    simp only [liveTasks, liveHandles] at this ⊢
    omega
  · intro q hq
    rcases Array.mem_or_eq_of_mem_setIfInBounds hq with hq | hq
    · exact h.holding q hq
    · cases hq

/-- A task put back in the table with what is left of it: its references and its handle count
there again. -/
theorem putBack {i : Nat} (x : Option Producer) (hi : i < c.producers.size)
    (h : { c with producers := c.producers.set! i none }.Inv (r + slotRefs x) (k + slotHandles x))
    (hx : ∀ q, x = some q → q.phase = .holding → q.events ≠ []) :
    { c with producers := c.producers.set! i x }.Inv r k := by
  have hr := arraySum_set slotRefs (c.producers.set! i none) i x (by simpa using hi)
  have hh := arraySum_set slotHandles (c.producers.set! i none) i x (by simpa using hi)
  simp only [Array.set!_eq_setIfInBounds, Array.setIfInBounds_setIfInBounds,
    Array.getElem_setIfInBounds_self, slotRefs_none, slotHandles_none, Nat.add_zero] at hr hh
  refine ⟨h.stored, ?_, ?_, ?_, h.taken, h.unclaimed⟩
  · have := h.refs
    simp only [taskRefs, Array.set!_eq_setIfInBounds] at this ⊢
    omega
  · have := h.handles
    simp only [liveTasks, liveHandles, Array.set!_eq_setIfInBounds] at this ⊢
    omega
  · -- a task in the table is one of the view's, or the one put back
    intro q hq
    have hq : some q ∈ (c.producers.set! i none).set! i x := by
      simpa [Array.setIfInBounds_setIfInBounds] using hq
    rcases Array.mem_or_eq_of_mem_setIfInBounds hq with hq | hq
    · exact h.holding q hq
    · exact hx q hq.symm

end Inv

end Core

namespace World

variable (w : World) {r k : Nat}

/-- A send keeps the counts, whatever the task table reads: it finishes holding nothing, or waits
holding one reference. -/
theorem pollSend_inv (ps : Array (Option Producer)) (p : Party) (e : StreamEvent) (ph : SendPhase)
    (h : { w.core with producers := ps }.Inv (r + ph.refs) k) :
    match w.pollSend p e ph with
    | (some _, ph', w') => ph' = .fresh ∧ { w'.core with producers := ps }.Inv r k
    | (none, ph', w') => ph' = .holding ∧ { w'.core with producers := ps }.Inv (r + 1) k := by
  have hs := w.pollSend_spec p e ph
  generalize w.pollSend p e ph = res at hs ⊢
  rcases res with ⟨_ | ok, ph', w'⟩
  · refine ⟨hs.1, ?_⟩
    rw [hs.2]
    exact h.sendWaits ph
  · refine ⟨hs.1, ?_⟩
    rw [hs.2.2]
    refine h.sendDone ph _ ?_
    split
    · exact List.prefix_append _ _
    · exact List.prefix_refl _

theorem complete_inv (ps : Array (Option Producer)) (m : AssistantMessage)
    (h : { w.core with producers := ps }.Inv r k) : { (w.complete m).core with producers := ps }.Inv r k := by
  rw [core_complete]
  exact h.complete m

theorem finishWith_inv (ps : Array (Option Producer)) (m : AssistantMessage)
    (h : { w.core with producers := ps }.Inv r k) :
    { (w.finishWith m).2.core with producers := ps }.Inv r k := by
  cases hc : w.completion.claimed
  · rw [finishWith_of_unclaimed w m hc]
    exact complete_inv _ ps m h.claim
  · rw [finishWith_of_claimed w m hc]
    exact h

theorem dropHandle_inv (ps : Array (Option Producer)) (h : { w.core with producers := ps }.Inv r (k + 1)) :
    { w.dropHandle.core with producers := ps }.Inv r k := by
  by_cases hk : w.completion.handles = 1 ∧ w.completion.claimed = false
  · obtain ⟨lost, -, hc⟩ := w.core_dropHandle_of_last hk.1 hk.2
    rw [hc]
    exact h.dropLast hk.1 lost
  · have hk : w.completion.handles ≠ 1 ∨ w.completion.claimed = true := by
      cases hc : w.completion.claimed <;> simp_all
    rw [w.core_dropHandle_of_kept hk]
    exact h.dropKept hk

theorem dropHandle_inv_self (h : w.core.Inv r (k + 1)) : w.dropHandle.core.Inv r k := by
  have hd := w.dropHandle_inv w.producers h
  rw [← w.producers_dropHandle] at hd
  exact hd

/-- A running task, taken out of the table, keeps the counts with the references and the handle
it holds itself; it ends holding neither, or waits in a send with its events still to go. -/
theorem runProducer_inv (ps : Array (Option Producer)) (i : Nat) (p : Producer)
    (h : { w.core with producers := ps }.Inv (r + p.phase.refs) 1)
    (hp : p.phase = .holding → p.events ≠ []) :
    { (w.runProducer i p).2.core with producers := ps }.Inv (r + slotRefs (w.runProducer i p).1)
        (slotHandles (w.runProducer i p).1) ∧
      ∀ q, (w.runProducer i p).1 = some q → q.phase = .holding → q.events ≠ [] := by
  fun_induction runProducer w i p with
  | case1 w p e rest _ ok ph w' hpoll ih =>
    have hs := w.pollSend_inv ps (.task i) e p.phase h
    rw [hpoll] at hs
    exact ih hs.2 (by simp)
  | case2 w p e rest hev ph w' hpoll =>
    have hs := w.pollSend_inv ps (.task i) e p.phase h
    rw [hpoll] at hs
    refine ⟨?_, ?_⟩
    · simpa [slotRefs, slotHandles, hs.1, SendPhase.refs] using hs.2
    · rintro q hq -
      simp only [Option.some.injEq] at hq
      subst hq
      simp [hev]
  | case3 w p hev w1 =>
    -- a task with nothing left to send holds no reference
    have hfresh : p.phase.refs = 0 := by
      cases hph : p.phase
      · rfl
      · exact absurd hev (hp hph)
    rw [hfresh, Nat.add_zero] at h
    refine ⟨?_, by simp⟩
    simp only [slotRefs, slotHandles, Option.elim_none, Nat.add_zero]
    apply dropHandle_inv
    dsimp only [w1]
    cases p.finish with
    | none => exact h
    | some m => exact w.finishWith_inv ps m h

theorem runNext_inv (h : w.core.Inv r 0) : w.runNext.2.core.Inv r 0 := by
  unfold runNext
  split
  · exact h
  · rename_i i rest _
    dsimp only
    split
    · rename_i p hp
      obtain ⟨hv, hph⟩ := Core.Inv.takeOut h hp
      have hrun := runProducer_inv { w with runQueue := rest, budget := budgetPerRun }
        (w.producers.set! i none) i p hv hph
      have hprod := producers_runProducer { w with runQueue := rest, budget := budgetPerRun } i p
      generalize World.runProducer _ i p = res at hrun hprod ⊢
      rcases res with ⟨p', w'⟩
      dsimp only at hrun hprod ⊢
      have hi : i < w'.core.producers.size := by
        simp only [core, hprod]
        exact (Array.getElem?_eq_some_iff.1 hp).1
      have hput := Core.Inv.putBack (c := w'.core) (r := r) (k := 0) p' hi
        (by simpa [core, hprod] using hrun.1) hrun.2
      simpa [core, hprod] using hput
    · exact h

theorem runBatch_inv (n : Nat) (h : w.core.Inv r 0) : (w.runBatch n).2.core.Inv r 0 :=
  runBatch_induct (fun v => v.core.Inv r 0) (fun v hv => v.runNext_inv hv) n w h

theorem pollActivity_inv (a : Activity) (h : w.core.Inv a.refs 0) :
    match w.pollActivity a with
    | (some _, _, w') => w'.core.Inv 0 0
    | (none, a', w') => w'.core.Inv a'.refs 0 := by
  have consumer : ∀ v : World, w.core.ConsumerMove v.core → v.core.Inv a.refs 0 :=
    fun v hm => h.consumer hm
  cases a with
  | send e ph =>
    have hs := w.pollSend_inv w.producers .caller e ph (r := 0) (by rw [Nat.zero_add]; exact h)
    have hp := w.producers_pollSend .caller e ph
    simp only [pollActivity]
    generalize w.pollSend .caller e ph = res at hs hp ⊢
    rcases res with ⟨_ | ok, ph', w'⟩ <;> dsimp only at hp <;> rw [← hp] at hs
    · rw [hs.1]; exact hs.2
    · exact hs.2
  | finishWithError err ph =>
    have hs := w.pollSend_inv w.producers .caller (.error err) ph (r := 0)
      (by rw [Nat.zero_add]; exact h)
    have hp := w.producers_pollSend .caller (.error err) ph
    simp only [pollActivity]
    generalize w.pollSend .caller (.error err) ph = res at hs hp ⊢
    rcases res with ⟨_ | ok, ph', w'⟩ <;> dsimp only at hp <;> rw [← hp] at hs
    · rw [hs.1]; exact hs.2
    · -- the error event is sent: the completion drops the stored reference
      have hc := w'.complete_inv w'.producers {} hs.2
      rw [← producers_complete w' {}] at hc
      exact hc
  | nextEvent =>
    have hm := w.nextEvent_consumerMove
    simp only [pollActivity]
    generalize w.nextEvent = res at hm ⊢
    rcases res with ⟨_ | e, w'⟩ <;> exact consumer w' hm
  | result =>
    have hm := w.awaitResult_consumerMove (w.queue.events.length + 1)
    simp only [pollActivity]
    generalize w.awaitResult _ = res at hm ⊢
    rcases res with ⟨_ | m, w'⟩ <;> exact consumer w' hm
  | collect =>
    have hm := w.collect_consumerMove ((w.backlog.getD []).length + w.queue.events.length + 1)
    simp only [pollActivity]
    generalize w.collect _ = res at hm ⊢
    rcases res with ⟨_ | m, w'⟩
    · exact consumer w' hm
    · exact consumer _ (hm.trans w'.dropReceiver_consumerMove)
  | pause resumed =>
    cases resumed
    · simp only [pollActivity, Bool.false_eq_true, if_false, core_defer]
      exact h
    · exact h

theorem abandon_inv (a : Activity) (h : w.core.Inv a.refs 0) : (w.abandon a).core.Inv 0 0 := by
  cases a with
  | send e ph =>
    cases ph
    · exact h
    · simp only [abandon, core_dropRef, core_leaveLine]
      exact Core.Inv.dropRef h
  | finishWithError err ph =>
    cases ph
    · exact h
    · simp only [abandon, core_dropRef, core_leaveLine]
      exact Core.Inv.dropRef h
  | collect => exact h.consumer w.dropReceiver_consumerMove
  | nextEvent => exact h
  | result => exact h
  | pause resumed => exact h

theorem perform_inv (a : Activity) (h : w.core.Inv a.refs 0) : (w.perform a).2.core.Inv 0 0 :=
  perform_induct (fun v a => v.core.Inv a.refs 0) (fun _ v => v.core.Inv 0 0)
    (fun v a hv => by rw [core_wakeDeferred]; exact v.runBatch_inv 61 hv)
    (fun _ _ _ hv => ⟨hv, hv⟩)
    (fun v a hv => by
      have hp := v.pollActivity_inv a hv
      generalize v.pollActivity a = res at hp ⊢
      rcases res with ⟨_ | r, a', v'⟩ <;> exact hp)
    (fun v a hv => v.abandon_inv a hv) w a h

theorem live_iff (i : Nat) : w.live i = true ↔ w.handles[i]? = some true := by
  unfold live
  rw [Array.getD_eq_getD_getElem?]
  cases w.handles[i]? with
  | none => simp
  | some b => cases b <;> simp

theorem exec_inv (op : Op) (h : w.core.Inv 0 0) : (w.exec op).2.core.Inv 0 0 := by
  have hc := w.exec_call op
  generalize w.exec op = r at hc ⊢
  cases hc with
  | refused _ | finishLost _ _ _ => exact h
  | send _ _ | yield | nextEvent _ | result _ => exact w.perform_inv _ h
  | finish m _ =>
    have hf := w.finishWith_inv w.producers m h
    rw [← producers_finishWith w m] at hf
    exact hf
  | finishWithError e _ _ => exact World.perform_inv _ _ h.claim
  | clone _ => exact h.clone
  | dropSender hl => exact World.dropHandle_inv_self _ (h.release ((w.live_iff _).1 hl))
  | spawnProducer events finish hl =>
    simp only [core_spawn]
    exact (h.release ((w.live_iff _).1 hl)).spawn events finish
  | collected _ hp => exact hp ▸ w.perform_inv .collect h
  | collectAbandoned _ hp =>
    have hq := w.perform_inv .collect h
    rw [hp] at hq
    exact hq.consumer (dropReceiver_consumerMove _)
  | dropStream _ => exact h.consumer w.dropReceiver_consumerMove

theorem Reachable.inv (hw : w.Reachable) : w.core.Inv 0 0 := by
  induction hw with
  | new capacity =>
    exact ⟨rfl, rfl, rfl, by simp [core, World.new], by simp [core, World.new], by simp [core, World.new]⟩
  | exec op _ ih => exact exec_inv _ op ih

end World

end ChatStream.Stream
