import ChatStream.Proofs.ChannelClosing

/-! # Room in the queue, and the error of the last handle

While the consumer is there, the slots of the queue add up to its capacity: room not handed
out, room handed to a sender that has not used it yet, and events queued (`Line.Ok`). Only
senders in the middle of a send stand in line for room, each at most once.

So once the last handle is gone, with no task left and no send of the caller's going, nobody
holds room: the error the drop queued found room exactly when fewer events than the capacity
were queued (`World.lastDrop_log`). The stream completes with the empty message either way. This
holds whether the caller drops the handle (`last_drop_queues_error_iff_room`: a consumer reading
to the end finds the error last only if it found room, and a full queue loses it) or a task
holding it ends without a message (`task_exit_queues_error_iff_room`). -/

namespace ChatStream.Stream

/-- The part of a world that decides whether an event finds room in the queue. -/
structure Line where
  log : List StreamEvent
  taken : Nat
  room : Nat
  waiting : List Party
  granted : List Party
  receiverOpen : Bool
  /-- The caller still has the stream. -/
  kept : Bool

/-- Who may stand in line for room, and how the slots add up. Every sender in line is one of
`S`, and stands there once. While the consumer is there, the room not handed out, the room
handed to senders and the events queued fill the capacity `cap`, but for `d` slots about to be
given back. The consumer's position lies within the log, and the caller has the stream exactly
while the consumer is there. -/
structure Line.Ok (cap d : Nat) (S : Party → Prop) (l : Line) : Prop where
  nodup : (l.waiting ++ l.granted).Nodup
  lined : ∀ p ∈ l.waiting ++ l.granted, S p
  load : l.receiverOpen = true → l.room + l.granted.length + (l.log.length - l.taken) + d = cap
  taken : l.taken ≤ l.log.length
  kept : l.kept = l.receiverOpen

theorem Line.Ok.mono {cap d : Nat} {S S' : Party → Prop} {l : Line} (h : l.Ok cap d S)
    (hS : ∀ p ∈ l.waiting ++ l.granted, S p → S' p) : l.Ok cap d S' :=
  ⟨h.nodup, fun p hp => hS p hp (h.lined p hp), h.load, h.taken, h.kept⟩

theorem length_filter_ne_of_mem {l : List Party} {p : Party} (hn : l.Nodup) (hp : p ∈ l) :
    (l.filter (· != p)).length + 1 = l.length := by
  have hsplit := List.length_eq_length_filter_add (· != p) (l := l)
  have hone : (l.filter fun x => !(x != p)).length = 1 := by
    rw [← List.count_eq_one_of_mem hn hp, List.count_eq_length_filter]
    congr 1
    apply List.filter_congr
    intro x _
    simp [bne]
  omega

namespace Line.Ok

/-! ### What each change of the line keeps -/

variable {cap d : Nat} {S : Party → Prop} {l : Line}

theorem join (h : l.Ok cap d S) {p : Party} (hp : p ∉ l.waiting ++ l.granted) :
    ({ l with waiting := l.waiting ++ [p] } : Line).Ok cap d (fun q => q = p ∨ S q) := by
  have hperm : (l.waiting ++ [p] ++ l.granted).Perm (p :: (l.waiting ++ l.granted)) := by
    rw [List.append_assoc]
    exact List.perm_middle
  refine ⟨hperm.nodup_iff.2 (List.nodup_cons.2 ⟨hp, h.nodup⟩), fun q hq => ?_, h.load, h.taken,
    h.kept⟩
  rcases List.mem_cons.1 (hperm.subset hq) with rfl | hq
  · exact .inl rfl
  · exact .inr (h.lined q hq)

theorem useGranted (h : l.Ok cap d S) {p : Party} (hp : p ∈ l.granted) (e : StreamEvent) :
    ({ l with granted := l.granted.filter (· != p), log := l.log ++ [e] } : Line).Ok cap d
      (fun q => q ≠ p ∧ S q) := by
  have hnd := List.nodup_append.1 h.nodup
  have hlen := length_filter_ne_of_mem hnd.2.1 hp
  refine ⟨?_, fun q hq => ?_, fun ho => ?_, ?_, h.kept⟩
  · exact h.nodup.sublist ((List.Sublist.refl _).append (List.filter_sublist))
  · rcases List.mem_append.1 hq with hq | hq
    · -- no sender waits while it holds room
      exact ⟨fun he => hnd.2.2 q hq p hp he, h.lined q (List.mem_append_left _ hq)⟩
    · obtain ⟨hq, hne⟩ := List.mem_filter.1 hq
      exact ⟨by simpa using hne, h.lined q (List.mem_append_right _ hq)⟩
  · have := h.load ho
    have ht := h.taken
    simp only [List.length_append, List.length_singleton] at this ⊢
    omega
  · exact Nat.le_trans h.taken (by simp)

theorem useRoom (h : l.Ok cap d S) (hr : 0 < l.room) (e : StreamEvent) :
    ({ l with room := l.room - 1, log := l.log ++ [e] } : Line).Ok cap d S := by
  refine ⟨h.nodup, h.lined, fun ho => ?_, Nat.le_trans h.taken (by simp), h.kept⟩
  have := h.load ho
  have ht := h.taken
  simp only [List.length_append, List.length_singleton] at this ⊢
  omega

theorem leaveWaiting (h : l.Ok cap d S) {p : Party} (hp : p ∉ l.granted) :
    ({ l with waiting := l.waiting.filter (· != p) } : Line).Ok cap d (fun q => q ≠ p ∧ S q) := by
  refine ⟨h.nodup.sublist (List.filter_sublist.append (List.Sublist.refl _)), fun q hq => ?_,
    h.load, h.taken, h.kept⟩
  rcases List.mem_append.1 hq with hq | hq
  · obtain ⟨hq, hne⟩ := List.mem_filter.1 hq
    exact ⟨by simpa using hne, h.lined q (List.mem_append_left _ hq)⟩
  · exact ⟨fun he => hp (he ▸ hq), h.lined q (List.mem_append_right _ hq)⟩

theorem leaveGranted (h : l.Ok cap d S) {p : Party} (hp : p ∈ l.granted) :
    ({ l with waiting := l.waiting.filter (· != p), granted := l.granted.filter (· != p) } : Line).Ok
      cap (d + 1) (fun q => q ≠ p ∧ S q) := by
  have hlen := length_filter_ne_of_mem (List.nodup_append.1 h.nodup).2.1 hp
  refine ⟨h.nodup.sublist (List.filter_sublist.append List.filter_sublist), fun q hq => ?_,
    fun ho => ?_, h.taken, h.kept⟩
  · rcases List.mem_append.1 hq with hq | hq <;> obtain ⟨hq, hne⟩ := List.mem_filter.1 hq
    · exact ⟨by simpa using hne, h.lined q (List.mem_append_left _ hq)⟩
    · exact ⟨by simpa using hne, h.lined q (List.mem_append_right _ hq)⟩
  · have := h.load ho
    simp only at this ⊢
    omega

theorem take (h : l.Ok cap d S) (ht : l.taken < l.log.length) :
    ({ l with taken := l.taken + 1 } : Line).Ok cap (d + 1) S := by
  refine ⟨h.nodup, h.lined, fun ho => ?_, ht, h.kept⟩
  have := h.load ho
  simp only at this ⊢
  omega

theorem dropReceiver (h : l.Ok cap d S) :
    ({ l with receiverOpen := false, waiting := [], taken := l.log.length, kept := false } : Line).Ok
      cap d S := by
  refine ⟨(List.nodup_append.1 h.nodup).2.1, fun q hq => h.lined q (List.mem_append_right _ hq),
    (fun ho => by cases ho), Nat.le_refl _, rfl⟩

end Line.Ok

namespace World

/-- The queue's slots and the senders in line for them. -/
def line (w : World) : Line :=
  ⟨w.queue.log, w.queue.taken, w.queue.room, w.queue.waiting, w.queue.granted,
    w.queue.receiverOpen, w.backlog.isSome⟩

variable (w : World)

section Scheduler

@[simp] theorem line_wake (p : Party) : (w.wake p).line = w.line := by
  cases p with
  | caller => rfl
  | task i => simp only [wake]; split <;> rfl

@[simp] theorem line_foldl_wake {α : Type} (f : α → Party) (xs : List α) :
    (xs.foldl (fun w x => w.wake (f x)) w).line = w.line := by
  induction xs generalizing w with
  | nil => rfl
  | cons x xs ih => simp [ih]

@[simp] theorem line_defer (p : Party) : (w.defer p).line = w.line := by
  unfold defer; split <;> rfl

@[simp] theorem line_wakeDeferred : w.wakeDeferred.line = w.line := by
  unfold wakeDeferred
  induction w.deferred with
  | nil => rfl
  | cons p ps ih => simp [ih]

@[simp] theorem line_spend : w.spend.line = w.line := rfl

@[simp] theorem line_wakeConsumer : w.wakeConsumer.line = w.line := by
  unfold wakeConsumer; split
  · rw [line_wake]; rfl
  · rfl

@[simp] theorem line_dropRef : w.dropRef.line = w.line := by
  unfold dropRef; dsimp only; split
  · rw [line_wakeConsumer]; rfl
  · rfl

end Scheduler

@[simp] theorem line_enqueue (e : StreamEvent) :
    (w.enqueue e).line = { w.line with log := w.line.log ++ [e] } := by
  rw [enqueue, line_wakeConsumer]; rfl

@[simp] theorem line_completion (c : Completion) : ({ w with completion := c } : World).line = w.line :=
  rfl

@[simp] theorem line_complete (m : AssistantMessage) : (w.complete m).line = w.line := by
  unfold complete; dsimp only
  split <;> simp only [line_dropRef, line_completion, line_foldl_wake _ Party.task, line_wake]

/-! ### What each operation keeps -/

variable {cap d : Nat} {S : Party → Prop}

theorem releaseRoom_ok (h : w.line.Ok cap (d + 1) S) : w.releaseRoom.line.Ok cap d S := by
  unfold releaseRoom
  split
  · rename_i p rest hw
    rw [line_wake]
    have hperm : (rest ++ (w.queue.granted ++ [p])).Perm (w.queue.waiting ++ w.queue.granted) := by
      rw [hw, ← List.append_assoc]
      exact List.perm_append_singleton p _
    refine ⟨hperm.nodup_iff.2 h.nodup, fun q hq => h.lined q (hperm.subset hq), fun ho => ?_,
      h.taken, h.kept⟩
    have := h.load ho
    simp only [line, List.length_append, List.length_singleton] at this ⊢
    omega
  · refine ⟨h.nodup, h.lined, fun ho => ?_, h.taken, h.kept⟩
    have := h.load ho
    simp only [line] at this ⊢
    omega

theorem leaveLine_ok (p : Party) (h : w.line.Ok cap 0 S) :
    (w.leaveLine p).line.Ok cap 0 (fun q => q ≠ p ∧ S q) := by
  unfold leaveLine; dsimp only
  split
  · rename_i hg
    exact releaseRoom_ok _ (h.leaveGranted (List.contains_iff_mem.1 hg))
  · rename_i hg
    exact h.leaveWaiting fun hm => hg (List.contains_iff_mem.2 hm)

theorem not_mem_line {p : Party} (hw : ¬w.queue.waiting.contains p = true)
    (hg : ¬w.queue.granted.contains p = true) : p ∉ w.line.waiting ++ w.line.granted := fun hm =>
  (List.mem_append.1 hm).elim (fun hm => hw (List.contains_iff_mem.2 hm))
    (fun hm => hg (List.contains_iff_mem.2 hm))

/-- One look at a send by `p`. A send that waits may have joined the line; one that finishes has
left it, whether it used room it was handed, took free room, or gave up. -/
theorem pollHeld_ok (p : Party) (e : StreamEvent) (h : w.line.Ok cap 0 S) :
    match w.pollHeld p e with
    | (none, _, w') => w'.line.Ok cap 0 (fun q => q = p ∨ S q)
    | (some _, _, w') => w'.line.Ok cap 0 (fun q => q ≠ p ∧ S q) := by
  have hwait : w.line.Ok cap 0 (fun q => q = p ∨ S q) := h.mono fun _ _ hq => .inr hq
  unfold pollHeld
  split_ifs with hb hd ho hg hwt hr
  · simp only [line_defer]
    exact hwait
  · simp only [line_dropRef]
    exact w.leaveLine_ok p h
  · simp only [line_dropRef]
    exact w.spend.leaveLine_ok p h
  · simp only [line_dropRef, line_enqueue]
    exact h.useGranted (List.contains_iff_mem.1 hg) e
  · exact hwait
  · simp only [line_dropRef, line_enqueue]
    exact (h.useRoom hr e).mono fun q hq hS =>
      ⟨fun he => w.not_mem_line hwt hg (he ▸ hq), hS⟩
  · exact h.join (w.not_mem_line hwt hg)

theorem pollSend_ok (p : Party) (e : StreamEvent) (ph : SendPhase) (h : w.line.Ok cap 0 S)
    (hfresh : ph = .fresh → p ∉ w.line.waiting ++ w.line.granted) :
    match w.pollSend p e ph with
    | (none, _, w') => w'.line.Ok cap 0 (fun q => q = p ∨ S q)
    | (some _, _, w') => w'.line.Ok cap 0 (fun q => q ≠ p ∧ S q) := by
  cases ph with
  | holding => exact w.pollHeld_ok p e h
  | fresh =>
    by_cases hd : w.completion.done = true ∨ (!w.completion.stored) = true
    · rw [pollSend, if_pos hd]
      exact h.mono fun q hq hS => ⟨fun he => hfresh rfl (he ▸ hq), hS⟩
    · rw [pollSend, if_neg hd]
      exact pollHeld_ok _ p e h

@[simp] theorem line_finishWith (m : AssistantMessage) : (w.finishWith m).2.line = w.line := by
  cases hc : w.completion.claimed
  · rw [finishWith_of_unclaimed w m hc, line_complete]; rfl
  · rw [finishWith_of_claimed w m hc]

/-- The last handle, going while the completion is unclaimed, queues its error only if the
completion still holds the sending side, the consumer is there and there is free room. -/
theorem line_dropHandle_of_last (hl : w.completion.handles = 1) (hc : w.completion.claimed = false) :
    w.dropHandle.line =
      if w.completion.stored = true ∧ w.queue.receiverOpen = true ∧ 0 < w.queue.room then
        { w.line with room := w.line.room - 1,
                      log := w.line.log ++
                        [.error (.provider "stream producer exited without finishing")] }
      else w.line := by
  unfold dropHandle
  simp only [hl, decide_true, Bool.not_true, Bool.false_eq_true, if_false, claim, hc]
  split_ifs <;> simp only [line_complete, line_enqueue] <;> rfl

theorem dropHandle_ok (h : w.line.Ok cap 0 S) : w.dropHandle.line.Ok cap 0 S := by
  by_cases hk : w.completion.handles = 1 ∧ w.completion.claimed = false
  · rw [w.line_dropHandle_of_last hk.1 hk.2]
    split_ifs with hroom
    · exact h.useRoom hroom.2.2 _
    · exact h
  · -- a handle that is not the last, or goes after a claim, leaves the queue alone
    have hk : w.completion.handles ≠ 1 ∨ w.completion.claimed = true := by
      cases hc : w.completion.claimed <;> simp_all
    have hline : w.dropHandle.line = w.line := by
      unfold dropHandle
      rcases hk with hk | hk
      · simp [hk]
      · by_cases hl : w.completion.handles = 1 <;> simp [hl, claim, hk]
    rw [hline]
    exact h

theorem receive_ok (h : w.line.Ok cap 0 S) : w.receive.2.line.Ok cap 0 S := by
  unfold receive
  split
  · simp only [line_defer]
    exact h
  · split
    · rename_i e rest he
      have ht : w.queue.taken < w.queue.log.length := by
        have := congrArg List.length he
        simp only [Queue.events, List.length_drop, List.length_cons] at this
        omega
      exact releaseRoom_ok _ (h.take ht)
    · split
      · exact h
      · exact h

theorem dropReceiver_ok (h : w.line.Ok cap d S) : w.dropReceiver.line.Ok cap d S := by
  unfold dropReceiver; dsimp only
  rw [line_foldl_wake _ (fun p => p)]
  exact h.dropReceiver

theorem line_backlog (b : Option (List StreamEvent)) (hb : b.isSome = w.backlog.isSome) :
    ({ w with backlog := b } : World).line = w.line := by
  simp only [line, hb]

theorem nextEvent_ok (h : w.line.Ok cap 0 S) : w.nextEvent.2.line.Ok cap 0 S := by
  unfold nextEvent
  split
  · rename_i e rest hb
    rw [line_backlog w _ (by simp [hb])]
    exact h
  · exact w.receive_ok h

theorem awaitResult_ok (fuel : Nat) (h : w.line.Ok cap 0 S) :
    (w.awaitResult fuel).2.line.Ok cap 0 S := by
  induction fuel generalizing w with
  | zero => exact h
  | succ fuel ih =>
    unfold awaitResult
    split
    · exact h
    · split
      · simp only [line_defer]
        exact h
      · have hr := w.receive_ok h
        split <;> rename_i heq <;> rw [heq] at hr
        · -- the event taken goes to the backlog
          apply ih
          rw [line_backlog _ _ (by simp)]
          exact hr
        · split <;> exact hr
        · exact hr

theorem collect_ok (fuel : Nat) (h : w.line.Ok cap 0 S) : (w.collect fuel).2.line.Ok cap 0 S := by
  induction fuel generalizing w with
  | zero => exact h
  | succ fuel ih =>
    unfold collect
    have hn := w.nextEvent_ok h
    split <;> rename_i heq <;> rw [heq] at hn
    · exact ih _ hn
    · exact awaitResult_ok _ _ hn
    · exact hn

/-- A running task keeps the line in order. It ends out of line, or waits in a send holding a
reference, the only way it may stand in line. -/
theorem runProducer_ok (i : Nat) (p : Producer) (h : w.line.Ok cap 0 S)
    (hfresh : p.phase = .fresh → Party.task i ∉ w.line.waiting ++ w.line.granted)
    (hev : p.phase = .holding → p.events ≠ []) :
    (w.runProducer i p).2.line.Ok cap 0 (fun q => q ≠ .task i ∧ S q ∨
      q = .task i ∧ ∃ p', (w.runProducer i p).1 = some p' ∧ p'.phase = .holding) := by
  fun_induction runProducer w i p generalizing S with
  | case1 w p e rest _ ok ph w' hpoll ih =>
    have hs := w.pollSend_ok (.task i) e p.phase h hfresh
    rw [hpoll] at hs
    dsimp only at hs
    -- the send finished: the task is out of line, and its next send is fresh
    refine (ih hs (fun _ hm => (hs.lined _ hm).1 rfl) (fun hh => by cases hh)).mono ?_
    intro q _ hq
    rcases hq with ⟨hne, -, hS⟩ | hq
    · exact .inl ⟨hne, hS⟩
    · exact .inr hq
  | case2 w p e rest _ ph w' hpoll =>
    have hs := w.pollSend_ok (.task i) e p.phase h hfresh
    have hspec := w.pollSend_spec (.task i) e p.phase
    rw [hpoll] at hs hspec
    dsimp only at hs hspec
    refine hs.mono fun q _ hq => ?_
    by_cases he : q = .task i
    · exact .inr ⟨he, _, rfl, hspec.1⟩
    · exact .inl ⟨he, hq.resolve_left he⟩
  | case3 w p hnil =>
    -- with nothing left to send the task holds no reference, so it is out of line
    have hph : p.phase = .fresh := by
      cases hph : p.phase
      · rfl
      · exact absurd hnil (hev hph)
    have hout : w.line.Ok cap 0 (fun q => q ≠ .task i ∧ S q) :=
      h.mono fun q hq hS => ⟨fun he => hfresh hph (he ▸ hq), hS⟩
    rename_i w1
    have hw1 : w1.line = w.line := by
      dsimp only [w1]
      cases p.finish <;> simp
    exact (w1.dropHandle_ok (hw1 ▸ hout)).mono fun q _ hq => .inl hq

end World

/-- The parties that may stand in line for room: the caller while its send holds a reference,
and every task whose send holds one. -/
def mayWait (r : Nat) (ps : Array (Option Producer)) : Party → Prop
  | .caller => r = 1
  | .task i => ∃ p, ps[i]? = some (some p) ∧ p.phase = .holding

theorem mayWait_set {r i : Nat} {ps : Array (Option Producer)} (x : Option Producer)
    (hi : i < ps.size) {q : Party}
    (hq : q ≠ .task i ∧ mayWait r ps q ∨ q = .task i ∧ ∃ p, x = some p ∧ p.phase = .holding) :
    mayWait r (ps.set! i x) q := by
  rcases hq with ⟨hne, hS⟩ | ⟨rfl, p, rfl, hp⟩
  · cases q with
    | caller => exact hS
    | task j =>
      have hj : i ≠ j := fun he => hne (he ▸ rfl)
      obtain ⟨p, hp, hph⟩ := hS
      exact ⟨p, by simpa [Array.set!_eq_setIfInBounds, Array.getElem?_setIfInBounds, hj] using hp, hph⟩
  · exact ⟨p, by simp [Array.set!_eq_setIfInBounds, hi], hp⟩

theorem mayWait_push {r : Nat} {ps : Array (Option Producer)} (x : Option Producer) {q : Party}
    (hq : mayWait r ps q) : mayWait r (ps.push x) q := by
  cases q with
  | caller => exact hq
  | task j =>
    obtain ⟨p, hp, hph⟩ := hq
    have hj : j < ps.size := (Array.getElem?_eq_some_iff.1 hp).1
    exact ⟨p, by rw [Array.getElem?_push_lt hj, ← Array.getElem?_eq_getElem hj]; exact hp, hph⟩

theorem mayWait_of_ne_caller {r r' : Nat} {ps : Array (Option Producer)} {q : Party}
    (hq : q ≠ .caller ∧ mayWait r ps q) : mayWait r' ps q := by
  cases q with
  | caller => exact absurd rfl hq.1
  | task j => exact hq.2

theorem mayWait_of_caller {r : Nat} {ps : Array (Option Producer)} {q : Party}
    (hq : q = .caller ∨ mayWait r ps q) : mayWait 1 ps q := by
  cases q with
  | caller => rfl
  | task j => exact hq.resolve_left (by simp)

namespace World

variable (w : World) {cap r : Nat}

theorem runNext_ok (h : w.line.Ok cap 0 (mayWait r w.producers)) (hi : w.core.Inv r 0) :
    w.runNext.2.line.Ok cap 0 (mayWait r w.runNext.2.producers) := by
  unfold runNext
  split
  · exact h
  · rename_i i rest _
    dsimp only
    split
    · rename_i p hp
      -- a task whose send is fresh is not in line, and one that holds has events left
      have hfresh : p.phase = .fresh → Party.task i ∉ w.line.waiting ++ w.line.granted := by
        intro hph hm
        obtain ⟨x, hx, hxp⟩ := h.lined _ hm
        rw [hp] at hx
        cases hx
        rw [hph] at hxp
        cases hxp
      have hrun := runProducer_ok { w with runQueue := rest, budget := budgetPerRun } i p h hfresh
        (hi.holding p (Array.mem_of_getElem? hp))
      have hprod := producers_runProducer { w with runQueue := rest, budget := budgetPerRun } i p
      have hlt : i < w.producers.size := (Array.getElem?_eq_some_iff.1 hp).1
      generalize World.runProducer _ i p = res at hrun hprod ⊢
      rcases res with ⟨p', w'⟩
      dsimp only at hrun hprod ⊢
      rw [hprod]
      exact hrun.mono fun q _ hq => mayWait_set p' hlt hq
    · exact h

theorem runBatch_ok (n : Nat) (h : w.line.Ok cap 0 (mayWait r w.producers)) (hi : w.core.Inv r 0) :
    (w.runBatch n).2.line.Ok cap 0 (mayWait r (w.runBatch n).2.producers) :=
  (runBatch_induct (fun v => v.line.Ok cap 0 (mayWait r v.producers) ∧ v.core.Inv r 0)
    (fun v hv => ⟨v.runNext_ok hv.1 hv.2, v.runNext_inv hv.2⟩) n w ⟨h, hi⟩).1

theorem producers_of_consumerMove {w' : World} (hm : w.core.ConsumerMove w'.core) :
    w'.producers = w.producers := by
  obtain ⟨t, o, b, hc, -⟩ := hm
  exact congrArg Core.producers hc

theorem producers_pollActivity (a : Activity) : (w.pollActivity a).2.2.producers = w.producers := by
  cases a with
  | send e ph =>
    simp only [pollActivity]
    have hp := w.producers_pollSend .caller e ph
    generalize w.pollSend .caller e ph = res at hp ⊢
    rcases res with ⟨_ | ok, ph', w'⟩ <;> exact hp
  | finishWithError err ph =>
    simp only [pollActivity]
    have hp := w.producers_pollSend .caller (.error err) ph
    generalize w.pollSend .caller (.error err) ph = res at hp ⊢
    rcases res with ⟨_ | ok, ph', w'⟩
    · exact hp
    · rw [← hp]
      exact producers_complete _ _
  | nextEvent =>
    have hm := w.nextEvent_consumerMove
    simp only [pollActivity]
    generalize w.nextEvent = res at hm ⊢
    rcases res with ⟨_ | e, w'⟩ <;> exact w.producers_of_consumerMove hm
  | result =>
    have hm := w.awaitResult_consumerMove (w.queue.events.length + 1)
    simp only [pollActivity]
    generalize w.awaitResult _ = res at hm ⊢
    rcases res with ⟨_ | m, w'⟩ <;> exact w.producers_of_consumerMove hm
  | collect =>
    have hm := w.collect_consumerMove ((w.backlog.getD []).length + w.queue.events.length + 1)
    simp only [pollActivity]
    generalize w.collect _ = res at hm ⊢
    rcases res with ⟨_ | m, w'⟩
    · exact w.producers_of_consumerMove hm
    · exact w.producers_of_consumerMove (hm.trans w'.dropReceiver_consumerMove)
  | pause resumed =>
    cases resumed
    · exact congrArg Core.producers (core_defer _ _)
    · rfl

@[simp] theorem producers_wakeDeferred : w.wakeDeferred.producers = w.producers :=
  congrArg Core.producers w.core_wakeDeferred

@[simp] theorem producers_dropReceiver : w.dropReceiver.producers = w.producers :=
  congrArg Core.producers w.core_dropReceiver

/-- One look at a send of the caller: it stands in line only while its send holds a
reference. -/
theorem pollSend_caller_ok (e : StreamEvent) (ph : SendPhase)
    (h : w.line.Ok cap 0 (mayWait ph.refs w.producers)) :
    match w.pollSend .caller e ph with
    | (none, ph', w') => w'.line.Ok cap 0 (mayWait ph'.refs w'.producers)
    | (some _, _, w') => w'.line.Ok cap 0 (mayWait 0 w'.producers) := by
  have hs := w.pollSend_ok .caller e ph h fun hph hm => by
    have := h.lined _ hm
    simp [mayWait, hph, SendPhase.refs] at this
  have hspec := w.pollSend_spec .caller e ph
  have hp := w.producers_pollSend .caller e ph
  generalize w.pollSend .caller e ph = res at hs hspec hp ⊢
  rcases res with ⟨_ | ok, ph', w'⟩ <;> dsimp only at hs hspec hp ⊢ <;> rw [hp]
  · rw [hspec.1]
    exact hs.mono fun q _ hq => mayWait_of_caller hq
  · exact hs.mono fun q _ hq => mayWait_of_ne_caller hq

/-- One look at the caller's operation keeps the line in order: the caller stands in it only
while its send holds a reference. -/
theorem pollActivity_ok (a : Activity) (h : w.line.Ok cap 0 (mayWait a.refs w.producers)) :
    match w.pollActivity a with
    | (some _, _, w') => w'.line.Ok cap 0 (mayWait 0 w'.producers)
    | (none, a', w') => w'.line.Ok cap 0 (mayWait a'.refs w'.producers) := by
  have hp := w.producers_pollActivity a
  cases a with
  | send e ph =>
    have hs := w.pollSend_caller_ok e ph h
    simp only [pollActivity]
    generalize w.pollSend .caller e ph = res at hs ⊢
    rcases res with ⟨_ | ok, ph', w'⟩ <;> exact hs
  | finishWithError err ph =>
    have hs := w.pollSend_caller_ok (.error err) ph h
    simp only [pollActivity]
    generalize w.pollSend .caller (.error err) ph = res at hs ⊢
    rcases res with ⟨_ | ok, ph', w'⟩
    · exact hs
    · dsimp only at hs ⊢
      rw [line_complete, producers_complete]
      exact hs
  | nextEvent =>
    have hn := w.nextEvent_ok h
    simp only [pollActivity] at hp ⊢
    generalize w.nextEvent = res at hn hp ⊢
    rcases res with ⟨_ | e, w'⟩ <;> dsimp only at hn hp ⊢ <;> rw [hp] <;> exact hn
  | result =>
    have hn := w.awaitResult_ok (w.queue.events.length + 1) h
    simp only [pollActivity] at hp ⊢
    generalize w.awaitResult _ = res at hn hp ⊢
    rcases res with ⟨_ | m, w'⟩ <;> dsimp only at hn hp ⊢ <;> rw [hp] <;> exact hn
  | collect =>
    have hn := w.collect_ok ((w.backlog.getD []).length + w.queue.events.length + 1) h
    simp only [pollActivity] at hp ⊢
    generalize w.collect _ = res at hn hp ⊢
    rcases res with ⟨_ | m, w'⟩ <;> dsimp only at hn hp ⊢ <;> rw [hp]
    · exact hn
    · exact w'.dropReceiver_ok hn
  | pause resumed =>
    cases resumed
    · simp only [pollActivity, Bool.false_eq_true, if_false, line_defer] at hp ⊢
      rw [hp]
      exact h
    · exact h

theorem abandon_ok (a : Activity) (h : w.line.Ok cap 0 (mayWait a.refs w.producers)) :
    (w.abandon a).line.Ok cap 0 (mayWait 0 (w.abandon a).producers) := by
  have leave : ((w.leaveLine .caller).dropRef).line.Ok cap 0
      (mayWait 0 ((w.leaveLine .caller).dropRef).producers) := by
    have hp : ((w.leaveLine .caller).dropRef).producers = w.producers := by
      have := congrArg Core.producers (core_dropRef (w.leaveLine .caller))
      rw [core_leaveLine] at this
      exact this
    rw [hp, line_dropRef]
    exact (w.leaveLine_ok .caller h).mono fun q _ hq => mayWait_of_ne_caller hq
  cases a with
  | send e ph => cases ph <;> first | exact h | exact leave
  | finishWithError err ph => cases ph <;> first | exact h | exact leave
  | collect =>
    simp only [abandon, producers_dropReceiver]
    exact w.dropReceiver_ok h
  | nextEvent => exact h
  | result => exact h
  | pause resumed => exact h

theorem perform_ok (a : Activity) (h : w.line.Ok cap 0 (mayWait a.refs w.producers))
    (hi : w.core.Inv a.refs 0) : (w.perform a).2.line.Ok cap 0 (mayWait 0 (w.perform a).2.producers) :=
  perform_induct (fun v a => v.line.Ok cap 0 (mayWait a.refs v.producers) ∧ v.core.Inv a.refs 0)
    (fun _ v => v.line.Ok cap 0 (mayWait 0 v.producers))
    (fun v a hv => by
      rw [line_wakeDeferred, producers_wakeDeferred, core_wakeDeferred]
      exact ⟨v.runBatch_ok 61 hv.1 hv.2, v.runBatch_inv 61 hv.2⟩)
    (fun _ _ _ hv => ⟨hv, hv⟩)
    (fun v a hv => by
      have hp := v.pollActivity_ok a hv.1
      have hq := v.pollActivity_inv a hv.2
      generalize v.pollActivity a = res at hp hq ⊢
      rcases res with ⟨_ | r, a', v'⟩
      · exact ⟨hp, hq⟩
      · exact hp)
    (fun v a hv => v.abandon_ok a hv.1) w a ⟨h, hi⟩

theorem exec_ok (op : Op) (h : w.line.Ok cap 0 (mayWait 0 w.producers)) (hi : w.core.Inv 0 0) :
    (w.exec op).2.line.Ok cap 0 (mayWait 0 (w.exec op).2.producers) := by
  have hc := w.exec_call op
  generalize w.exec op = r at hc ⊢
  cases hc with
  | refused _ | finishLost _ _ _ | clone _ => exact h
  | send _ _ | yield | nextEvent _ | result _ => exact w.perform_ok _ h hi
  | finish m _ =>
    rw [line_finishWith, producers_finishWith]
    exact h
  | finishWithError e _ _ => exact World.perform_ok _ _ h hi.claim
  | dropSender _ =>
    rw [producers_dropHandle]
    exact World.dropHandle_ok _ h
  | @spawnProducer i events finish _ =>
    have hp := congrArg Core.producers (core_spawn (w.release i) events finish)
    simp only [core] at hp
    rw [hp, spawn, line_wake]
    exact h.mono fun q _ hq => mayWait_push _ hq
  | collected _ hp => exact hp ▸ w.perform_ok .collect h hi
  | collectAbandoned _ hp =>
    have hq := w.perform_ok .collect h hi
    rw [hp] at hq
    simp only [producers_dropReceiver]
    exact dropReceiver_ok _ hq
  | dropStream _ =>
    simp only [producers_dropReceiver]
    exact w.dropReceiver_ok h

theorem run_ok (ops : List Op) (h : w.line.Ok cap 0 (mayWait 0 w.producers)) (hi : w.core.Inv 0 0) :
    (w.run ops).2.line.Ok cap 0 (mayWait 0 (w.run ops).2.producers) := by
  induction ops generalizing w with
  | nil => exact h
  | cons op ops ih => exact ih _ (w.exec_ok op h hi) (w.exec_inv op hi)

end World

/-- Over every run of a channel made with some capacity, the line is in order and its slots fill
that capacity (a capacity of zero counts as one). -/
theorem line_ok_run (capacity : Nat) (ops : List Op) :
    ((World.new capacity).run ops).2.line.Ok (max capacity 1) 0
      (mayWait 0 ((World.new capacity).run ops).2.producers) :=
  (World.new capacity).run_ok ops
    ⟨List.nodup_nil, by simp [World.new, World.line], fun _ => by simp [World.new, World.line],
      Nat.le_refl _, rfl⟩
    (World.Reachable.new capacity).inv

/-! ### The last handle's error -/

namespace World

variable (w : World) {cap : Nat}

theorem granted_nil_of_closed (h : w.line.Ok cap 0 (mayWait 0 w.producers)) (hi : w.core.Inv 0 0)
    (hh : w.completion.handles = 0) : w.queue.granted = [] := by
  have hidle := (hi.closed hh).1
  apply List.eq_nil_iff_forall_not_mem.2
  intro q hq
  have hw := h.lined q (List.mem_append_right _ hq)
  cases q with
  | caller => cases hw
  | task j =>
    obtain ⟨p, hp, -⟩ := hw
    exact hidle j p hp

/-- The last handle goes while the completion is unclaimed, and nobody holds room afterwards. Its
error was queued exactly when fewer events than the capacity were queued. -/
theorem lastDrop_log (hl : w.completion.handles = 1) (hc : w.completion.claimed = false)
    (hs : w.completion.stored = true) (ho : w.queue.receiverOpen = true)
    (ht : w.queue.taken ≤ w.queue.log.length) {S : Party → Prop} (h : w.dropHandle.line.Ok cap 0 S)
    (hg : w.dropHandle.queue.granted = []) :
    w.dropHandle.queue.log = w.queue.log ++
      if w.queue.events.length < cap then
        [.error (.provider "stream producer exited without finishing")] else [] := by
  have hline := w.line_dropHandle_of_last hl hc
  simp only [hs, ho, true_and] at hline
  have hlog : w.dropHandle.queue.log = w.dropHandle.line.log := rfl
  have hgr : w.dropHandle.queue.granted = w.dropHandle.line.granted := rfl
  have hload := h.load
  rw [hgr, hline] at hg
  rw [hline] at hload
  rw [hlog, hline]
  -- the slots fill the capacity after the drop: the error took the last free one, or none was free
  by_cases hroom : 0 < w.queue.room
  · simp only [if_pos hroom, line] at hload hg ⊢
    have := hload ho
    simp only [hg, List.length_nil, List.length_append, List.length_singleton] at this
    rw [if_pos (by simp only [Queue.events, List.length_drop]; omega)]
  · simp only [if_neg hroom, line] at hload hg ⊢
    have := hload ho
    simp only [hg, List.length_nil] at this
    rw [if_neg (by simp only [Queue.events, List.length_drop]; omega), List.append_nil]

/-- While the stream is not done, the sending side is stored and the consumer is there, a send
that finishes goes through. -/
theorem pollSend_sent (p : Party) (e : StreamEvent) (ph : SendPhase) {ok : Bool}
    (h : (w.pollSend p e ph).1 = some ok) (hd : w.completion.done = false)
    (hs : w.completion.stored = true) (ho : w.queue.receiverOpen = true) : ok = true := by
  have held : ∀ v : World, (v.pollHeld p e).1 = some ok → v.completion.done = false →
      v.queue.receiverOpen = true → ok = true := by
    intro v hv hd ho
    unfold pollHeld at hv
    split_ifs at hv <;> simp_all
  cases ph with
  | holding => exact held w h hd ho
  | fresh =>
    rw [pollSend, if_neg (by simp [hd, hs])] at h
    exact held _ h hd ho

/-- A task with no message either still waits in a send, with the completion as it found it, or
ends in this run: every send went through, then its handle went. -/
theorem runProducer_exit (i : Nat) (p : Producer) (hf : p.finish = none)
    (hph : p.phase = .holding → p.events ≠ []) (hd : w.completion.done = false)
    (hs : w.completion.stored = true) (ho : w.queue.receiverOpen = true) :
    (∃ p', (w.runProducer i p).1 = some p' ∧ (w.runProducer i p).2.completion = w.completion) ∨
      (w.runProducer i p).1 = none ∧ ∃ v : World, (w.runProducer i p).2 = v.dropHandle ∧
        v.core = { w.core with log := w.core.log ++ p.events,
                               senderRefs := if p.phase = .holding then w.core.senderRefs - 1
                                 else w.core.senderRefs } := by
  fun_induction runProducer w i p with
  | case1 w p e rest hev ok ph w' hpoll ih =>
    have hspec := w.pollSend_spec (.task i) e p.phase
    rw [hpoll] at hspec
    obtain ⟨-, -, hcore⟩ := hspec
    have hok : ok = true := w.pollSend_sent (.task i) e p.phase (by rw [hpoll]) hd hs ho
    have hcomp : w'.completion = w.completion := congrArg Core.completion hcore
    have hopen : w'.queue.receiverOpen = w.queue.receiverOpen := congrArg Core.receiverOpen hcore
    rcases ih hf (fun h => by cases h) (hcomp ▸ hd) (hcomp ▸ hs) (hopen ▸ ho) with
      ⟨p', hp', hc'⟩ | ⟨hnone, v, hv, hvc⟩
    · exact .inl ⟨p', hp', hc'.trans hcomp⟩
    · refine .inr ⟨hnone, v, hv, ?_⟩
      rw [hvc, hcore, hev, hok]
      simp [core]
  | case2 w p e rest hev ph w' hpoll =>
    have hspec := w.pollSend_spec (.task i) e p.phase
    rw [hpoll] at hspec
    exact .inl ⟨_, rfl, congrArg Core.completion hspec.2⟩
  | case3 w p hev w1 =>
    have hfresh : p.phase = .fresh := by
      cases hph' : p.phase
      · rfl
      · exact absurd hev (hph hph')
    have hw1 : w1 = w := by simp only [w1, hf]
    refine .inr ⟨rfl, w, by rw [hw1], ?_⟩
    simp [core, hev, hfresh]

/-- Running the next ready task when it is `i`: it runs out of the table, and what is left of it
goes back into its slot. -/
theorem runNext_of_head {i : Nat} {rest : List Nat} {p : Producer} (hq : w.runQueue = i :: rest)
    (hp : w.producers[i]? = some (some p)) :
    let u : World := { w with runQueue := rest, budget := budgetPerRun }
    w.runNext.2 = { (u.runProducer i p).2 with producers := w.producers.set! i (u.runProducer i p).1 } := by
  intro u
  have hprod := producers_runProducer u i p
  simp only [runNext, hq, hp, u] at hprod ⊢
  rw [hprod]

end World

open World in
/-- The caller drops its last handle while nobody has claimed the completion. The stream is
completed with the empty message, and the error saying the producer exited is queued only if
the queue holds fewer events than its capacity: a full queue loses it. Reading the stream to
its end then gives the events pending before the drop, the error if it was queued, and the
end; the result answers at once with the empty message. -/
theorem last_drop_queues_error_iff_room (capacity : Nat) (ops : List Op) (i : Nat) :
    let w := ((World.new capacity).run ops).2
    w.live i = true → w.completion.handles = 1 → w.completion.claimed = false → w.kept = true →
    let w' := (w.exec (.dropSender i)).2
    w'.core.pending = w.core.pending ++
        (if w.queue.events.length < max capacity 1 then
          [.error (.provider "stream producer exited without finishing")] else []) ∧
      (w'.run (List.replicate (w'.core.pending.length + 1) .nextEvent)).1 =
        w'.core.pending.map (fun e => some (.event (some e))) ++ [some (.event none)] ∧
      w'.exec .result = (some (.message {}), { w' with callerWoken := false }) := by
  dsimp only
  intro hl hh hc hk
  have hreach := (Reachable.new capacity).run ops
  have hok := line_ok_run capacity ops
  generalize ((World.new capacity).run ops).2 = w at hreach hok hl hh hc hk ⊢
  have hinv := hreach.inv
  have hdone : w.completion.done = false := hreach.sound.done_of_unclaimed hc
  have hopen : w.queue.receiverOpen = true := by
    have h := hok.kept
    simp only [line] at h
    rw [← h]
    exact hk
  have hstored : w.completion.stored = true := hinv.stored_of_not_done hdone
  let v : World := w.release i
  have hexec : (w.exec (.dropSender i)).2 = v.dropHandle := by simp [exec, hl, v, release]
  have hreach' : v.dropHandle.Reachable := hexec ▸ Reachable.exec (.dropSender i) hreach
  have hok' : v.dropHandle.line.Ok (max capacity 1) 0 (mayWait 0 v.dropHandle.producers) :=
    hexec ▸ w.exec_ok (.dropSender i) hok hinv
  obtain ⟨lost, -, hcore⟩ := v.core_dropHandle_of_last hh hc
  have hcomp : v.dropHandle.completion =
      { w.completion with handles := 0, claimed := true, done := true,
                          result := some (w.completion.result.getD {}), stored := false } :=
    congrArg Core.completion hcore
  -- no handle is left: nobody holds room, and the stream is done and closed
  have hgone : v.dropHandle.completion.handles = 0 := by rw [hcomp]
  have hlog := v.lastDrop_log hh hc hstored hopen hinv.taken hok'
    (v.dropHandle.granted_nil_of_closed hok' hreach'.inv hgone)
  rw [show v.queue = w.queue from rfl] at hlog
  obtain ⟨hidle', hrefs'⟩ := hreach'.inv.closed hgone
  have hdone' : v.dropHandle.completion.done = true := by simp [hcomp]
  have hb : v.dropHandle.backlog = w.backlog := congrArg Core.backlog hcore
  have ht : v.dropHandle.queue.taken = w.queue.taken := congrArg Core.taken hcore
  have hk' : v.dropHandle.backlog.isSome := by rw [hb]; exact hk
  rw [hexec]
  refine ⟨?_, v.dropHandle.run_nextEvent_closed hk' (hrefs' hdone') hidle', ?_⟩
  · simp only [Core.pending, core, hb, ht, hlog]
    rw [List.drop_append_of_le_length (show w.queue.taken ≤ w.queue.log.length from hinv.taken),
      List.append_assoc]
  · rw [v.dropHandle.exec_result_of_done hk' hdone', hcomp,
      hreach.sound.result_of_not_done hdone]
    rfl

/-- Capacity two, one event queued, and the last handle dropped: the error finds room. -/
theorem drop_beside_one_event_queues_error :
    let w := ((World.new 2).run [.send 0 .ping]).2
    (w.live 0 = true ∧ w.completion.handles = 1 ∧ w.completion.claimed = false ∧ w.kept = true) ∧
    let w' := (w.exec (.dropSender 0)).2
    w'.core.pending = w.core.pending ++
        (if w.queue.events.length < max 2 1 then
          [.error (.provider "stream producer exited without finishing")] else []) ∧
      (w'.run (List.replicate (w'.core.pending.length + 1) .nextEvent)).1 =
        w'.core.pending.map (fun e => some (.event (some e))) ++ [some (.event none)] ∧
      w'.exec .result = (some (.message {}), { w' with callerWoken := false }) := by
  have h : let w := ((World.new 2).run [.send 0 .ping]).2
      w.live 0 = true ∧ w.completion.handles = 1 ∧ w.completion.claimed = false ∧
        w.kept = true := by
    decide
  exact ⟨h, last_drop_queues_error_iff_room 2 [.send 0 .ping] 0 h.1 h.2.1 h.2.2.1 h.2.2.2⟩

/-- Capacity one, one event queued, and the last handle dropped: the error finds no room. The
consumer reads the event, then the end, and the result is the empty message. -/
theorem full_queue_loses_drop_error :
    ((World.new 1).run [.send 0 .ping, .dropSender 0, .nextEvent, .nextEvent, .result]).1 =
      [some (.sent true), some .unit, some (.event (some .ping)), some (.event none),
        some (.message {})] := by
  decide

open World in
/-- A task holding the last handle runs while the caller waits on the stream with no send of its
own going, and it has no message to finish with, as a task that returns early or fails. Either
it still waits in a send and nothing is completed, or it ends in this run: every event it had
went out, then its handle went. Nobody else holds room, so its error follows them exactly when
fewer events than the capacity were then queued, and the stream completes with the empty
message. -/
theorem task_exit_queues_error_iff_room (w : World) {cap i : Nat} {p : Producer}
    (h : w.line.Ok cap 0 (mayWait 0 w.producers)) (hi : w.core.Inv 0 0) (hw : w.completion.Sound)
    (hq : w.runQueue.head? = some i) (hp : w.producers[i]? = some (some p)) (hf : p.finish = none)
    (hl : w.completion.handles = 1) (hc : w.completion.claimed = false)
    (ho : w.queue.receiverOpen = true) :
    (∃ p', w.runNext.2.producers[i]? = some (some p') ∧ w.runNext.2.completion = w.completion) ∨
      w.runNext.2.producers[i]? = some none ∧
      w.runNext.2.queue.log = w.queue.log ++ p.events ++
        (if w.queue.events.length + p.events.length < cap then
          [.error (.provider "stream producer exited without finishing")] else []) ∧
      w.runNext.2.completion.stage = .completed {} := by
  obtain ⟨rest, hrq⟩ : ∃ rest, w.runQueue = i :: rest := by
    cases hr : w.runQueue with
    | nil => simp [hr] at hq
    | cons j rest =>
      simp only [hr, List.head?_cons, Option.some.injEq] at hq
      exact ⟨rest, by rw [hq]⟩
  have hd : w.completion.done = false := hw.done_of_unclaimed hc
  have hs : w.completion.stored = true := hi.stored_of_not_done hd
  have hslot : ∀ x : Option Producer, (w.producers.set! i x)[i]? = some x := by
    intro x
    simp [Array.set!_eq_setIfInBounds, (Array.getElem?_eq_some_iff.1 hp).1]
  have hnext := w.runNext_of_head hrq hp
  have hok' := w.runNext_ok h hi
  have hinv' := w.runNext_inv hi
  rcases World.runProducer_exit { w with runQueue := rest, budget := budgetPerRun } i p hf
      (hi.holding p (Array.mem_of_getElem? hp)) hd hs ho with
    ⟨p', hp', hc'⟩ | ⟨hnone, v, hv, hvc⟩
  · exact .inl ⟨p', by rw [hnext, hp']; exact hslot _, by rw [hnext]; exact hc'⟩
  · simp only [hnone, hv] at hnext
    -- the task sent every event, and the world it dropped its handle in is `v`
    have hcomp : v.completion = w.completion := congrArg Core.completion hvc
    have hopen : v.queue.receiverOpen = true := (congrArg Core.receiverOpen hvc).trans ho
    have hlog : v.queue.log = w.queue.log ++ p.events := congrArg Core.log hvc
    have htaken : v.queue.taken = w.queue.taken := congrArg Core.taken hvc
    have hlen : v.queue.events.length = w.queue.events.length + p.events.length := by
      have := hi.taken
      simp only [core] at this
      simp only [Queue.events, List.length_drop, hlog, htaken, List.length_append]
      omega
    obtain ⟨lost, -, hcore⟩ := v.core_dropHandle_of_last (hcomp ▸ hl) (hcomp ▸ hc)
    have hcomp' := congrArg Core.completion hcore
    simp only [core, hcomp] at hcomp'
    have hgone : w.runNext.2.completion.handles = 0 := by rw [hnext, hcomp']
    have hline : w.runNext.2.line = v.dropHandle.line := by rw [hnext]; rfl
    have hg := w.runNext.2.granted_nil_of_closed hok' hinv' hgone
    rw [hline] at hok'
    rw [hnext] at hg
    have hdrop := v.lastDrop_log (hcomp ▸ hl) (hcomp ▸ hc) (hcomp ▸ hs) hopen
      (by rw [hlog, htaken, List.length_append]; exact Nat.le_add_right_of_le hi.taken) hok' hg
    refine .inr ⟨by rw [hnext]; exact hslot _, ?_, ?_⟩
    · rw [hnext]
      simp only [hdrop, hlog, hlen]
    · rw [hnext, hcomp', hw.result_of_not_done hd]
      rfl

/-- Capacity one, the last handle moved into a task that sends one event and ends: the event
fills the queue, so the task's error finds no room. -/
theorem lone_task_exit_fills_queue :
    let w := ((World.new 1).run [.spawnProducer 0 [.ping] none]).2
    (w.runQueue.head? = some 0 ∧ w.producers[0]? = some (some { events := [.ping], finish := none }) ∧
      w.completion.handles = 1 ∧ w.completion.claimed = false ∧ w.queue.receiverOpen = true) ∧
    ((∃ p', w.runNext.2.producers[0]? = some (some p') ∧ w.runNext.2.completion = w.completion) ∨
      w.runNext.2.producers[0]? = some none ∧
      w.runNext.2.queue.log = w.queue.log ++ [.ping] ++
        (if w.queue.events.length + [StreamEvent.ping].length < max 1 1 then
          [.error (.provider "stream producer exited without finishing")] else []) ∧
      w.runNext.2.completion.stage = .completed {}) := by
  intro w
  have hreach : w.Reachable := (World.Reachable.new 1).run _
  have hfacts : w.runQueue.head? = some 0 ∧
      w.producers[0]? = some (some { events := [.ping], finish := none }) ∧
      w.completion.handles = 1 ∧ w.completion.claimed = false ∧ w.queue.receiverOpen = true := by
    refine ⟨rfl, rfl, rfl, rfl, rfl⟩
  exact ⟨hfacts, task_exit_queues_error_iff_room w (line_ok_run 1 _) hreach.inv hreach.sound
    hfacts.1 hfacts.2.1 rfl hfacts.2.2.1 hfacts.2.2.2.1 hfacts.2.2.2.2⟩

example : ((World.new 1).run [.spawnProducer 0 [.ping] none, .nextEvent, .nextEvent, .result]).1 =
    [some .unit, some (.event (some .ping)), some (.event none), some (.message {})] := by
  decide +kernel

end ChatStream.Stream
