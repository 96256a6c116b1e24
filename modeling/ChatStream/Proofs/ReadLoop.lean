import Mathlib
import ChatStream.Provider.Basic

/-! # The read loop, read at once

`Processor.loop` reads a source wait by wait. `Processor.reading` describes the same run at
once: run the processor over every chunk before the first read failure, keep the steps up to the
first one that stops the loop, and cut them at the wait by which the cancel token has fired. The
loop's signals are the events of those steps, then the signals of how it ended (`Exit.signals`).

Main statement (`signals_complete_once`): for a processor that closes as `MessageBuilder.finish`
does, as every adapter's and the mock's do, the stream completes exactly once, with its last
signal, unless the source stays pending and nothing ends the loop. The consumer sees
`messageStart`, the events of the chunks read, then either the closing events, which end in
`messageDone`, with the finished message, or one `error` event with the empty message.

A streaming call's source always ends, so its loop never waits for ever: every call completes
(`Provider.run_completes`), with only an `error` event when it fails before the response body
opens (`exchange_transcript`), and otherwise with `messageStart` and the loop's transcript.
-/

namespace ChatStream

/-- The chunks before the first read failure of a source's items, and that failure. -/
def SourceItem.leading {α : Type} : List (SourceItem α) → List α × Option StreamError
  | [] => ([], none)
  | .chunk c :: rest => (c :: (leading rest).1, (leading rest).2)
  | .failure e :: _ => ([], some e)

/-- A signal that completes the stream. -/
def Signal.completes : Signal → Bool
  | .send _ => false
  | .finish _ | .finishWithError _ => true

/-- A step after which the loop reads no further chunk. -/
def Step.stops (st : Step) : Bool :=
  match st.flow with
  | .continue => false
  | .done | .failed _ => true

inductive Exit (σ : Type) where
  /-- The processor closes from this state: after a step that is done, or as the source ends. -/
  | close (s : σ)
  /-- Completion with an error: a failed step, a read failure or the cancel token. -/
  | error (e : StreamError)
  /-- The source stays pending and nothing ends the loop. -/
  | waiting

namespace Exit

variable {σ α : Type}

/-- The exit after a step that stops the loop, with the state after it. -/
def ofStop (st : Step) (s : σ) : Exit σ :=
  match st.flow with
  | .failed e => .error e
  | .continue | .done => .close s

/-- The exit once every chunk has been processed and the source is waited on again: its read
failure, or its end, or a wait that lasts until the cancel token fires, if it ever does. -/
def atEnd (src : Source α) (failure : Option StreamError) (s : σ) : Exit σ :=
  match failure with
  | some e => .error e
  | none =>
    if src.ends then .close s
    else if src.cancelAt.isSome then .error .cancelled
    else .waiting

def isWaiting : Exit σ → Bool
  | .waiting => true
  | .close _ | .error _ => false

/-- What the loop does to the stream as it ends. -/
def signals (p : Processor σ α) : Exit σ → List Signal
  | .close s => p.close s
  | .error e => [.finishWithError e]
  | .waiting => []

end Exit

namespace Processor

variable {σ α : Type} (p : Processor σ α)

/-- The processor run over chunks one after another, whatever its steps say: each step with the
state after it. -/
def trace : σ → List α → List (Step × σ)
  | _, [] => []
  | s, c :: cs => p.process s c :: trace (p.process s c).2 cs

/-- What the read loop reads of the items from its `k`-th wait on, from the state `s`: the steps
of the chunks it processes and how it ends. The chunks before the first read failure are
processed in order up to the first whose step stops the loop, or all of them; the cancel token,
fired by the `j`-th wait, cuts that to the chunks before the `j`-th wait. -/
def reading (src : Source α) (k : Nat) (s : σ) (items : List (SourceItem α)) :
    List Step × Exit σ :=
  let tr := p.trace s (SourceItem.leading items).1
  let stop := tr.findIdx (·.1.stops)
  if src.cancelledBy (k + stop) then
    ((tr.take (src.cancelAt.getD 0 - k)).map Prod.fst, .error .cancelled)
  else
    match tr[stop]? with
    | some (st, s') => ((tr.take (stop + 1)).map Prod.fst, .ofStop st s')
    | none =>
      (tr.map Prod.fst, .atEnd src (SourceItem.leading items).2 ((tr.map Prod.snd).getLastD s))

/-- The signals of a reading: the events of its steps, then those of its exit. -/
def readingSignals (r : List Step × Exit σ) : List Signal :=
  (r.1.flatMap Step.events).map .send ++ r.2.signals p

end Processor

namespace Source

variable {α : Type} {src : Source α}

theorem cancelledBy_iff {k : Nat} :
    src.cancelledBy k = true ↔ ∃ j, src.cancelAt = some j ∧ j ≤ k := by
  unfold cancelledBy
  split <;> simp_all

theorem cancelledBy_of_le {j k : Nat} (h : src.cancelledBy j = true) (hjk : j ≤ k) :
    src.cancelledBy k = true := by
  obtain ⟨i, hi, hij⟩ := cancelledBy_iff.1 h
  exact cancelledBy_iff.2 ⟨i, hi, by omega⟩

end Source

namespace Processor

variable {σ α : Type} (p : Processor σ α) {src : Source α} {k : Nat} {s : σ}

@[simp] theorem trace_nil (s : σ) : p.trace s [] = [] := rfl

@[simp] theorem trace_cons (s : σ) (c : α) (cs : List α) :
    p.trace s (c :: cs) = p.process s c :: p.trace (p.process s c).2 cs := rfl

/-! ### The reading, one exit at a time

These are the loop's own equations, read off the declarative description: the cancel token, the
end of the items, a read failure, a step that stops, and a step after which the loop goes on. -/

theorem reading_of_cancelled (h : src.cancelledBy k = true) (items : List (SourceItem α)) :
    p.reading src k s items = ([], .error .cancelled) := by
  obtain ⟨j, hj, hjk⟩ := Source.cancelledBy_iff.1 h
  have hstop := Source.cancelledBy_of_le h
    (Nat.le_add_right k ((p.trace s (SourceItem.leading items).1).findIdx (·.1.stops)))
  simp [reading, hstop, hj, Nat.sub_eq_zero_of_le hjk]

theorem reading_nil (h : src.cancelledBy k = false) :
    p.reading src k s [] = ([], .atEnd src none s) := by
  simp [reading, SourceItem.leading, h]

theorem reading_failure (h : src.cancelledBy k = false) (e : StreamError)
    (rest : List (SourceItem α)) :
    p.reading src k s (.failure e :: rest) = ([], .error e) := by
  simp [reading, SourceItem.leading, h, Exit.atEnd]

theorem reading_stop (h : src.cancelledBy k = false) {c : α} (hst : (p.process s c).1.stops)
    (rest : List (SourceItem α)) :
    p.reading src k s (.chunk c :: rest) =
      ([(p.process s c).1], .ofStop (p.process s c).1 (p.process s c).2) := by
  simp [reading, SourceItem.leading, List.findIdx_cons, hst, h]

theorem reading_continue (h : src.cancelledBy k = false) {c : α}
    (hst : (p.process s c).1.stops = false) (rest : List (SourceItem α)) :
    p.reading src k s (.chunk c :: rest) =
      ((p.process s c).1 :: (p.reading src (k + 1) (p.process s c).2 rest).1,
        (p.reading src (k + 1) (p.process s c).2 rest).2) := by
  simp only [reading, SourceItem.leading, trace_cons, List.map_cons, List.getLastD_cons]
  generalize p.process s c = x at hst ⊢
  generalize p.trace x.2 (SourceItem.leading rest).1 = tr
  -- the trace gains the chunk's step in front, so the first stop moves one further
  rw [List.findIdx_cons, hst, cond_false, show k + (tr.findIdx (·.1.stops) + 1) =
    k + 1 + tr.findIdx (·.1.stops) by omega]
  by_cases hc : src.cancelledBy (k + 1 + tr.findIdx (·.1.stops))
  · -- the token fired by a later wait: one chunk more before it
    obtain ⟨j, hj, -⟩ := Source.cancelledBy_iff.1 hc
    have hjk : k < j := by
      by_contra hle
      have := Source.cancelledBy_iff.2 ⟨j, hj, (by omega : j ≤ k)⟩
      simp_all
    simp [hc, hj, show j - k = j - (k + 1) + 1 by omega]
  · simp only [hc, Bool.false_eq_true, if_false, List.getElem?_cons_succ]
    split <;> simp

theorem loop_eq_reading (k : Nat) (s : σ) (items : List (SourceItem α)) :
    p.loop src k s items = p.readingSignals (p.reading src k s items) := by
  -- the loop's recursion: one wait per item, from the state after the chunks before it
  induction items generalizing k s with
  | nil =>
    by_cases h : src.cancelledBy k
    · simp [loop, h, reading_of_cancelled, readingSignals, Exit.signals]
    · simp only [Bool.not_eq_true] at h
      rw [loop, if_neg (by simp [h]), reading_nil p h]
      simp only [readingSignals, Exit.atEnd]
      split_ifs <;> simp [Exit.signals]
  | cons item rest ih =>
    by_cases h : src.cancelledBy k
    · rw [loop.eq_def, if_pos h, reading_of_cancelled p h]
      rfl
    simp only [Bool.not_eq_true] at h
    cases item with
    | failure e =>
      rw [loop, if_neg (by simp [h]), reading_failure p h]
      rfl
    | chunk c =>
      rw [loop, if_neg (by simp [h])]
      rcases hx : p.process s c with ⟨st, s'⟩
      match hflow : st.flow with
      | .continue =>
        have hst : (p.process s c).1.stops = false := by simp [hx, Step.stops, hflow]
        rw [reading_continue p h hst, hx]
        simp [readingSignals, hflow, ih]
      | .done | .failed _ =>
        have hst : (p.process s c).1.stops := by simp [hx, Step.stops, hflow]
        rw [reading_stop p h hst]
        simp [readingSignals, hx, hflow, Exit.ofStop, Exit.signals]

theorem signals_eq_reading (src : Source α) (s : σ) :
    p.signals src s = p.readingSignals (p.reading src 0 s src.items) :=
  p.loop_eq_reading 0 s src.items

end Processor

/-! ### Completion -/

namespace Exit

variable {σ α : Type} (p : Processor σ α)

/-- An exit that does not wait for ever completes the stream with its last signal, after events
only. -/
theorem signals_of_not_waiting (x : Exit σ) (hx : x.isWaiting = false) :
    ∃ (sent : List StreamEvent) (c : Signal),
      x.signals p = sent.map .send ++ [c] ∧ c.completes := by
  cases x with
  | close s => exact ⟨(p.finish s).2, .finish (p.finish s).1, rfl, rfl⟩
  | error e => exact ⟨[], .finishWithError e, rfl, rfl⟩
  | waiting => simp [isWaiting] at hx

end Exit

namespace Processor

variable {σ α : Type} (p : Processor σ α)

/-- A reading completes the stream once, with its last signal, exactly when it does not wait
for ever. -/
theorem readingSignals_completes (r : List Step × Exit σ) :
    r.2.isWaiting = false ↔
      ∃ (sent : List StreamEvent) (c : Signal),
        p.readingSignals r = sent.map .send ++ [c] ∧ c.completes := by
  obtain ⟨steps, x⟩ := r
  constructor
  · intro hx
    obtain ⟨sent, c, hsig, hc⟩ := x.signals_of_not_waiting p hx
    exact ⟨steps.flatMap Step.events ++ sent, c, by simp [readingSignals, hsig], hc⟩
  · rintro ⟨sent, c, hsig, hc⟩
    cases x with
    | close _ | error _ => rfl
    | waiting =>
      -- waiting, the reading only sends, so its last signal cannot complete
      have hmem : c ∈ (steps.flatMap Step.events).map Signal.send := by
        simp only [readingSignals, Exit.signals, List.append_nil] at hsig
        simp [hsig]
      obtain ⟨e, -, rfl⟩ := List.mem_map.1 hmem
      simp [Signal.completes] at hc

end Processor

namespace Transcript

@[simp] theorem after_nil (t : Transcript) : t.after [] = t := rfl

theorem after_after (a b : List StreamEvent) (t : Transcript) :
    (t.after b).after a = t.after (a ++ b) := by
  simp [after]

theorem ofSignals_sends (evs : List StreamEvent) (rest : List Signal) :
    ofSignals (evs.map .send ++ rest) = (ofSignals rest).after evs := by
  induction evs with
  | nil => rfl
  | cons e evs ih => simp [ofSignals, ih, after_after]

end Transcript

theorem MessageBuilder.finish_ends_messageDone (b : MessageBuilder) :
    ∃ reason usage, (MessageBuilder.finish b).2.getLast? = some (.messageDone reason usage) := by
  simp [MessageBuilder.finish]

namespace Processor

variable {α : Type}

/-- The read loop of an adapter. Its signals are the events of the chunks it reads, up to the
first whose step is done or failed, or to the last, or to the cancel token; then its exit's.
It completes the stream exactly once, with its last signal, unless it waits for ever. The
consumer sees `messageStart`, those events and the closing events, which end in `messageDone`,
with the finished message; or, after a failure or the cancel token, one `error` event with the
empty message. -/
theorem signals_complete_once (p : Processor MessageBuilder α)
    (hfin : p.finish = MessageBuilder.finish) (src : Source α) (s : MessageBuilder)
    (model : String) :
    let r := p.reading src 0 s src.items
    let evs := r.1.flatMap Step.events
    p.signals src s = evs.map .send ++ r.2.signals p ∧
    (r.2.isWaiting = false ↔
      ∃ (sent : List StreamEvent) (c : Signal),
        p.signals src s = sent.map .send ++ [c] ∧ c.completes) ∧
    (Transcript.ofSignals (p.signals src s)).after [.messageStart model] =
      (match r.2 with
        | .close b =>
          ⟨.messageStart model :: evs ++ (MessageBuilder.finish b).2,
            (MessageBuilder.finish b).1⟩
        | .error e => ⟨.messageStart model :: evs ++ [.error e], {}⟩
        | .waiting => ⟨.messageStart model :: evs, {}⟩) ∧
    ∀ b, r.2 = .close b →
      ∃ reason usage,
        (MessageBuilder.finish b).2.getLast? = some (.messageDone reason usage) := by
  intro r evs
  have hsig : p.signals src s = evs.map .send ++ r.2.signals p := p.signals_eq_reading src s
  refine ⟨hsig, hsig ▸ p.readingSignals_completes r, ?_,
    fun b _ => MessageBuilder.finish_ends_messageDone b⟩
  rw [hsig, Transcript.ofSignals_sends, Transcript.after_after]
  cases r.2 with
  | close b => simp [Exit.signals, close, hfin, Transcript.ofSignals_sends, Transcript.ofSignals,
      Transcript.after]
  | error e => simp [Exit.signals, Transcript.ofSignals, Transcript.failure, Transcript.after]
  | waiting => simp [Exit.signals, Transcript.ofSignals, Transcript.after]

/-- The mock's loop over a text chunk and a stop, with a token that fires at the wait after
them. -/
theorem mock_signals_complete_once :
    let src : Source MockResponse :=
      { items := [.chunk (.text "hi"), .chunk (.stop .endTurn)], cancelAt := some 2 }
    let s := MessageBuilder.new mockApi "m"
    mockProcessor.finish = MessageBuilder.finish ∧
    let r := mockProcessor.reading src 0 s src.items
    let evs := r.1.flatMap Step.events
    mockProcessor.signals src s = evs.map .send ++ r.2.signals mockProcessor ∧
    (r.2.isWaiting = false ↔
      ∃ (sent : List StreamEvent) (c : Signal),
        mockProcessor.signals src s = sent.map .send ++ [c] ∧ c.completes) ∧
    (Transcript.ofSignals (mockProcessor.signals src s)).after [.messageStart "m"] =
      (match r.2 with
        | .close b =>
          ⟨.messageStart "m" :: evs ++ (MessageBuilder.finish b).2, (MessageBuilder.finish b).1⟩
        | .error e => ⟨.messageStart "m" :: evs ++ [.error e], {}⟩
        | .waiting => ⟨.messageStart "m" :: evs, {}⟩) ∧
    ∀ b, r.2 = .close b →
      ∃ reason usage, (MessageBuilder.finish b).2.getLast? = some (.messageDone reason usage) :=
  ⟨rfl, signals_complete_once mockProcessor rfl _ _ "m"⟩

end Processor

/-! ### A streaming call -/

namespace Processor

variable {σ α : Type} (p : Processor σ α)

theorem reading_not_waiting {src : Source α} (hends : src.ends = true) (k : Nat) (s : σ)
    (items : List (SourceItem α)) : (p.reading src k s items).2.isWaiting = false := by
  unfold reading
  dsimp only
  split
  · rfl
  · split
    · simp only [Exit.ofStop]; split <;> rfl
    · simp only [Exit.atEnd, hends, if_true]; split <;> rfl

/-- Reading a whole source through an adapter's processor: the events of the chunks read, then
the closing events with the finished message, or one `error` event with the empty message. -/
theorem drive_transcript (p : Processor MessageBuilder α) (hfin : p.finish = MessageBuilder.finish)
    (cancelled : Bool) (s : MessageBuilder) (items : List (SourceItem α)) :
    let src : Source α := { items, cancelAt := if cancelled then some 0 else none }
    let r := p.reading src 0 s items
    (∃ b, r.2 = .close b ∧ p.drive cancelled s items =
        ⟨r.1.flatMap Step.events ++ (MessageBuilder.finish b).2, (MessageBuilder.finish b).1⟩) ∨
      ∃ e, r.2 = .error e ∧ p.drive cancelled s items = ⟨r.1.flatMap Step.events ++ [.error e], {}⟩ := by
  intro src r
  have hsig : p.signals src s = (r.1.flatMap Step.events).map .send ++ r.2.signals p :=
    p.signals_eq_reading src s
  have hdrive : p.drive cancelled s items = Transcript.ofSignals (p.signals src s) := rfl
  rw [hdrive, hsig, Transcript.ofSignals_sends]
  have hwait : r.2.isWaiting = false := p.reading_not_waiting rfl 0 s items
  cases hx : r.2 with
  | close b =>
    refine .inl ⟨b, rfl, ?_⟩
    simp [Exit.signals, close, hfin, Transcript.ofSignals_sends, Transcript.ofSignals, Transcript.after]
  | error e =>
    refine .inr ⟨e, rfl, ?_⟩
    simp [Exit.signals, Transcript.ofSignals, Transcript.failure, Transcript.after]
  | waiting => simp [r, hx, Exit.isWaiting] at hwait

end Processor

open Vendor in
/-- A call through a transport either fails before the response body opens, and the consumer
reads only that failure's `error` event, with the empty message; or it reads `messageStart` and
then what the read loop makes of the body. -/
theorem exchange_transcript {σ α : Type} (base : String) (o : StreamOptions)
    (headers : List (String × String)) (path : String) (request : Json) (answers : List Http.Answer)
    (items : List BodyItem → List (SourceItem α)) (p : Processor σ α) (start : σ) (model : String) :
    let c := exchange base o headers path request answers items p start model
    (∃ e, c.transcript = .failure e) ∨
      ∃ body, c.transcript = (p.drive o.cancelled start (items body)).after [.messageStart model] := by
  intro c
  simp only [c, exchange]
  split
  · exact .inl ⟨_, rfl⟩
  · split
    · exact .inl ⟨_, rfl⟩
    · exact .inr ⟨_, rfl⟩

namespace Provider

open Vendor

/-- The transcript of a call that got past its request, for a processor that closes as the
adapters' do: `messageStart`, the events of the chunks read, then the closing events with the
finished message, or one `error` event with the empty message. -/
def Completes (model : String) (t : Transcript) : Prop :=
  ∃ evs : List StreamEvent,
    (∃ b : MessageBuilder,
      t = ⟨.messageStart model :: evs ++ (MessageBuilder.finish b).2, (MessageBuilder.finish b).1⟩) ∨
    ∃ e, t = ⟨.messageStart model :: evs ++ [.error e], {}⟩

theorem completes_drive {α : Type} (p : Processor MessageBuilder α)
    (hfin : p.finish = MessageBuilder.finish) (model : String) (cancelled : Bool) (s : MessageBuilder)
    (items : List (SourceItem α)) :
    Completes model ((p.drive cancelled s items).after [.messageStart model]) := by
  rcases p.drive_transcript hfin cancelled s items with ⟨b, -, h⟩ | ⟨e, -, h⟩
  · exact ⟨_, .inl ⟨b, by rw [h]; rfl⟩⟩
  · exact ⟨_, .inr ⟨e, by rw [h]; rfl⟩⟩

/-- Every streaming call completes. A consumer reading it to the end sees only an `error` event
and the empty message, for a failure before the response body opened; or `messageStart`, the
events of the chunks the read loop read, and then the closing events, which end in
`messageDone`, with the finished message, or one `error` event with the empty message. -/
theorem run_completes (prov : Provider) (model : String) (ctx : Context) (o : StreamOptions)
    (answers : List Http.Answer) :
    let t := (prov.run model ctx o answers).transcript
    (∃ e, t = .failure e) ∨ Completes model t := by
  intro t
  have opened : ∀ {β : Type} (c : CallRecord) (p : Processor MessageBuilder β) (s : MessageBuilder),
      p.finish = MessageBuilder.finish → ((∃ e, c.transcript = .failure e) ∨
        ∃ items, c.transcript = (p.drive o.cancelled s items).after [.messageStart model]) →
      (∃ e, c.transcript = .failure e) ∨ Completes model c.transcript := by
    intro β c p s hfin h
    rcases h with h | ⟨items, h⟩
    · exact .inl h
    · exact .inr (h ▸ completes_drive p hfin model o.cancelled s items)
  cases prov with
  | openAi base =>
    exact opened _ OpenAi.processor _ rfl
      ((exchange_transcript ..).imp_right fun ⟨_, h⟩ => ⟨_, h⟩)
  | anthropic base =>
    exact opened _ Anthropic.processor _ rfl
      ((exchange_transcript ..).imp_right fun ⟨_, h⟩ => ⟨_, h⟩)
  | vertex base project location =>
    by_cases hp : project.isEmpty
    · exact .inl ⟨Vertex.noProject, by simp [t, run, hp]⟩
    · simp only [t, run, hp, Bool.false_eq_true, if_false]
      exact opened _ Vertex.processor _ rfl
        ((exchange_transcript ..).imp_right fun ⟨_, h⟩ => ⟨_, h⟩)
  | mock script => exact .inr (completes_drive mockProcessor rfl model o.cancelled _ _)

end Provider

end ChatStream
