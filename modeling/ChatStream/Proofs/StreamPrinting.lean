import Mathlib
import ChatStream.Cli.Batch

/-! # Printing a stream: what lands on which line

`BatchOutput.emit` writes answer text to standard output and everything else to standard error:
thinking as one running line, and one diagnostic line (`diagnostic`) for a tool call's start, a
finished tool call, the closing summary and an error. A run of thinking is closed by a line feed
when answer text, a tool call's start, the summary or an error comes (`closesThinking`); a
finished tool call does not close it.

Main statements:
* `printed_layout`: for events with one terminal event, last, standard output is the answer
  text and one line feed if there was answer text, and every diagnostic line starts a line of
  standard error unless it is a finished tool call written while a run of thinking is open
  (`ThinkingOpen`);
* `done_after_thinking_continues_line`: such a finished tool call continues the thinking line.
-/

namespace ChatStream.Cli

/-- A text that ends a line: it is empty or its last character is a line feed. -/
def AtLineStart (s : String) : Prop := s.toList.getLast? = none ∨ s.toList.getLast? = some '\n'

instance (s : String) : Decidable (AtLineStart s) := inferInstanceAs (Decidable (_ ∨ _))

theorem getLast?_append_line (p r : String) (hr : r.toList.getLast? = some '\n') :
    (p ++ r).toList.getLast? = some '\n' := by
  rw [String.toList_append, List.getLast?_append, hr]
  rfl

theorem atLineStart_append {p r : String} (hr : r.toList.getLast? = some '\n') :
    AtLineStart (p ++ r) :=
  .inr (getLast?_append_line p r hr)

theorem atLineStart_append_newline (p : String) : AtLineStart (p ++ "\n") :=
  atLineStart_append (by decide)

/-! ## The lines of standard error -/

/-- The line `emit` writes to standard error for an event other than thinking: a tool call's
start, a finished tool call, the closing summary, or an error. -/
def diagnostic (ms : Nat) : StreamEvent → Option String
  | .toolUseStart _ _ name => some s!"[llmux] tool call: {name}\n"
  | .toolUseDone id name input => some s!"[llmux] {name} ({id}) {input}\n"
  | .messageDone stop usage =>
    some s!"[llmux] {stop.name} · {usage.inputTokens} in / {usage.outputTokens} out tokens · {showSeconds ms}s\n"
  | .error e => some s!"[llmux] error: {e.message}\n"
  | _ => none

/-- Whether `emit` closes a run of thinking before it writes the event. -/
def closesThinking : StreamEvent → Bool
  | .contentDelta _ | .toolUseStart .. | .messageDone .. | .error _ => true
  | _ => false

/-- Whether an event is a piece of thinking. -/
def isThinking : StreamEvent → Bool
  | .thinkingDelta _ => true
  | _ => false

def contentText : StreamEvent → Option String
  | .contentDelta t => some t
  | _ => none

theorem diagnostic_ends_line {ms : Nat} {e : StreamEvent} {r : String}
    (h : diagnostic ms e = some r) : r.toList.getLast? = some '\n' := by
  cases e <;> simp only [diagnostic, Option.some.injEq, reduceCtorEq] at h <;> subst h <;>
    exact getLast?_append_line _ _ (by decide)

/-- A run of thinking is open after the events `xs`: some thinking came, and nothing after it
closed the run. -/
def ThinkingOpen (xs : List StreamEvent) : Prop :=
  ∃ pre t post, xs = pre ++ .thinkingDelta t :: post ∧ ∀ e ∈ post, closesThinking e = false

theorem thinkingOpen_nil : ¬ ThinkingOpen [] := by
  rintro ⟨pre, t, post, h, -⟩
  simp at h

theorem thinkingOpen_append_single (xs : List StreamEvent) (e : StreamEvent) :
    ThinkingOpen (xs ++ [e]) ↔
      (∃ t, e = .thinkingDelta t) ∨ (closesThinking e = false ∧ ThinkingOpen xs) := by
  constructor
  · rintro ⟨pre, t, post, h, hpost⟩
    rcases List.eq_nil_or_concat post with rfl | ⟨post', e', rfl⟩
    · -- the thinking is the last event
      exact .inl ⟨t, List.singleton_inj.1 (List.append_inj' h rfl).2⟩
    · have h' : xs ++ [e] = (pre ++ .thinkingDelta t :: post') ++ [e'] := by simpa using h
      obtain ⟨rfl, he⟩ := List.append_inj' h' rfl
      obtain rfl := List.singleton_inj.1 he
      exact .inr ⟨hpost e (by simp), pre, t, post', rfl,
        fun x hx => hpost x (by simp [hx])⟩
  · rintro (⟨t, rfl⟩ | ⟨he, pre, t, post, rfl, hpost⟩)
    · exact ⟨xs, t, [], by simp, by simp⟩
    · refine ⟨pre, t, post ++ [e], by simp, fun x hx => ?_⟩
      rcases List.mem_append.mp hx with hx | hx
      · exact hpost x hx
      · simp only [List.mem_singleton] at hx
        exact hx ▸ he

/-! ## One event -/

namespace BatchOutput

variable (ms : Nat) (o : BatchOutput)

@[simp] theorem endThinking_out : o.endThinking.out = o.out := by
  unfold endThinking; split <;> rfl

@[simp] theorem endThinking_err : o.endThinking.err = if o.inThinking then o.err ++ "\n" else o.err := by
  unfold endThinking; split <;> simp_all

@[simp] theorem endThinking_inThinking : o.endThinking.inThinking = false := by
  unfold endThinking; split <;> simp_all

@[simp] theorem endThinking_wroteText : o.endThinking.wroteText = o.wroteText := by
  unfold endThinking; split <;> rfl

@[simp] theorem endText_out : o.endText.out = if o.wroteText then o.out ++ "\n" else o.out := by
  unfold endText; split <;> simp_all

@[simp] theorem endText_err : o.endText.err = o.err := by
  unfold endText; split <;> rfl

@[simp] theorem endText_inThinking : o.endText.inThinking = o.inThinking := by
  unfold endText; split <;> rfl

@[simp] theorem endText_wroteText : o.endText.wroteText = o.wroteText := by
  unfold endText; split <;> simp_all

theorem emit_inThinking (e : StreamEvent) :
    (o.emit ms e).inThinking = (isThinking e || (!closesThinking e && o.inThinking)) := by
  cases e <;> simp [emit, closesThinking, isThinking]
  split <;> simp_all

theorem emit_wroteText (e : StreamEvent) :
    (o.emit ms e).wroteText = (o.wroteText || (contentText e).isSome) := by
  cases e <;> simp [emit, contentText]
  split <;> rfl

theorem emit_out_of_not_terminal {e : StreamEvent} (he : e.isTerminal = false) :
    (o.emit ms e).out = o.out ++ (contentText e).getD "" := by
  cases e <;> simp_all [emit, contentText, StreamEvent.isTerminal]
  split <;> rfl

theorem emit_out_of_terminal {e : StreamEvent} (he : e.isTerminal = true) :
    (o.emit ms e).out = if o.wroteText then o.out ++ "\n" else o.out := by
  cases e <;> simp_all [emit, StreamEvent.isTerminal]

/-- Apart from thinking, an event writes its diagnostic line, if it has one, to standard error,
after closing the thinking line if the event closes it. -/
theorem emit_err {e : StreamEvent} (he : isThinking e = false) :
    (o.emit ms e).err =
      (if closesThinking e then o.endThinking.err else o.err) ++ (diagnostic ms e).getD "" := by
  cases e <;> simp_all [emit, closesThinking, diagnostic, isThinking]

theorem emit_err_of_diagnostic {e : StreamEvent} {r : String} (hr : diagnostic ms e = some r) :
    (o.emit ms e).err = (if closesThinking e then o.endThinking.err else o.err) ++ r := by
  have he : isThinking e = false := by
    cases e <;> simp_all [diagnostic, isThinking]
  simp [emit_err ms o he, hr]

/-- Out of a run of thinking, standard error ends a line. -/
def LinesClosed (o : BatchOutput) : Prop := o.inThinking = false → AtLineStart o.err

theorem linesClosed_empty : LinesClosed {} := fun _ => .inl rfl

theorem LinesClosed.endThinking {o : BatchOutput} (h : o.LinesClosed) :
    AtLineStart o.endThinking.err := by
  cases ho : o.inThinking with
  | true => simpa [ho] using atLineStart_append_newline o.err
  | false => simpa [ho] using h ho

/-- Every event keeps standard error closed out of a run of thinking: what it writes there ends
with a line feed, and a run of thinking it closes is closed by one. -/
theorem LinesClosed.emit {o : BatchOutput} (h : o.LinesClosed) (e : StreamEvent) :
    (o.emit ms e).LinesClosed := by
  intro hthink
  have hstep := emit_inThinking ms o e
  cases ht : isThinking e
  · rw [emit_err ms o ht]
    cases hd : diagnostic ms e with
    | some r => exact atLineStart_append (diagnostic_ends_line hd)
    | none =>
      cases hc : closesThinking e
      · -- nothing written, and the run of thinking was already closed
        simpa using h (by simp_all)
      · simpa using h.endThinking
  · simp_all

end BatchOutput

/-! ## A whole run -/

section Run

variable (ms : Nat)

theorem runBatch_nil : (runBatch ms []).1 = {} := rfl

theorem runBatch_append_single (xs : List StreamEvent) (e : StreamEvent) :
    (runBatch ms (xs ++ [e])).1 = (runBatch ms xs).1.emit ms e := by
  simp [runBatch, List.foldl_append, printEvent]

theorem inThinking_runBatch_iff (xs : List StreamEvent) :
    (runBatch ms xs).1.inThinking = true ↔ ThinkingOpen xs := by
  induction xs using List.reverseRecOn with
  | nil => simp [runBatch_nil, thinkingOpen_nil]
  | append_singleton xs e ih =>
    rw [runBatch_append_single, BatchOutput.emit_inThinking, thinkingOpen_append_single, ← ih]
    cases e <;> simp [isThinking, closesThinking]

theorem linesClosed_runBatch (xs : List StreamEvent) : (runBatch ms xs).1.LinesClosed := by
  induction xs using List.reverseRecOn with
  | nil => exact BatchOutput.linesClosed_empty
  | append_singleton xs e ih =>
    rw [runBatch_append_single]
    exact ih.emit ms e

/-- Before the terminal event, standard output holds the answer text so far, and the printer
knows whether there was any. -/
theorem runBatch_out_before_terminal (xs : List StreamEvent)
    (hxs : ∀ e ∈ xs, e.isTerminal = false) :
    (runBatch ms xs).1.out = String.join (xs.filterMap contentText) ∧
      (runBatch ms xs).1.wroteText = !(xs.filterMap contentText).isEmpty := by
  induction xs using List.reverseRecOn with
  | nil => exact ⟨rfl, rfl⟩
  | append_singleton xs e ih =>
    obtain ⟨hout, hwrote⟩ := ih (fun x hx => hxs x (by simp [hx]))
    have he : e.isTerminal = false := hxs e (by simp)
    rw [runBatch_append_single, BatchOutput.emit_out_of_not_terminal ms _ he,
      BatchOutput.emit_wroteText, hout, hwrote, List.filterMap_append]
    cases h : contentText e <;> simp [h]

/-- The diagnostic line of `e`, written after the events `xs`, starts a line of standard error:
standard error is what `xs` left, then at most a line feed, then the line. -/
def RecordStartsLine (xs : List StreamEvent) (e : StreamEvent) : Prop :=
  ∀ r, diagnostic ms e = some r → ∃ sep, (sep = "" ∨ sep = "\n") ∧
    (runBatch ms (xs ++ [e])).1.err = (runBatch ms xs).1.err ++ sep ++ r ∧
    AtLineStart ((runBatch ms xs).1.err ++ sep)

/-- A diagnostic line starts a line of standard error when its event closes the thinking line
or no run of thinking is open. -/
theorem recordStartsLine {xs : List StreamEvent} {e : StreamEvent}
    (h : closesThinking e = true ∨ ¬ ThinkingOpen xs) : RecordStartsLine ms xs e := by
  intro r hr
  have hinv := linesClosed_runBatch ms xs
  rw [runBatch_append_single, BatchOutput.emit_err_of_diagnostic ms _ hr]
  cases hc : closesThinking e
  · -- a finished tool call: written right after what came before, out of any run of thinking
    have hclosed : ¬ ThinkingOpen xs := by simpa [hc] using h
    have hopen : (runBatch ms xs).1.inThinking = false :=
      Bool.eq_false_iff.mpr fun ht => hclosed ((inThinking_runBatch_iff ms xs).mp ht)
    exact ⟨"", .inl rfl, by simp, by simpa using hinv hopen⟩
  · cases ho : (runBatch ms xs).1.inThinking
    · exact ⟨"", .inl rfl, by simp [ho], by simpa using hinv ho⟩
    · exact ⟨"\n", .inr rfl, by simp [ho], atLineStart_append_newline _⟩

end Run

/-- **How a stream is printed.** For events whose one terminal event comes last, standard output
is the answer text in order, then one line feed if there was any answer text; and every
diagnostic line starts a line of standard error unless its event leaves a run of thinking open,
which only a finished tool call does. -/
theorem printed_layout (ms : Nat) (pre : List StreamEvent) (t : StreamEvent)
    (hpre : ∀ e ∈ pre, e.isTerminal = false) (ht : t.isTerminal = true) :
    (runBatch ms (pre ++ [t])).1.out =
        String.join ((pre ++ [t]).filterMap contentText) ++
          (if (pre ++ [t]).filterMap contentText = [] then "" else "\n") ∧
      ∀ xs e ys, pre ++ [t] = xs ++ e :: ys → (closesThinking e = true ∨ ¬ ThinkingOpen xs) →
        RecordStartsLine ms xs e := by
  have htext : contentText t = none := by
    cases t <;> simp_all [StreamEvent.isTerminal, contentText]
  obtain ⟨hout, hwrote⟩ := runBatch_out_before_terminal ms pre hpre
  refine ⟨?_, fun xs e _ _ h => recordStartsLine ms h⟩
  rw [runBatch_append_single, BatchOutput.emit_out_of_terminal ms _ ht, hout, hwrote]
  simp only [List.filterMap_append, List.filterMap_cons, htext, List.filterMap_nil,
    List.append_nil]
  cases pre.filterMap contentText <;> simp

/-- Thinking, a tool call and an answer: the answer and its line feed on standard output, and the
tool call's line and the summary each on a line of their own. -/
theorem thinking_tool_answer_layout :
    let pre := [StreamEvent.thinkingDelta "hmm", .toolUseStart 0 "c" "f", .contentDelta "Answer"]
    let t := StreamEvent.messageDone .toolUse {}
    (∀ e ∈ pre, e.isTerminal = false) ∧ t.isTerminal = true ∧
      (runBatch 0 (pre ++ [t])).1.out =
          String.join ((pre ++ [t]).filterMap contentText) ++
            (if (pre ++ [t]).filterMap contentText = [] then "" else "\n") ∧
        ∀ xs e ys, pre ++ [t] = xs ++ e :: ys → (closesThinking e = true ∨ ¬ ThinkingOpen xs) →
          RecordStartsLine 0 xs e :=
  ⟨by decide, rfl, printed_layout 0 _ _ (by decide) rfl⟩

/-- A finished tool call that comes while a run of thinking is open continues the thinking line. -/
theorem done_after_thinking_continues_line :
    (∀ e ∈ [StreamEvent.thinkingDelta "hmm", .toolUseDone "c" "f" "{}"], e.isTerminal = false) ∧
      (StreamEvent.messageDone .toolUse {}).isTerminal = true ∧
      ¬ RecordStartsLine 0 [.thinkingDelta "hmm"] (.toolUseDone "c" "f" "{}") := by
  refine ⟨by decide, rfl, fun h => ?_⟩
  obtain ⟨sep, hsep | hsep, herr, hline⟩ := h _ rfl
  · subst hsep
    revert hline
    decide
  · -- a line feed before it would make standard error one character longer than it is
    subst hsep
    revert herr
    decide

end ChatStream.Cli
