import ChatStream.Message.Basic

/-! # Printing a stream

Answer text goes to standard output as it arrives; thinking, tool calls, the closing summary and
errors go to standard error, so the output can be piped cleanly. A run of thinking is closed by a
line break before anything else is written to standard error; the answer text ends with a line
break when the stream ends.

The exit code is 0, or 1 after an error, or 130 after a cancellation.
-/

namespace ChatStream.Cli

/-- The exit code of a cancelled stream. -/
def exitCancelled : Nat := 130

/-- The two outputs and what has been written so far. -/
structure BatchOutput where
  out : String := ""
  err : String := ""
  inThinking : Bool := false
  wroteText : Bool := false
  deriving Repr, DecidableEq

/-- Seconds with one decimal, from milliseconds. -/
def showSeconds (ms : Nat) : String :=
  let tenths := (ms + 50) / 100
  s!"{tenths / 10}.{tenths % 10}"

namespace BatchOutput

def endThinking (o : BatchOutput) : BatchOutput :=
  if o.inThinking then { o with err := o.err ++ "\n", inThinking := false } else o

/-- End the answer text with a line break, if there was any. -/
def endText (o : BatchOutput) : BatchOutput :=
  if o.wroteText then { o with out := o.out ++ "\n" } else o

/-- Write one event; `elapsedMs` is the time since the start, shown in the summary. -/
def emit (elapsedMs : Nat) (o : BatchOutput) : StreamEvent → BatchOutput
  | .thinkingDelta t =>
    let o := if o.inThinking then o else { o with err := o.err ++ "[llmux] thinking: ", inThinking := true }
    { o with err := o.err ++ t }
  | .contentDelta t =>
    let o := o.endThinking
    { o with out := o.out ++ t, wroteText := true }
  | .toolUseStart _ _ name =>
    let o := o.endThinking
    { o with err := o.err ++ s!"[llmux] tool call: {name}\n" }
  | .toolUseDone id name input => { o with err := o.err ++ s!"[llmux] {name} ({id}) {input}\n" }
  | .messageDone stop usage =>
    let o := o.endThinking.endText
    { o with err := o.err ++ s!"[llmux] {stop.name} · {usage.inputTokens} in / {usage.outputTokens} out tokens · {showSeconds elapsedMs}s\n" }
  | .error e =>
    let o := o.endThinking.endText
    { o with err := o.err ++ s!"[llmux] error: {e.message}\n" }
  | _ => o

end BatchOutput

/-- The exit code after an event: errors set it. -/
def exitCodeAfter (code : Nat) : StreamEvent → Nat
  | .error .cancelled => exitCancelled
  | .error _ => 1
  | _ => code

/-- Print one event: the outputs so far and the exit code, after it. -/
def printEvent (elapsedMs : Nat) (acc : BatchOutput × Nat) (e : StreamEvent) : BatchOutput × Nat :=
  (acc.1.emit elapsedMs e, exitCodeAfter acc.2 e)

/-- Print every event of a stream: the outputs and the exit code. -/
def runBatch (elapsedMs : Nat) (events : List StreamEvent) : BatchOutput × Nat :=
  events.foldl (printEvent elapsedMs) ({}, 0)

end ChatStream.Cli
