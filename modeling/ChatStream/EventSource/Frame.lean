/-! # Event-stream frames

An event stream is text in lines. A line `field: value` sets a field of the frame being read
(one space after the colon is dropped), a line starting with `:` is a comment, and a blank line
closes the frame. The fields kept are `event`, `data` (each `data` line adds a line to the
frame's data) and `id`; other fields such as `retry` are ignored. A blank line closes a frame
only if some kept field was set since the last one.
-/

namespace ChatStream.EventSource

/-- One event of the stream. Fields that were not sent are empty. -/
structure Frame where
  eventType : String := ""
  /-- The `data` lines, joined by line feeds. -/
  data : String := ""
  id : String := ""
  deriving Repr, DecidableEq, Inhabited

/-- The fields of the frame being read. -/
structure Draft where
  eventType : String := ""
  id : String := ""
  /-- The `data` lines so far, in order. -/
  dataLines : Array String := #[]
  /-- Whether a kept field was set since the last frame closed. -/
  hasContent : Bool := false
  deriving Repr, DecidableEq, Inhabited

namespace Draft

/-- Close the frame if it has content: the frame and a fresh draft. -/
def close (d : Draft) : Option Frame × Draft :=
  if d.hasContent then
    (some { eventType := d.eventType, data := "\n".intercalate d.dataLines.toList, id := d.id }, {})
  else (none, d)

/-- Split a field line at its first colon; the value loses one leading space. -/
def splitField (line : String) : String × String :=
  let cs := line.toList
  let name := cs.takeWhile (· ≠ ':')
  match cs.dropWhile (· ≠ ':') with
  | [] => (String.ofList name, "")
  | _ :: ' ' :: rest => (String.ofList name, String.ofList rest)
  | _ :: rest => (String.ofList name, String.ofList rest)

/-- Take one line (without its terminator): a blank line closes the frame, a comment is
skipped, a field line updates the draft. -/
def line (d : Draft) (l : String) : Option Frame × Draft :=
  if l.isEmpty then d.close
  else if l.startsWith ":" then (none, d)
  else
    let (name, value) := splitField l
    if name = "event" then (none, { d with eventType := value, hasContent := true })
    else if name = "data" then (none, { d with dataLines := d.dataLines.push value, hasContent := true })
    else if name = "id" then (none, { d with id := value, hasContent := true })
    else (none, d)

end Draft

end ChatStream.EventSource
