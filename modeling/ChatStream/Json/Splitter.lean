import ChatStream.Http.Body
import ChatStream.Message.Basic

/-! # Splitting a byte stream into JSON objects

Some servers stream a JSON array whose elements arrive over time (`[{…}\r\n,{…}\r\n]`),
others bare objects one after another. The splitter serves both: between objects it skips every
byte until a `{`; inside an object it counts nesting (`{` and `[` open, `}` and `]` close) outside
strings, where an unescaped `"` opens or closes a string and a backslash escapes the next byte.
An object ends at the byte that brings the nesting back to zero, and is handed on as raw bytes.

An unfinished object may grow to `maxObjectBytes`; beyond that the splitter reports it as too
large, again on every later attempt. An unfinished object at the end of the stream is dropped.
-/

namespace ChatStream.Json

/-- The largest unfinished object the splitter holds, in bytes. -/
def maxObjectBytes : Nat := 16 * 1024 * 1024

inductive SplitError where
  /-- The body could not be read further. -/
  | body (detail : String)
  /-- An unfinished object grew past the limit. -/
  | tooLarge (limit : Nat)
  deriving Repr, DecidableEq

def SplitError.message : SplitError → String
  | .body d => s!"stream read error: {d}"
  | .tooLarge limit => s!"JSON object exceeds {limit} bytes"

/-- A split error as a stream error: a broken body is a transport failure, an oversized object a
decoding failure. -/
def SplitError.toStreamError : SplitError → StreamError
  | .body d => .transport d
  | e => .decode e.message

/-- Where the scan stands inside an object. -/
structure Scan where
  /-- Open brackets and braces, the object's own brace included; zero between objects. -/
  depth : Nat := 0
  inString : Bool := false
  /-- The previous byte was a backslash inside a string. -/
  escaped : Bool := false
  deriving Repr, DecidableEq, Inhabited

/-- The state of a splitter: the bytes received, where the unfinished object (or the unread
rest) starts, and how far it has been scanned. -/
structure Splitter where
  bytes : ByteArray := ByteArray.empty
  /-- Start of the bytes still held. -/
  start : Nat := 0
  /-- The next byte to scan. -/
  pos : Nat := 0
  scan : Scan := {}

/-- How one byte moves the scan. `opens` is set when the byte starts an object. -/
def Scan.step (s : Scan) (b : UInt8) : Scan × Bool :=
  if s.depth = 0 then
    if b == 0x7B then ({ depth := 1 }, true) else (s, false)
  else if s.inString then
    if s.escaped then ({ s with escaped := false }, false)
    else if b == 0x5C then ({ s with escaped := true }, false)
    else if b == 0x22 then ({ s with inString := false }, false)
    else (s, false)
  else if b == 0x22 then ({ s with inString := true }, false)
  else if b == 0x7B ∨ b == 0x5B then ({ s with depth := s.depth + 1 }, false)
  else if b == 0x7D ∨ b == 0x5D then ({ s with depth := s.depth - 1 }, false)
  else (s, false)

/-- Scan from `i`: the offset just past the next complete object with the new state, or the
state at the end of the bytes. `start` follows the object being scanned. -/
def scanFrom (bs : ByteArray) (start i : Nat) (s : Scan) : Option (Nat × Nat) × Nat × Scan :=
  if h : i < bs.size then
    let (s', opens) := s.step bs[i]
    let start' := if opens then i else start
    if s.depth > 0 ∧ s'.depth = 0 then (some (start', i + 1), start', s')
    else scanFrom bs start' (i + 1) s'
  else (none, start, s)
termination_by bs.size - i

theorem scanFrom_found (bs : ByteArray) (start i : Nat) (s : Scan) {a b start' : Nat} {s' : Scan}
    (h : scanFrom bs start i s = (some (a, b), start', s')) : i < b ∧ b ≤ bs.size := by
  induction start, i, s using scanFrom.induct bs with
  | case1 start i s hi s₁ opens hstep hclose =>
    rw [scanFrom, dif_pos hi] at h
    simp only [hstep, if_pos hclose, Prod.mk.injEq, Option.some.injEq] at h
    omega
  | case2 start i s hi s₁ opens hstep start₁ hclose ih =>
    rw [scanFrom, dif_pos hi] at h
    simp only [hstep, if_neg hclose] at h
    have := ih (by simpa [start₁] using h)
    omega
  | case3 start i s hi =>
    rw [scanFrom, dif_neg hi] at h
    cases h

namespace Splitter

def push (d : Splitter) (chunk : ByteArray) : Splitter :=
  -- bytes before `start` are no longer needed
  let kept := d.bytes.extract d.start d.bytes.size
  { d with bytes := kept ++ chunk, start := 0, pos := d.pos - d.start }

/-- The next complete object, `none` if more bytes are needed, or an error for an unfinished
object past the limit. -/
def decode (d : Splitter) : Except SplitError (Option ByteArray) × Splitter :=
  match scanFrom d.bytes d.start d.pos d.scan with
  | (some (a, b), _, s) => (.ok (some (d.bytes.extract a b)), { d with start := b, pos := b, scan := s })
  | (none, start, s) =>
    if s.depth = 0 then (.ok none, {})
    else
      let d' := { d with start, pos := d.bytes.size, scan := s }
      if d.bytes.size - start > maxObjectBytes then (.error (.tooLarge maxObjectBytes), d')
      else (.ok none, d')

/-- Whether an object has started and not finished. -/
def hasPartial (d : Splitter) : Bool := d.scan.depth > 0

theorem decode_progress {d d' : Splitter} {o : ByteArray} (h : d.decode = (.ok (some o), d')) :
    d'.bytes.size - d'.pos < d.bytes.size - d.pos := by
  unfold decode at h
  split at h
  · rename_i a b start s hscan
    cases h
    have := scanFrom_found d.bytes d.start d.pos d.scan hscan
    simp only
    omega
  · split at h <;> (try split at h) <;> cases h

/-- Decode objects until more bytes are needed or an error: the objects, then the error. -/
def decodeAll (d : Splitter) : List ByteArray × Option SplitError × Splitter :=
  match _h : d.decode with
  | (.ok (some o), d') =>
    let (rest, err, d'') := d'.decodeAll
    (o :: rest, err, d'')
  | (.ok none, d') => ([], none, d')
  | (.error e, d') => ([], some e, d')
termination_by d.bytes.size - d.pos
decreasing_by exact decode_progress _h

end Splitter

/-- The objects of a body in order; a read failure or an oversized object ends the list with
its error. An unfinished object at the end is dropped. -/
def objects (body : List BodyItem) : List (Except SplitError ByteArray) :=
  go {} body
where
  go (d : Splitter) : List BodyItem → List (Except SplitError ByteArray)
    | [] => []
    | .failure m :: _ => [.error (.body m)]
    | .chunk c :: rest =>
      let (found, err, d') := (d.push c).decodeAll
      match err with
      | some e => found.map .ok ++ [.error e]
      | none => found.map .ok ++ go d' rest

end ChatStream.Json
