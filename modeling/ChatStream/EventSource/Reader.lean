import ChatStream.EventSource.Frame
import ChatStream.Http.Body
import ChatStream.Text.Utf8
import ChatStream.Message.Basic

/-! # Reading frames from a body

The reader cuts the body's bytes into lines at LF, CR and CRLF (a CR and the LF right after it
are one terminator, even when they arrive in different chunks), reads each line as UTF-8 with
bad bytes replaced, and hands the lines to a `Draft`. At the end of the body an unfinished last
line still counts, and a frame with content is closed.

A line longer than `maxLineBytes` stops the reader: the frames closed before it are delivered,
then the error. A failure to read the body stops it likewise. Between chunks the reader holds
only the unfinished line, which has no terminator and at most `maxLineBytes` bytes.
-/

namespace ChatStream.EventSource

/-- The longest line the reader accepts, in bytes. -/
def maxLineBytes : Nat := 1024 * 1024

inductive FrameError where
  /-- The body could not be read further. -/
  | body (detail : String)
  /-- A line grew past the limit. -/
  | lineTooLong (limit : Nat)
  deriving Repr, DecidableEq

def FrameError.message : FrameError → String
  | .body d => s!"stream read error: {d}"
  | .lineTooLong limit => s!"SSE line exceeds {limit} bytes"

/-- A frame error as a stream error: a broken body is a transport failure, a long line a
decoding failure. -/
def FrameError.toStreamError : FrameError → StreamError
  | .body d => .transport d
  | e => .decode e.message

def isTerminator (b : UInt8) : Bool := b == 10 || b == 13

/-- The first line terminator at or after `i`. -/
def findTerminator (bs : ByteArray) (i : Nat) : Option Nat :=
  if h : i < bs.size then
    if isTerminator bs[i] then some i else findTerminator bs (i + 1)
  else none
termination_by bs.size - i

theorem findTerminator_bounds (bs : ByteArray) (i k : Nat) :
    findTerminator bs i = some k → i ≤ k ∧ k < bs.size := by
  induction i using findTerminator.induct bs with
  | case1 i hi ht =>
    intro h
    rw [findTerminator, dif_pos hi, if_pos ht] at h
    cases h
    omega
  | case2 i hi ht ih =>
    intro h
    rw [findTerminator, dif_pos hi, if_neg ht] at h
    have := ih h
    omega
  | case3 i hi =>
    intro h
    rw [findTerminator, dif_neg hi] at h
    cases h

structure Reader where
  /-- The unfinished line. -/
  pending : ByteArray := ByteArray.empty
  draft : Draft := {}
  /-- The last terminator was a CR, so a first LF of the next chunk belongs to it. -/
  skipLf : Bool := false

/-- What reading one chunk gives: the frames it closed, and an error that stops the reader. -/
structure Step where
  frames : Array Frame
  error : Option FrameError
  reader : Reader

/-- Cut the complete lines of `bs` from `start` on. Bytes from `start` up to `clean` are known
to hold no terminator. -/
def cutLines (bs : ByteArray) (start clean : Nat) (skipLf : Bool) (draft : Draft)
    (acc : Array Frame) : Step :=
  if skipLf ∧ start < bs.size ∧ bs[start]! == 10 then
    cutLines bs (start + 1) (start + 1) false draft acc
  else if skipLf ∧ start ≥ bs.size then
    ⟨acc, none, { draft, skipLf := true }⟩
  else
    match _hf : findTerminator bs (max start clean) with
    | none =>
      if bs.size - start > maxLineBytes then ⟨acc, some (.lineTooLong maxLineBytes), {}⟩
      else ⟨acc, none, { pending := bs.extract start bs.size, draft }⟩
    | some stop =>
      if stop - start > maxLineBytes then ⟨acc, some (.lineTooLong maxLineBytes), {}⟩
      else
        let (frame?, draft') := draft.line (Text.Utf8.decodeRange bs start stop)
        let acc' := match frame? with | some f => acc.push f | none => acc
        cutLines bs (stop + 1) (stop + 1) (bs[stop]! == 13) draft' acc'
termination_by bs.size + 1 - start
decreasing_by
  · omega
  · have := findTerminator_bounds bs _ _ _hf
    omega

namespace Reader

def push (r : Reader) (chunk : ByteArray) : Step :=
  cutLines (r.pending ++ chunk) 0 r.pending.size r.skipLf r.draft #[]

/-- The end of the body: the unfinished line counts, and a frame with content closes. -/
def finish (r : Reader) : Array Frame :=
  let (first, draft) :=
    if r.pending.size = 0 then (none, r.draft)
    else r.draft.line (Text.Utf8.decodeBytes r.pending)
  let (last, _) := draft.close
  (first.toArray ++ last.toArray)

/-- Everything a reader delivers from a body, in order: frames, and at most one error, which
comes last. -/
def run (r : Reader) : List BodyItem → List (Except FrameError Frame)
  | [] => r.finish.toList.map .ok
  | .failure m :: _ => [.error (.body m)]
  | .chunk c :: rest =>
    let step := r.push c
    match step.error with
    | some e => step.frames.toList.map .ok ++ [.error e]
    | none => step.frames.toList.map .ok ++ run step.reader rest

end Reader

/-- The frames of a body, read from the start. -/
def frames (body : List BodyItem) : List (Except FrameError Frame) := Reader.run {} body

end ChatStream.EventSource
