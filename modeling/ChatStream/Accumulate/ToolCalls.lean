import ChatStream.Message.Basic
import ChatStream.Text.Space

/-! # Tool calls gathered from fragments

Vendors stream a tool call in fragments keyed by a position (its index); some send the id and
name only with the first fragment. `ToolCalls` keeps the calls seen so far by index, in
ascending order:

* the first non-empty id of an index sticks, and so does the first non-empty name, which is
  also when the call is announced (`toolUseStart`);
* every non-empty argument fragment is appended and echoed (`toolUseDelta`);
* `nextIndex` is one past the largest index in use, counted in 64-bit words: past the largest
  word it wraps to 0.

A call that never got an id is given one when the calls are finished: `call_` followed by 32
hex digits shaped like a random (version 4) UUID, with the index (modulo 2^60) in its last 15 digits, so
minted ids stay distinct within one message and are unlikely to equal an id a vendor sent.
-/

namespace ChatStream

/-- What is known of one tool call so far. -/
structure PendingCall where
  id : String := ""
  name : String := ""
  /-- The argument fragments, concatenated. -/
  args : String := ""
  deriving Repr, DecidableEq, Inhabited

/-- Tool calls by index, indexes ascending and distinct. -/
structure ToolCalls where
  calls : List (Nat × PendingCall) := []
  deriving Repr, DecidableEq, Inhabited

namespace ToolCalls

def get? (tc : ToolCalls) (index : Nat) : Option PendingCall :=
  (tc.calls.find? (·.1 == index)).map (·.2)

def contains (tc : ToolCalls) (index : Nat) : Bool := tc.calls.any (·.1 == index)

def isEmpty (tc : ToolCalls) : Bool := tc.calls.isEmpty

/-- Put `c` at `index`, keeping indexes ascending. -/
def setAt (index : Nat) (c : PendingCall) : List (Nat × PendingCall) → List (Nat × PendingCall)
  | [] => [(index, c)]
  | (k, d) :: rest =>
    if index = k then (index, c) :: rest
    else if index < k then (index, c) :: (k, d) :: rest
    else (k, d) :: setAt index c rest

/-- The text of an optional fragment, `none` when absent or empty. -/
def present : Option String → Option String
  | some s => if s.isEmpty then none else some s
  | none => none

/-- Fold one fragment into the call at `index`: the events it causes and the new calls. -/
def apply (tc : ToolCalls) (index : Nat) (id name args : Option String) :
    List StreamEvent × ToolCalls :=
  let c := (tc.get? index).getD {}
  let c := match present id with
    | some i => if c.id.isEmpty then { c with id := i } else c
    | none => c
  let (started, c) := match present name with
    | some n => if c.name.isEmpty then ([StreamEvent.toolUseStart index c.id n], { c with name := n })
      else ([], c)
    | none => ([], c)
  let (delta, c) := match present args with
    | some a => ([StreamEvent.toolUseDelta index a], { c with args := c.args ++ a })
    | none => ([], c)
  (started ++ delta, ⟨setAt index c tc.calls⟩)

def lastIndex? (tc : ToolCalls) : Option Nat := (tc.calls.getLast?).map (·.1)

/-- One past the largest index in use; zero when there is none. -/
def nextIndex (tc : ToolCalls) : Nat :=
  match tc.calls.getLast? with
  | some (k, _) => (k + 1) % Nat.pow 2 64
  | none => 0

/-- Where a fragment without an index belongs: a new id opens a new call, anything else
continues the latest call. -/
def indexForId (tc : ToolCalls) (id : Option String) : Nat :=
  match tc.calls.getLast?, present id with
  | none, _ => 0
  | some (k, _), none => k
  | some (k, c), some i => if c.id = i then k else tc.nextIndex

/-- Lower-case hex digits of `n`, padded with zeros to `width`. -/
def hexPadded (width n : Nat) : String :=
  let ds := Nat.toDigits 16 n
  String.ofList (List.replicate (width - ds.length) '0' ++ ds)

/-- The id given to the call at `index` when it never got one. -/
def mintedId (index : Nat) : String :=
  "call_5c0f3e9b2d7a4e619" ++ hexPadded 15 (index % Nat.pow 2 60)

/-- The finished block of a call: a missing id is minted, blank arguments become `{}`. -/
def PendingCall.finish (index : Nat) (c : PendingCall) : ContentBlock :=
  .toolUse (if c.id.isEmpty then mintedId index else c.id) c.name
    (if Text.isBlank c.args then "{}" else c.args)

/-- Every call as a finished block, by index. -/
def finalize (tc : ToolCalls) : List (Nat × ContentBlock) :=
  tc.calls.map fun (k, c) => (k, PendingCall.finish k c)

end ToolCalls

end ChatStream
