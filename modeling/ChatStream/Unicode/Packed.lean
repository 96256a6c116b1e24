/-! # Packed tables

The Unicode properties the library needs are stored as texts of numbers. A number is written in
base 32, most significant digit first: every digit but the last is one of `WXYZa-z<>`, the last
one of `0-9A-V`. A number thus ends at the first character of the second kind, and numbers
below 32 take one character.

A table of ranges is written as triples: the gap from the end of the previous range, the length,
and the value of the range. A set of code points is written as pairs: the gap and the length of
each of its ranges. Code points outside every range have the value zero.

Lookups search the sorted starts of the ranges by bisection.
-/

namespace ChatStream.Unicode

/-- The value of a closing digit: `0-9` and `A-V` for 0 to 31. -/
def closingDigit (c : Char) : Option Nat :=
  let n := c.toNat
  if 0x30 ≤ n ∧ n ≤ 0x39 then some (n - 0x30)
  else if 0x41 ≤ n ∧ n ≤ 0x56 then some (n - 0x41 + 10)
  else none

/-- The value of a leading digit: `W-Z`, `a-z`, `<` and `>` for 0 to 31. -/
def leadingDigit (c : Char) : Nat :=
  let n := c.toNat
  if 0x57 ≤ n ∧ n ≤ 0x5A then n - 0x57
  else if 0x61 ≤ n ∧ n ≤ 0x7A then n - 0x61 + 4
  else if c = '<' then 30
  else 31

/-- The numbers of a packed text, in order. -/
def numbers (text : String) : List Nat :=
  let step (acc : List Nat × Nat) (c : Char) : List Nat × Nat :=
    match closingDigit c with
    | some d => ((acc.2 * 32 + d) :: acc.1, 0)
    | none => (acc.1, acc.2 * 32 + leadingDigit c)
  (text.toList.foldl step ([], 0)).1.reverse

/-- Ranges as start, exclusive end and value, from triples of gap, length and value, the first
gap counted from `pos`. -/
def triples : List Nat → Nat → List (Nat × Nat × Nat)
  | gap :: len :: v :: rest, pos => (pos + gap, pos + gap + len, v) :: triples rest (pos + gap + len)
  | _, _ => []

/-- Ranges of value one from pairs of gap and length, the first gap counted from `pos`. -/
def pairs : List Nat → Nat → List (Nat × Nat × Nat)
  | gap :: len :: rest, pos => (pos + gap, pos + gap + len, 1) :: pairs rest (pos + gap + len)
  | _, _ => []

/-- The first index in `[lo, hi)` whose entry exceeds `x`, or `hi`, in an array sorted
upwards. -/
def upperBound (a : Array Nat) (x lo hi : Nat) : Nat :=
  if lo < hi then
    let mid := (lo + hi) / 2
    if a.getD mid 0 ≤ x then upperBound a x (mid + 1) hi else upperBound a x lo mid
  else lo
termination_by hi - lo

/-- Disjoint ranges of code points in increasing order, with values: code points from
`starts[i]` up to `ends[i]` (exclusive) have `values[i]`. -/
structure RangeTable where
  starts : Array Nat
  ends : Array Nat
  values : Array Nat
  deriving Repr

namespace RangeTable

def ofRanges (rs : List (Nat × Nat × Nat)) : RangeTable :=
  { starts := (rs.map (·.1)).toArray, ends := (rs.map (·.2.1)).toArray,
    values := (rs.map (·.2.2)).toArray }

/-- Read a packed table of ranges with values. -/
def read (text : String) : RangeTable := ofRanges (triples (numbers text) 0)

def readSet (text : String) : RangeTable := ofRanges (pairs (numbers text) 0)

/-- The value of a code point: that of the range holding it, else zero. -/
def get (t : RangeTable) (cp : Nat) : Nat :=
  match upperBound t.starts cp 0 t.starts.size with
  | 0 => 0
  | i + 1 => if cp < t.ends.getD i 0 then t.values.getD i 0 else 0

/-- Whether a code point is in one of the ranges. -/
def contains (t : RangeTable) (cp : Nat) : Bool := t.get cp != 0

end RangeTable

/-- Values under keys, the keys sorted upwards. -/
structure KeyTable (α : Type) where
  keys : Array Nat
  values : Array α

namespace KeyTable

/-- The table of a list of keys and values sorted by key. -/
def ofList {α : Type} (entries : List (Nat × α)) : KeyTable α :=
  { keys := (entries.map (·.1)).toArray, values := (entries.map (·.2)).toArray }

def find? {α : Type} (t : KeyTable α) (k : Nat) : Option α :=
  match upperBound t.keys k 0 t.keys.size with
  | 0 => none
  | i + 1 => if t.keys.getD i 0 = k then t.values[i]? else none

end KeyTable

example : numbers "5W0b5" = [5, 0, 165] := by decide +kernel
example : (RangeTable.read "321216").get 4 = 1 ∧ (RangeTable.read "321216").get 7 = 6 ∧
    (RangeTable.read "321216").get 5 = 0 := by decide +kernel

end ChatStream.Unicode
