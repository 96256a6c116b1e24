/-! # Punycode

The Bootstring encoding of RFC 3492 with the Punycode parameters (base 36, thresholds 1 and 26,
skew 38, damp 700, initial bias 72, initial code point 128). A label is written as its ASCII
characters, a `-` if there were any, then the non-ASCII code points in increasing order, each as
a variable-length base-36 number giving the distance from the previous insertion.

Every loop has a measure: the bias adaptation divides its delta, a digit run divides its
number, the encoder runs over the distinct non-ASCII code points, the decoder over its input.
-/

namespace ChatStream.Url.Punycode

/-- The character of a digit: `a`-`z` for 0-25, `0`-`9` for 26-35. -/
def digitChar (d : Nat) : Char :=
  if d < 26 then Char.ofNat (0x61 + d) else Char.ofNat (0x30 + d - 26)

/-- The value of a digit character, either case. -/
def digitOf (c : Char) : Option Nat :=
  let n := c.toNat
  if 0x61 ≤ n ∧ n ≤ 0x7A then some (n - 0x61)
  else if 0x41 ≤ n ∧ n ≤ 0x5A then some (n - 0x41)
  else if 0x30 ≤ n ∧ n ≤ 0x39 then some (n - 0x30 + 26)
  else none

/-- The threshold of the digit at position `k` (a multiple of 36) under `bias`. -/
def threshold (k bias : Nat) : Nat :=
  if k ≤ bias then 1 else if k ≥ bias + 26 then 26 else k - bias

theorem threshold_bounds (k bias : Nat) : 1 ≤ threshold k bias ∧ threshold k bias ≤ 26 := by
  unfold threshold
  split
  · omega
  · split <;> omega

/-- Scale a delta down below 456, counting steps of 36. -/
def shrink (delta k : Nat) : Nat × Nat :=
  if delta > 455 then shrink (delta / 35) (k + 36) else (delta, k)
termination_by delta
decreasing_by exact Nat.div_lt_self (by omega) (by omega)

/-- The bias after a code point, from the delta it took and the number of points so far. -/
def adapt (delta points : Nat) (first : Bool) : Nat :=
  let d := if first then delta / 700 else delta / 2
  let (d, k) := shrink (d + d / points) 0
  k + 36 * d / (d + 38)

/-- The digits of `q` from position `k` on. -/
def digits (bias k q : Nat) : List Char :=
  let t := threshold k bias
  if q < t then [digitChar q]
  else digitChar (t + (q - t) % (36 - t)) :: digits bias (k + 36) ((q - t) / (36 - t))
termination_by q
decreasing_by
  have := threshold_bounds k bias
  calc (q - threshold k bias) / (36 - threshold k bias)
      ≤ q - threshold k bias := Nat.div_le_self _ _
    _ < q := by omega

/-- The state of the encoder: output so far, delta, bias, code points handled. -/
structure Encoder where
  out : List Char
  delta : Nat
  bias : Nat
  handled : Nat

/-- Pass over one input character while inserting code point `m`. -/
def Encoder.visit (basic m : Nat) (e : Encoder) (c : Char) : Encoder :=
  if c.toNat < m then { e with delta := e.delta + 1 }
  else if c.toNat = m then
    { out := e.out ++ digits e.bias 36 e.delta, delta := 0,
      bias := adapt e.delta (e.handled + 1) (e.handled = basic), handled := e.handled + 1 }
  else e

/-- Insert the non-ASCII code points `ms` (increasing), starting from code point `n`. -/
def encodeFrom (input : List Char) (basic : Nat) : List Nat → Nat → Encoder → Encoder
  | [], _, e => e
  | m :: ms, n, e =>
    let e := { e with delta := e.delta + (m - n) * (e.handled + 1) }
    let e := input.foldl (Encoder.visit basic m) e
    encodeFrom input basic ms (m + 1) { e with delta := e.delta + 1 }

/-- The distinct values of a list, increasing. -/
def ascending (xs : List Nat) : List Nat := (xs.mergeSort (· ≤ ·)).eraseDups

def encode (input : List Char) : List Char :=
  let basic := input.filter (·.toNat < 0x80)
  let wide := ascending ((input.filter (·.toNat ≥ 0x80)).map Char.toNat)
  let e := encodeFrom input basic.length wide 128 ⟨[], 0, 72, basic.length⟩
  basic ++ (if basic.isEmpty then [] else ['-']) ++ e.out

/-- Read one variable-length number: the new position and the rest of the input. -/
def readNumber (bias : Nat) : List Char → Nat → Nat → Nat → Option (Nat × List Char)
  | [], _, _, _ => none
  | c :: rest, k, w, i =>
    match digitOf c with
    | none => none
    | some d =>
      let t := threshold k bias
      if d < t then some (i + d * w, rest) else readNumber bias rest (k + 36) (w * (36 - t)) (i + d * w)

theorem readNumber_shorter (bias : Nat) :
    ∀ (l : List Char) (k w i : Nat) (r : Nat × List Char),
      readNumber bias l k w i = some r → r.2.length < l.length
  | [], _, _, _, _, h => by simp [readNumber] at h
  | c :: rest, k, w, i, r, h => by
    rw [readNumber] at h
    split at h
    · simp at h
    · simp only at h
      split at h
      · cases h; simp
      · have := readNumber_shorter bias rest _ _ _ r h
        simp only [List.length_cons]
        omega

/-- Insert the decoded code points one by one. -/
def decodeFrom (bias n i : Nat) (out : List Char) (input : List Char) : Option (List Char) :=
  match input with
  | [] => some out
  | c :: rest =>
    match h : readNumber bias (c :: rest) 36 1 i with
    | none => none
    | some (i', more) =>
      let points := out.length + 1
      let n' := n + i' / points
      let pos := i' % points
      if n' < 0xD800 ∨ (0xDFFF < n' ∧ n' < 0x110000) then
        decodeFrom (adapt (i' - i) points (i = 0)) n' (pos + 1) (out.insertIdx pos (Char.ofNat n')) more
      else none
termination_by input.length
decreasing_by
  have := readNumber_shorter bias (c :: rest) 36 1 i (i', more) h
  simpa using this

/-- Decode a label: the part before the last `-` is taken as it stands. -/
def decode (input : List Char) : Option (List Char) :=
  let (basic, ext) := match input.reverse.span (· ≠ '-') with
    | (tailRev, []) => ([], tailRev.reverse)
    | (tailRev, _ :: headRev) => (headRev.reverse, tailRev.reverse)
  if basic.any (·.toNat ≥ 0x80) then none else decodeFrom 72 128 0 basic ext

example : encode "bücher".toList = "bcher-kva".toList := by decide +kernel
example : decode "bcher-kva".toList = some "bücher".toList := by decide +kernel

end ChatStream.Url.Punycode
