/-! # Binary floating-point formats

An IEEE 754 binary interchange format, described by its precision and its largest exponent,
with the bit layout of its values. A finite value is `m · 2^e`; rounding a non-negative rational
to a format takes the nearest value of the format, ties going to the even significand, and
gives infinity beyond the largest finite value.

`Format.round` is the one rounding rule; products, quotients and conversions from integers are
exact rationals handed to it, so each operation rounds once, as the standard asks.
-/

namespace ChatStream.Decimal

/-- A binary format: `precision` significand bits (the hidden bit included) and exponents up to
`emax`. -/
structure Format where
  precision : Nat
  emax : Nat
  deriving Repr, DecidableEq

namespace Format

/-- Binary64: 53 significand bits, exponents up to 1023. -/
def binary64 : Format := ⟨53, 1023⟩

/-- Binary32: 24 significand bits, exponents up to 127. -/
def binary32 : Format := ⟨24, 127⟩

/-- Bits of the stored exponent field. -/
def exponentBits (f : Format) : Nat := Nat.log2 (2 * f.emax + 1) + 1

/-- Bits of the stored fraction field. -/
def fractionBits (f : Format) : Nat := f.precision - 1

def width (f : Format) : Nat := 1 + f.exponentBits + f.fractionBits

/-- The exponent of the least significand step: finite values are multiples of `2 ^ minStep`. -/
def minStep (f : Format) : Int := 1 - (f.emax : Int) - (f.fractionBits : Int)

/-- The largest exponent a significand step may have. -/
def maxStep (f : Format) : Int := (f.emax : Int) - (f.fractionBits : Int)

end Format

/-- What an encoding stands for: a finite `(-1)^neg · m · 2^e`, an infinity, or not a number. -/
inductive Binary where
  | finite (neg : Bool) (m : Nat) (e : Int)
  | infinite (neg : Bool)
  | nan
  deriving Repr, DecidableEq

namespace Format

def decode (f : Format) (bits : Nat) : Binary :=
  let fracMask := Nat.pow 2 f.fractionBits
  let frac := bits % fracMask
  let biased := (bits / fracMask) % Nat.pow 2 f.exponentBits
  let neg := (bits / Nat.pow 2 (f.width - 1)) % 2 == 1
  if biased = Nat.pow 2 f.exponentBits - 1 then
    if frac = 0 then .infinite neg else .nan
  else if biased = 0 then .finite neg frac f.minStep
  else .finite neg (frac + fracMask) ((biased : Int) - 1 + f.minStep)

def infinityBits (f : Format) (neg : Bool) : Nat :=
  (if neg then Nat.pow 2 (f.width - 1) else 0) + (Nat.pow 2 f.exponentBits - 1) * Nat.pow 2 f.fractionBits

/-- Encode `m · 2^e` for an `m` below `2 ^ precision` whose exponent is in range; a significand
below `2 ^ fractionBits` is subnormal and has the least exponent. -/
def encode (f : Format) (neg : Bool) (m : Nat) (e : Int) : Nat :=
  let sign := if neg then Nat.pow 2 (f.width - 1) else 0
  if m < Nat.pow 2 f.fractionBits then sign + m
  else sign + (e - f.minStep + 1).toNat * Nat.pow 2 f.fractionBits + (m - Nat.pow 2 f.fractionBits)

/-- The exponent `t` with `2^t ≤ num/den < 2^(t+1)`, for positive `num` and `den`. -/
def log2Ratio (num den : Nat) : Int :=
  let t0 : Int := (Nat.log2 num : Int) - (Nat.log2 den : Int)
  let atLeast (t : Int) : Bool :=
    if t ≥ 0 then num ≥ den * Nat.pow 2 t.toNat else num * Nat.pow 2 (-t).toNat ≥ den
  if atLeast (t0 + 1) then t0 + 1 else if atLeast t0 then t0 else t0 - 1

/-- Round `num / den · 2^scale` (with `den > 0`) to the nearest value of the format, ties to the
even significand; beyond the largest finite value the result is infinity. -/
def round (f : Format) (neg : Bool) (num den : Nat) (scale : Int) : Nat :=
  if num = 0 ∨ den = 0 then (if neg then Nat.pow 2 (f.width - 1) else 0)
  else
    let num' := if scale ≥ 0 then num * Nat.pow 2 scale.toNat else num
    let den' := if scale ≥ 0 then den else den * Nat.pow 2 (-scale).toNat
    let t := log2Ratio num' den'
    let e := max (t - f.fractionBits) f.minStep
    let n := if e ≥ 0 then num' else num' * Nat.pow 2 (-e).toNat
    let d := if e ≥ 0 then den' * Nat.pow 2 e.toNat else den'
    let q := n / d
    let r := n % d
    let up := 2 * r > d ∨ (2 * r = d ∧ q % 2 = 1)
    let m := if up then q + 1 else q
    let (m, e) := if m = Nat.pow 2 f.precision then (m / 2, e + 1) else (m, e)
    if e > f.maxStep then f.infinityBits neg else f.encode neg m e

/-- The encoding of the nearest value to a natural number. -/
def ofNat (f : Format) (n : Nat) : Nat := f.round false n 1 0

/-- Negation flips the sign bit. -/
def negate (f : Format) (bits : Nat) : Nat :=
  let s := Nat.pow 2 (f.width - 1)
  if (bits / s) % 2 = 1 then bits - s else bits + s

/-- The rounded product of two finite values. -/
def mul (f : Format) (a b : Nat) : Nat :=
  match f.decode a, f.decode b with
  | .finite na ma ea, .finite nb mb eb => f.round (na != nb) (ma * mb) 1 (ea + eb)
  | .infinite na, .finite nb _ _ => f.infinityBits (na != nb)
  | .finite na _ _, .infinite nb => f.infinityBits (na != nb)
  | .infinite na, .infinite nb => f.infinityBits (na != nb)
  | _, _ => Nat.pow 2 f.width - 1

/-- The rounded quotient of two finite values, the divisor non-zero. -/
def div (f : Format) (a b : Nat) : Nat :=
  match f.decode a, f.decode b with
  | .finite na ma ea, .finite nb mb eb =>
    if mb = 0 then f.infinityBits (na != nb) else f.round (na != nb) ma mb (ea - eb)
  | .infinite na, .finite nb _ _ => f.infinityBits (na != nb)
  | _, _ => Nat.pow 2 f.width - 1

/-- The rounded sum of two finite values: both are brought to the smaller exponent, added
exactly, and rounded once. An exact zero is positive unless both were negative. -/
def add (f : Format) (a b : Nat) : Nat :=
  match f.decode a, f.decode b with
  | .finite na ma ea, .finite nb mb eb =>
    let e := min ea eb
    let sa : Int := (if na then -1 else 1) * ((ma * Nat.pow 2 (ea - e).toNat : Nat) : Int)
    let sb : Int := (if nb then -1 else 1) * ((mb * Nat.pow 2 (eb - e).toNat : Nat) : Int)
    let s := sa + sb
    if s = 0 then f.round (na && nb) 0 1 0 else f.round (s < 0) s.natAbs 1 e
  | .infinite na, _ => f.infinityBits na
  | _, .infinite nb => f.infinityBits nb
  | _, _ => Nat.pow 2 f.width - 1

/-- Round a value of one format into another. -/
def convert (source target : Format) (bits : Nat) : Nat :=
  match source.decode bits with
  | .finite neg m e => target.round neg m 1 e
  | .infinite neg => target.infinityBits neg
  | .nan => Nat.pow 2 target.width - 1

def isFinite (f : Format) (bits : Nat) : Bool :=
  match f.decode bits with
  | .finite .. => true
  | _ => false

end Format

example : Format.binary64.width = 64 ∧ Format.binary32.width = 32 := by decide
example : Format.binary64.ofNat 1 = 0x3FF0000000000000 := by decide +kernel
example : Format.binary64.round false 1 10 0 = 0x3FB999999999999A := by decide +kernel
example : Format.binary32.round false 7 10 0 = 0x3F333333 := by decide +kernel

end ChatStream.Decimal
