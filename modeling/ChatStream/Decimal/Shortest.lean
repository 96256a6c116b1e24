import ChatStream.Decimal.Binary

/-! # Shortest decimal text of a binary value

A finite binary value reads back from every decimal in its rounding interval: the reals closer
to it than to either neighbour, the ends included when its significand is even. The text of the
value uses the fewest significant digits for which the decimal grid meets that interval; when
both grid neighbours of the value lie in it, the nearer one wins, and an exact tie goes to the
even digit.

`Layout` holds the choices of a written form: where positional notation gives way to an
exponent, and whether integers keep a `.0`. `Layout.json` is the form of JSON numbers,
`Layout.plain` the always-positional form used in messages.
-/

namespace ChatStream.Decimal

/-- A decimal `digits · 10^exp`; `digits` carries no trailing zero unless it is zero. -/
structure Scientific where
  digits : Nat
  exp : Int
  deriving Repr, DecidableEq

/-- Compare `a · 10^k` with `b · 2^j` exactly. -/
def compareScaled (a : Nat) (k : Int) (b : Nat) (j : Int) : Ordering :=
  let lhs := a * (if k ≥ 0 then Nat.pow 10 k.toNat else 1) * (if j < 0 then Nat.pow 2 (-j).toNat else 1)
  let rhs := b * (if j ≥ 0 then Nat.pow 2 j.toNat else 1) * (if k < 0 then Nat.pow 10 (-k).toNat else 1)
  compare lhs rhs

/-- `⌊m · 2^e / 10^k⌋`. -/
def floorScaled (m : Nat) (e k : Int) : Nat :=
  let num := m * (if e ≥ 0 then Nat.pow 2 e.toNat else 1) * (if k < 0 then Nat.pow 10 (-k).toNat else 1)
  let den := (if e < 0 then Nat.pow 2 (-e).toNat else 1) * (if k ≥ 0 then Nat.pow 10 k.toNat else 1)
  num / den

/-- The exponent `t` with `10^t ≤ m · 2^e < 10^(t+1)`, for positive `m`. -/
def log10Floor (m : Nat) (e : Int) : Int :=
  let t2 : Int := (Nat.log2 m : Int) + e
  -- log10 2 lies between 30102/100000 and 30103/100000
  let t0 : Int := Int.fdiv (t2 * 30103) 100000
  let atLeast (t : Int) : Bool := compareScaled 1 t m e != .gt
  if atLeast (t0 + 1) then t0 + 1 else if atLeast t0 then t0 else t0 - 1

def Scientific.normalize (s : Scientific) : Scientific :=
  go s.digits s.exp 40
where
  go (d : Nat) (k : Int) : Nat → Scientific
    | 0 => ⟨d, k⟩
    | fuel + 1 => if d ≠ 0 ∧ d % 10 = 0 then go (d / 10) (k + 1) fuel else ⟨d, k⟩

/-- The shortest decimal that reads back as `m · 2^e` in format `f`, for positive `m`. The
interval ends are `low · 2^(e-2)` and `high · 2^(e-2)`. -/
def shortest (f : Format) (m : Nat) (e : Int) : Scientific :=
  let lowerGapHalved := m = Nat.pow 2 f.fractionBits ∧ e > f.minStep
  let low := if lowerGapHalved then 4 * m - 1 else 4 * m - 2
  let high := 4 * m + 2
  let inclusive := m % 2 = 0
  let above (d : Nat) (k : Int) : Bool :=
    match compareScaled d k low (e - 2) with
    | .gt => true
    | .eq => inclusive
    | .lt => false
  let below (d : Nat) (k : Int) : Bool :=
    match compareScaled d k high (e - 2) with
    | .lt => true
    | .eq => inclusive
    | .gt => false
  let top := log10Floor m e
  let rec search : Nat → Nat → Scientific
    | 0, _ => ⟨m, 0⟩
    | fuel + 1, n =>
      let k := top - (n - 1 : Nat)
      let dlo := floorScaled m e k
      let dhi := dlo + 1
      let loOk := above dlo k
      let hiOk := below dhi k
      if loOk ∧ hiOk then
        -- both neighbours read back: take the nearer, a tie to the even digit
        let twice := compareScaled (2 * dlo + 1) k (8 * m) (e - 2)
        match twice with
        | .lt => Scientific.normalize ⟨dhi, k⟩
        | .gt => Scientific.normalize ⟨dlo, k⟩
        | .eq => Scientific.normalize ⟨if dlo % 2 = 0 then dlo else dhi, k⟩
      else if loOk then Scientific.normalize ⟨dlo, k⟩
      else if hiOk then Scientific.normalize ⟨dhi, k⟩
      else search fuel (n + 1)
  search 40 1

/-- Choices of a written number: the decimal point position `point` (the value is
`0.d₁d₂… · 10^point`) is written positionally while `minPoint < point ≤ maxPoint`; integers
then keep a `.0` when `pointZero` holds. Otherwise the number is written with an exponent, which
carries a `+` when non-negative if `exponentPlus` holds and has at least `exponentDigits`
digits. -/
structure Layout where
  maxPoint : Int
  minPoint : Int
  pointZero : Bool
  zero : String
  exponentPlus : Bool
  exponentDigits : Nat
  deriving Repr

namespace Layout

/-- JSON numbers: positional for `10^-5 ≤ |x| < 10^16`, integers written `1.0`, exponents as
`1e16`, `1.5e-7`. -/
def json : Layout :=
  { maxPoint := 16, minPoint := -5, pointZero := true, zero := "0.0", exponentPlus := false,
    exponentDigits := 1 }

/-- Always positional, integers without a point. -/
def plain : Layout :=
  { maxPoint := 100000, minPoint := -100000, pointZero := false, zero := "0",
    exponentPlus := false, exponentDigits := 1 }

/-- The form of a float quoted in a message: as JSON numbers, but a non-negative exponent
carries a `+`: `0.000025`, `1e-6`, `1e+16`. -/
def short : Layout :=
  { maxPoint := 16, minPoint := -5, pointZero := true, zero := "0.0", exponentPlus := true,
    exponentDigits := 1 }

end Layout

def digitText (n : Nat) : String := toString n

/-- Write `sci` (with positive digits) under a layout. -/
def Scientific.render (lay : Layout) (sci : Scientific) : String :=
  let ds := digitText sci.digits
  let len : Int := ds.length
  let point := len + sci.exp
  if sci.exp ≥ 0 ∧ point ≤ lay.maxPoint then
    ds ++ String.ofList (List.replicate sci.exp.toNat '0') ++ (if lay.pointZero then ".0" else "")
  else if 0 < point ∧ point ≤ lay.maxPoint then
    let cs := ds.toList
    String.ofList (cs.take point.toNat) ++ "." ++ String.ofList (cs.drop point.toNat)
  else if lay.minPoint < point ∧ point ≤ 0 then
    "0." ++ String.ofList (List.replicate (-point).toNat '0') ++ ds
  else
    let cs := ds.toList
    let mant := match cs with
      | [c] => String.singleton c
      | c :: rest => String.singleton c ++ "." ++ String.ofList rest
      | [] => "0"
    let x := point - 1
    let digits := toString x.natAbs
    let digits := String.ofList (List.replicate (lay.exponentDigits - digits.length) '0') ++ digits
    mant ++ "e" ++ (if x < 0 then "-" else if lay.exponentPlus then "+" else "") ++ digits

/-- The text of a finite encoding of format `f` under a layout; `none` for infinities and
not-a-number. -/
def Format.text? (f : Format) (lay : Layout) (bits : Nat) : Option String :=
  match f.decode bits with
  | .finite neg m e =>
    let sign := if neg then "-" else ""
    if m = 0 then some (sign ++ lay.zero)
    else some (sign ++ (shortest f m e).render lay)
  | _ => none

example : Format.binary64.text? Layout.json 0x3FF0000000000000 = some "1.0" := by decide +kernel
example : Format.binary64.text? Layout.json 0x3FB999999999999A = some "0.1" := by decide +kernel
example : Format.binary64.text? Layout.json 1 = some "5e-324" := by decide +kernel

end ChatStream.Decimal
