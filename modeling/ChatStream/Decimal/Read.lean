import ChatStream.Decimal.Binary

/-! # Reading decimal literals

The literal syntax of floating-point values given as text: an optional sign, then `inf`,
`infinity` or `nan` in any case, or digits with an optional point and an optional exponent (`e`
or `E`, an optional sign, digits), with at least one digit before or after the point. Nothing
may surround it. The value is rounded once to the nearest value of the format, so
`0.1` reads as the value of the format closest to one tenth.
-/

namespace ChatStream.Decimal

inductive ReadError where
  | empty
  | invalid
  deriving Repr, DecidableEq

def ReadError.message : ReadError → String
  | .empty => "cannot parse float from empty string"
  | .invalid => "invalid float literal"

/-- The value of a run of decimal digits. -/
def digitsValue (ds : List Char) : Nat := ds.foldl (fun n c => 10 * n + (c.toNat - '0'.toNat)) 0

/-- The leading digits of a list and what follows them. -/
def spanDigits (cs : List Char) : List Char × List Char :=
  (cs.takeWhile Char.isDigit, cs.dropWhile Char.isDigit)

/-- An exponent: an optional sign, then digits up to the end. -/
def exponent? (cs : List Char) : Option Int :=
  let (neg, rest) := match cs with
    | '-' :: r => (true, r)
    | '+' :: r => (false, r)
    | r => (false, r)
  if rest.isEmpty || !rest.all Char.isDigit then none
  else
    let v : Int := digitsValue rest
    some (if neg then -v else v)

namespace Format

/-- The quiet not-a-number of a format. -/
def nanBits (f : Format) : Nat :=
  (Nat.pow 2 f.exponentBits - 1) * Nat.pow 2 f.fractionBits + Nat.pow 2 (f.fractionBits - 1)

/-- Decimal exponents whose magnitude, counted from the leading digit, exceeds this bound overflow
or vanish in every format used here; stopping there keeps the powers of ten small. -/
def decimalReach : Int := 400

/-- The value of `m · 10^e`, rounded to the format. -/
def ofDecimal (f : Format) (neg : Bool) (m : Nat) (e : Int) : Nat :=
  let top := e + (toString m).length
  if m = 0 ∨ top < -decimalReach then f.round neg 0 1 0
  else if top > decimalReach then f.infinityBits neg
  else if e ≥ 0 then f.round neg (m * Nat.pow 10 e.toNat) 1 0
  else f.round neg m (Nat.pow 10 (-e).toNat) 0

/-- Read a literal as the bits of the nearest value of the format. -/
def readLiteral (f : Format) (text : String) : Except ReadError Nat :=
  if text.isEmpty then .error .empty
  else
    let (neg, body) := match text.toList with
      | '-' :: r => (true, r)
      | '+' :: r => (false, r)
      | r => (false, r)
    let word := String.ofList (body.map Char.toLower)
    if word == "inf" || word == "infinity" then .ok (f.infinityBits neg)
    else if word == "nan" then .ok (if neg then f.negate f.nanBits else f.nanBits)
    else
      let (whole, afterWhole) := spanDigits body
      let (frac, rest) := match afterWhole with
        | '.' :: r => spanDigits r
        | r => ([], r)
      let exp? : Option Int := match rest with
        | [] => some 0
        | c :: r => if c == 'e' || c == 'E' then exponent? r else none
      match exp? with
      | some x =>
        if whole.isEmpty && frac.isEmpty then .error .invalid
        else .ok (f.ofDecimal neg (digitsValue (whole ++ frac)) (x - frac.length))
      | none => .error .invalid

end Format

end ChatStream.Decimal
