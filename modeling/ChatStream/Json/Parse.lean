import ChatStream.Json.Value

/-! # Reading JSON text

A strict reader of RFC 8259 text over bytes. Whitespace is space, tab, line feed and carriage
return; a string may not hold a raw control character, escapes are the eight short ones and
`\uXXXX`, and a UTF-16 surrogate must come in a pair. A number without fraction or exponent is an
integer while it fits (below `2^64`, or down to `-2^63`); any other number is a binary64 value,
and one too large for binary64 is refused.

Binary64 values are formed as the reader has always formed them: the first 19 or 20 significant
digits are gathered into a 64-bit integer (later digits only move the exponent), that integer is
rounded to binary64, and then multiplied or divided by the binary64 nearest to a power of ten,
in steps of `10^308` while the exponent is larger. Each step rounds once.

`Json.parse` reads one value surrounded by whitespace, and refuses arrays and objects nested
more than 127 deep.
-/

namespace ChatStream

inductive ParseError where
  | eofValue
  | eofString
  | eofList
  | eofObject
  | expectedValue
  | expectedIdent
  | expectedColon
  | expectedListComma
  | expectedObjectComma
  | keyMustBeString
  | trailingComma
  | trailingCharacters
  | invalidNumber
  | numberOutOfRange
  | invalidEscape
  | invalidUnicode
  | controlCharacter
  | loneSurrogate
  | endOfHexEscape
  | recursionLimit
  deriving Repr, DecidableEq

def ParseError.text : ParseError → String
  | .eofValue => "EOF while parsing a value"
  | .eofString => "EOF while parsing a string"
  | .eofList => "EOF while parsing a list"
  | .eofObject => "EOF while parsing an object"
  | .expectedValue => "expected value"
  | .expectedIdent => "expected ident"
  | .expectedColon => "expected `:`"
  | .expectedListComma => "expected `,` or `]`"
  | .expectedObjectComma => "expected `,` or `\x7d`"
  | .keyMustBeString => "key must be a string"
  | .trailingComma => "trailing comma"
  | .trailingCharacters => "trailing characters"
  | .invalidNumber => "invalid number"
  | .numberOutOfRange => "number out of range"
  | .invalidEscape => "invalid escape"
  | .invalidUnicode => "invalid unicode code point"
  | .controlCharacter => "control character (\\u0000-\\u001F) found while parsing a string"
  | .loneSurrogate => "lone leading surrogate in hex escape"
  | .endOfHexEscape => "unexpected end of hex escape"
  | .recursionLimit => "recursion limit exceeded"

/-- An error and the byte offset it was found at. -/
structure ParseFailure where
  error : ParseError
  offset : Nat
  deriving Repr

/-- The error text with its line and column, counted from 1 and from the line start. -/
def ParseFailure.message (f : ParseFailure) (bs : ByteArray) : String :=
  let before := (bs.extract 0 f.offset).toList
  let line := 1 + before.count 10
  let column := (before.reverse.takeWhile (· != 10)).length
  s!"{f.error.text} at line {line} column {column}"

namespace JsonText

abbrev Result (α : Type) := Except ParseFailure α

def fail {α : Type} (e : ParseError) (i : Nat) : Result α := .error ⟨e, i⟩

def at? (bs : ByteArray) (i : Nat) : Option UInt8 := bs[i]?

def isSpace (b : UInt8) : Bool := b == 0x20 || b == 0x09 || b == 0x0A || b == 0x0D

def isDigit (b : UInt8) : Bool := 0x30 ≤ b && b ≤ 0x39

/-- The first offset at or after `i` that is not whitespace. -/
def skipSpace (bs : ByteArray) (i : Nat) : Nat :=
  if h : i < bs.size then
    if isSpace bs[i] then skipSpace bs (i + 1) else i
  else i
termination_by bs.size - i

/-- The first offset at or after `i` that is not a digit. -/
def skipDigits (bs : ByteArray) (i : Nat) : Nat :=
  if h : i < bs.size then
    if isDigit bs[i] then skipDigits bs (i + 1) else i
  else i
termination_by bs.size - i

/-! ## Numbers -/

/-- The largest 64-bit unsigned integer. -/
def u64Max : Nat := Nat.pow 2 64 - 1

/-- The binary64 value nearest to `10^k`. -/
def pow10 (k : Nat) : Nat := Decimal.Format.binary64.round false (Nat.pow 10 k) 1 0

/-- `significand · 10^exponent` formed in binary64 steps: round the integer, then scale by the
nearest binary64 power of ten, by `10^308` at a time while the exponent is larger. -/
def scale (neg : Bool) (significand : Nat) (exponent : Int) (at_ : Nat) : Result Nat :=
  let f := Decimal.Format.binary64
  let rec go (x : Nat) (e : Int) : Nat → Result Nat
    | 0 => .ok x
    | fuel + 1 =>
      if e.natAbs ≤ 308 then
        if e ≥ 0 then
          let y := f.mul x (pow10 e.toNat)
          if f.isFinite y then .ok y else fail .numberOutOfRange at_
        else .ok (f.div x (pow10 e.natAbs))
      else if x = 0 then .ok x
      else if e ≥ 0 then fail .numberOutOfRange at_
      else go (f.div x (pow10 308)) (e + 308) fuel
  match go (f.ofNat significand) exponent 64 with
  | .ok x => .ok (if neg then f.negate x else x)
  | .error err => .error err

/-- Read the digits of an exponent after `e` and its sign; too many digits give zero or refuse
the number. -/
def readExponent (bs : ByteArray) (neg : Bool) (significand : Nat) (start : Int) (i : Nat) :
    Result (Number × Nat) :=
  let (positive, j) := match at? bs i with
    | some 0x2B => (true, i + 1)
    | some 0x2D => (false, i + 1)
    | _ => (true, i)
  match at? bs j with
  | none => fail .eofValue j
  | some b =>
    if !isDigit b then fail .invalidNumber (j + 1)
    else
      let stop := skipDigits bs j
      let digits := (bs.extract j stop).toList.map fun d => (d - 0x30).toNat
      -- the exponent is gathered into a 32-bit integer; beyond that only its sign matters
      let rec gather (acc : Nat) : List Nat → Option Nat
        | [] => some acc
        | d :: ds =>
          if acc ≥ 214748364 ∧ (acc > 214748364 ∨ d > 7) then none
          else gather (acc * 10 + d) ds
      match gather 0 digits with
      | none =>
        if significand ≠ 0 ∧ positive then fail .numberOutOfRange stop
        else .ok (.float (if neg then Decimal.Format.binary64.negate 0 else 0), stop)
      | some e =>
        let e : Int := if positive then start + e else start - e
        let e := max (-2147483648) (min 2147483647 e)
        match scale neg significand e stop with
        | .ok x => .ok (.float x, stop)
        | .error err => .error err

/-- Digits gathered into a significand while it stays below `2^64`: the significand, how many
digits were taken, and the offset of the first digit not taken. -/
def gatherDigits (bs : ByteArray) (acc : Nat) (count : Nat) (i : Nat) : Nat × Nat × Nat :=
  if h : i < bs.size then
    let b := bs[i]
    if isDigit b then
      let d := (b - 0x30).toNat
      if acc ≥ u64Max / 10 ∧ (acc > u64Max / 10 ∨ d > u64Max % 10) then (acc, count, i)
      else gatherDigits bs (acc * 10 + d) (count + 1) (i + 1)
    else (acc, count, i)
  else (acc, count, i)
termination_by bs.size - i

/-- After the integer digits: a fraction, an exponent, or the end of the number. `exponent`
counts integer digits that did not fit the significand. -/
def readTail (bs : ByteArray) (neg : Bool) (significand : Nat) (exponent : Int) (isInteger : Bool)
    (i : Nat) : Result (Number × Nat) :=
  match at? bs i with
  | some 0x2E =>
    let (sig, taken, j) := gatherDigits bs significand 0 (i + 1)
    let stop := skipDigits bs j
    if taken = 0 ∧ stop = i + 1 then
      match at? bs (i + 1) with
      | none => fail .eofValue (i + 1)
      | some _ => fail .invalidNumber (i + 2)
    else
      let e := exponent - taken
      match at? bs stop with
      | some 0x65 | some 0x45 => readExponent bs neg sig e (stop + 1)
      | _ =>
        match scale neg sig e stop with
        | .ok x => .ok (.float x, stop)
        | .error err => .error err
  | some 0x65 | some 0x45 => readExponent bs neg significand exponent (i + 1)
  | _ =>
    if isInteger then
      if !neg then .ok (.uint significand, i)
      else if significand = 0 ∨ significand > Nat.pow 2 63 then
        .ok (.float (Decimal.Format.binary64.negate (Decimal.Format.binary64.ofNat significand)), i)
      else .ok (.negInt significand, i)
    else
      match scale neg significand exponent i with
      | .ok x => .ok (.float x, i)
      | .error err => .error err

/-- Read a number starting at `i` (at a digit or `-`). -/
def readNumber (bs : ByteArray) (i : Nat) : Result (Number × Nat) :=
  let neg := at? bs i == some 0x2D
  let j := if neg then i + 1 else i
  match at? bs j with
  | none => fail .eofValue j
  | some 0x30 =>
    match at? bs (j + 1) with
    | some b => if isDigit b then fail .invalidNumber (j + 2) else readTail bs neg 0 0 true (j + 1)
    | none => readTail bs neg 0 0 true (j + 1)
  | some b =>
    if !isDigit b then fail .invalidNumber (j + 1)
    else
      let (sig, _, k) := gatherDigits bs 0 0 j
      let stop := skipDigits bs k
      -- digits beyond the significand only scale it
      readTail bs neg sig (stop - k : Nat) (stop == k) stop

/-! ## Strings -/

def hexAt (bs : ByteArray) (i : Nat) : Result Nat :=
  let digit (k : Nat) : Option Nat :=
    match at? bs (i + k) with
    | some b =>
      if 0x30 ≤ b ∧ b ≤ 0x39 then some (b - 0x30).toNat
      else if 0x61 ≤ b ∧ b ≤ 0x66 then some (b - 0x61 + 10).toNat
      else if 0x41 ≤ b ∧ b ≤ 0x46 then some (b - 0x41 + 10).toNat
      else none
    | none => none
  match digit 0, digit 1, digit 2, digit 3 with
  | some a, some b, some c, some d => .ok (((a * 16 + b) * 16 + c) * 16 + d)
  | _, _, _, _ =>
    if bs.size < i + 4 then fail .eofString bs.size else fail .invalidEscape (i + 4)

/-- The bytes of a string from `i` (just after the opening quote) to its closing quote, escapes
resolved; returns the offset after the closing quote. -/
def scanString (bs : ByteArray) (i : Nat) (acc : ByteArray) : Result (ByteArray × Nat) :=
  if h : i < bs.size then
    let b := bs[i]
    if b == 0x22 then .ok (acc, i + 1)
    else if b == 0x5C then
      match at? bs (i + 1) with
      | none => fail .eofString (i + 1)
      | some e =>
        let short (c : UInt8) := scanString bs (i + 2) (acc.push c)
        if e == 0x22 then short 0x22
        else if e == 0x5C then short 0x5C
        else if e == 0x2F then short 0x2F
        else if e == 0x62 then short 0x08
        else if e == 0x66 then short 0x0C
        else if e == 0x6E then short 0x0A
        else if e == 0x72 then short 0x0D
        else if e == 0x74 then short 0x09
        else if e == 0x75 then
          match hexAt bs (i + 2) with
          | .error err => .error err
          | .ok n =>
            if 0xDC00 ≤ n ∧ n ≤ 0xDFFF then fail .loneSurrogate (i + 6)
            else if 0xD800 ≤ n ∧ n ≤ 0xDBFF then
              if at? bs (i + 6) != some 0x5C then fail .endOfHexEscape (i + 7)
              else if at? bs (i + 7) != some 0x75 then fail .endOfHexEscape (i + 8)
              else
                match hexAt bs (i + 8) with
                | .error err => .error err
                | .ok m =>
                  if m < 0xDC00 ∨ m > 0xDFFF then fail .loneSurrogate (i + 12)
                  else
                    let c := Char.ofNat (((n - 0xD800) * 1024 + (m - 0xDC00)) + 0x10000)
                    scanString bs (i + 12) (acc ++ (String.singleton c).toUTF8)
            else scanString bs (i + 6) (acc ++ (String.singleton (Char.ofNat n)).toUTF8)
        else fail .invalidEscape (i + 2)
    else if b < 0x20 then fail .controlCharacter (i + 1)
    else scanString bs (i + 1) (acc.push b)
  else fail .eofString i
termination_by bs.size - i

/-- A string from `i` (just after the opening quote), checked to be UTF-8. -/
def readString (bs : ByteArray) (i : Nat) : Result (String × Nat) :=
  match scanString bs i ByteArray.empty with
  | .error err => .error err
  | .ok (raw, j) =>
    match String.fromUTF8? raw with
    | some s => .ok (s, j)
    | none => fail .invalidUnicode j

def keyword (bs : ByteArray) (i : Nat) (rest : List UInt8) (v : Json) : Result (Json × Nat) :=
  let rec go (k : Nat) : List UInt8 → Result (Json × Nat)
    | [] => .ok (v, k)
    | c :: cs =>
      match at? bs k with
      | none => fail .eofValue k
      | some b => if b == c then go (k + 1) cs else fail .expectedIdent (k + 1)
  go i rest

/-! ## Values -/

mutual

/-- A value at `i` (whitespace already skipped), with room for `room` more levels of nesting.
Each call takes at least one byte, so a fuel of twice the text's length is never used up. -/
def readValue (bs : ByteArray) (room : Nat) : Nat → Nat → Result (Json × Nat)
  | 0, i => fail .recursionLimit i
  | fuel + 1, i =>
    match at? bs i with
    | none => fail .eofValue i
    | some b =>
      if b == 0x6E then keyword bs (i + 1) [0x75, 0x6C, 0x6C] .null
      else if b == 0x74 then keyword bs (i + 1) [0x72, 0x75, 0x65] (.bool true)
      else if b == 0x66 then keyword bs (i + 1) [0x61, 0x6C, 0x73, 0x65] (.bool false)
      else if b == 0x2D ∨ isDigit b then
        match readNumber bs i with
        | .ok (n, j) => .ok (.num n, j)
        | .error err => .error err
      else if b == 0x22 then
        match readString bs (i + 1) with
        | .ok (s, j) => .ok (.str s, j)
        | .error err => .error err
      else if b == 0x5B then
        if room = 0 then fail .recursionLimit (i + 1)
        else
          let j := skipSpace bs (i + 1)
          match at? bs j with
          | none => fail .eofList j
          | some 0x5D => .ok (.arr [], j + 1)
          | some _ => readItems bs (room - 1) fuel j []
      else if b == 0x7B then
        if room = 0 then fail .recursionLimit (i + 1)
        else
          let j := skipSpace bs (i + 1)
          match at? bs j with
          | none => fail .eofObject j
          | some 0x7D => .ok (.obj [], j + 1)
          | some _ => readMembers bs (room - 1) fuel j []
      else fail .expectedValue (i + 1)

/-- Elements of an array from `i` (at the next element), then `]`. -/
def readItems (bs : ByteArray) (room : Nat) : Nat → Nat → List Json → Result (Json × Nat)
  | 0, i, _ => fail .recursionLimit i
  | fuel + 1, i, acc =>
    match readValue bs room fuel i with
    | .error err => .error err
    | .ok (v, j) =>
      let k := skipSpace bs j
      match at? bs k with
      | none => fail .eofList k
      | some 0x2C =>
        let m := skipSpace bs (k + 1)
        match at? bs m with
        | none => fail .eofValue m
        | some 0x5D => fail .trailingComma (m + 1)
        | some _ => readItems bs room fuel m (v :: acc)
      | some 0x5D => .ok (.arr (v :: acc).reverse, k + 1)
      | some _ => fail .expectedListComma (k + 1)

/-- Members of an object from `i` (at the next key), then `}`. -/
def readMembers (bs : ByteArray) (room : Nat) :
    Nat → Nat → List (String × Json) → Result (Json × Nat)
  | 0, i, _ => fail .recursionLimit i
  | fuel + 1, i, acc =>
    match at? bs i with
    | none => fail .eofValue i
    | some 0x22 =>
      match readString bs (i + 1) with
      | .error err => .error err
      | .ok (key, j) =>
        let k := skipSpace bs j
        match at? bs k with
        | none => fail .eofObject k
        | some 0x3A =>
          match readValue bs room fuel (skipSpace bs (k + 1)) with
          | .error err => .error err
          | .ok (v, m) =>
            let n := skipSpace bs m
            match at? bs n with
            | none => fail .eofObject n
            | some 0x2C =>
              let p := skipSpace bs (n + 1)
              if at? bs p == some 0x7D then fail .trailingComma (p + 1)
              else readMembers bs room fuel p ((key, v) :: acc)
            | some 0x7D => .ok (.obj ((key, v) :: acc).reverse, n + 1)
            | some _ => fail .expectedObjectComma (n + 1)
        | some _ => fail .expectedColon (k + 1)
    | some _ => fail .keyMustBeString (i + 1)

end

end JsonText

namespace Json

/-- How deep a document read by `Json.parse` may nest: 127 levels of arrays and objects. -/
def nestingLimit : Nat := 127

/-- Read one JSON value from bytes, with nothing but whitespace around it, nested at most
`room` levels deep. -/
def parseBytesWithin (room : Nat) (bs : ByteArray) : Except ParseFailure Json :=
  let i := JsonText.skipSpace bs 0
  match JsonText.readValue bs room (2 * bs.size + 2) i with
  | .error err => .error err
  | .ok (v, j) =>
    let k := JsonText.skipSpace bs j
    if k < bs.size then .error ⟨.trailingCharacters, k + 1⟩ else .ok v

/-- Read one JSON value from bytes, nested at most `nestingLimit` levels deep. -/
def parseBytes (bs : ByteArray) : Except ParseFailure Json := parseBytesWithin nestingLimit bs

/-- Read one JSON value from text, nested at most `nestingLimit` levels deep. -/
def parse (s : String) : Except ParseFailure Json := parseBytes s.toUTF8

end Json

end ChatStream
