import ChatStream.Url.Encode
import ChatStream.Url.Idna

/-! # Hosts of URLs

The host of a URL with a special scheme is a domain, an IPv4 address or a bracketed IPv6
address. A domain is percent-decoded and brought to its ASCII form (`Idna.toAscii`), which must
not be empty; a domain whose last label is a number is read as an IPv4 address, in the forms `1.2.3.4`, `0x7f.1`, `017.0.0.1` or `2130706433`.

The host of another scheme is opaque: it is only checked for forbidden characters and
percent-encoded.
-/

namespace ChatStream.Url

inductive Host where
  /-- A domain in ASCII, lower case. -/
  | domain (name : String)
  /-- An IPv4 address as a 32-bit number. -/
  | ipv4 (address : Nat)
  /-- An IPv6 address as eight 16-bit pieces. -/
  | ipv6 (pieces : List Nat)
  /-- The host of a non-special scheme, percent-encoded. -/
  | plain (text : String)
  /-- The empty host. -/
  | empty
  deriving Repr, DecidableEq

/-! ## IPv4 -/

/-- Read one part of an IPv4 address: `0x` for hex, a leading `0` for octal, else decimal. An
empty part is no number, while a bare `0x` is zero. -/
def ipv4Part (cs : List Char) : Option Nat :=
  if cs.isEmpty then none else
  let (radix, ds) := match cs with
    | '0' :: 'x' :: rest => (16, rest)
    | '0' :: 'X' :: rest => (16, rest)
    | '0' :: d :: rest => (8, d :: rest)
    | _ => (10, cs)
  ds.foldl (fun acc c => acc.bind fun v =>
    (hexValue c).bind fun d => if d < radix then some (v * radix + d) else none) (some 0)

/-- The parts of a dotted text, without one trailing empty part. -/
def dottedParts (cs : List Char) : List (List Char) :=
  let parts := cs.splitOn '.'
  match parts.reverse with
  | [] :: rest@(_ :: _) => rest.reverse
  | _ => parts

/-- Whether a host's last label is a number, which makes it an IPv4 address. -/
def endsInNumber (cs : List Char) : Bool :=
  match (dottedParts cs).getLast? with
  | some last =>
    (!last.isEmpty && last.all Char.isDigit) ||
      (match last with
       | '0' :: x :: rest => (x == 'x' || x == 'X') && rest.all (fun c => (hexValue c).isSome)
       | _ => false)
  | none => false

def parseIpv4 (cs : List Char) : Option Nat := do
  let parts := dottedParts cs
  if parts.length > 4 then none
  let nums ← parts.mapM ipv4Part
  match nums.reverse with
  | [] => none
  | last :: restRev =>
    let rest := restRev.reverse
    if rest.any (· > 255) then none
    if last ≥ Nat.pow 256 (5 - nums.length) then none
    some (rest.zipIdx.foldl (fun acc (n, i) => acc + n * Nat.pow 256 (3 - i)) last)

def showIpv4 (a : Nat) : String :=
  ".".intercalate ([3, 2, 1, 0].map fun k => toString (a / Nat.pow 256 k % 256))

/-! ## IPv6 -/

/-- Read up to four hex digits: the value and the rest. -/
def hexRun (cs : List Char) : Nat × Nat × List Char :=
  go cs 0 0
where
  go : List Char → Nat → Nat → Nat × Nat × List Char
    | c :: rest, v, n =>
      if n < 4 then
        match hexValue c with
        | some d => go rest (v * 16 + d) (n + 1)
        | none => (v, n, c :: rest)
      else (v, n, c :: rest)
    | [], v, n => (v, n, [])

/-- Read the dotted IPv4 tail of an IPv6 address: its two pieces. -/
def ipv6Tail (cs : List Char) : Option (List Nat) := do
  let parts := cs.splitOn '.'
  if parts.length != 4 then none
  let nums ← parts.mapM fun p =>
    if p.isEmpty || !p.all Char.isDigit || (p.length > 1 && p.head? == some '0') then none
    else
      let v := p.foldl (fun acc c => acc * 10 + (c.toNat - 48)) 0
      if v > 255 then none else some v
  match nums with
  | [a, b, c, d] => some [a * 256 + b, c * 256 + d]
  | _ => none

/-- Read the pieces of an IPv6 address (without brackets). -/
def parseIpv6 (cs : List Char) : Option (List Nat) :=
  let groups (part : List Char) : Option (List Nat) :=
    if part.isEmpty then some []
    else
      let fields := part.splitOn ':'
      let init := fields.dropLast
      let last := fields.getLastD []
      let pieceOf (f : List Char) : Option Nat :=
        let (v, n, rest) := hexRun f
        if n = 0 ∨ !rest.isEmpty then none else some v
      match init.mapM pieceOf with
      | none => none
      | some front =>
        if last.contains '.' then (ipv6Tail last).map (front ++ ·)
        else (pieceOf last).map (front ++ [·])
  let text := String.ofList cs
  match text.splitOn "::" with
  | [whole] =>
    match groups whole.toList with
    | some ps => if ps.length = 8 then some ps else none
    | none => none
  | [front, back] =>
    -- the IPv4 tail may only end the address
    if front.contains '.' then none
    else
      match groups front.toList, groups back.toList with
      | some f, some b =>
        if f.length + b.length ≤ 7 then some (f ++ List.replicate (8 - f.length - b.length) 0 ++ b)
        else none
      | _, _ => none
  | _ => none

/-- The longest run of at least two zero pieces, the first of equal ones: start and length. -/
def zeroRun (ps : List Nat) : Option (Nat × Nat) :=
  let runs := (List.range ps.length).filterMap fun i =>
    let len := ((ps.drop i).takeWhile (· = 0)).length
    if len ≥ 2 ∧ (i = 0 ∨ ps.getD (i - 1) 1 ≠ 0) then some (i, len) else none
  runs.foldl (fun best r => match best with
    | some b => if r.2 > b.2 then some r else best
    | none => some r) none

/-- Lower-case hex without leading zeros. -/
def hexLower (n : Nat) : String := String.ofList (Nat.toDigits 16 n)

/-- IPv6 text: pieces in hex, the longest zero run as `::`. -/
def showIpv6 (ps : List Nat) : String :=
  match zeroRun ps with
  | some (i, len) =>
    ":".intercalate ((ps.take i).map hexLower) ++ "::" ++ ":".intercalate ((ps.drop (i + len)).map hexLower)
  | none => ":".intercalate (ps.map hexLower)

/-! ## Domains -/

/-- A domain in its ASCII form: not empty. -/
def domainToAscii (cs : List Char) : Option String := do
  let ascii ← Idna.toAscii cs
  if ascii.isEmpty then none
  some ascii

/-! ## Host parsing -/

def forbiddenInHost (c : Char) : Bool :=
  "\x00\t\n\r #/:<>?@[\\]^|".toList.contains c

def parseSpecialHost (cs : List Char) : Option Host :=
  match cs with
  | '[' :: rest =>
    if rest.getLast? != some ']' then none else (parseIpv6 rest.dropLast).map .ipv6
  | _ => do
    let text ← String.fromUTF8? (ByteArray.mk (percentDecode cs).toArray)
    let domain ← domainToAscii text.toList
    if endsInNumber domain.toList then (parseIpv4 domain.toList).map .ipv4
    else some (.domain domain)

/-- Read the host of a URL with another scheme. -/
def parseOpaqueHost (cs : List Char) : Option Host :=
  match cs with
  | '[' :: rest =>
    if rest.getLast? != some ']' then none else (parseIpv6 rest.dropLast).map .ipv6
  | _ =>
    if cs.any forbiddenInHost then none
    else if cs.isEmpty then some .empty
    else some (.plain (percentEncode .controls cs))

def Host.render : Host → String
  | .domain d => d
  | .ipv4 a => showIpv4 a
  | .ipv6 ps => "[" ++ showIpv6 ps ++ "]"
  | .plain t => t
  | .empty => ""

example : (parseIpv4 "0x7f.1".toList).map showIpv4 = some "127.0.0.1" := by decide +kernel

end ChatStream.Url
