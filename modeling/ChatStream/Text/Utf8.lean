/-! # Lossy UTF-8 decoding

Bytes become text by reading them as UTF-8 (RFC 3629). Where the bytes go wrong, the longest
start of a well-formed sequence that cannot be completed is replaced by one U+FFFD, and reading
goes on at the next byte. A byte that starts no sequence at all is replaced on its own.

`decode` is the rule on a list of bytes; `decodeBytes` is the same rule on a byte array, taking
the direct route when the array is already valid.
-/

namespace ChatStream.Text.Utf8

/-- The character that stands in for bytes that are not UTF-8. -/
def replacement : Char := '�'

/-- A continuation byte, `0x80 ..= 0xBF`. -/
def isTail (b : UInt8) : Bool := 0x80 ≤ b && b ≤ 0xBF

/-- How a sequence that starts with `lead` goes on: the number of bytes after the lead, and the
range the second byte must fall in. `none` for a byte that starts no sequence. -/
def leadShape (lead : UInt8) : Option (Nat × UInt8 × UInt8) :=
  if lead < 0x80 then some (0, 0, 0)
  else if lead < 0xC2 then none
  else if lead ≤ 0xDF then some (1, 0x80, 0xBF)
  else if lead == 0xE0 then some (2, 0xA0, 0xBF)
  else if lead == 0xED then some (2, 0x80, 0x9F)
  else if lead ≤ 0xEF then some (2, 0x80, 0xBF)
  else if lead == 0xF0 then some (3, 0x90, 0xBF)
  else if lead ≤ 0xF3 then some (3, 0x80, 0xBF)
  else if lead == 0xF4 then some (3, 0x80, 0x8F)
  else none

/-- How many of the `need` bytes after a lead are present and fit: the first must lie in
`lo ..= hi`, the others must be continuation bytes. -/
def fitting (need : Nat) (lo hi : UInt8) : List UInt8 → Nat
  | [] => 0
  | b :: rest =>
    if need = 0 then 0
    else if lo ≤ b && b ≤ hi then 1 + fitting (need - 1) 0x80 0xBF rest
    else 0

/-- The scalar value of a complete sequence: the lead's payload bits, then six bits per
continuation byte. -/
def scalarOf (lead : UInt8) (tail : List UInt8) : Nat :=
  let first := match tail.length with
    | 1 => (lead &&& 0x1F).toNat
    | 2 => (lead &&& 0x0F).toNat
    | _ => (lead &&& 0x07).toNat
  tail.foldl (fun acc b => acc * 64 + (b &&& 0x3F).toNat) first

/-- Read one unit after the byte `lead`: the character it decodes to, and how many of the
following bytes it takes. -/
def unit (lead : UInt8) (rest : List UInt8) : Char × Nat :=
  match leadShape lead with
  | none => (replacement, 0)
  | some (0, _, _) => (Char.ofNat lead.toNat, 0)
  | some (need, lo, hi) =>
    let k := fitting need lo hi rest
    if k = need then (Char.ofNat (scalarOf lead (rest.take need)), need)
    else (replacement, k)

theorem fitting_le (need : Nat) (lo hi : UInt8) (bs : List UInt8) :
    fitting need lo hi bs ≤ bs.length := by
  induction bs generalizing need lo hi with
  | nil => simp [fitting]
  | cons b rest ih =>
    simp only [fitting, List.length_cons]
    split
    · omega
    · split
      · have := ih (need - 1) 0x80 0xBF; omega
      · omega

theorem unit_snd_le (lead : UInt8) (rest : List UInt8) : (unit lead rest).2 ≤ rest.length := by
  unfold unit
  split
  · simp
  · simp
  · next need lo hi _ _ =>
    have h := fitting_le need lo hi rest
    dsimp only
    split
    · rename_i hk
      simp only
      omega
    · simp only
      omega

/-- Decode a list of bytes, each ill-formed part giving one U+FFFD. -/
def decode : List UInt8 → List Char
  | [] => []
  | lead :: rest =>
    let u := unit lead rest
    u.1 :: decode (rest.drop u.2)
termination_by bs => bs.length
decreasing_by
  simp only [List.length_drop, List.length_cons]
  omega

/-- Decode a byte array as `decode` does; valid input is taken as it stands. -/
def decodeBytes (bs : ByteArray) : String :=
  match String.fromUTF8? bs with
  | some s => s
  | none => String.ofList (decode bs.toList)

/-- Decode the bytes `start ..< stop` of an array. -/
def decodeRange (bs : ByteArray) (start stop : Nat) : String :=
  decodeBytes (bs.extract start stop)

example : decode [0x61, 0xFF, 0x62] = ['a', replacement, 'b'] := by decide +kernel
example : decode [0xE4, 0xB8, 0x96] = ['世'] := by decide +kernel
example : decode [0xE4, 0xB8] = [replacement] := by decide +kernel
example : decode [0xF0, 0x9F, 0x98, 0x41] = [replacement, 'A'] := by decide +kernel

end ChatStream.Text.Utf8
