/-! # Percent-encoding

A character outside an encode set is written as it stands; one inside it is written as the
`%XX` escapes of its UTF-8 bytes, upper-case hex. Every encode set contains the C0 controls,
DEL and all non-ASCII characters; the larger sets add the ASCII characters that would end or
confuse the part of a URL they are used for.
-/

namespace ChatStream.Url

/-- The ASCII characters an encode set adds to the controls and non-ASCII characters. -/
structure EncodeSet where
  extra : List Char
  deriving Repr

namespace EncodeSet

/-- Only controls and non-ASCII. -/
def controls : EncodeSet := ⟨[]⟩

/-- Fragments: also space, `"`, `<`, `>` and the backquote. -/
def fragment : EncodeSet := ⟨[' ', '"', '<', '>', '`']⟩

/-- Queries: also space, `"`, `#`, `<`, `>`. -/
def query : EncodeSet := ⟨[' ', '"', '#', '<', '>']⟩

/-- Queries of special schemes: also the apostrophe. -/
def specialQuery : EncodeSet := ⟨query.extra ++ ['\'']⟩

/-- Path segments: the query set, the backquote and braces. -/
def path : EncodeSet := ⟨query.extra ++ ['`', '{', '}']⟩

/-- User names and passwords: the path set and the delimiters of the authority. -/
def userinfo : EncodeSet := ⟨path.extra ++ ['/', ':', ';', '=', '@', '[', '\\', ']', '^', '|']⟩

/-- Whether a character is escaped under the set. -/
def contains (s : EncodeSet) (c : Char) : Bool :=
  c.toNat < 0x20 || c.toNat ≥ 0x7F || s.extra.contains c

end EncodeSet

def hexUpper (n : Nat) : Char := "0123456789ABCDEF".toList.getD n '0'

/-- The `%XX` escapes of a character's UTF-8 bytes. -/
def escapeChar (c : Char) : String :=
  String.join ((String.singleton c).toUTF8.toList.map fun b =>
    String.ofList ['%', hexUpper (b.toNat / 16), hexUpper (b.toNat % 16)])

/-- Percent-encode the characters of a text that are in the set. -/
def percentEncode (s : EncodeSet) (cs : List Char) : String :=
  String.join (cs.map fun c => if s.contains c then escapeChar c else String.singleton c)

def hexValue (c : Char) : Option Nat :=
  if '0' ≤ c ∧ c ≤ '9' then some (c.toNat - 48)
  else if 'a' ≤ c ∧ c ≤ 'f' then some (c.toNat - 87)
  else if 'A' ≤ c ∧ c ≤ 'F' then some (c.toNat - 55)
  else none

/-- Percent-decode to bytes: `%XX` with two hex digits is a byte, anything else stands. -/
def percentDecode : List Char → List UInt8
  | '%' :: a :: b :: rest =>
    match hexValue a, hexValue b with
    | some x, some y => (x * 16 + y).toUInt8 :: percentDecode rest
    | _, _ => 0x25 :: percentDecode (a :: b :: rest)
  | c :: rest => (String.singleton c).toUTF8.toList ++ percentDecode rest
  | [] => []

example : percentEncode .path "a b/é".toList = "a%20b/%C3%A9" := by decide +kernel

end ChatStream.Url
