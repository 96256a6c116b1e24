import ChatStream.Json.Decode

/-! # Request headers

A header name is a token: letters, digits and `!#$%&'*+-.^_|~` and the backquote, at least one
and fewer than 65536 of them; upper-case letters are taken as lower case. A header value is any
text without control characters other than tab, and without DEL; bytes above ASCII are allowed.

Setting a header replaces every earlier value of that name.
-/

namespace ChatStream.Http

/-- The lower-case form of a byte that may stand in a header name. -/
def nameChar (c : Char) : Option Char :=
  if ('a' ≤ c ∧ c ≤ 'z') ∨ ('0' ≤ c ∧ c ≤ '9') ∨ "!#$%&'*+-.^_`|~".toList.contains c then some c
  else if 'A' ≤ c ∧ c ≤ 'Z' then some (Char.ofNat (c.toNat + 32))
  else none

/-- The longest header name, plus one. -/
def nameLimit : Nat := 65536

/-- A header name in its canonical (lower-case) form, if it is one. -/
def headerName (name : String) : Option String :=
  if name.isEmpty ∨ name.utf8ByteSize ≥ nameLimit then none
  else (name.toList.mapM nameChar).map String.ofList

/-- Whether a text may be a header value. -/
def validHeaderValue (value : String) : Bool :=
  value.toList.all fun c => c == '\t' || (c.toNat ≥ 0x20 && c.toNat != 0x7F)

inductive HeaderError where
  | badName (name : String)
  | badValue (name : String)
  deriving Repr, DecidableEq

def HeaderError.message : HeaderError → String
  | .badName n => "header name " ++ Text.quote n ++ ": invalid HTTP header name"
  | .badValue n => "header " ++ n ++ ": failed to parse header value"

/-- Headers in the order they were first set, names in lower case. -/
abbrev Headers := List (String × String)

/-- Set a header, replacing earlier values of the name. -/
def Headers.set (hs : Headers) (name value : String) : Except HeaderError Headers :=
  match headerName name with
  | none => .error (.badName name)
  | some n =>
    if !validHeaderValue value then .error (.badValue n)
    else if hs.any (·.1 == n) then .ok (hs.map fun (k, v) => if k == n then (k, value) else (k, v))
    else .ok (hs ++ [(n, value)])

example : headerName "X-Other" = some "x-other" := by decide +kernel

end ChatStream.Http
