import ChatStream.Unicode.Mapping
import ChatStream.Unicode.Normal
import ChatStream.Unicode.Property
import ChatStream.Url.Punycode

/-! # Internationalized domain names

The ASCII form of a domain name, by the nontransitional processing of Unicode IDNA:

1. every code point is mapped (kept, dropped, replaced, or refused when disallowed), and the
   result is put in Normalization Form C;
2. no ASCII character that would break a URL may remain: controls, the space, DEL and
   `#%/:<>?@[\]^|`;
3. the name is cut into labels at full stops; a label beginning `xn--` must be ASCII Punycode
   that decodes to a text that is not empty, not only ASCII, already mapped and normalized;
4. no label may begin with a mark, the joiners must stand where the joining rules allow them,
   and in a name holding right-to-left characters every label must keep the bidirectional rule;
5. a label with non-ASCII characters is written `xn--` and its Punycode.

Hyphens anywhere and labels of any length are accepted. Any failure means the name has no ASCII
form.
-/

namespace ChatStream.Url.Idna

open Unicode

/-- Map each code point of a name; none when one of them is disallowed. -/
def mapPoints : List Nat → Option (List Nat)
  | [] => some []
  | cp :: rest => do
    let tail ← mapPoints rest
    match status cp with
    | .valid | .deviation => some (cp :: tail)
    | .ignored => some tail
    | .disallowed => none
    | .mapped r => some (r ++ tail)

/-- ASCII code points a domain may not hold: controls, the space, DEL and `#%/:<>?@[\]^|`. -/
def denied (cp : Nat) : Bool :=
  cp ≤ 0x20 || cp = 0x7F || "%#/:<>?@[\\]^|".toList.contains (Char.ofNat cp)

/-- Whether a code point may stand in a label as it is. -/
def validPoint (cp : Nat) : Bool :=
  match status cp with
  | .valid | .deviation => true
  | _ => false

/-- The prefix of a label written in Punycode. -/
def aceMark : List Nat := "xn--".toList.map Char.toNat

/-- A label ready for checking: its code points, and its text when it was written in
Punycode. -/
structure Label where
  points : List Nat
  written : Option (List Nat)

/-- Read a label: a Punycode label is decoded and must decode to a text that is not empty, not
only ASCII, normalized, made of valid code points, and not itself beginning `xn--`. -/
def readLabel (label : List Nat) : Option Label :=
  if aceMark.isPrefixOf label then
    if label.any (· ≥ 0x80) then none
    else do
      let decoded ← Punycode.decode ((label.drop 4).map Char.ofNat)
      let pts := decoded.map Char.toNat
      if pts.isEmpty || pts.all (· < 0x80) || nfc pts != pts || !pts.all validPoint ||
          aceMark.isPrefixOf pts then none
      else some ⟨pts, some label⟩
  else some ⟨label, none⟩

/-- The virama class of canonical combining. -/
def viramaClass : Nat := 9

/-- Whether the code point before a position (given last first) is a virama. -/
def afterVirama : List Nat → Bool
  | p :: _ => combiningClass p == viramaClass
  | [] => false

/-- Whether, skipping transparent letters, the first letter has one of the joining types. -/
def joinsWith (types : List JoiningType) : List Nat → Bool
  | [] => false
  | cp :: rest =>
    let t := joiningType cp
    if t = .T then joinsWith types rest else types.contains t

/-- Whether each joiner of a label stands where it may, `before` holding the code points before
the rest, last first: a zero width joiner only after a virama; a zero width non-joiner after a
virama, or between a left- or dual-joining letter and a right- or dual-joining one with only
transparent letters between. -/
def joinersFrom (before : List Nat) : List Nat → Bool
  | [] => true
  | cp :: rest =>
    let ok :=
      if cp = 0x200C then
        afterVirama before || (joinsWith [.L, .D] before && joinsWith [.R, .D] rest)
      else if cp = 0x200D then afterVirama before
      else true
    ok && joinersFrom (cp :: before) rest

/-- The classes a right-to-left character has. -/
def rtlClasses : List BidiClass := [.R, .AL, .AN]

/-- The class of the last code point that is not a nonspacing mark. -/
def lastClass (cls : List BidiClass) : Option BidiClass := (cls.reverse.dropWhile (· = .NSM)).head?

/-- The bidirectional rule for one label of a name with right-to-left characters: a
left-to-right label starts with `L`, holds only `L EN ES CS ET ON BN NSM` and ends, marks aside,
with `L` or `EN`; a right-to-left label starts with `R` or `AL`, holds only
`R AL AN EN ES CS ET ON BN NSM`, ends, marks aside, with `R AL EN AN`, and does not mix `EN`
with `AN`. An empty label keeps the rule. -/
def bidiRule (label : List Nat) : Bool :=
  match label.map bidiClass with
  | [] => true
  | first :: rest =>
    let last := lastClass (first :: rest)
    if first = .L then
      rest.all (fun c => [BidiClass.L, .EN, .ES, .CS, .ET, .ON, .BN, .NSM].contains c) &&
        (last == some .L || last == some .EN)
    else if first = .R || first = .AL then
      rest.all (fun c => [BidiClass.R, .AL, .AN, .EN, .ES, .CS, .ET, .ON, .BN, .NSM].contains c) &&
        [some BidiClass.R, some .AL, some .EN, some .AN].contains last &&
        !(rest.contains .EN && rest.contains .AN)
    else false

/-- The checks every label must pass by itself: no leading mark, and joiners where they may. -/
def labelOk (label : List Nat) : Bool :=
  (match label with
   | first :: _ => !isMark first
   | [] => true) && joinersFrom [] label

/-- The ASCII text of a checked label. -/
def writeLabel (l : Label) : List Char :=
  match l.written with
  | some text => text.map Char.ofNat
  | none =>
    let cs := l.points.map Char.ofNat
    if l.points.all (· < 0x80) then cs else "xn--".toList ++ Punycode.encode cs

/-- Whether a name is already in its ASCII form as it stands: lower-case letters, digits,
hyphens and full stops, with no label beginning `xn--`. Such a name maps to itself, holds no
mark, joiner or right-to-left character, and every label of it is written as it is. -/
def plainName (name : List Char) : Bool :=
  name.all (fun c => ('a' ≤ c && c ≤ 'z') || ('0' ≤ c && c ≤ '9') || c == '-' || c == '.') &&
    !(name.splitOn '.').any ("xn--".toList.isPrefixOf ·)

/-- The ASCII form of a domain name, if it has one. -/
def toAscii (name : List Char) : Option String := do
  if plainName name then return String.ofList name
  let mapped ← mapPoints (name.map Char.toNat)
  let text := nfc mapped
  if text.any denied then none
  let labels ← (text.splitOn 0x2E).mapM readLabel
  if !labels.all (labelOk ·.points) then none
  let bidi := labels.any fun l => l.points.any fun cp => rtlClasses.contains (bidiClass cp)
  if bidi && !labels.all (bidiRule ·.points) then none
  some (String.ofList (".".toList.intercalate (labels.map writeLabel)))

end ChatStream.Url.Idna
