import ChatStream.Toml.Document
import ChatStream.Decimal.Read

/-! # Reading TOML

A reader for TOML 1.0 documents: comments, bare and quoted keys, dotted keys, tables and arrays
of tables, the four kinds of strings, integers (decimal, hex, octal, binary, with underscores
between digits), floats, booleans, dates and times, arrays and inline tables.

Every loop either consumes input or runs on a fuel counter that starts above the input's
length, so reading always ends.
-/

namespace ChatStream.Toml

/-- A reader of a prefix: the value and the rest of the input. -/
abbrev Reader (α : Type) := List Char → Except String (α × List Char)

/-- A character that may stand in a bare key. -/
def isBareKeyChar (c : Char) : Bool := c.isAlphanum || c == '_' || c == '-'

/-- A control character other than tab, which may not appear in strings or comments. -/
def isControl (c : Char) : Bool := (c.toNat < 0x20 && c != '\t') || c.toNat == 0x7F

def skipWs (cs : List Char) : List Char := cs.dropWhile fun c => c == ' ' || c == '\t'

/-- Skip a line ending, `LF` or `CR LF`. -/
def lineEnd? : List Char → Option (List Char)
  | '\n' :: rest => some rest
  | '\r' :: '\n' :: rest => some rest
  | _ => none

/-- Skip a comment, if one starts here, up to its line ending. -/
def skipComment : List Char → Except String (List Char)
  | '#' :: rest =>
    let (body, after) := rest.span (· != '\n')
    let body := if body.getLast? == some '\r' then body.dropLast else body
    if body.any isControl then .error "control character in comment" else .ok after
  | cs => .ok cs

/-- After a key-value pair or a header: spaces, an optional comment, then a line ending or the
end of the input. -/
def endOfLine (cs : List Char) : Except String (List Char) := do
  let cs ← skipComment (skipWs cs)
  match cs with
  | [] => .ok []
  | _ => match lineEnd? cs with
    | some rest => .ok rest
    | none => .error "expected a line ending"

/-- Skip spaces, comments and line endings, as between the elements of an array. -/
def skipBlank : List Char → Except String (List Char)
  | [] => .ok []
  | c :: rest =>
    if c == ' ' || c == '\t' || c == '\n' then skipBlank rest
    else if c == '\r' then
      match rest with
      | '\n' :: more => skipBlank more
      | _ => .error "lone carriage return"
    else if c == '#' then
      let body := rest.takeWhile (· != '\n')
      let body := if body.getLast? == some '\r' then body.dropLast else body
      if body.any isControl then .error "control character in comment"
      else skipBlank (rest.dropWhile (· != '\n'))
    else .ok (c :: rest)
termination_by cs => cs.length
decreasing_by
  all_goals simp_wf
  all_goals first
    | omega
    | (have h : (rest.dropWhile (· != '\n')).length ≤ rest.length :=
          (List.dropWhile_suffix _).length_le
       omega)

/-! ## Strings -/

def hexDigit (c : Char) : Option Nat :=
  if '0' ≤ c ∧ c ≤ '9' then some (c.toNat - 48)
  else if 'a' ≤ c ∧ c ≤ 'f' then some (c.toNat - 87)
  else if 'A' ≤ c ∧ c ≤ 'F' then some (c.toNat - 55)
  else none

/-- The character of a `\u` or `\U` escape. -/
def unicodeEscape (ds : List Char) : Option Char := do
  let n ← ds.foldlM (fun acc c => (hexDigit c).map (acc * 16 + ·)) 0
  if n < 0xD800 ∨ (0xDFFF < n ∧ n < 0x110000) then some (Char.ofNat n) else none

/-- Read an escape sequence (after the backslash). -/
def escape : Reader Char
  | 'b' :: rest => .ok ('\x08', rest)
  | 't' :: rest => .ok ('\t', rest)
  | 'n' :: rest => .ok ('\n', rest)
  | 'f' :: rest => .ok ('\x0C', rest)
  | 'r' :: rest => .ok ('\r', rest)
  | '"' :: rest => .ok ('"', rest)
  | '\\' :: rest => .ok ('\\', rest)
  | 'u' :: rest =>
    match unicodeEscape (rest.take 4) with
    | some c => if rest.length ≥ 4 then .ok (c, rest.drop 4) else .error "bad escape"
    | none => .error "bad escape"
  | 'U' :: rest =>
    match unicodeEscape (rest.take 8) with
    | some c => if rest.length ≥ 8 then .ok (c, rest.drop 8) else .error "bad escape"
    | none => .error "bad escape"
  | _ => .error "bad escape"

theorem escape_shorter (cs : List Char) (c : Char) (rest : List Char) :
    escape cs = .ok (c, rest) → rest.length < cs.length := by
  intro h
  unfold escape at h
  split at h <;> (try simp at h) <;> (try (obtain ⟨-, rfl⟩ := h; simp))
  all_goals
    split at h
    · split at h
      · obtain ⟨-, rfl⟩ := h
        simp only [List.length_drop, List.length_cons]
        omega
      · simp at h
    · simp at h

/-- Read a basic string after its opening quote. -/
def basicString (acc : List Char) (cs : List Char) : Except String (String × List Char) :=
  match cs with
  | [] => .error "unterminated string"
  | '"' :: rest => .ok (String.ofList acc.reverse, rest)
  | '\\' :: rest =>
    match h : escape rest with
    | .ok (c, more) =>
      have := escape_shorter rest c more h
      basicString (c :: acc) more
    | .error e => .error e
  | c :: rest =>
    if c == '\n' || isControl c then .error "control character in string"
    else basicString (c :: acc) rest
termination_by cs.length

/-- Read a literal string after its opening apostrophe. -/
def literalString (cs : List Char) : Except String (String × List Char) :=
  let (body, rest) := cs.span (· != '\'')
  match rest with
  | '\'' :: after =>
    if body.any fun c => c == '\n' || isControl c then .error "control character in string"
    else .ok (String.ofList body, after)
  | _ => .error "unterminated string"

/-- Count the quote characters `q` at the front. -/
def countQuotes (q : Char) : List Char → Nat
  | c :: rest => if c == q then countQuotes q rest + 1 else 0
  | [] => 0

/-- Skip white space and line endings (`LF` or `CR LF`) after a line-ending backslash; a lone
`CR` stops the skipping. -/
def skipFolded : List Char → List Char
  | ' ' :: rest => skipFolded rest
  | '\t' :: rest => skipFolded rest
  | '\n' :: rest => skipFolded rest
  | '\r' :: '\n' :: rest => skipFolded rest
  | cs => cs

theorem skipFolded_length_le (cs : List Char) : (skipFolded cs).length ≤ cs.length := by
  fun_induction skipFolded cs <;> simp_all <;> omega

/-- Read a multi-line string after its opening delimiter (three `q`s); `escapes` says whether
backslash escapes apply. Line endings read as `LF`. -/
def multiString (q : Char) (escapes : Bool) (acc : List Char) (cs : List Char) :
    Except String (String × List Char) :=
  match cs with
  | [] => .error "unterminated string"
  | c :: rest =>
    if c == q then
      let n := countQuotes q cs
      if n ≥ 3 then
        if n > 5 then .error "too many quotes"
        else .ok (String.ofList (acc.reverse ++ List.replicate (n - 3) q), cs.drop n)
      else multiString q escapes (c :: acc) rest
    else if c == '\r' then
      match rest with
      | '\n' :: more => multiString q escapes ('\n' :: acc) more
      | _ => .error "lone carriage return"
    else if c == '\\' && escapes then
      let ws := skipWs rest
      match lineEnd? ws with
      | some _ => multiString q escapes acc (skipFolded ws)
      | none =>
        match h : escape rest with
        | .ok (e, more) =>
          have := escape_shorter rest e more h
          multiString q escapes (e :: acc) more
        | .error err => .error err
    else if c != '\n' && isControl c then .error "control character in string"
    else multiString q escapes (c :: acc) rest
termination_by cs.length
decreasing_by
  all_goals simp_wf
  all_goals first
    | omega
    | (have h1 : (skipFolded (skipWs rest)).length ≤ (skipWs rest).length :=
          skipFolded_length_le _
       have h2 : (skipWs rest).length ≤ rest.length := by
          unfold skipWs; exact (List.dropWhile_suffix _).length_le
       omega)

/-- Read a string of any of the four kinds. -/
def string : Reader String
  | '"' :: '"' :: '"' :: rest =>
    multiString '"' true [] (match lineEnd? rest with | some r => r | none => rest)
  | '"' :: rest => basicString [] rest
  | '\'' :: '\'' :: '\'' :: rest =>
    multiString '\'' false [] (match lineEnd? rest with | some r => r | none => rest)
  | '\'' :: rest => literalString rest
  | _ => .error "expected a string"

/-! ## Keys -/

/-- Read one key: bare, or a one-line quoted string. -/
def simpleKey : Reader String
  | '"' :: rest => basicString [] rest
  | '\'' :: rest => literalString rest
  | cs =>
    let (bare, rest) := cs.span isBareKeyChar
    if bare.isEmpty then .error "expected a key" else .ok (String.ofList bare, rest)

def key (fuel : Nat) (cs : List Char) : Except String (List String × List Char) :=
  match fuel with
  | 0 => .error "key too long"
  | fuel + 1 => do
    let (k, rest) ← simpleKey cs
    match skipWs rest with
    | '.' :: more =>
      let (ks, after) ← key fuel (skipWs more)
      .ok (k :: ks, after)
    | _ => .ok ([k], rest)

/-! ## Numbers, dates and times -/

/-- Digits with single underscores between them, in a radix. -/
def digitsValue (radix : Nat) (cs : List Char) : Option Nat :=
  if cs.isEmpty || cs.head? == some '_' || cs.getLast? == some '_' then none
  else if (cs.zip cs.tail).any fun (a, b) => a == '_' && b == '_' then none
  else
    (cs.filter (· != '_')).foldlM (fun acc c =>
      (hexDigit c).bind fun d => if d < radix then some (acc * radix + d) else none) 0

def integer? (t : List Char) : Option Int :=
  let inRange (i : Int) : Option Int := if -(Nat.pow 2 63) ≤ i ∧ i < Nat.pow 2 63 then some i else none
  match t with
  | '0' :: 'x' :: ds => (digitsValue 16 ds).bind fun n => inRange n
  | '0' :: 'o' :: ds => (digitsValue 8 ds).bind fun n => inRange n
  | '0' :: 'b' :: ds => (digitsValue 2 ds).bind fun n => inRange n
  | _ =>
    let (neg, ds) := match t with
      | '+' :: ds => (false, ds)
      | '-' :: ds => (true, ds)
      | ds => (false, ds)
    if ds.head? == some '0' && ds.length > 1 then none
    else (digitsValue 10 ds).bind fun n => inRange (if neg then -(n : Int) else n)

def isFloat (t : List Char) : Bool :=
  let ds := match t with
    | '+' :: ds => ds
    | '-' :: ds => ds
    | ds => ds
  if ds == "inf".toList || ds == "nan".toList then true
  else
    let (intPart, rest) := ds.span fun c => c.isDigit || c == '_'
    let intOk := (digitsValue 10 intPart).isSome && !(intPart.head? == some '0' && intPart.length > 1)
    let (frac, rest) := match rest with
      | '.' :: more => let (f, r) := more.span fun c => c.isDigit || c == '_'; (some f, r)
      | _ => (none, rest)
    let fracOk := match frac with
      | some f => (digitsValue 10 f).isSome
      | none => true
    let expOk := match rest with
      | e :: more =>
        if e == 'e' || e == 'E' then
          let more := match more with
            | '+' :: m => m
            | '-' :: m => m
            | m => m
          (digitsValue 10 more).isSome
        else false
      | [] => frac.isSome
    intOk && fracOk && expOk

def fixedDigits (n : Nat) (cs : List Char) : Option (Nat × List Char) :=
  let ds := cs.take n
  if ds.length == n && ds.all Char.isDigit then
    some (ds.foldl (fun acc c => acc * 10 + (c.toNat - 48)) 0, cs.drop n)
  else none

def daysIn (year month : Nat) : Nat :=
  if month == 2 then
    if year % 4 == 0 && (year % 100 != 0 || year % 400 == 0) then 29 else 28
  else if month == 4 || month == 6 || month == 9 || month == 11 then 30 else 31

def date? (cs : List Char) : Option (List Char) := do
  let (y, cs) ← fixedDigits 4 cs
  let cs ← match cs with | '-' :: r => some r | _ => none
  let (m, cs) ← fixedDigits 2 cs
  let cs ← match cs with | '-' :: r => some r | _ => none
  let (d, cs) ← fixedDigits 2 cs
  if 1 ≤ m ∧ m ≤ 12 ∧ 1 ≤ d ∧ d ≤ daysIn y m then some cs else none

/-- Read a time `HH:MM:SS` with optional fraction. -/
def time? (cs : List Char) : Option (List Char) := do
  let (h, cs) ← fixedDigits 2 cs
  let cs ← match cs with | ':' :: r => some r | _ => none
  let (m, cs) ← fixedDigits 2 cs
  let cs ← match cs with | ':' :: r => some r | _ => none
  let (s, cs) ← fixedDigits 2 cs
  let cs ← match cs with
    | '.' :: r =>
      let (f, r) := r.span Char.isDigit
      if f.isEmpty then none else some r
    | r => some r
  if h ≤ 23 ∧ m ≤ 59 ∧ s ≤ 60 then some cs else none

/-- Read an offset `Z` or `±HH:MM`, if present. -/
def offset? : List Char → Option (List Char)
  | 'Z' :: r => some r
  | 'z' :: r => some r
  | c :: r =>
    if c == '+' || c == '-' then do
      let (h, r) ← fixedDigits 2 r
      let r ← match r with | ':' :: r => some r | _ => none
      let (m, r) ← fixedDigits 2 r
      if h ≤ 23 ∧ m ≤ 59 then some r else none
    else none
  | [] => none

/-- Read a date, time or date-time: the text and the rest. -/
def dateTime? (cs : List Char) : Option (List Char × List Char) :=
  match date? cs with
  | some afterDate =>
    let withTime := match afterDate with
      | c :: r => if c == 'T' || c == 't' || c == ' ' then time? r else none
      | [] => none
    match withTime with
    | some afterTime =>
      let rest := (offset? afterTime).getD afterTime
      some (cs.take (cs.length - rest.length), rest)
    | none => some (cs.take (cs.length - afterDate.length), afterDate)
  | none =>
    match time? cs with
    | some rest => some (cs.take (cs.length - rest.length), rest)
    | none => none

/-- Whether a float token written with digits is too large for binary64. Only positive
overflow counts: a negative one reads as negative infinity. -/
def overflows (t : List Char) : Bool :=
  let f := Decimal.Format.binary64
  match f.readLiteral (String.ofList (t.filter (· != '_'))) with
  | .ok bits => bits == f.infinityBits false && !t.contains 'i'
  | .error _ => false

/-- A character that may continue a number or keyword token. -/
def isTokenChar (c : Char) : Bool := c.isAlphanum || c == '_' || c == '+' || c == '-' || c == '.'

/-- Read a number, boolean, date or time. -/
def scalar : Reader Value := fun cs =>
  match dateTime? cs with
  | some (text, rest) =>
    if rest.head?.map isTokenChar == some true then .error "bad date or time"
    else .ok (.datetime (String.ofList text), rest)
  | none =>
    let (t, rest) := cs.span isTokenChar
    if t == "true".toList then .ok (.boolean true, rest)
    else if t == "false".toList then .ok (.boolean false, rest)
    else match integer? t with
      | some i => .ok (.integer i, rest)
      | none =>
        if isFloat t then
          if overflows t then .error "float out of range" else .ok (.float (String.ofList t), rest)
        else .error "expected a value"

/-! ## Values -/

/-- The value of an inline table's entries. -/
def inlineTable (entries : List (List String × Value)) : Except String Value := do
  let t ← entries.foldlM (fun t (path, v) =>
    match path.reverse with
    | last :: parentsRev =>
      updateTable true (setKey (!parentsRev.isEmpty) last v) parentsRev.reverse t
    | [] => .error "empty key") ((false, false, []) : TableState)
  .ok (.table (entriesToValue t.2.2))

mutual

def value (fuel : Nat) (cs : List Char) : Except String (Value × List Char) :=
  match fuel with
  | 0 => .error "nesting too deep"
  | fuel + 1 =>
    match cs with
    | '"' :: _ | '\'' :: _ => do
      let (s, rest) ← string cs
      .ok (.string s, rest)
    | '[' :: rest => do
      let (items, after) ← arrayItems fuel [] rest
      .ok (.array items, after)
    | '{' :: rest => do
      let (entries, after) ← inlineEntries fuel [] (skipWs rest)
      .ok (← inlineTable entries, after)
    | _ => scalar cs

/-- Read the elements of an array after its opening bracket. -/
def arrayItems (fuel : Nat) (acc : List Value) (cs : List Char) :
    Except String (List Value × List Char) :=
  match fuel with
  | 0 => .error "array too long"
  | fuel + 1 => do
    let cs ← skipBlank cs
    match cs with
    | ']' :: rest => .ok (acc.reverse, rest)
    | _ =>
      let (v, rest) ← value fuel cs
      let rest ← skipBlank rest
      match rest with
      | ',' :: more => arrayItems fuel (v :: acc) more
      | ']' :: more => .ok ((v :: acc).reverse, more)
      | _ => .error "expected `,` or `]`"

/-- Read the entries of an inline table after its opening brace and spaces. -/
def inlineEntries (fuel : Nat) (acc : List (List String × Value)) (cs : List Char) :
    Except String (List (List String × Value) × List Char) :=
  match fuel with
  | 0 => .error "inline table too long"
  | fuel + 1 =>
    match cs with
    | '}' :: rest => if acc.isEmpty then .ok ([], rest) else .error "trailing comma"
    | _ => do
      let (k, rest) ← key cs.length cs
      let rest := skipWs rest
      let rest ← match rest with
        | '=' :: r => pure (skipWs r)
        | _ => .error "expected `=`"
      let (v, rest) ← value fuel rest
      match skipWs rest with
      | ',' :: more => inlineEntries fuel ((k, v) :: acc) (skipWs more)
      | '}' :: more => .ok (((k, v) :: acc).reverse, more)
      | _ => .error "expected `,` or `\x7d`"

end

/-! ## Documents -/

/-- A document being read: the root table and the path of the current table. -/
structure Reading where
  root : TableState := (false, false, [])
  current : List String := []

def lines (fuel : Nat) (r : Reading) (cs : List Char) : Except String Reading :=
  match fuel with
  | 0 => .error "document too long"
  | fuel + 1 =>
    let cs := skipWs cs
    match cs with
    | [] => .ok r
    | '#' :: _ => do lines fuel r (← endOfLine cs)
    | '[' :: '[' :: rest => do
      let (path, after) ← key rest.length (skipWs rest)
      let after ← match skipWs after with
        | ']' :: ']' :: a => pure a
        | _ => .error "expected `]]`"
      match path.reverse with
      | last :: parentsRev =>
        let root ← updateTable false (appendTable last) parentsRev.reverse r.root
        lines fuel { root, current := path } (← endOfLine after)
      | [] => .error "empty header"
    | '[' :: rest => do
      let (path, after) ← key rest.length (skipWs rest)
      let after ← match skipWs after with
        | ']' :: a => pure a
        | _ => .error "expected `]`"
      match path.reverse with
      | last :: parentsRev =>
        let root ← updateTable false (defineTable last) parentsRev.reverse r.root
        lines fuel { root, current := path } (← endOfLine after)
      | [] => .error "empty header"
    | _ =>
      match lineEnd? cs with
      | some rest => lines fuel r rest
      | none => do
        let (path, after) ← key cs.length cs
        let after ← match skipWs after with
          | '=' :: a => pure (skipWs a)
          | _ => .error "expected `=`"
        let (v, after) ← value (2 * after.length + 2) after
        match path.reverse with
        | last :: parentsRev =>
          let set := updateTable true (setKey (!parentsRev.isEmpty) last v) parentsRev.reverse
          let root ← updateTable false set r.current r.root
          lines fuel { r with root } (← endOfLine after)
        | [] => .error "empty key"

/-- Read a TOML document into its root table. -/
def parse (text : String) : Except String Value := do
  let cs := match text.toList with
    | '﻿' :: rest => rest
    | cs => cs
  let r ← lines (cs.length + 1) {} cs
  .ok (.table (entriesToValue r.root.2.2))

end ChatStream.Toml
