import ChatStream.Decimal.Shortest

/-! # JSON values

A JSON document as read: objects keep their members in the order written, duplicates
included, so that a reader of typed records can see both. `Json.sorted` is the map view: keys
in byte order, a repeated key keeping its last value. Numbers are non-negative integers below
`2^64`, negative integers down to `-2^63`, or finite binary64 values, the three kinds a number
is read as.

`Json.render` writes the compact text: members in their stored order, strings with `"`, `\`
and control characters escaped (`\n`, `\r`, `\t`, `\b`, `\f` short, others as `\u00XX`), and
every other character as it stands.
-/

namespace ChatStream

inductive Number where
  /-- A non-negative integer below `2^64`. -/
  | uint (n : Nat)
  /-- The negative integer `-n`, with `0 < n ≤ 2^63`. -/
  | negInt (n : Nat)
  /-- A finite binary64 value, by its encoding. -/
  | float (bits : Nat)
  deriving Repr, DecidableEq, Inhabited

inductive Json where
  | null
  | bool (b : Bool)
  | num (n : Number)
  | str (s : String)
  | arr (items : List Json)
  | obj (fields : List (String × Json))
  deriving Repr, Inhabited

namespace Number

/-- The number for an integer: negative ones below `-2^63` are not integers of the format and
become floats. -/
def ofInt (i : Int) : Number :=
  if i ≥ 0 then .uint i.toNat
  else .negInt i.natAbs

/-- The text of a number: integers in decimal, floats in their shortest form, `null` for a
float that is not finite. -/
def render : Number → String
  | .uint n => toString n
  | .negInt n => "-" ++ toString n
  | .float bits => (Decimal.Format.binary64.text? Decimal.Layout.json bits).getD "null"

end Number

/-- Insert a member into members sorted by key, replacing a member of the same key. -/
def insertField (k : String) (v : Json) : List (String × Json) → List (String × Json)
  | [] => [(k, v)]
  | (k', v') :: rest =>
    if k = k' then (k, v) :: rest
    else if k < k' then (k, v) :: (k', v') :: rest
    else (k', v') :: insertField k v rest

/-- Members in key order, the last of a repeated key winning. -/
def sortFields (fs : List (String × Json)) : List (String × Json) :=
  fs.foldl (fun acc (k, v) => insertField k v acc) []

namespace Json

/-- The map view of a document: every object's members in key order, a repeated key keeping its
last value. -/
def sorted : Json → Json
  | .arr items => .arr (items.attach.map fun ⟨x, _⟩ => sorted x)
  | .obj fields => .obj (sortFields (fields.attach.map fun ⟨(k, x), _⟩ => (k, sorted x)))
  | j => j
termination_by j => j
decreasing_by
  all_goals
    have := List.sizeOf_lt_of_mem ‹_›
    simp_all only [Prod.mk.sizeOf_spec, Json.arr.sizeOf_spec, Json.obj.sizeOf_spec]
    omega

/-- Nesting depth: scalars have depth 0, a container one more than its deepest element. -/
def depth : Json → Nat
  | .arr items => 1 + (items.attach.map fun ⟨x, _⟩ => depth x).foldl max 0
  | .obj fields => 1 + (fields.attach.map fun ⟨(_, x), _⟩ => depth x).foldl max 0
  | _ => 0
termination_by j => j
decreasing_by
  all_goals
    have := List.sizeOf_lt_of_mem ‹_›
    simp_all only [Prod.mk.sizeOf_spec, Json.arr.sizeOf_spec, Json.obj.sizeOf_spec]
    omega

/-- A member of an object by key, the last one when repeated. -/
def get? (j : Json) (key : String) : Option Json :=
  match j with
  | .obj fields => (fields.reverse.find? (·.1 == key)).map (·.2)
  | _ => none

def object (fields : List (String × Json)) : Json := .obj fields

def optStr : Option String → Json
  | some s => .str s
  | none => .null

def nat (n : Nat) : Json := .num (.uint n)

end Json

/-- Four lower-case hex digits. -/
def hex4 (n : Nat) : String :=
  let d (k : Nat) := "0123456789abcdef".toList.getD ((n / Nat.pow 16 k) % 16) '0'
  String.ofList [d 3, d 2, d 1, d 0]

/-- The escaped form of one character inside a string. -/
def escapeChar (c : Char) : String :=
  if c = '"' then "\\\""
  else if c = '\\' then "\\\\"
  else if c = '\n' then "\\n"
  else if c = '\r' then "\\r"
  else if c = '\t' then "\\t"
  else if c.toNat = 8 then "\\b"
  else if c.toNat = 12 then "\\f"
  else if c.toNat < 0x20 then "\\u" ++ hex4 c.toNat
  else String.singleton c

def quote (s : String) : String :=
  s.foldl (fun acc c => acc ++ escapeChar c) "\"" ++ "\""

namespace Json

/-- Compact text, members in their stored order. -/
def render : Json → String
  | .null => "null"
  | .bool true => "true"
  | .bool false => "false"
  | .num n => n.render
  | .str s => quote s
  | .arr items =>
    "[" ++ ",".intercalate (items.attach.map fun ⟨x, _⟩ => render x) ++ "]"
  | .obj fields =>
    "\x7b" ++ ",".intercalate (fields.attach.map fun ⟨(k, x), _⟩ => quote k ++ ":" ++ render x) ++ "\x7d"
termination_by j => j
decreasing_by
  all_goals
    have := List.sizeOf_lt_of_mem ‹_›
    simp_all only [Prod.mk.sizeOf_spec, Json.arr.sizeOf_spec, Json.obj.sizeOf_spec]
    omega

end Json

end ChatStream
