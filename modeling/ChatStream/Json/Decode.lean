import ChatStream.Json.Value
import ChatStream.Text.Quote

/-! # Typed reading of JSON values

Records, enumerations, strings and integers are read out of a `Json` value under one set of
rules, so that a value that does not fit says why in the same words everywhere:

* a record reads its members in key order, and the first member that fails to read is the one
  reported; after that, the first required member that is absent, in the record's own order;
  members it does not know are skipped;
* a member marked optional reads `null` as absent;
* an enumeration of plain names reads a string, or an object with a single key;
* integers of a fixed width refuse values outside their range.

`DecodeError.message` gives the wording, e.g. ``missing field `content` `` or
``invalid type: string "no", expected a sequence``.
-/

namespace ChatStream

/-- What a value that did not fit turned out to be. -/
inductive Unexpected where
  | null
  | bool (b : Bool)
  | unsigned (n : Nat)
  | signed (n : Int)
  | float (bits : Nat)
  | str (s : String)
  | seq
  | map
  deriving Repr, DecidableEq

/-- The hex digits of a number, lower case, without leading zeros. -/
def hexDigits (n : Nat) : String := String.ofList (Nat.toDigits 16 n)

/-- How an unexpected value is named in an error. -/
def Unexpected.describe : Unexpected → String
  | .null => "null"
  | .bool b => s!"boolean `{b}`"
  | .unsigned n => s!"integer `{n}`"
  | .signed n => s!"integer `{n}`"
  | .float bits =>
    "floating point `" ++ (Decimal.Format.binary64.text? Decimal.Layout.short bits).getD "NaN" ++ "`"
  | .str s => "string " ++ Text.quote s
  | .seq => "sequence"
  | .map => "map"

/-- What kind of value a `Json` is, for error messages. -/
def Json.unexpected : Json → Unexpected
  | .null => .null
  | .bool b => .bool b
  | .num (.uint n) => .unsigned n
  | .num (.negInt n) => .signed (-(n : Int))
  | .num (.float bits) => .float bits
  | .str s => .str s
  | .arr _ => .seq
  | .obj _ => .map

/-- Why a value could not be read as the expected type. -/
inductive DecodeError where
  /-- A required member is absent. -/
  | missingField (name : String)
  /-- The value has the wrong kind. -/
  | invalidType (found : Unexpected) (expected : String)
  /-- The value has the right kind but is out of range. -/
  | invalidValue (found : Unexpected) (expected : String)
  /-- A name that is not one of the enumeration's. -/
  | unknownVariant (name : String) (expected : List String)
  /-- An array of the wrong length. -/
  | invalidLength (length : Nat) (expected : String)
  /-- A member written twice. -/
  | duplicateField (name : String)
  deriving Repr, DecidableEq

/-- Name a list of alternatives: "`a`", "`a` or `b`", "one of `a`, `b`, `c`". -/
def oneOf : List String → String
  | [] => "nothing"
  | [a] => s!"`{a}`"
  | [a, b] => s!"`{a}` or `{b}`"
  | names => "one of " ++ ", ".intercalate (names.map fun n => s!"`{n}`")

def DecodeError.message : DecodeError → String
  | .missingField name => s!"missing field `{name}`"
  | .invalidType found expected => s!"invalid type: {found.describe}, expected {expected}"
  | .invalidValue found expected => s!"invalid value: {found.describe}, expected {expected}"
  | .unknownVariant name [] => s!"unknown variant `{name}`, there are no variants"
  | .unknownVariant name expected => s!"unknown variant `{name}`, expected {oneOf expected}"
  | .invalidLength n expected => s!"invalid length {n}, expected {expected}"
  | .duplicateField name => s!"duplicate field `{name}`"

/-- A reader of one type out of a JSON value. -/
abbrev Decoder (α : Type) := Json → Except DecodeError α

namespace Decoder

def string : Decoder String
  | .str s => .ok s
  | j => .error (.invalidType j.unexpected "a string")

def bool : Decoder Bool
  | .bool b => .ok b
  | j => .error (.invalidType j.unexpected "a boolean")

/-- A non-negative integer below `2 ^ bits`, named `name` in errors. -/
def unsigned (bits : Nat) (name : String) : Decoder Nat
  | .num (.uint n) =>
    if n < Nat.pow 2 bits then .ok n else .error (.invalidValue (.unsigned n) name)
  | .num (.negInt n) => .error (.invalidValue (.signed (-(n : Int))) name)
  | j => .error (.invalidType j.unexpected name)

def u32 : Decoder UInt32 := fun j => (unsigned 32 "u32" j).map Nat.toUInt32

def u16 : Decoder Nat := unsigned 16 "u16"

def u64 : Decoder Nat := unsigned 64 "u64"

def usize : Decoder Nat := unsigned 64 "usize"

def any : Decoder Json := .ok

/-- `null` as absent, anything else through `d`. -/
def option {α : Type} (d : Decoder α) : Decoder (Option α)
  | .null => .ok none
  | j => (d j).map some

/-- An array, each element through `d`; the first failing element is reported. -/
def list {α : Type} (d : Decoder α) : Decoder (List α)
  | .arr items => items.mapM d
  | j => .error (.invalidType j.unexpected "a sequence")

/-- A name from a fixed list of plain alternatives: a string, or an object whose one key is the
name and whose value is `null`. -/
def variant {α : Type} (alternatives : List (String × α)) : Decoder α := fun j =>
  let pick (name : String) : Except DecodeError α :=
    match alternatives.find? (·.1 == name) with
    | some (_, a) => .ok a
    | none => .error (.unknownVariant name (alternatives.map (·.1)))
  match j with
  | .str name => pick name
  | .obj [(name, v)] =>
    match pick name with
    | .error e => .error e
    | .ok a =>
      match v with
      | .null => .ok a
      | other => .error (.invalidType other.unexpected "unit")
  | .obj _ => .error (.invalidValue .map "map with a single key")
  | other => .error (.invalidType other.unexpected "string or map")

end Decoder

/-- One member a record knows: its name, whether it must be present, and how its value is
checked. -/
structure FieldRule where
  name : String
  required : Bool
  check : Json → Option DecodeError

/-- A member that must be present, read by `d`. -/
def FieldRule.need {α : Type} (name : String) (d : Decoder α) : FieldRule :=
  ⟨name, true, fun j => match d j with | .ok _ => none | .error e => some e⟩

/-- A member that may be absent, read by `d` when present. -/
def FieldRule.may {α : Type} (name : String) (d : Decoder α) : FieldRule :=
  ⟨name, false, fun j => match d j with | .ok _ => none | .error e => some e⟩

/-- The first fault of a record's members, in the reading order: present members by key, then
absent required members in the record's order. -/
def firstFault (rules : List FieldRule) (fields : List (String × Json)) : Option DecodeError :=
  let present := (sortFields fields).findSome? fun (k, v) =>
    (rules.find? (·.name == k)).bind (·.check v)
  match present with
  | some e => some e
  | none =>
    rules.findSome? fun r =>
      if r.required ∧ !fields.any (·.1 == r.name) then some (.missingField r.name) else none

/-- "`n` element" or "`n` elements". -/
def elementCount (n : Nat) : String := toString n ++ (if n = 1 then " element" else " elements")

/-- The members of a record written as an array of them in the record's order (`what` names the
record in errors): the elements are read in turn and the first failing one is reported; members
left off the end must be optional; then elements beyond the members are refused with `extra`
(given the number of elements). -/
def Decoder.recordItems (what : String) (rules : List FieldRule) (extra : Nat → DecodeError)
    (items : List Json) : Except DecodeError (List (String × Json)) :=
  let members := rules.zip items
  match members.findSome? (fun (r, v) => r.check v) with
  | some e => .error e
  | none =>
    match (rules.drop items.length).find? (·.required) with
    | some _ => .error (.invalidLength items.length (what ++ " with " ++ elementCount rules.length))
    | none =>
      if items.length > rules.length then .error (extra items.length)
      else .ok (members.map fun (r, v) => (r.name, v))

/-- Elements beyond a record's members, in a parsed array: "fewer elements in array". -/
def fewerElements (n : Nat) : DecodeError := .invalidLength n "fewer elements in array"

/-- The members of a record named `what` (e.g. "struct Usage"), once they are free of faults;
an array is read as the members in the record's order. -/
def Decoder.record (what : String) (rules : List FieldRule) :
    Decoder (List (String × Json)) := fun j =>
  match j with
  | .obj fields =>
    match firstFault rules fields with
    | some e => .error e
    | none => .ok (sortFields fields)
  | .arr items => Decoder.recordItems what rules fewerElements items
  | other => .error (.invalidType other.unexpected what)

/-- The members of a record read straight from its text: in the order they are written, each
known member at most once, then the first required member that is absent. A record may also be
written as an array of its members in the record's order; members left off the end are absent. -/
def Decoder.recordInOrder (what : String) (rules : List FieldRule) :
    Decoder (List (String × Json)) := fun j =>
  match j with
  | .obj fields =>
    let rec scan (seen : List String) : List (String × Json) → Option DecodeError
      | [] => none
      | (k, v) :: rest =>
        match rules.find? (·.name == k) with
        | none => scan seen rest
        | some r =>
          if seen.contains k then some (.duplicateField k)
          else match r.check v with
            | some e => some e
            | none => scan (k :: seen) rest
    let absent := rules.findSome? fun r =>
      if r.required ∧ !fields.any (·.1 == r.name) then some (.missingField r.name) else none
    match scan [] fields, absent with
    | some e, _ => .error e
    | none, some e => .error e
    | none, none => .ok fields
  | .arr items =>
    if items.length > rules.length then .error (fewerElements items.length)
    else Decoder.recordItems what rules fewerElements items
  | other => .error (.invalidType other.unexpected what)

/-- Read a member known to be fault-free; an absent one gives `fallback`. -/
def Decoder.member {α : Type} (fields : List (String × Json)) (name : String) (d : Decoder α)
    (fallback : α) : α :=
  match fields.find? (·.1 == name) with
  | some (_, v) => match d v with | .ok a => a | .error _ => fallback
  | none => fallback

end ChatStream
