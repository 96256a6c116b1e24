/-! # TOML documents

A TOML document is a table of keys. Tables come into being in four ways, and the way decides
what may be added later:

* a `[header]` defines a table, once;
* a header's parents, and the parents of a `[[header]]`, are made implicitly; a later header may
  still define them;
* dotted keys (`a.b = 1`) make tables that only further dotted keys may extend;
* inline tables `{ ... }` and arrays are values, closed once written.

A `[[header]]` appends a table to an array of tables; keys and headers below it go into that
last table.
-/

namespace ChatStream.Toml

inductive Value where
  | string (s : String)
  | integer (i : Int)
  /-- A float, as written. -/
  | float (text : String)
  | boolean (b : Bool)
  /-- A date, time or date-time, as written. -/
  | datetime (text : String)
  | array (items : List Value)
  | table (entries : List (String × Value))
  deriving Repr, Inhabited

/-- A node of a document under construction. -/
inductive Item where
  /-- A value written after `=`, inline tables and arrays included. -/
  | value (v : Value)
  /-- A table, with whether it was made implicitly and whether by dotted keys. -/
  | table (implicit dotted : Bool) (entries : List (String × Item))
  /-- An array of tables. -/
  | tables (items : List (List (String × Item)))
  deriving Inhabited

def lookup {α : Type} (key : String) : List (String × α) → Option α
  | [] => none
  | (k, v) :: rest => if k == key then some v else lookup key rest

def replace {α : Type} (key : String) (v : α) : List (String × α) → List (String × α)
  | [] => []
  | (k, w) :: rest => if k == key then (k, v) :: rest else (k, w) :: replace key v rest

/-- What an update of a table returns: its flags and entries. -/
abbrev TableState := Bool × Bool × List (String × Item)

/-- Apply `k` to the table at `path` below a table, making missing tables on the way (implicit,
and dotted when `dotted`); an array of tables is entered at its last table. Dotted keys may only
pass through implicit tables. -/
def updateTable (dotted : Bool) (k : TableState → Except String TableState) :
    List String → TableState → Except String TableState
  | [], t => k t
  | key :: rest, (imp, dot, entries) =>
    match lookup key entries with
    | none => do
      let sub ← updateTable dotted k rest (true, dotted, [])
      .ok (imp, dot, entries ++ [(key, .table sub.1 sub.2.1 sub.2.2)])
    | some (.table i d sub) =>
      if dotted && !i then .error s!"duplicate key `{key}`"
      else do
        let sub ← updateTable dotted k rest (i, d, sub)
        .ok (imp, dot, replace key (.table sub.1 sub.2.1 sub.2.2) entries)
    | some (.tables ts) =>
      match ts.getLast? with
      | some last => do
        let sub ← updateTable dotted k rest (false, false, last)
        .ok (imp, dot, replace key (.tables (ts.dropLast ++ [sub.2.2])) entries)
      | none => .error s!"empty array of tables `{key}`"
    | some (.value _) => .error s!"key `{key}` is not a table"

/-- Define the table `key` by a header: new, or one made implicitly before. -/
def defineTable (key : String) : TableState → Except String TableState
  | (imp, dot, entries) =>
    match lookup key entries with
    | none => .ok (imp, dot, entries ++ [(key, .table false false [])])
    | some (.table true false sub) => .ok (imp, dot, replace key (.table false false sub) entries)
    | some _ => .error s!"duplicate key `{key}`"

/-- Append a table to the array of tables `key`. -/
def appendTable (key : String) : TableState → Except String TableState
  | (imp, dot, entries) =>
    match lookup key entries with
    | none => .ok (imp, dot, entries ++ [(key, .tables [[]])])
    | some (.tables ts) => .ok (imp, dot, replace key (.tables (ts ++ [[]])) entries)
    | some _ => .error s!"duplicate key `{key}`"

/-- Set `key` to a value in a table reached by `dotted` key parts; the key must be new. -/
def setKey (dottedPath : Bool) (key : String) (v : Value) : TableState → Except String TableState
  | (imp, dot, entries) =>
    if dot != dottedPath then .error s!"duplicate key `{key}`"
    else match lookup key entries with
      | none => .ok (imp, dot, entries ++ [(key, .value v)])
      | some _ => .error s!"duplicate key `{key}`"

mutual

def Item.toValue : Item → Value
  | .value v => v
  | .table _ _ es => .table (entriesToValue es)
  | .tables ts => .array (tablesToValue ts)

def entriesToValue : List (String × Item) → List (String × Value)
  | [] => []
  | (k, i) :: rest => (k, i.toValue) :: entriesToValue rest

def tablesToValue : List (List (String × Item)) → List Value
  | [] => []
  | t :: rest => .table (entriesToValue t) :: tablesToValue rest

end

end ChatStream.Toml
