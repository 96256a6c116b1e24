import ChatStream.Http.Transport
import ChatStream.Toml.Parse
import ChatStream.Provider.Basic

/-! # The configuration file

`config.toml` chooses the default API, the endpoint, model and key variable of each vendor, the
generate-content project and region, and the transport settings. Every field may be left out and
falls back to its default; unknown keys are ignored. A file that is not valid TOML, or whose
values have the wrong types (a negative attempt count, a number for a name, ...), counts as no
file at all.

A table may also be written as an array of its fields in order.
-/

namespace ChatStream.Cli

open Toml

structure VendorConfig where
  /-- Empty means the vendor's public endpoint. -/
  baseUrl : String := ""
  model : Option String := none
  /-- The environment variable that holds the API key. -/
  apiKeyEnv : Option String := none
  deriving Repr, DecidableEq

/-- Settings of the generate-content vendor. -/
structure VertexConfig where
  baseUrl : String := ""
  model : Option String := none
  /-- The environment variable that holds an access token. -/
  apiKeyEnv : Option String := none
  project : Option String := none
  location : Option String := none
  deriving Repr, DecidableEq

/-- The vendor settings and the default API. -/
structure BackendConfig where
  /-- The API used when none is asked for. -/
  default : String := "openai-completions"
  openai : VendorConfig := {}
  anthropic : VendorConfig := {}
  vertex : VertexConfig := {}
  deriving Repr, DecidableEq

structure TransportSection where
  maxAttempts : Nat := 3
  baseDelayMs : Nat := 1000
  maxDelayMs : Nat := 30000
  connectTimeoutSecs : Nat := 10
  headerTimeoutSecs : Nat := 60
  /-- Events buffered between an adapter and a slow consumer. -/
  queueCapacity : Nat := Vendor.defaultQueueCapacity
  deriving Repr, DecidableEq

structure Config where
  backend : BackendConfig := {}
  transport : TransportSection := {}
  deriving Repr, DecidableEq

/-! ## Reading -/

/-- The fields of a record written as a table, or as an array in field order. -/
def fields (names : List String) : Value → Except String (String → Option Value)
  | .table entries => .ok fun n => lookup n entries
  | .array items => .ok fun n => (names.idxOf? n).bind fun i => items[i]?
  | _ => .error "expected a table"

def field {α : Type} (get : String → Option Value) (name : String) (read : Value → Except String α)
    (fallback : α) : Except String α :=
  match get name with
  | some v => read v
  | none => .ok fallback

def readString : Value → Except String String
  | .string s => .ok s
  | _ => .error "expected a string"

/-- A non-negative integer below `2 ^ bits`. -/
def readUnsigned (bits : Nat) : Value → Except String Nat
  | .integer i => if 0 ≤ i ∧ i < Nat.pow 2 bits then .ok i.toNat else .error "integer out of range"
  | _ => .error "expected an integer"

/-- An optional string: present means some. -/
def readSome : Value → Except String (Option String) := fun v => some <$> readString v

def readVendor (v : Value) : Except String VendorConfig := do
  let get ← fields ["base_url", "model", "api_key_env"] v
  pure { baseUrl := ← field get "base_url" readString ""
         model := ← field get "model" readSome none
         apiKeyEnv := ← field get "api_key_env" readSome none }

def readVertex (v : Value) : Except String VertexConfig := do
  let get ← fields ["base_url", "model", "api_key_env", "project", "location"] v
  pure { baseUrl := ← field get "base_url" readString ""
         model := ← field get "model" readSome none
         apiKeyEnv := ← field get "api_key_env" readSome none
         project := ← field get "project" readSome none
         location := ← field get "location" readSome none }

def readBackend (v : Value) : Except String BackendConfig := do
  let get ← fields ["default", "openai", "anthropic", "vertex"] v
  pure { default := ← field get "default" readString "openai-completions"
         openai := ← field get "openai" readVendor {}
         anthropic := ← field get "anthropic" readVendor {}
         vertex := ← field get "vertex" readVertex {} }

def readTransport (v : Value) : Except String TransportSection := do
  let get ← fields ["max_attempts", "base_delay_ms", "max_delay_ms", "connect_timeout_secs",
    "header_timeout_secs", "queue_capacity"] v
  pure { maxAttempts := ← field get "max_attempts" (readUnsigned 32) 3
         baseDelayMs := ← field get "base_delay_ms" (readUnsigned 64) 1000
         maxDelayMs := ← field get "max_delay_ms" (readUnsigned 64) 30000
         connectTimeoutSecs := ← field get "connect_timeout_secs" (readUnsigned 64) 10
         headerTimeoutSecs := ← field get "header_timeout_secs" (readUnsigned 64) 60
         queueCapacity := ← field get "queue_capacity" (readUnsigned 64) Vendor.defaultQueueCapacity }

def Config.parse (text : String) : Except String Config := do
  let get ← fields ["backend", "transport"] (← Toml.parse text)
  pure { backend := ← field get "backend" readBackend {}
         transport := ← field get "transport" readTransport {} }

/-- The configuration a file gives: none, or one that does not read, gives the defaults. -/
def Config.load (text : Option String) : Config :=
  match text.map Config.parse with
  | some (.ok c) => c
  | _ => {}

/-- The transport settings the section stands for; at least one attempt. -/
def TransportSection.transportConfig (t : TransportSection) : Http.TransportConfig :=
  { retry := { maxAttempts := max t.maxAttempts 1, baseDelayMs := t.baseDelayMs,
               maxDelayMs := t.maxDelayMs },
    connectTimeoutMs := t.connectTimeoutSecs * 1000, headerTimeoutMs := t.headerTimeoutSecs * 1000 }

/-! ## Environment and resolution -/

/-- Environment variables in the order they were set; setting a variable again replaces its
value in place. -/
structure Env where
  vars : List (String × String) := []

/-- The variables as the process sees them: one entry per name, where it was first set, with
its last value. -/
def Env.entries (e : Env) : List (String × String) :=
  e.vars.foldl (fun acc (k, v) =>
    if acc.any (·.1 == k) then acc.map (fun p => if p.1 == k then (k, v) else p) else acc ++ [(k, v)]) []

/-- The value of a variable, found as the C library finds it: the first entry whose text
`name=value` starts with the name asked for and an `=`, the rest being the value. So a name
holding `=` finds the entry it is a prefix of; an empty name, or one holding NUL, finds none. -/
def Env.get (e : Env) (name : String) : Option String :=
  if name.isEmpty || name.contains '\x00' then none
  else
    let key := name ++ "="
    (e.entries.find? fun (k, v) => (k ++ "=" ++ v).startsWith key).map fun (k, v) =>
      ((k ++ "=" ++ v).drop key.length).toString

/-- Everything needed to start a stream against one vendor. -/
structure ResolvedBackend where
  api : String
  baseUrl : String
  model : String
  apiKeyEnv : String
  deriving Repr, DecidableEq

/-- The key in the configured variable, if it is set and not blank. -/
def ResolvedBackend.apiKey (r : ResolvedBackend) (env : Env) : Option String :=
  (env.get r.apiKeyEnv).filter fun k => !Text.isBlank k

/-- The settings of an API, or none for an API without a section. -/
def BackendConfig.resolve (b : BackendConfig) (api : String) : Option ResolvedBackend :=
  let make (base : String) (model keyEnv : Option String) (defaultModel defaultKey : String) :=
    some { api, baseUrl := base, model := model.getD defaultModel,
           apiKeyEnv := keyEnv.getD defaultKey : ResolvedBackend }
  if api == Vendor.OpenAi.api then
    make b.openai.baseUrl b.openai.model b.openai.apiKeyEnv "gpt-4o-mini" "OPENAI_API_KEY"
  else if api == Vendor.Anthropic.api then
    make b.anthropic.baseUrl b.anthropic.model b.anthropic.apiKeyEnv "claude-sonnet-4-20250514"
      "ANTHROPIC_API_KEY"
  else if api == Vendor.Vertex.api then
    make b.vertex.baseUrl b.vertex.model b.vertex.apiKeyEnv "gemini-2.0-flash"
      "GOOGLE_CLOUD_ACCESS_TOKEN"
  else none

end ChatStream.Cli
