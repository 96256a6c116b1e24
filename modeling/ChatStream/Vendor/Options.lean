import ChatStream.Decimal.Shortest
import ChatStream.Http.Transport
import ChatStream.Json.Value

/-! # Options of one call

What a caller may set for one streaming call: the API key, a token limit, a sampling
temperature (a 32-bit float), extra headers applied after the adapter's own, whether the call is
already cancelled, the queue capacity of the event stream, and the transport settings.

A 32-bit temperature is written in requests with the fewest digits that read back as it, so
`0.7` stays `0.7`; the `Json` value that carries it is the 64-bit number nearest to those
digits, which prints the same way.
-/

namespace ChatStream.Vendor

/-- The queue capacity of an event stream when the caller sets none. -/
def defaultQueueCapacity : Nat := 64

structure StreamOptions where
  apiKey : Option String := none
  maxTokens : Option Nat := none
  /-- A 32-bit float, as its encoding. -/
  temperature : Option Nat := none
  headers : List (String × String) := []
  cancelled : Bool := false
  queueCapacity : Nat := defaultQueueCapacity
  transport : Http.TransportConfig := {}

/-- The API key, when one is set and not empty. -/
def StreamOptions.key (o : StreamOptions) : Option String := o.apiKey.filter (!·.isEmpty)

/-- A 32-bit float as a JSON number: the 64-bit number nearest to its shortest digits; `null`
for infinities and not-a-number. -/
def float32Json (bits : Nat) : Json :=
  match Decimal.Format.binary32.decode bits with
  | .finite neg m e =>
    if m = 0 then .num (.float (if neg then Nat.pow 2 63 else 0))
    else
      let d := Decimal.shortest Decimal.Format.binary32 m e
      let wide := if d.exp ≥ 0 then Decimal.Format.binary64.round neg (d.digits * Nat.pow 10 d.exp.toNat) 1 0
        else Decimal.Format.binary64.round neg d.digits (Nat.pow 10 (-d.exp).toNat) 0
      .num (.float wide)
  | _ => .null

/-- Set headers on a transport in order; a bad header fails the call before any request. -/
def applyHeaders (t : Http.Transport) (headers : List (String × String)) :
    Except Http.TransportError Http.Transport :=
  headers.foldlM (fun t (n, v) => t.header n v) t

def bearerHeader (key : String) : String × String := ("authorization", "Bearer " ++ key)

example : (match float32Json 0x3F333333 with | .num (.float b) => b | _ => 0) = 0x3FE6666666666666 := by
  decide +kernel

end ChatStream.Vendor
