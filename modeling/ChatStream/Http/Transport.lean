import ChatStream.Http.Body
import ChatStream.Http.Header
import ChatStream.Http.Retry
import ChatStream.Message.Basic
import ChatStream.Text.Space
import ChatStream.Text.Utf8
import ChatStream.Url.Basic

/-! # The HTTP transport

A transport is a base URL, default headers and a retry policy. Sending a request to a path

1. gives up at once if the caller has already cancelled;
2. refuses a URL that does not parse, or whose scheme is not `http` or `https`;
3. then tries the server: a connection that fails ends the call at once, as does a server that
   sends no response head within the header timeout; a response with status 429 or 5xx is tried
   again, after the policy's backoff, until the attempts run out, and then returned whatever
   its status; any other response is returned.

A body sent as one shot cannot be sent twice, so a retryable status with such a body is an
error of its own.

The server is given as the list of what successive connection attempts come to; once the list
runs out, connections fail.
-/

namespace ChatStream.Http

inductive RequestBody where
  | empty
  /-- Bytes sent again unchanged on every attempt. -/
  | bytes (data : ByteArray)
  /-- Bytes that can be sent only once. -/
  | oneShot (data : ByteArray)

namespace RequestBody

/-- Whether the body can be sent again. -/
def replayable : RequestBody → Bool
  | .oneShot _ => false
  | _ => true

def payload : RequestBody → Option ByteArray
  | .empty => none
  | .bytes b => some b
  | .oneShot b => some b

end RequestBody

/-- A duration in milliseconds as `Duration` values print themselves: `1.5s`, `60s`, `5ms`,
`0ns`. -/
def showDuration (ms : Nat) : String :=
  if ms ≥ 1000 then
    let frac := ms % 1000
    if frac = 0 then s!"{ms / 1000}s"
    else
      let digits := (toString (1000 + frac)).drop 1 |>.toString
      let digits := String.ofList ((digits.toList.reverse.dropWhile (· = '0')).reverse)
      s!"{ms / 1000}.{digits}s"
  else if ms = 0 then "0ns"
  else s!"{ms}ms"

inductive TransportError where
  /-- The HTTP client's own error: an unusable URL or a failed connection. -/
  | http (detail : String)
  /-- No response head within the header timeout (milliseconds). -/
  | timeout (ms : Nat)
  | cancelled
  /-- A retryable status came back, but the body could not be sent again. -/
  | bodyNotReplayable (status : Nat)
  /-- A final status that is not a success, with the response body. -/
  | status (status : Nat) (body : String)
  /-- A header or the client could not be set up. -/
  | build (detail : String)
  | json (detail : String)
  deriving Repr, DecidableEq

namespace TransportError

def message : TransportError → String
  | .http d => "HTTP error: " ++ d
  | .timeout ms => "no response headers within " ++ showDuration ms
  | .cancelled => "request cancelled"
  | .bodyNotReplayable s =>
    s!"got retryable status {s} but the request body cannot be replayed"
  | .status s b => s!"HTTP {s}: {b}"
  | .build d => "invalid request: " ++ d
  | .json d => "JSON error: " ++ d

/-- The stream error a transport error becomes: a status stays a status, a cancellation stays a
cancellation, and everything else is a transport failure with the error's text. -/
def toStreamError : TransportError → StreamError
  | .status s b => .http s b
  | .cancelled => .cancelled
  | e => .transport e.message

end TransportError

/-- A response: its status and its body as it arrives. -/
structure Response where
  status : Nat
  body : List BodyItem

namespace Response

/-- The body as text, or the empty text if it broke off. -/
def text (r : Response) : String :=
  if r.body.any (fun | .failure _ => true | _ => false) then ""
  else Text.Utf8.decodeBytes (BodyItem.bytesBeforeFailure r.body)

end Response

/-- What one attempt to reach the server comes to. -/
inductive Answer where
  /-- No connection: refused, unreachable, or closed before a response. -/
  | unreachable
  /-- The server took the request and never answered. -/
  | silent
  | response (r : Response)

structure Request where
  method : String
  url : String
  headers : Headers
  body : Option ByteArray

/-- What a call came to: the requests that reached the server, the waits between them, and the
response or the error. -/
structure Exchange (α : Type) where
  requests : List Request
  waits : List Nat
  outcome : Except TransportError α

/-- Change the outcome of an exchange. -/
def Exchange.bind {α β : Type} (x : Exchange α) (f : α → Except TransportError β) : Exchange β :=
  { x with outcome := x.outcome.bind f }

structure TransportConfig where
  retry : RetryPolicy := {}
  connectTimeoutMs : Nat := 10000
  headerTimeoutMs : Nat := 60000
  deriving Repr

/-- A base URL, default headers and a retry policy. -/
structure Transport where
  baseUrl : String
  headers : Headers
  retry : RetryPolicy
  headerTimeoutMs : Nat

namespace Transport

/-- A transport for a base URL; trailing slashes of the base are dropped. -/
def new (base : String) (config : TransportConfig) : Transport :=
  { baseUrl := Text.trimEndChar base '/', headers := [("content-type", "application/json")],
    retry := config.retry, headerTimeoutMs := config.headerTimeoutMs }

def header (t : Transport) (name value : String) : Except TransportError Transport :=
  match t.headers.set name value with
  | .ok hs => .ok { t with headers := hs }
  | .error e => .error (.build e.message)

def bearer (t : Transport) (token : String) : Except TransportError Transport :=
  t.header "authorization" ("Bearer " ++ token)

def url (t : Transport) (path : String) : String := t.baseUrl ++ path

end Transport

/-- Check that a URL can be requested: it parses and is `http` or `https`. The text returned
is its normalized form. -/
def requestTarget (url : String) : Except TransportError String :=
  match Url.parse url with
  | none => .error (.http "builder error")
  | some u =>
    if u.scheme == "http" || u.scheme == "https" then .ok u.render
    else .error (.http ("builder error for url (" ++ u.render ++ ")"))

/-- The attempts of one call, from attempt `done + 1` on, against the remaining answers. -/
def attempt (t : Transport) (method target : String) (body : RequestBody) (done : Nat) :
    List Answer → Exchange Response
  | [] => ⟨[], [], .error (.http ("error sending request for url (" ++ target ++ ")"))⟩
  | .unreachable :: _ => ⟨[], [], .error (.http ("error sending request for url (" ++ target ++ ")"))⟩
  | .silent :: _ =>
    ⟨[⟨method, target, t.headers, body.payload⟩], [], .error (.timeout t.headerTimeoutMs)⟩
  | .response r :: rest =>
    let sent : Request := ⟨method, target, t.headers, body.payload⟩
    let done := done + 1
    if !isRetryableStatus r.status || done ≥ t.retry.attempts then ⟨[sent], [], .ok r⟩
    else if !body.replayable then ⟨[sent], [], .error (.bodyNotReplayable r.status)⟩
    else
      let more := attempt t method target body done rest
      ⟨sent :: more.requests, t.retry.delayFor (done - 1) :: more.waits, more.outcome⟩

namespace Transport

/-- Send a request, retrying rate limits and server errors. -/
def send (t : Transport) (cancelled : Bool) (method path : String) (body : RequestBody)
    (answers : List Answer) : Exchange Response :=
  if cancelled then ⟨[], [], .error .cancelled⟩
  else
    match requestTarget (t.url path) with
    | .error e => ⟨[], [], .error e⟩
    | .ok target => attempt t method target body 0 answers

/-- Send a request and open its body; a final status that is not a success is an error that
carries the response body. -/
def streamBytes (t : Transport) (cancelled : Bool) (method path : String) (body : RequestBody)
    (answers : List Answer) : Exchange (List BodyItem) :=
  (t.send cancelled method path body answers).bind fun r =>
    if isSuccess r.status then .ok r.body else .error (.status r.status r.text)

end Transport

end ChatStream.Http
