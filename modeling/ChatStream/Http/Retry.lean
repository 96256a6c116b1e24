/-! # Retry policy

A request that meets a rate limit (status 429) or a server error (5xx) is worth another
attempt; nothing else is. Between attempts the transport waits a capped exponential backoff:
after attempt `n` (counted from 0) it waits `base · 2ⁿ`, never more than the cap. The factor
`2ⁿ` is a 32-bit number, so from `n = 32` on it stays at `2³² - 1`.

Durations are whole milliseconds, up to the longest duration the platform has (`2⁶⁴ - 1` seconds
and 999 milliseconds). The product `base · 2ⁿ` is checked against that bound: a product beyond it
is replaced by the cap.
-/

namespace ChatStream.Http

/-- How often to try a request and how long to wait between tries. -/
structure RetryPolicy where
  /-- Attempts in all, the first included; `0` counts as `1`. -/
  maxAttempts : Nat := 3
  baseDelayMs : Nat := 1000
  maxDelayMs : Nat := 30000
  deriving Repr, DecidableEq

def u32Max : Nat := Nat.pow 2 32 - 1

/-- The backoff factor after attempt `n`: `2ⁿ` while it fits in 32 bits, else the largest
32-bit value. -/
def backoffFactor (n : Nat) : Nat := if n < 32 then Nat.pow 2 n else u32Max

/-- The longest duration in whole milliseconds: `2⁶⁴ - 1` seconds and 999 milliseconds. -/
def maxDurationMs : Nat := Nat.pow 2 64 * 1000 - 1

/-- A duration times a factor, or nothing when the product is longer than the longest duration. -/
def checkedMul (ms factor : Nat) : Option Nat :=
  if ms * factor ≤ maxDurationMs then some (ms * factor) else none

namespace RetryPolicy

/-- The wait before the retry that follows attempt `n` (counted from 0): the base times the
factor, or the cap when that product overflows, and never more than the cap. -/
def delayFor (p : RetryPolicy) (n : Nat) : Nat :=
  min ((checkedMul p.baseDelayMs (backoffFactor n)).getD p.maxDelayMs) p.maxDelayMs

/-- The number of attempts the policy allows. -/
def attempts (p : RetryPolicy) : Nat := max p.maxAttempts 1

end RetryPolicy

/-- A status code is a number from 100 to 999. -/
def validStatus (status : Nat) : Bool := 100 ≤ status && status ≤ 999

/-- Whether a response status is worth another attempt: 429 or 5xx. -/
def isRetryableStatus (status : Nat) : Bool := status == 429 || (500 ≤ status && status ≤ 599)

/-- Whether a status means success: 2xx. -/
def isSuccess (status : Nat) : Bool := 200 ≤ status && status ≤ 299

example : ({} : RetryPolicy).delayFor 5 = 30000 := by decide

end ChatStream.Http
