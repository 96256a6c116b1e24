import Mathlib.Order.Monotone.Basic
import ChatStream.Http.Transport

/-! # Retrying a request

The backoff first. After attempt `n` the transport waits `base · f(n)`, capped, where the factor
`f(n)` is `2ⁿ` up to `n = 31` and stays at `2³² - 1` from `n = 32` on. The product is checked
against the longest duration and replaced by the cap when it overflows; since a cap is itself a
duration, that never changes the value (`delayFor_eq_min`). So the waits double until they reach
the cap, stop growing at attempt 32, and never exceed the cap (`delayFor_doubles_to_cap`).

Then the loop. Against a server that answers every attempt with a response, a call makes one
request per response until a response that is neither 429 nor 5xx arrives or the attempts run
out, whichever comes first (`requestCount`); every request is the same, and the call returns the
last response (`RetriesUntilFinal`, `send_retries_until_final`). A body that can be sent only once
turns a first retryable status into an error of its own, and a failed connection ends the call at
once.
-/

namespace ChatStream.Http

/-! ### The backoff -/

theorem backoffFactor_of_lt {n : Nat} (h : n < 32) : backoffFactor n = Nat.pow 2 n := by
  simp [backoffFactor, h]

theorem backoffFactor_of_le {n : Nat} (h : 32 ≤ n) : backoffFactor n = u32Max := by
  simp [backoffFactor, Nat.not_lt.2 h]

theorem backoffFactor_succ {n : Nat} (h : n < 31) : backoffFactor (n + 1) = 2 * backoffFactor n := by
  rw [backoffFactor_of_lt (show n + 1 < 32 by omega), backoffFactor_of_lt (show n < 32 by omega)]
  exact Nat.mul_comm (Nat.pow 2 n) 2

theorem backoffFactor_mono : Monotone backoffFactor := by
  intro n m hnm
  by_cases hm : m < 32
  · rw [backoffFactor_of_lt hm, backoffFactor_of_lt (show n < 32 by omega)]
    exact Nat.pow_le_pow_right (by decide) hnm
  · rw [backoffFactor_of_le (show 32 ≤ m by omega)]
    by_cases hn : n < 32
    · rw [backoffFactor_of_lt hn]
      -- `2ⁿ ≤ 2³¹`, and `2³¹` is below the largest 32-bit value
      calc Nat.pow 2 n ≤ Nat.pow 2 31 := Nat.pow_le_pow_right (by decide) (by omega)
        _ ≤ u32Max := by decide
    · rw [backoffFactor_of_le (show 32 ≤ n by omega)]

namespace RetryPolicy

variable (p : RetryPolicy)

theorem delayFor_le_cap (n : Nat) : p.delayFor n ≤ p.maxDelayMs := Nat.min_le_right _ _

/-- The checked product is the exact one: when it overflows, the cap is below it anyway. -/
theorem delayFor_eq_min {p : RetryPolicy} (hmax : p.maxDelayMs ≤ maxDurationMs) (n : Nat) :
    p.delayFor n = min (p.baseDelayMs * backoffFactor n) p.maxDelayMs := by
  unfold delayFor checkedMul
  split
  · rfl
  · rename_i hover
    simp only [Option.getD_none, Nat.min_self]
    omega

theorem delayFor_succ {p : RetryPolicy} (hmax : p.maxDelayMs ≤ maxDurationMs) {n : Nat}
    (h : n < 31) : p.delayFor (n + 1) = min (2 * p.delayFor n) p.maxDelayMs := by
  rw [delayFor_eq_min hmax, delayFor_eq_min hmax, backoffFactor_succ h, Nat.mul_left_comm]
  omega

theorem delayFor_of_le {p : RetryPolicy} (hmax : p.maxDelayMs ≤ maxDurationMs) {n : Nat}
    (h : 32 ≤ n) : p.delayFor n = p.delayFor 32 := by
  rw [delayFor_eq_min hmax, delayFor_eq_min hmax, backoffFactor_of_le h,
    backoffFactor_of_le (Nat.le_refl 32)]

theorem delayFor_mono {p : RetryPolicy} (hmax : p.maxDelayMs ≤ maxDurationMs) :
    Monotone p.delayFor := by
  intro n m hnm
  rw [delayFor_eq_min hmax, delayFor_eq_min hmax]
  have hf := Nat.mul_le_mul_left p.baseDelayMs (backoffFactor_mono hnm)
  omega

/-- The backoff of a policy, attempt by attempt. -/
structure DoublesToCap (p : RetryPolicy) : Prop where
  /-- The wait is the base times `2ⁿ`, or `2³² - 1` from attempt 32 on, capped, exactly. -/
  exact : ∀ n, p.delayFor n =
    min (p.baseDelayMs * if n < 32 then Nat.pow 2 n else Nat.pow 2 32 - 1) p.maxDelayMs
  doubles : ∀ n, n < 31 → p.delayFor (n + 1) = min (2 * p.delayFor n) p.maxDelayMs
  steady : ∀ n, 32 ≤ n → p.delayFor n = p.delayFor 32
  mono : Monotone p.delayFor
  capped : ∀ n, p.delayFor n ≤ p.maxDelayMs

/-- For a cap that is a duration, the waits double up to the cap until attempt 31, hold from
attempt 32 on, and never exceed the cap; the overflow check never changes a wait. -/
theorem delayFor_doubles_to_cap (p : RetryPolicy) (hmax : p.maxDelayMs ≤ maxDurationMs) :
    p.DoublesToCap where
  exact n := by rw [delayFor_eq_min hmax]; rfl
  doubles _ h := delayFor_succ hmax h
  steady _ h := delayFor_of_le hmax h
  mono := delayFor_mono hmax
  capped := p.delayFor_le_cap

theorem far_cap_backoff_doubles_to_cap :
    let p : RetryPolicy := { baseDelayMs := 1, maxDelayMs := Nat.pow 2 64 - 1 }
    p.maxDelayMs ≤ maxDurationMs ∧ p.DoublesToCap :=
  ⟨by decide, delayFor_doubles_to_cap _ (by decide)⟩

/-- From attempt 32 on the factor is `2³² - 1`, not `2³²`: with a cap far away, the wait after
attempt 32 is one millisecond short of doubling. -/
theorem backoff_stops_doubling_at_32 :
    let p : RetryPolicy := { baseDelayMs := 1, maxDelayMs := Nat.pow 2 64 - 1 }
    p.delayFor 32 = Nat.pow 2 32 - 1 ∧
      p.delayFor 32 ≠ min (p.baseDelayMs * Nat.pow 2 32) p.maxDelayMs := by
  decide

end RetryPolicy

/-! ### The attempts of one call -/

/-- The position, counted from 1, of the first response that asks for no retry; one past the
last response when all of them ask for one. -/
def firstFinal (rs : List Response) : Nat := rs.findIdx (fun r => !isRetryableStatus r.status) + 1

/-- The requests a call makes against responses `rs`: until the first final response, and no
more than the policy allows. -/
def requestCount (p : RetryPolicy) (rs : List Response) : Nat := min p.attempts (firstFinal rs)

/-- The request every attempt of a call sends. -/
def Transport.request (t : Transport) (method target : String) (body : RequestBody) : Request :=
  ⟨method, target, t.headers, body.payload⟩

/-- Requests and waits that came before an exchange. -/
def Exchange.after {α : Type} (x : Exchange α) (qs : List Request) (ws : List Nat) : Exchange α :=
  ⟨qs ++ x.requests, ws ++ x.waits, x.outcome⟩

theorem firstFinal_cons (r : Response) (rs : List Response) :
    firstFinal (r :: rs) = if isRetryableStatus r.status then firstFinal rs + 1 else 1 := by
  cases h : isRetryableStatus r.status <;> simp [firstFinal, List.findIdx_cons, h]

theorem one_le_requestCount (p : RetryPolicy) (rs : List Response) : 1 ≤ requestCount p rs := by
  simp only [requestCount, RetryPolicy.attempts, firstFinal]
  omega

theorem requestCount_le_attempts (p : RetryPolicy) (rs : List Response) :
    requestCount p rs ≤ p.attempts := Nat.min_le_left _ _

theorem requestCount_le_firstFinal (p : RetryPolicy) (rs : List Response) :
    requestCount p rs ≤ firstFinal rs := Nat.min_le_right _ _

theorem requestCount_cases (p : RetryPolicy) (rs : List Response) :
    requestCount p rs = p.attempts ∨ requestCount p rs = firstFinal rs := by
  simp only [requestCount]
  omega

theorem retryable_of_mem_take {rs : List Response} {k : Nat} (hk : k < firstFinal rs) :
    ∀ r ∈ rs.take k, isRetryableStatus r.status = true := by
  induction rs generalizing k with
  | nil => simp
  | cons x rs ih =>
    cases k with
    | zero => simp
    | succ k =>
      rw [firstFinal_cons] at hk
      by_cases hx : isRetryableStatus x.status
      · rw [if_pos hx] at hk
        intro r hr
        rcases List.mem_cons.1 (by simpa using hr) with rfl | hr
        · exact hx
        · exact ih (by omega) r hr
      · rw [if_neg hx] at hk
        omega

theorem final_at_firstFinal {rs : List Response} {r : Response}
    (h : rs[firstFinal rs - 1]? = some r) : isRetryableStatus r.status = false := by
  induction rs with
  | nil => simp at h
  | cons x rs ih =>
    rw [firstFinal_cons] at h
    by_cases hx : isRetryableStatus x.status
    · rw [if_pos hx, Nat.add_sub_cancel] at h
      have hpos : firstFinal rs = firstFinal rs - 1 + 1 := by simp [firstFinal]
      rw [hpos, List.getElem?_cons_succ] at h
      exact ih h
    · rw [if_neg hx] at h
      simp only [Nat.sub_self, List.getElem?_cons_zero, Option.some.injEq] at h
      subst h
      simpa using hx

section Attempts

variable (t : Transport) (method target : String) (body : RequestBody)

theorem attempt_final {done : Nat} {r : Response}
    (h : isRetryableStatus r.status = false ∨ t.retry.attempts ≤ done + 1) (rest : List Answer) :
    attempt t method target body done (.response r :: rest) =
      ⟨[t.request method target body], [], .ok r⟩ := by
  rcases h with h | h <;> simp [attempt, h, Transport.request]

theorem attempt_retry {done : Nat} {r : Response} (hr : isRetryableStatus r.status = true)
    (hd : done + 1 < t.retry.attempts) (hb : body.replayable = true) (rest : List Answer) :
    attempt t method target body done (.response r :: rest) =
      (attempt t method target body (done + 1) rest).after [t.request method target body]
        [t.retry.delayFor done] := by
  have hd' : ¬t.retry.attempts ≤ done + 1 := by omega
  simp [attempt, hr, hd', hb, Exchange.after, Transport.request]

theorem attempt_unreplayable {done : Nat} {r : Response} (hr : isRetryableStatus r.status = true)
    (hd : done + 1 < t.retry.attempts) (hb : body.replayable = false) (rest : List Answer) :
    attempt t method target body done (.response r :: rest) =
      ⟨[t.request method target body], [], .error (.bodyNotReplayable r.status)⟩ := by
  have hd' : ¬t.retry.attempts ≤ done + 1 := by omega
  simp [attempt, hr, hd', hb, Transport.request]

/-- A run of retryable responses, each followed by its wait, until the attempts left run out:
the call goes on from the answers after them. -/
theorem attempt_retried (rs : List Response) (done : Nat)
    (hr : ∀ r ∈ rs, isRetryableStatus r.status = true) (hd : done + rs.length < t.retry.attempts)
    (hb : body.replayable = true ∨ rs = []) (more : List Answer) :
    attempt t method target body done (rs.map .response ++ more) =
      (attempt t method target body (done + rs.length) more).after
        (List.replicate rs.length (t.request method target body))
        ((List.range' done rs.length).map t.retry.delayFor) := by
  induction rs generalizing done with
  | nil => simp [Exchange.after]
  | cons r rs ih =>
    have hrep : body.replayable = true := by simpa using hb
    have hlen : done + 1 + rs.length < t.retry.attempts := by simp at hd; omega
    rw [List.map_cons, List.cons_append,
      attempt_retry t method target body (hr r (by simp)) (by omega) hrep,
      ih (done + 1) (fun x hx => hr x (by simp [hx])) hlen (.inl hrep)]
    simp [Exchange.after, List.range'_succ, List.replicate_succ, Nat.add_assoc, Nat.add_comm 1]

/-- Answered up to its last request, a call makes `requestCount` identical requests, waits after
each but the last, and returns the last response. -/
theorem attempt_answered (rs : List Response) (hn : requestCount t.retry rs ≤ rs.length)
    (hb : body.replayable = true ∨ requestCount t.retry rs = 1) :
    ∃ r, rs[requestCount t.retry rs - 1]? = some r ∧
      attempt t method target body 0 (rs.map .response) =
        ⟨List.replicate (requestCount t.retry rs) (t.request method target body),
          (List.range (requestCount t.retry rs - 1)).map t.retry.delayFor, .ok r⟩ := by
  have hpos := one_le_requestCount t.retry rs
  have hm := requestCount_le_attempts t.retry rs
  have hf := requestCount_le_firstFinal t.retry rs
  have hcases := requestCount_cases t.retry rs
  generalize requestCount t.retry rs = n at hn hb hpos hm hf hcases
  have hlt : n - 1 < rs.length := by omega
  obtain ⟨r, hr⟩ : ∃ r, rs[n - 1]? = some r := ⟨rs[n - 1], by simp⟩
  refine ⟨r, hr, ?_⟩
  -- the responses before the last request are all retried; the last one ends the call
  have hsplit : rs = rs.take (n - 1) ++ r :: rs.drop n := by
    have hget : rs[n - 1] = r := by simpa [List.getElem?_eq_getElem hlt] using hr
    have hdrop := List.drop_eq_getElem_cons hlt
    rw [hget, Nat.sub_add_cancel hpos] at hdrop
    rw [← hdrop, List.take_append_drop]
  have hlen : (rs.take (n - 1)).length = n - 1 := by simp; omega
  rw [hsplit, List.map_append, List.map_cons,
    attempt_retried t method target body _ 0 (retryable_of_mem_take (by omega))
      (by rw [hlen]; omega) (hb.imp_right fun h => by simp [h]), hlen]
  have hstop : isRetryableStatus r.status = false ∨ t.retry.attempts ≤ 0 + (n - 1) + 1 := by
    rcases hcases with hn' | hn'
    · exact .inr (by omega)
    · exact .inl (final_at_firstFinal (by rw [← hn']; exact hr))
  rw [attempt_final t method target body hstop]
  have hrep : List.replicate (n - 1) (t.request method target body) ++
      [t.request method target body] = List.replicate n (t.request method target body) := by
    rw [← List.replicate_succ', Nat.sub_add_cancel hpos]
  simp [Exchange.after, hrep, List.range_eq_range']

/-- A body that cannot be sent again ends the call at the first retryable response that could
be retried. -/
theorem attempt_oneShot (rs : List Response) (hb : body.replayable = false)
    (hn : 2 ≤ requestCount t.retry rs) :
    ∃ r, rs.head? = some r ∧ attempt t method target body 0 (rs.map .response) =
      ⟨[t.request method target body], [], .error (.bodyNotReplayable r.status)⟩ := by
  cases rs with
  | nil =>
    simp only [requestCount, firstFinal, List.findIdx_nil] at hn
    omega
  | cons r rs =>
    have hr : isRetryableStatus r.status = true := by
      by_contra hr
      simp only [requestCount, firstFinal_cons, hr, if_false] at hn
      omega
    have hd : 0 + 1 < t.retry.attempts := by
      have := requestCount_le_attempts t.retry (r :: rs)
      omega
    exact ⟨r, rfl, attempt_unreplayable t method target body hr hd hb _⟩

theorem attempt_unreachable (rs : List Response) (hn : rs.length < requestCount t.retry rs)
    (hb : body.replayable = true ∨ rs = []) (rest : List Answer) :
    attempt t method target body 0 (rs.map .response ++ .unreachable :: rest) =
      ⟨List.replicate rs.length (t.request method target body),
        (List.range rs.length).map t.retry.delayFor,
        .error (.http ("error sending request for url (" ++ target ++ ")"))⟩ := by
  have hm := requestCount_le_attempts t.retry rs
  have hall : ∀ r ∈ rs, isRetryableStatus r.status = true := by
    have h : ∀ r ∈ rs.take rs.length, isRetryableStatus r.status = true :=
      retryable_of_mem_take (by have := requestCount_le_firstFinal t.retry rs; omega)
    simpa using h
  rw [attempt_retried t method target body rs 0 hall (by omega) hb]
  simp [attempt, Exchange.after, List.range_eq_range']

end Attempts

theorem Transport.send_eq_attempt (t : Transport) (method : String) {path target : String}
    (body : RequestBody) (ht : requestTarget (t.url path) = .ok target) (answers : List Answer) :
    t.send false method path body answers = attempt t method target body 0 answers := by
  simp [Transport.send, ht]

/-- What a call to a requestable URL comes to, against responses `rs`. -/
structure RetriesUntilFinal (t : Transport) (method path target : String) (body : RequestBody)
    (rs : List Response) : Prop where
  /-- A call cancelled before it starts makes no request. -/
  cancelled : ∀ answers, t.send true method path body answers = ⟨[], [], .error .cancelled⟩
  /-- With every attempt answered, the call makes `requestCount` identical requests, waits
  `delayFor (i - 1)` after the `i`-th of all but the last, and returns the last response;
  `streamBytes` turns it into an error carrying its body when it is not a success. -/
  answered : requestCount t.retry rs ≤ rs.length →
    (body.replayable = true ∨ requestCount t.retry rs = 1) →
    ∃ r, rs[requestCount t.retry rs - 1]? = some r ∧
      t.send false method path body (rs.map .response) =
        ⟨List.replicate (requestCount t.retry rs) (t.request method target body),
          (List.range (requestCount t.retry rs - 1)).map t.retry.delayFor, .ok r⟩ ∧
      (t.streamBytes false method path body (rs.map .response)).outcome =
        if isSuccess r.status then .ok r.body else .error (.status r.status r.text)
  /-- A body sent once fails after one request when the first status asks for a retry that the
  attempts would allow. -/
  oneShot : body.replayable = false → 2 ≤ requestCount t.retry rs →
    ∃ r, rs.head? = some r ∧ t.send false method path body (rs.map .response) =
      ⟨[t.request method target body], [], .error (.bodyNotReplayable r.status)⟩
  /-- A connection that fails ends the call at once. -/
  unreachable : rs.length < requestCount t.retry rs → (body.replayable = true ∨ rs = []) →
    ∀ rest, t.send false method path body (rs.map .response ++ .unreachable :: rest) =
      ⟨List.replicate rs.length (t.request method target body),
        (List.range rs.length).map t.retry.delayFor,
        .error (.http ("error sending request for url (" ++ target ++ ")"))⟩

/-- A call retries 429 and 5xx responses, resending the same request after each backoff, until a
response asks for no retry or the attempts run out, and returns the last response. -/
theorem send_retries_until_final (t : Transport) (method path target : String)
    (body : RequestBody) (rs : List Response) (ht : requestTarget (t.url path) = .ok target) :
    RetriesUntilFinal t method path target body rs where
  cancelled _ := by simp [Transport.send]
  answered hn hb := by
    obtain ⟨r, hr, hsend⟩ := attempt_answered t method target body rs hn hb
    rw [← Transport.send_eq_attempt t method body ht] at hsend
    refine ⟨r, hr, hsend, ?_⟩
    simp [Transport.streamBytes, hsend, Exchange.bind, Except.bind]
  oneShot hb hn := by
    rw [Transport.send_eq_attempt t method body ht]
    exact attempt_oneShot t method target body rs hb hn
  unreachable hn hb rest := by
    rw [Transport.send_eq_attempt t method body ht]
    exact attempt_unreachable t method target body rs hn hb rest

theorem retries_unavailable_then_ok :
    requestTarget ((Transport.new "http://h" {}).url "/x") = .ok "http://h/x" ∧
      RetriesUntilFinal (Transport.new "http://h" {}) "POST" "/x" "http://h/x"
        (.bytes "hi".toUTF8) [⟨503, []⟩, ⟨200, [.text "ok"]⟩] :=
  have ht : requestTarget ((Transport.new "http://h" {}).url "/x") = .ok "http://h/x" := by
    have h : (requestTarget ((Transport.new "http://h" {}).url "/x")).toOption =
        some "http://h/x" := by
      decide +kernel
    revert h
    cases requestTarget ((Transport.new "http://h" {}).url "/x") <;> simp [Except.toOption]
  ⟨ht, send_retries_until_final _ _ _ _ _ _ ht⟩

end ChatStream.Http
