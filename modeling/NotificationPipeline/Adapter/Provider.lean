-- SUMMARY: The webhook provider and gobreaker's per-channel circuit breaker state machine, and how Send's errors classify.
import NotificationPipeline.App.DeliveryService

/-!
# The webhook provider and its circuit breakers

`internal/adapter/provider/webhook.go` sends a notification to the webhook through one
breaker per channel (`pkg/circuitbreaker`, a `gobreaker.CircuitBreaker` with the settings of
`circuitbreaker.New`).

The breaker is gobreaker v2's state machine, function by function: `Counts` and its
`onRequest`, `onSuccess`, `onFailure` and `clear`; `toNewGeneration`, `setState`,
`currentState`, `beforeRequest`, `onSuccess`, `onFailure`, `afterRequest` and `Execute`. Every
call reads the clock once. The zero `expiry` is `none`; it is before every instant.

`doSend` is one HTTP exchange, which the network decides: the request may not be built, the
transport may fail, the body may not be read, or a response with a status and a body comes
back. `json.Marshal` of the request cannot fail (three strings), and the body decoding only
chooses between the decoded response and a made-up one.

Which errors `isTransient` accepts decides whether the worker retries a message or marks the
row failed. A breaker refusal is gobreaker's `ErrOpenState` or `ErrTooManyRequests`, neither
of which is `domain.ErrCircuitOpen`, and a failed body read is returned as it is: both are
permanent to the worker (`send_error_classified`, `breaker_refusal_marks_failed`).
-/

namespace Provider

open Domain App

-- ---------------------------------------------------------------------------
-- gobreaker
-- ---------------------------------------------------------------------------

/-- `gobreaker.State`. -/
inductive BreakerState
  | closed | halfOpen | open
deriving DecidableEq, Repr

/-- `gobreaker.Counts`. -/
structure Counts where
  requests : Nat
  totalSuccesses : Nat
  totalFailures : Nat
  consecutiveSuccesses : Nat
  consecutiveFailures : Nat
deriving DecidableEq, Repr

namespace Counts

/-- `clear`. -/
def zero : Counts := ⟨0, 0, 0, 0, 0⟩

def onRequest (c : Counts) : Counts := { c with requests := c.requests + 1 }

def onSuccess (c : Counts) : Counts :=
  { c with totalSuccesses := c.totalSuccesses + 1,
           consecutiveSuccesses := c.consecutiveSuccesses + 1, consecutiveFailures := 0 }

def onFailure (c : Counts) : Counts :=
  { c with totalFailures := c.totalFailures + 1,
           consecutiveFailures := c.consecutiveFailures + 1, consecutiveSuccesses := 0 }

end Counts

/-- `gobreaker.Settings`, as `NewCircuitBreaker` keeps them; durations in microseconds. -/
structure Settings where
  maxRequests : Nat
  interval : Nat
  timeout : Nat
  readyToTrip : Counts → Bool

/-- `circuitbreaker.New`: three half-open probes, counts cleared every 60 s while closed, 30 s
open, and tripping on five consecutive failures. -/
def settings : Settings :=
  ⟨3, 60 * 1000000, 30 * 1000000, fun c => decide (5 ≤ c.consecutiveFailures)⟩

/-- The mutable part of a `gobreaker.CircuitBreaker`. -/
structure Breaker where
  state : BreakerState
  generation : Nat
  counts : Counts
  /-- `none` is the zero time. -/
  expiry : Option Instant
deriving DecidableEq, Repr

namespace Breaker

variable (st : Settings)

def toNewGeneration (b : Breaker) (now : Instant) : Breaker :=
  { b with generation := b.generation + 1, counts := Counts.zero,
           expiry := match b.state with
             | .closed => if st.interval = 0 then none else some (now + st.interval)
             | .open => some (now + st.timeout)
             | .halfOpen => none }

def setState (b : Breaker) (state : BreakerState) (now : Instant) : Breaker :=
  if b.state = state then b else toNewGeneration st { b with state } now

/-- `NewCircuitBreaker` at `now`. -/
def new (now : Instant) : Breaker := toNewGeneration st ⟨.closed, 0, Counts.zero, none⟩ now

/-- `currentState`: a closed breaker past its interval starts a new generation, an open one
past its timeout turns half-open. -/
def currentState (b : Breaker) (now : Instant) : Breaker :=
  match b.state, b.expiry with
  | .closed, some e => if e < now then toNewGeneration st b now else b
  | .open, e => if e.all (· < now) then setState st b .halfOpen now else b
  | _, _ => b

/-- `beforeRequest`: the breaker after it, and the refusal or the generation the request
runs in. -/
def beforeRequest (b : Breaker) (now : Instant) : Breaker × Except GoError Nat :=
  let b := currentState st b now
  if b.state = .open then (b, .error (.sentinel .openState))
  else if b.state = .halfOpen ∧ st.maxRequests ≤ b.counts.requests then
    (b, .error (.sentinel .tooManyRequests))
  else ({ b with counts := b.counts.onRequest }, .ok b.generation)

def onSuccess (b : Breaker) (now : Instant) : Breaker :=
  match b.state with
  | .closed => { b with counts := b.counts.onSuccess }
  | .halfOpen =>
    let b := { b with counts := b.counts.onSuccess }
    if st.maxRequests ≤ b.counts.consecutiveSuccesses then setState st b .closed now else b
  | .open => b

def onFailure (b : Breaker) (now : Instant) : Breaker :=
  match b.state with
  | .closed =>
    let b := { b with counts := b.counts.onFailure }
    if st.readyToTrip b.counts then setState st b .open now else b
  | .halfOpen => setState st b .open now
  | .open => b

/-- `afterRequest`: the outcome of a request of an older generation is dropped. -/
def afterRequest (b : Breaker) (before : Nat) (success : Bool) (now : Instant) : Breaker :=
  let b := currentState st b now
  if b.generation ≠ before then b
  else if success then onSuccess st b now else onFailure st b now

/-- `Execute` of a request with outcome `r`, started at `now` and returning at `now'`; a
request counts as a success when it returns no error. -/
def execute {α : Type} (b : Breaker) (now now' : Instant) (r : Except GoError α) :
    Except GoError α × Breaker :=
  match beforeRequest st b now with
  | (b, .error e) => (.error e, b)
  | (b, .ok gen) => (r, afterRequest st b gen (r matches .ok _) now')

end Breaker

-- ---------------------------------------------------------------------------
-- What every history of a breaker keeps
-- ---------------------------------------------------------------------------

namespace Breaker

/-- The breakers a history of calls reaches: any interleaving of `beforeRequest` and
`afterRequest` of concurrent requests, at any instants. -/
inductive Reachable : Breaker → Prop
  | new (now : Instant) : Reachable (new settings now)
  | before {b : Breaker} (now : Instant) : Reachable b → Reachable (beforeRequest settings b now).1
  | after {b : Breaker} (gen : Nat) (success : Bool) (now : Instant) :
      Reachable b → Reachable (afterRequest settings b gen success now)

/-- What holds of a breaker of `circuitbreaker.New` between calls: closed, it has seen fewer
than five consecutive failures; half-open, it has admitted at most three probes, fewer than
three of them succeeded and none failed; open, it has a timeout. -/
structure Inv (b : Breaker) : Prop where
  whenClosed : b.state = .closed → b.counts.consecutiveFailures < 5
  whenHalfOpen : b.state = .halfOpen →
    b.counts.requests ≤ 3 ∧ b.counts.consecutiveSuccesses < 3 ∧ b.counts.totalFailures = 0
  whenOpen : b.state = .open → b.expiry.isSome

variable {b : Breaker} {now : Instant}

@[simp] theorem state_toNewGeneration : (toNewGeneration settings b now).state = b.state := rfl

@[simp] theorem counts_toNewGeneration :
    (toNewGeneration settings b now).counts = Counts.zero := rfl

/-- A new generation starts with cleared counts, so it keeps the invariant whatever came
before. -/
theorem inv_toNewGeneration : (toNewGeneration settings b now).Inv := by
  refine ⟨fun _ => by simp [Counts.zero], fun _ => by simp [Counts.zero], fun h => ?_⟩
  simp only [state_toNewGeneration] at h
  simp [toNewGeneration, h]

theorem Inv.setState (h : b.Inv) (state : BreakerState) : (setState settings b state now).Inv := by
  unfold Breaker.setState
  split
  · exact h
  · exact inv_toNewGeneration

/-- A change of state starts a new generation. -/
theorem inv_setState_of_ne {state : BreakerState} (hne : b.state ≠ state) :
    (setState settings b state now).Inv := by
  unfold Breaker.setState
  rw [if_neg hne]
  exact inv_toNewGeneration

theorem Inv.currentState (h : b.Inv) : (currentState settings b now).Inv := by
  unfold Breaker.currentState
  split
  · split
    · exact inv_toNewGeneration
    · exact h
  · split
    · exact h.setState _
    · exact h
  · exact h

theorem Inv.beforeRequest (h : b.Inv) : (beforeRequest settings b now).1.Inv := by
  have hc : (Breaker.currentState settings b now).Inv := h.currentState
  unfold Breaker.beforeRequest
  dsimp only
  split
  · exact hc
  split
  · exact hc
  rename_i hopen hhalf
  refine ⟨fun hs => hc.whenClosed hs, fun hs => ?_, fun hs => absurd hs hopen⟩
  obtain ⟨-, hcs, htf⟩ := hc.whenHalfOpen hs
  have : (Breaker.currentState settings b now).counts.requests < 3 := by
    by_contra hle
    exact hhalf ⟨hs, by change 3 ≤ _; omega⟩
  exact ⟨by simp only [Counts.onRequest]; omega, hcs, htf⟩

theorem Inv.onSuccess (h : b.Inv) : (onSuccess settings b now).Inv := by
  unfold Breaker.onSuccess
  split
  · rename_i hs
    exact ⟨fun _ => by simp [Counts.onSuccess], fun h' => by simp [hs] at h',
      fun h' => by simp [hs] at h'⟩
  · rename_i hs
    obtain ⟨hreq, -, htf⟩ := h.whenHalfOpen hs
    dsimp only
    split
    · exact inv_setState_of_ne (by simp [hs])
    · rename_i hlt
      refine ⟨fun h' => by simp [hs] at h', fun _ => ⟨hreq, ?_, htf⟩, fun h' => by simp [hs] at h'⟩
      dsimp only [settings, Counts.onSuccess] at hlt ⊢
      omega
  · exact h

theorem Inv.onFailure (h : b.Inv) : (onFailure settings b now).Inv := by
  unfold Breaker.onFailure
  split
  · rename_i hs
    dsimp only
    split
    · exact inv_setState_of_ne (by simp [hs])
    · rename_i htrip
      refine ⟨fun _ => ?_, fun h' => by simp [hs] at h', fun h' => by simp [hs] at h'⟩
      dsimp only [settings, Counts.onFailure] at htrip ⊢
      simp only [decide_eq_true_eq] at htrip
      omega
  · rename_i hs
    exact inv_setState_of_ne (by simp [hs])
  · exact h

theorem Inv.afterRequest (h : b.Inv) (gen : Nat) (success : Bool) :
    (afterRequest settings b gen success now).Inv := by
  have hc : (Breaker.currentState settings b now).Inv := h.currentState
  unfold Breaker.afterRequest
  dsimp only
  split
  · exact hc
  split
  · exact hc.onSuccess
  · exact hc.onFailure

/-- Every history of a breaker of `circuitbreaker.New` keeps the invariant. -/
theorem Reachable.inv (h : b.Reachable) : b.Inv := by
  induction h with
  | new => exact inv_toNewGeneration
  | before _ _ ih => exact ih.beforeRequest
  | after gen success _ _ ih => exact ih.afterRequest gen success

/-- A fresh breaker that let one request through and saw it fail. -/
theorem inv_after_failure :
    (afterRequest settings (beforeRequest settings (new settings 0) 1).1 1 false 2).Inv :=
  Reachable.inv (.after 1 false 2 (.before 1 (.new 0)))

end Breaker

-- ---------------------------------------------------------------------------
-- The webhook
-- ---------------------------------------------------------------------------

/-- How the HTTP exchange of `doSend` ends. -/
inductive Exchange
  /-- `http.NewRequestWithContext` failed. -/
  | requestError (e : String)
  /-- `httpClient.Do` failed: connecting, sending, or the 5 s timeout. -/
  | transportError (e : String)
  /-- `io.ReadAll` of the response body failed. -/
  | bodyError (e : String)
  /-- A response was read: its status code, its body, and the `webhookResponse` the body
  decodes to, if it does. -/
  | response (status : Nat) (body : String) (decoded : Option ProviderResponse)
deriving DecidableEq, Repr

/-- `isTransientError`: 429 and 500, 502, 503, 504. -/
def isTransientError (statusCode : Nat) : Bool :=
  statusCode = 429 || statusCode = 500 || statusCode = 502 || statusCode = 503 ||
    statusCode = 504

/-- `doSend`; `fallback` is the response it makes up when the body does not decode (a fresh
`uuid.New()` and the clock). -/
def doSend (x : Exchange) (fallback : ProviderResponse) : Except GoError ProviderResponse :=
  match x with
  | .requestError e => .error (.other e)
  | .transportError e => .error (.wrap .providerUnavailable e)
  | .bodyError e => .error (.other e)
  | .response status body decoded =>
    if isTransientError status then .error (.wrap .providerUnavailable s!"status {status}")
    else if 400 ≤ status then
      .error (.other s!"permanent provider error: status {status}, body: {body}")
    else .ok (decoded.getD fallback)

/-- The per-channel breakers of a `WebhookProvider`. -/
structure WebhookProvider where
  breakers : List (Channel × Breaker)
deriving Repr

/-- `NewWebhookProvider` at `now`: a breaker for each of the three channels. -/
def WebhookProvider.new (now : Instant) : WebhookProvider :=
  ⟨[(.sms, Breaker.new settings now), (.email, Breaker.new settings now),
    (.push, Breaker.new settings now)]⟩

/-- `WebhookProvider.Send` of a notification on channel `c`: the channel's breaker (a new one,
stored, for a channel without one) executes `doSend`. -/
def WebhookProvider.send (p : WebhookProvider) (c : Channel) (now now' : Instant) (x : Exchange)
    (fallback : ProviderResponse) : Except GoError ProviderResponse × WebhookProvider :=
  let b := (p.breakers.lookup c).getD (Breaker.new settings now)
  let (r, b') := b.execute settings now now' (doSend x fallback)
  (r, ⟨(c, b') :: p.breakers.filter (·.1 ≠ c)⟩)

-- ---------------------------------------------------------------------------
-- Which errors the worker retries
-- ---------------------------------------------------------------------------

namespace Breaker

variable {st : Settings} {b : Breaker} {now : Instant}

/-- An open breaker refuses every request until its timeout has passed. -/
theorem beforeRequest_open {e : Instant} (hs : b.state = .open) (he : b.expiry = some e)
    (hle : now ≤ e) : beforeRequest st b now = (b, .error (.sentinel .openState)) := by
  have hc : currentState st b now = b := by
    unfold currentState
    split <;> simp_all
  simp [beforeRequest, hc, hs]

/-- A breaker refuses only with one of gobreaker's two sentinels. -/
theorem beforeRequest_error {e : GoError} (h : (beforeRequest st b now).2 = .error e) :
    e = .sentinel .openState ∨ e = .sentinel .tooManyRequests := by
  unfold beforeRequest at h
  dsimp only at h
  split at h
  · cases h; exact .inl rfl
  split at h
  · cases h; exact .inr rfl
  · cases h

/-- `Execute` returns a refusal or the request's own error. -/
theorem execute_error {α : Type} {now' : Instant} {r : Except GoError α} {e : GoError}
    (h : (execute st b now now' r).1 = .error e) :
    e = .sentinel .openState ∨ e = .sentinel .tooManyRequests ∨ r = .error e := by
  unfold execute at h
  split at h
  · rename_i heq
    cases h
    rcases beforeRequest_error (congrArg Prod.snd heq) with h | h <;> simp [h]
  · exact .inr (.inr h)

end Breaker

/-- `isTransient` accepts an error of `doSend` exactly when the transport failed or the
status is one `isTransientError` lists. -/
theorem doSend_error_transient {x : Exchange} {fb : ProviderResponse} {e : GoError}
    (h : doSend x fb = .error e) :
    isTransient e = true ↔ (∃ t, x = .transportError t) ∨
      ∃ status body d, x = .response status body d ∧ isTransientError status = true := by
  cases x with
  | requestError t => cases h; simp [isTransient]
  | transportError t => cases h; simp [isTransient]
  | bodyError t => cases h; simp [isTransient]
  | response status body d =>
    simp only [doSend] at h
    split at h
    · cases h; simp [isTransient, *]
    · split at h
      · cases h; simp [isTransient, *]
      · cases h

/-- Every error `Send` returns is a breaker refusal, which `isTransient` rejects, or an error
of `doSend`, which it accepts exactly for a transport failure or a transient status: a failed
request build or body read is permanent to the worker, like a refusal. -/
theorem send_error_classified {p : WebhookProvider} {c : Channel} {now now' : Instant}
    {x : Exchange} {fb : ProviderResponse} {e : GoError} (h : (p.send c now now' x fb).1 = .error e) :
    ((e = .sentinel .openState ∨ e = .sentinel .tooManyRequests) ∧ isTransient e = false) ∨
      (doSend x fb = .error e ∧ (isTransient e = true ↔ (∃ t, x = .transportError t) ∨
        ∃ status body d, x = .response status body d ∧ isTransientError status = true)) := by
  rcases Breaker.execute_error h with rfl | rfl | hd
  · exact .inl ⟨.inl rfl, rfl⟩
  · exact .inl ⟨.inr rfl, rfl⟩
  · exact .inr ⟨hd, doSend_error_transient hd⟩

/-- A transport failure through a fresh breaker comes back as a transient error. -/
theorem send_error_classified_transport : ∃ e,
    ((WebhookProvider.new 0).send .sms 1 1 (.transportError "connection refused") ⟨"", "", ""⟩).1 =
      .error e ∧ isTransient e = true := by
  have h : ((WebhookProvider.new 0).send .sms 1 1 (.transportError "connection refused")
      ⟨"", "", ""⟩).1 = .error (.wrap .providerUnavailable "connection refused") := rfl
  refine ⟨_, h, ?_⟩
  rcases send_error_classified h with ⟨he | he, -⟩ | ⟨-, ht⟩
  · cases he
  · cases he
  · exact ht.2 (.inl ⟨_, rfl⟩)

/-- `Send` on a channel whose breaker refuses returns the refusal, whatever the webhook would
have done. -/
theorem WebhookProvider.send_refused {p : WebhookProvider} {c : Channel} {b : Breaker}
    {now now' : Instant} {e : GoError} (hb : p.breakers.lookup c = some b)
    (hr : Breaker.beforeRequest settings b now = (b, .error e)) (x : Exchange)
    (fb : ProviderResponse) : (p.send c now now' x fb).1 = .error e := by
  simp [WebhookProvider.send, hb, Breaker.execute, hr]

/-- Five transport failures open the SMS breaker; the next `Send` is refused without calling
the webhook, `isTransient` rejects the refusal, and the worker marks the row failed instead of
retrying it. A failed body read is permanent in the same way. -/
theorem breaker_refusal_marks_failed (x : Exchange) (fb : ProviderResponse) (n : Notification) :
    let p := [1, 2, 3, 4, 5].foldl
      (fun p t => (p.send .sms t t (.transportError "connection refused") fb).2)
      (WebhookProvider.new 0)
    (p.send .sms 6 6 x fb).1 = .error (.sentinel .openState) ∧
      isTransient (.sentinel .openState) = false ∧
      (∃ n', afterSend n 6 (.error (.sentinel .openState)) = .failing n') ∧
      ∀ t, doSend (.bodyError t) fb = .error (.other t) ∧ isTransient (.other t) = false := by
  intro p
  -- the history does not read the fallback response
  have hp : p = [1, 2, 3, 4, 5].foldl
      (fun p t => (p.send .sms t t (.transportError "connection refused") ⟨"", "", ""⟩).2)
      (WebhookProvider.new 0) := rfl
  have hb : p.breakers.lookup .sms = some ⟨.open, 2, Counts.zero, some 30000005⟩ := by
    rw [hp]; decide
  exact ⟨WebhookProvider.send_refused hb (Breaker.beforeRequest_open rfl rfl (by decide)) x fb,
    rfl, ⟨_, rfl⟩, fun _ => ⟨rfl, rfl⟩⟩

end Provider
