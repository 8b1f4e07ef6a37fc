-- SUMMARY: The HTTP rate limiter's token bucket over exact rationals: its bound over any run of calls.
import Mathlib.Algebra.Order.Field.Rat
import Mathlib.Data.List.Chain
import Mathlib.Tactic.Linarith

/-!
# The HTTP rate limiter: `middleware.RateLimit`

The token bucket of `rateLimiter`, with its `float64` fields and `time.Time` read as exact
rationals (seconds). The mutex only serializes `allow`, so a run of the limiter is its calls in
the order they take the lock, each at the time it reads, and those times do not decrease.

The bucket never holds a negative count nor more than its rate (`Bounded`), and within any
window `[a, b]` it lets through at most `r + r * (b - a)` calls (`admitted_window_le`): what it
starts the window with, and what it refills over the window.
-/

namespace Middleware

/-- `rateLimiter`. -/
structure RateLimiter where
  tokens : ℚ
  maxTokens : ℚ
  refillRate : ℚ
  lastRefill : ℚ
deriving DecidableEq

/-- `newRateLimiter`, created at `now`: a full bucket. -/
def newRateLimiter (requestsPerSecond now : ℚ) : RateLimiter :=
  ⟨requestsPerSecond, requestsPerSecond, requestsPerSecond, now⟩

namespace RateLimiter

/-- `allow` at `now`: refill for the time elapsed, capped at `maxTokens`, then hand out a token
if a whole one is there. -/
def allow (rl : RateLimiter) (now : ℚ) : RateLimiter × Bool :=
  let elapsed := now - rl.lastRefill
  let tokens := rl.tokens + elapsed * rl.refillRate
  let tokens := if tokens > rl.maxTokens then rl.maxTokens else tokens
  if tokens ≥ 1 then ({ rl with tokens := tokens - 1, lastRefill := now }, true)
  else ({ rl with tokens := tokens, lastRefill := now }, false)

/-- The answers of `allow` to calls at the times `ts`, in order. -/
def answers (rl : RateLimiter) : List ℚ → List Bool
  | [] => []
  | t :: ts => (rl.allow t).2 :: (rl.allow t).1.answers ts

/-- Three calls at once to a bucket of rate 2 find two tokens; a second later it has refilled. -/
example : (newRateLimiter 2 0).answers [0, 0, 0, 1] = [true, true, false, true] := by
  norm_num [answers, allow, newRateLimiter]

/-- The limiter after calls at the times `ts`. -/
def afterAll (rl : RateLimiter) : List ℚ → RateLimiter
  | [] => rl
  | t :: ts => (rl.allow t).1.afterAll ts

/-- The calls at the times `ts` in the window `[a, b]` that `allow` lets through. -/
def admittedIn (rl : RateLimiter) (ts : List ℚ) (a b : ℚ) : ℕ :=
  ((ts.zip (rl.answers ts)).filter fun p => a ≤ p.1 ∧ p.1 ≤ b ∧ p.2 = true).length

/-- The count `allow` refills to at `now`, before it hands out a token. -/
def refilled (rl : RateLimiter) (now : ℚ) : ℚ :=
  min (rl.tokens + (now - rl.lastRefill) * rl.refillRate) rl.maxTokens

variable {rl : RateLimiter} {t : ℚ}

@[simp] theorem maxTokens_allow : (rl.allow t).1.maxTokens = rl.maxTokens := by
  dsimp only [allow]; split_ifs <;> rfl

@[simp] theorem refillRate_allow : (rl.allow t).1.refillRate = rl.refillRate := by
  dsimp only [allow]; split_ifs <;> rfl

@[simp] theorem lastRefill_allow : (rl.allow t).1.lastRefill = t := by
  dsimp only [allow]; split_ifs <;> rfl

/-- `allow` hands out a token exactly when a whole one is refilled, and keeps the rest. -/
theorem allow_spec (rl : RateLimiter) (t : ℚ) :
    ((rl.allow t).2 = true ∧ 1 ≤ rl.refilled t ∧ (rl.allow t).1.tokens = rl.refilled t - 1) ∨
      ((rl.allow t).2 = false ∧ rl.refilled t < 1 ∧ (rl.allow t).1.tokens = rl.refilled t) := by
  have hmin : (if rl.tokens + (t - rl.lastRefill) * rl.refillRate > rl.maxTokens then rl.maxTokens
      else rl.tokens + (t - rl.lastRefill) * rl.refillRate) = rl.refilled t := by
    unfold refilled; split <;> simp only [min_def] <;> split <;> linarith
  unfold allow
  simp only [hmin]
  split
  · exact .inl ⟨rfl, ‹_›, rfl⟩
  · exact .inr ⟨rfl, lt_of_not_le ‹_›, rfl⟩

/-- `allow` keeps of the refilled count all but the token it hands out. -/
theorem allow_tokens (rl : RateLimiter) (t : ℚ) :
    (rl.allow t).1.tokens + (if (rl.allow t).2 then 1 else 0) = rl.refilled t := by
  rcases allow_spec rl t with ⟨hok, -, htok⟩ | ⟨hok, -, htok⟩ <;> simp [hok, htok]

/-- A call counts in a window only if it was let through. -/
theorem indicator_le (c d : Prop) [Decidable c] [Decidable d] (ok : Bool) :
    (if c ∧ d ∧ ok = true then 1 else 0 : ℚ) ≤ if ok then 1 else 0 := by
  split_ifs <;> simp_all

/-- The bucket of rate `r`: size and refill rate `r`, and a count in `[0, r]`. -/
structure Bounded (r : ℚ) (rl : RateLimiter) : Prop where
  maxTokens : rl.maxTokens = r
  refillRate : rl.refillRate = r
  nonneg : 0 ≤ rl.tokens
  le : rl.tokens ≤ r

theorem bounded_new {r : ℚ} (hr : 0 ≤ r) (now : ℚ) : (newRateLimiter r now).Bounded r :=
  ⟨rfl, rfl, hr, le_rfl⟩

/-- A call no earlier than the last refill keeps the bucket bounded. -/
theorem Bounded.allow {r : ℚ} (h : rl.Bounded r) (ht : rl.lastRefill ≤ t) :
    (rl.allow t).1.Bounded r := by
  have hle : rl.refilled t ≤ r := h.maxTokens ▸ min_le_right _ _
  have hge : 0 ≤ rl.refilled t := le_min (by rw [h.refillRate]; linarith [h.nonneg, mul_nonneg (sub_nonneg.2 ht) (h.nonneg.trans h.le)])
    (h.maxTokens ▸ h.nonneg.trans h.le)
  refine ⟨by simp [h.maxTokens], by simp [h.refillRate], ?_, ?_⟩ <;>
    rcases allow_spec rl t with ⟨-, h1, h2⟩ | ⟨-, -, h2⟩ <;> rw [h2] <;> linarith

/-- Calls at non-decreasing times from the last refill on keep the bucket bounded after each. -/
theorem Bounded.afterAll {r : ℚ} (h : rl.Bounded r) {ts : List ℚ}
    (hts : ts.Chain (· ≤ ·) rl.lastRefill) (k : ℕ) : (rl.afterAll (ts.take k)).Bounded r := by
  induction ts generalizing rl k with
  | nil => rw [List.take_nil]; exact h
  | cons t ts ih =>
    obtain ⟨ht, hts⟩ := List.chain_cons.1 hts
    cases k with
    | zero => exact h
    | succ k => exact ih (h.allow ht) (lastRefill_allow.symm ▸ hts) k

@[simp] theorem admittedIn_nil (a b : ℚ) : rl.admittedIn [] a b = 0 := rfl

theorem admittedIn_cons (ts : List ℚ) (a b : ℚ) :
    rl.admittedIn (t :: ts) a b =
      (rl.allow t).1.admittedIn ts a b + if a ≤ t ∧ t ≤ b ∧ (rl.allow t).2 = true then 1 else 0 := by
  simp only [admittedIn, answers, List.zip_cons_cons, List.filter_cons]
  split <;> simp_all [Nat.add_comm]

/-- No call after `b` counts in a window that ends at `b`. -/
theorem admittedIn_eq_zero {ts : List ℚ} (hts : ts.Chain (· ≤ ·) t) {a b : ℚ} (hb : b < t)
    (rl' : RateLimiter) : rl'.admittedIn ts a b = 0 := by
  rw [admittedIn, List.length_eq_zero, List.filter_eq_nil_iff]
  rintro ⟨x, ok⟩ hp hq
  have := hts.rel (List.of_mem_zip hp).1
  simp only [decide_eq_true_eq] at hq
  linarith [hq.2.1]

/-- Up to `b`, the bucket lets through at most what it holds and what it refills until `b`. -/
theorem admittedIn_le {r : ℚ} (hr : 0 ≤ r) (h : rl.Bounded r) {ts : List ℚ}
    (hts : ts.Chain (· ≤ ·) rl.lastRefill) (a : ℚ) {b : ℚ} (hb : rl.lastRefill ≤ b) :
    (rl.admittedIn ts a b : ℚ) ≤ rl.tokens + r * (b - rl.lastRefill) := by
  induction ts generalizing rl with
  | nil => exact_mod_cast add_nonneg h.nonneg (mul_nonneg hr (sub_nonneg.2 hb))
  | cons t ts ih =>
    obtain ⟨ht, hts⟩ := List.chain_cons.1 hts
    rw [admittedIn_cons]
    by_cases htb : b < t
    · rw [admittedIn_eq_zero hts htb, if_neg fun h' => absurd h'.2.1 (not_le.2 htb)]
      exact_mod_cast add_nonneg h.nonneg (mul_nonneg hr (sub_nonneg.2 hb))
    · have hrest := ih (h.allow ht) (lastRefill_allow.symm ▸ hts)
        (lastRefill_allow.symm ▸ not_lt.1 htb)
      have hrefill : rl.refilled t ≤ rl.tokens + (t - rl.lastRefill) * r :=
        h.refillRate ▸ min_le_left _ _
      simp only [lastRefill_allow] at hrest
      push_cast
      linarith [indicator_le (a ≤ t) (t ≤ b) (rl.allow t).2, allow_tokens rl t]

/-- Within a window `[a, b]`, the bucket of rate `r` lets through at most `r + r * (b - a)`. -/
theorem admittedIn_window_le {r : ℚ} (hr : 0 ≤ r) (h : rl.Bounded r) {ts : List ℚ}
    (hts : ts.Chain (· ≤ ·) rl.lastRefill) {a b : ℚ} (hab : a ≤ b) :
    (rl.admittedIn ts a b : ℚ) ≤ r + r * (b - a) := by
  induction ts generalizing rl with
  | nil => exact_mod_cast add_nonneg hr (mul_nonneg hr (sub_nonneg.2 hab))
  | cons t ts ih =>
    obtain ⟨ht, hts⟩ := List.chain_cons.1 hts
    rw [admittedIn_cons]
    by_cases hta : t < a
    · rw [if_neg fun h' => absurd h'.1 (not_le.2 hta), Nat.add_zero]
      exact ih (h.allow ht) (lastRefill_allow.symm ▸ hts)
    by_cases htb : b < t
    · rw [admittedIn_eq_zero hts htb, if_neg fun h' => absurd h'.2.1 (not_le.2 htb)]
      exact_mod_cast add_nonneg hr (mul_nonneg hr (sub_nonneg.2 hab))
    have hrest := admittedIn_le (b := b) hr (h.allow ht) (by rw [lastRefill_allow]; exact hts) a
      (by rw [lastRefill_allow]; exact not_lt.1 htb)
    have hrefill : rl.refilled t ≤ r := h.maxTokens ▸ min_le_right _ _
    simp only [lastRefill_allow] at hrest
    push_cast
    linarith [indicator_le (a ≤ t) (t ≤ b) (rl.allow t).2, allow_tokens rl t,
      mul_le_mul_of_nonneg_left (sub_le_sub_left (not_lt.1 hta) b) hr]

end RateLimiter

open RateLimiter

/-- A limiter of rate `r`, created at `now` and called at non-decreasing times `ts`: after every
call its count is in `[0, r]`, and within every window `[a, b]` at most `r + r * (b - a)` calls
are let through. -/
theorem rateLimit_bounded (r now : ℚ) (hr : 0 ≤ r) (ts : List ℚ) (hts : ts.Chain (· ≤ ·) now) :
    (∀ k, 0 ≤ ((newRateLimiter r now).afterAll (ts.take k)).tokens ∧
      ((newRateLimiter r now).afterAll (ts.take k)).tokens ≤ r) ∧
    ∀ a b, a ≤ b → ((newRateLimiter r now).admittedIn ts a b : ℚ) ≤ r + r * (b - a) := by
  have h := bounded_new hr now
  exact ⟨fun k => ⟨(h.afterAll hts k).nonneg, (h.afterAll hts k).le⟩,
    fun a b hab => admittedIn_window_le hr h hts hab⟩

/-- A bucket of rate 2 created at time 0, called three times at once and then a second later. -/
theorem rateLimit_bounded_burst : (0 : ℚ) ≤ 2 ∧ [(0 : ℚ), 0, 0, 1].Chain (· ≤ ·) 0 ∧
    (∀ k, 0 ≤ ((newRateLimiter 2 0).afterAll ([0, 0, 0, 1].take k)).tokens ∧
      ((newRateLimiter 2 0).afterAll ([0, 0, 0, 1].take k)).tokens ≤ 2) ∧
    ∀ a b, a ≤ b → ((newRateLimiter 2 0).admittedIn [0, 0, 0, 1] a b : ℚ) ≤ 2 + 2 * (b - a) :=
  ⟨by norm_num, by norm_num, rateLimit_bounded 2 0 (by norm_num) [0, 0, 0, 1] (by norm_num)⟩

end Middleware
