import NotificationsEngine.RateLimit.TokenBucket
import NotificationsEngine.Library.CappedRefill
import Mathlib.Data.Int.ConditionallyCompleteOrder
import Mathlib.Tactic.FieldSimp
import Mathlib.Tactic.Ring

/-!
# What the limiter admits

On one key with a clock that does not go back, the script admits a call exactly
when every window that starts at a call keeps the rate bound.  Tokens are whole
multiples of `1 / period_ms`, so for periods below `10^9` neither the tolerance
nor the clamp ever changes anything.
-/

namespace NotificationsEngine

open CappedRefill

/-- The hash that call `n` finds, when the calls are made at these times from an absent key. -/
def storedBefore (limit : Limit) (times : ℕ → ℤ) : ℕ → Option Bucket
  | 0 => none
  | n + 1 => some (consume limit (storedBefore limit times n) (times n)).bucket

def allowedAt (limit : Limit) (times : ℕ → ℤ) (n : ℕ) : Bool :=
  (consume limit (storedBefore limit times n) (times n)).allowed

/-- The script without its tolerance and its clamp. -/
def consumeExact (limit : Limit) (stored : Option Bucket) (now : Int) : ScriptRun :=
  let tokens := refilled limit stored now
  if 1 ≤ tokens then
    { bucket := ⟨tokens - 1, now⟩
      pexpire := limit.refillPeriodMs * 2
      allowed := true
      retryAfter := 0 }
  else
    { bucket := ⟨tokens, now⟩
      pexpire := limit.refillPeriodMs * 2
      allowed := false
      retryAfter := retryAfterSeconds limit (1 - tokens) }

theorem consumeExact_of_enough {limit : Limit} {stored : Option Bucket} {now : Int}
    (enough : 1 ≤ refilled limit stored now) :
    consumeExact limit stored now =
      { bucket := ⟨refilled limit stored now - 1, now⟩
        pexpire := limit.refillPeriodMs * 2, allowed := true, retryAfter := 0 } := if_pos enough

theorem consumeExact_of_short {limit : Limit} {stored : Option Bucket} {now : Int}
    (short : ¬ 1 ≤ refilled limit stored now) :
    consumeExact limit stored now =
      { bucket := ⟨refilled limit stored now, now⟩
        pexpire := limit.refillPeriodMs * 2, allowed := false
        retryAfter := retryAfterSeconds limit (1 - refilled limit stored now) } := if_neg short

/-! ## The grid of possible token counts -/

/-- A whole multiple of `1 / period_ms`. -/
def OnGrid (limit : Limit) (tokens : ℚ) : Prop := ∃ k : ℤ, tokens = k / limit.refillPeriodMs

theorem onGrid_capacity (limit : Limit) : OnGrid limit limit.capacity := by
  refine ⟨limit.capacity * limit.refillPeriodMs, ?_⟩
  have positive := limit.refillPeriodMs_cast_pos
  push_cast
  field_simp

theorem OnGrid.sub_one {limit : Limit} {tokens : ℚ} (grid : OnGrid limit tokens) :
    OnGrid limit (tokens - 1) := by
  obtain ⟨k, rfl⟩ := grid
  refine ⟨k - limit.refillPeriodMs, ?_⟩
  have positive := limit.refillPeriodMs_cast_pos
  push_cast
  field_simp

/-- Every millisecond adds `capacity` steps of the grid. -/
theorem OnGrid.refill {limit : Limit} {tokens : ℚ} (grid : OnGrid limit tokens) (elapsed : ℤ) :
    OnGrid limit (tokens + elapsed * limit.rate) := by
  obtain ⟨k, rfl⟩ := grid
  refine ⟨k + elapsed * limit.capacity, ?_⟩
  have positive := limit.refillPeriodMs_cast_pos
  rw [Limit.rate]
  push_cast
  field_simp

theorem OnGrid.min {limit : Limit} {first second : ℚ} (hfirst : OnGrid limit first)
    (hsecond : OnGrid limit second) : OnGrid limit (min first second) := by
  rcases min_choice first second with same | same
  · rwa [same]
  · rwa [same]

theorem onGrid_refilled {limit : Limit} {stored : Option Bucket}
    (grid : ∀ bucket, stored = some bucket → OnGrid limit bucket.tokens) (now : Int) :
    OnGrid limit (refilled limit stored now) := by
  have base : OnGrid limit (stored.getD ⟨limit.capacity, now⟩).tokens := by
    cases stored with
    | none => exact onGrid_capacity limit
    | some bucket => exact grid bucket rfl
  exact (onGrid_capacity limit).min (base.refill _)

/-- Just below one token the grid leaves a gap wider than the tolerance. -/
theorem OnGrid.tolerance_harmless {limit : Limit} {tokens : ℚ} (grid : OnGrid limit tokens)
    (period : limit.refillPeriodMs < 10 ^ 9) : 1 ≤ tokens + tolerance ↔ 1 ≤ tokens := by
  have positive := limit.refillPeriodMs_cast_pos
  refine ⟨fun nearly => ?_, fun enough => enough.trans (le_add_of_nonneg_right tolerance_nonneg)⟩
  obtain ⟨k, rfl⟩ := grid
  by_contra short
  rw [not_le, div_lt_one positive] at short
  have below : k + 1 ≤ limit.refillPeriodMs := by exact_mod_cast short
  have gap : (k : ℚ) / limit.refillPeriodMs ≤ 1 - 1 / limit.refillPeriodMs := by
    rw [le_sub_iff_add_le, ← add_div, div_le_one positive]
    exact_mod_cast below
  have wide : tolerance < 1 / limit.refillPeriodMs := by
    rw [tolerance]
    exact one_div_lt_one_div_of_lt positive (by exact_mod_cast period)
  linarith

/-- Neither the tolerance nor the clamp changes a run of the script. -/
theorem consume_eq_exact {limit : Limit} {stored : Option Bucket}
    (grid : ∀ bucket, stored = some bucket → OnGrid limit bucket.tokens)
    (period : limit.refillPeriodMs < 10 ^ 9) (now : Int) :
    consume limit stored now = consumeExact limit stored now := by
  have same := (onGrid_refilled grid now).tolerance_harmless period
  by_cases enough : 1 ≤ refilled limit stored now
  · rw [consume_of_enough (same.mpr enough), max_eq_left (sub_nonneg.mpr enough)]
    exact (consumeExact_of_enough enough).symm
  · rw [consume_of_short (same.not.mpr enough)]
    exact (consumeExact_of_short enough).symm

/-! ## Runs of calls on one key -/

section Runs

variable (limit : Limit) (times : ℕ → ℤ)

theorem storedBefore_bounded (n : ℕ) :
    ∀ bucket, storedBefore limit times n = some bucket → bucket.Bounded limit := by
  induction n with
  | zero => rintro _ ⟨⟩
  | succ n ih =>
      rintro _ ⟨⟩
      exact consume_bounded limit (times n) ih

theorem storedBefore_onGrid (period : limit.refillPeriodMs < 10 ^ 9) (n : ℕ) :
    ∀ bucket, storedBefore limit times n = some bucket → OnGrid limit bucket.tokens := by
  induction n with
  | zero => rintro _ ⟨⟩
  | succ n ih =>
      rintro _ ⟨⟩
      rw [consume_eq_exact ih period]
      have grid := onGrid_refilled ih (times n)
      by_cases enough : 1 ≤ refilled limit (storedBefore limit times n) (times n)
      · rw [consumeExact_of_enough enough]
        exact grid.sub_one
      · rw [consumeExact_of_short enough]
        exact grid

variable {limit times}

/-- A call is allowed when it finds a whole token. -/
theorem allowedAt_iff (period : limit.refillPeriodMs < 10 ^ 9) (n : ℕ) :
    allowedAt limit times n = true ↔
      1 ≤ refilled limit (storedBefore limit times n) (times n) := by
  rw [allowedAt, consume_eq_exact (storedBefore_onGrid limit times period n) period]
  by_cases enough : 1 ≤ refilled limit (storedBefore limit times n) (times n)
  · rw [consumeExact_of_enough enough]
    exact ⟨fun _ => enough, fun _ => rfl⟩
  · rw [consumeExact_of_short enough]
    exact ⟨by rintro ⟨⟩, fun found => absurd found enough⟩

/-- A call leaves the tokens it finds, less the one it takes. -/
theorem tokens_after (period : limit.refillPeriodMs < 10 ^ 9) (n : ℕ) :
    (consume limit (storedBefore limit times n) (times n)).bucket.tokens =
      refilled limit (storedBefore limit times n) (times n) -
        if allowedAt limit times n then 1 else 0 := by
  rw [consume_eq_exact (storedBefore_onGrid limit times period n) period]
  by_cases enough : 1 ≤ refilled limit (storedBefore limit times n) (times n)
  · rw [consumeExact_of_enough enough, if_pos ((allowedAt_iff period n).mpr enough)]
  · rw [consumeExact_of_short enough, if_neg ((allowedAt_iff period n).not.mpr enough), sub_zero]

/-- The script computes the level of a capped refill. -/
theorem refilled_eq_level (period : limit.refillPeriodMs < 10 ^ 9) (ordered : Monotone times)
    (n : ℕ) :
    refilled limit (storedBefore limit times n) (times n) =
      level (limit.capacity : ℚ) limit.rate (fun k => (times k : ℚ)) (allowedAt limit times) n := by
  induction n with
  | zero => exact refilled_none limit (times 0)
  | succ n ih =>
      rw [storedBefore, refilled_some limit (by simpa using ordered (Nat.le_succ n)),
        tokens_after period n, ih, consume_ts, level]

end Runs

/-- How many of the calls `i, ..., n - 1` were allowed. -/
abbrev allowedBetween (limit : Limit) (times : ℕ → ℤ) (i n : ℕ) : ℕ :=
  admitted (allowedAt limit times) i n

structure LimiterMeaning (limit : Limit) (times : ℕ → ℤ) : Prop where
  window : ∀ n, allowedAt limit times n = true ↔ ∀ i ≤ n,
    (allowedBetween limit times i n : ℚ) + 1 ≤
      limit.capacity + (limit.capacity : ℚ) / limit.refillPeriodMs * (times n - times i)
  maximum : ∀ other : ℕ → Bool,
    (∀ n, other n = true → ∀ i ≤ n, (admitted other i n : ℚ) + 1 ≤
      limit.capacity + (limit.capacity : ℚ) / limit.refillPeriodMs * (times n - times i)) →
        ∀ n, admitted other 0 n ≤ allowedBetween limit times 0 n
  tokens : ∀ n bucket, storedBefore limit times n = some bucket →
    0 ≤ bucket.tokens ∧ bucket.tokens ≤ limit.capacity
  exact : ∀ n, consume limit (storedBefore limit times n) (times n) =
    consumeExact limit (storedBefore limit times n) (times n)

/--
For every capacity, every period below `10^9` and every non-decreasing sequence
of times from an absent key, the limiter admits greedily under the rate bound
over every window that starts at a call.
-/
theorem limiter_meaning (limit : Limit) (period : limit.refillPeriodMs < 10 ^ 9)
    (times : ℕ → ℤ) (ordered : Monotone times) : LimiterMeaning limit times := by
  have greedy : Greedy (limit.capacity : ℚ) limit.rate (fun k => (times k : ℚ))
      (allowedAt limit times) :=
    greedy_of_level fun n => by rw [allowedAt_iff period, refilled_eq_level period ordered]
  exact
    { window := greedy
      maximum := fun other within n => greedy.admitted_le within n
      tokens := storedBefore_bounded limit times
      exact := fun n => consume_eq_exact (storedBefore_onGrid limit times period n) period _ }

def tenPerMinute : Limit := ⟨10, 60000, by decide, by decide⟩

/-- A call every second. -/
theorem limiter_meaning_everySecond : LimiterMeaning tenPerMinute fun n => 1000 * n :=
  limiter_meaning tenPerMinute (by decide) _ fun _ _ ordered =>
    mul_le_mul_of_nonneg_left (Int.ofNat_le.mpr ordered) (by decide)

end NotificationsEngine
