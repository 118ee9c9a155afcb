import NotificationsEngine.RateLimit.WindowLaw
import Mathlib.Algebra.Order.Archimedean.Real.Basic

/-!
# What Retry-After promises

A refused caller is told a number of whole seconds.  Waiting that long is
enough, waiting a second less is not, and the number never exceeds the time
that one token takes, rounded up.
-/

namespace NotificationsEngine

open CappedRefill

def retryAfterAt (limit : Limit) (times : ℕ → ℤ) (n : ℕ) : ℤ :=
  (consume limit (storedBefore limit times n) (times n)).retryAfter

/-! ## The seconds of one refusal -/

section Seconds

variable {limit : Limit} {missing : ℚ} {seconds : ℤ}

theorem retryAfterSeconds_eq_max (limit : Limit) (missing : ℚ) :
    retryAfterSeconds limit missing = max 1 ⌈missing / limit.rate / 1000⌉ := by
  unfold retryAfterSeconds
  dsimp only
  split
  · next short => exact (max_eq_left short.le).symm
  · next long => exact (max_eq_right (not_lt.mp long)).symm

/-- The wait covers what is missing. -/
theorem missing_le_of_wait (waited : retryAfterSeconds limit missing ≤ seconds) :
    missing ≤ limit.rate * (1000 * seconds) := by
  rw [retryAfterSeconds_eq_max] at waited
  have covered : missing / limit.rate / 1000 ≤ seconds :=
    Int.ceil_le.mp ((le_max_right _ _).trans waited)
  rw [div_div, div_le_iff₀ (mul_pos limit.rate_pos (by norm_num))] at covered
  linarith

/-- A second less does not, unless one second is all that is asked. -/
theorem lt_missing_of_wait (long : 1 < retryAfterSeconds limit missing)
    (waited : seconds < retryAfterSeconds limit missing) :
    limit.rate * (1000 * seconds) < missing := by
  rw [retryAfterSeconds_eq_max] at long waited
  have ceil : max 1 ⌈missing / limit.rate / 1000⌉ = ⌈missing / limit.rate / 1000⌉ :=
    max_eq_right (by omega)
  rw [ceil] at waited
  have short := Int.lt_ceil.mp waited
  rw [div_div, lt_div_iff₀ (mul_pos limit.rate_pos (by norm_num))] at short
  linarith

/-- The wait is never longer than that for a whole token. -/
theorem retryAfterSeconds_le (below : missing ≤ 1) :
    retryAfterSeconds limit missing ≤
      max 1 ⌈(limit.refillPeriodMs : ℚ) / (1000 * limit.capacity)⌉ := by
  rw [retryAfterSeconds_eq_max]
  refine max_le_max_left 1 (Int.ceil_le_ceil ?_)
  have token : (limit.refillPeriodMs : ℚ) / (1000 * limit.capacity) = 1 / limit.rate / 1000 := by
    rw [Limit.rate]
    field_simp
  rw [token]
  exact div_le_div_of_nonneg_right (div_le_div_of_nonneg_right below limit.rate_pos.le)
    (by norm_num)

end Seconds

/-! ## Refusals in a run -/

section Runs

variable {limit : Limit} {times : ℕ → ℤ} {n m : ℕ}

def tokensAt (limit : Limit) (times : ℕ → ℤ) (n : ℕ) : ℚ :=
  refilled limit (storedBefore limit times n) (times n)

theorem tokensAt_nonneg (limit : Limit) (times : ℕ → ℤ) (n : ℕ) : 0 ≤ tokensAt limit times n :=
  refilled_nonneg limit (times n) (storedBefore_bounded limit times n)

theorem tokensAt_lt_one (period : limit.refillPeriodMs < 10 ^ 9)
    (denied : allowedAt limit times n = false) : tokensAt limit times n < 1 := by
  refine lt_of_not_ge fun enough => ?_
  rw [(allowedAt_iff period n).mpr enough] at denied
  cases denied

theorem retryAfterAt_of_denied (period : limit.refillPeriodMs < 10 ^ 9)
    (denied : allowedAt limit times n = false) :
    retryAfterAt limit times n = retryAfterSeconds limit (1 - tokensAt limit times n) := by
  have short := tokensAt_lt_one period denied
  rw [retryAfterAt, consume_eq_exact (storedBefore_onGrid limit times period n) period,
    consumeExact_of_short (not_le.mpr short)]
  rfl

/-- What a call finds when all calls since call `n`, and that one, were denied. -/
theorem tokensAt_of_denied (period : limit.refillPeriodMs < 10 ^ 9) (ordered : Monotone times)
    (later : n ≤ m) (denied : ∀ k, n ≤ k → k < m → allowedAt limit times k = false) :
    tokensAt limit times m =
      min (limit.capacity : ℚ)
        (tokensAt limit times n + limit.rate * ((times m : ℚ) - times n)) := by
  rw [tokensAt, tokensAt, refilled_eq_level period ordered, refilled_eq_level period ordered]
  exact level_of_refused limit.rate_pos.le (fun _ _ before => Int.cast_le.mpr (ordered before))
    later denied

/-- The next call after the wait is allowed. -/
theorem allowed_of_wait (period : limit.refillPeriodMs < 10 ^ 9) (ordered : Monotone times)
    (later : n < m) (denied : ∀ k, n ≤ k → k < m → allowedAt limit times k = false)
    (waited : times n + 1000 * retryAfterAt limit times n ≤ times m) :
    allowedAt limit times m = true := by
  have retryAfter := retryAfterAt_of_denied period (denied n le_rfl later)
  have covered := missing_le_of_wait retryAfter.ge
  have elapsed : 1000 * (retryAfterAt limit times n : ℚ) ≤ times m - times n := by
    have waited : (times n : ℚ) + 1000 * retryAfterAt limit times n ≤ times m := by
      exact_mod_cast waited
    linarith
  have gained := mul_le_mul_of_nonneg_left elapsed limit.rate_pos.le
  rw [allowedAt_iff period]
  change 1 ≤ tokensAt limit times m
  rw [tokensAt_of_denied period ordered later.le denied]
  exact le_min limit.capacity_cast_pos (by linarith)

/-- A second earlier, every call is denied. -/
theorem denied_of_short_wait (period : limit.refillPeriodMs < 10 ^ 9) (ordered : Monotone times)
    (denied : allowedAt limit times n = false) (long : 1 < retryAfterAt limit times n)
    (later : n ≤ m) (early : times m ≤ times n + 1000 * (retryAfterAt limit times n - 1)) :
    allowedAt limit times m = false := by
  have retryAfter := retryAfterAt_of_denied period denied
  have short : limit.rate * (1000 * ((retryAfterAt limit times n - 1 : ℤ) : ℚ)) <
      1 - tokensAt limit times n :=
    lt_missing_of_wait (retryAfter ▸ long) (by rw [← retryAfter]; omega)
  induction m using Nat.strong_induction_on with
  | _ m ih =>
    have between : ∀ k, n ≤ k → k < m → allowedAt limit times k = false :=
      fun k from_n before => ih k before from_n ((ordered before.le).trans early)
    have elapsed : (times m : ℚ) - times n ≤ 1000 * ((retryAfterAt limit times n - 1 : ℤ) : ℚ) := by
      have early : (times m : ℚ) ≤ times n + 1000 * ((retryAfterAt limit times n - 1 : ℤ) : ℚ) := by
        exact_mod_cast early
      linarith
    have gained := mul_le_mul_of_nonneg_left elapsed limit.rate_pos.le
    refine Bool.eq_false_iff.mpr fun allowed => ?_
    rw [allowedAt_iff period] at allowed
    change 1 ≤ tokensAt limit times m at allowed
    rw [tokensAt_of_denied period ordered later between] at allowed
    have enough := allowed.trans (min_le_right _ _)
    linarith

end Runs

/-- What the `retry_after_seconds` of a denied call promises. -/
structure RetryAfterMeaning (limit : Limit) (times : ℕ → ℤ) (n : ℕ) : Prop where
  positive : 1 ≤ retryAfterAt limit times n
  bounded : retryAfterAt limit times n ≤
    max 1 ⌈(limit.refillPeriodMs : ℚ) / (1000 * limit.capacity)⌉
  sufficient : ∀ m, n < m → (∀ k, n < k → k < m → allowedAt limit times k = false) →
    times n + 1000 * retryAfterAt limit times n ≤ times m → allowedAt limit times m = true
  tight : 1 < retryAfterAt limit times n → ∀ m, n < m →
    times m ≤ times n + 1000 * (retryAfterAt limit times n - 1) → allowedAt limit times m = false

section Clock

variable {clock : ℕ → ℝ} {times : ℕ → ℤ}

theorem monotone_of_truncated (truncated : ∀ k, times k = nowMs ⌊clock k⌋)
    (ordered : Monotone clock) : Monotone times := fun first second before => by
  have floors := Int.floor_le_floor (ordered before)
  simp only [truncated, nowMs]
  omega

/-- A wait of whole seconds on the clock is one between the truncated times. -/
theorem wait_of_truncated (truncated : ∀ k, times k = nowMs ⌊clock k⌋) {n m : ℕ} {seconds : ℤ}
    (waited : clock n + seconds ≤ clock m) : times n + 1000 * seconds ≤ times m := by
  have floors := Int.floor_le_floor waited
  rw [Int.floor_add_intCast] at floors
  simp only [truncated, nowMs]
  omega

end Clock

/--
For every limit with a period below `10^9` and every history of calls at
non-decreasing times, the wait that a denied call is told is at least one
second and at most that for a whole token, sufficient, and tight to a second.
Read on a real clock of which `consume` uses the whole seconds, it is
sufficient too.
-/
theorem retry_after_meaning (limit : Limit) (period : limit.refillPeriodMs < 10 ^ 9) :
    (∀ times : ℕ → ℤ, Monotone times → ∀ n, allowedAt limit times n = false →
      RetryAfterMeaning limit times n) ∧
    ∀ (clock : ℕ → ℝ) (times : ℕ → ℤ), Monotone clock → (∀ k, times k = nowMs ⌊clock k⌋) →
      ∀ n m, n < m → (∀ k, n ≤ k → k < m → allowedAt limit times k = false) →
        clock n + retryAfterAt limit times n ≤ clock m → allowedAt limit times m = true := by
  constructor
  · intro times ordered n denied
    have retryAfter := retryAfterAt_of_denied period denied
    constructor
    case positive =>
      rw [retryAfter, retryAfterSeconds_eq_max]
      exact le_max_left _ _
    case bounded =>
      rw [retryAfter]
      exact retryAfterSeconds_le (sub_le_self _ (tokensAt_nonneg limit times n))
    case sufficient =>
      intro m later between waited
      refine allowed_of_wait period ordered later (fun k from_n before => ?_) waited
      rcases from_n.lt_or_eq with after | rfl
      · exact between k after before
      · exact denied
    case tight =>
      exact fun long m later early =>
        denied_of_short_wait period ordered denied long later.le early
  · intro clock times ordered truncated n m later denied waited
    exact allowed_of_wait period (monotone_of_truncated truncated ordered) later denied
      (wait_of_truncated truncated waited)

/-- Two calls at once, and all later ones a minute after them. -/
def afterAMinute : ℕ → ℤ
  | 0 => 0
  | 1 => 0
  | _ => 60000

/-- The second call is denied and told to wait for a minute, after which the third is allowed. -/
theorem retry_after_meaning_afterAMinute :
    allowedAt onePerMinute afterAMinute 1 = false ∧
      RetryAfterMeaning onePerMinute afterAMinute 1 ∧
      retryAfterAt onePerMinute afterAMinute 1 = 60 ∧
      allowedAt onePerMinute afterAMinute 2 = true := by
  have ordered : Monotone afterAMinute := monotone_nat_of_le_succ fun n => by
    match n with
    | 0 => decide
    | 1 => decide
    | _ + 2 => exact le_refl _
  have denied : allowedAt onePerMinute afterAMinute 1 = false := by decide +kernel
  have wait : retryAfterAt onePerMinute afterAMinute 1 = 60 := by decide +kernel
  have meaning := (retry_after_meaning onePerMinute (by decide)).1 _ ordered 1 denied
  refine ⟨denied, meaning, wait, meaning.sufficient 2 (by decide) (fun k after before => ?_) ?_⟩
  · omega
  · rw [wait]
    decide

end NotificationsEngine
