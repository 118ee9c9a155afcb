import Mathlib.Data.Rat.Floor

/-!
# The token bucket script

`app/core/rate_limit.py`: one Redis hash for each key, with the tokens and the
time of the last run, changed by one Lua script.  Times are milliseconds;
tokens are exact rationals, where Redis keeps a double.
-/

namespace NotificationsEngine

/-- The arguments of every `consume` on one key. -/
structure Limit where
  capacity : Int
  refillPeriodMs : Int
  capacity_pos : 1 ≤ capacity
  refillPeriodMs_pos : 1 ≤ refillPeriodMs

/-- `capacity / period_ms`. -/
def Limit.rate (limit : Limit) : ℚ := limit.capacity / limit.refillPeriodMs

/-- The hash `tokens`, `ts`. -/
structure Bucket where
  tokens : ℚ
  ts : Int
  deriving DecidableEq

/-- What one run of the script stores and returns. -/
structure ScriptRun where
  bucket : Bucket
  pexpire : Int
  allowed : Bool
  retryAfter : Int
  deriving DecidableEq

/-- Outcome of one consume attempt. -/
structure TokenBucketResult where
  allowed : Bool
  retryAfterSeconds : Int
  deriving DecidableEq

def ScriptRun.result (run : ScriptRun) : TokenBucketResult := ⟨run.allowed, run.retryAfter⟩

/-- The tokens after the refill; an absent key starts full. -/
def refilled (limit : Limit) (stored : Option Bucket) (now : Int) : ℚ :=
  let bucket := stored.getD ⟨limit.capacity, now⟩
  let elapsed := if now - bucket.ts < 0 then 0 else now - bucket.ts
  min (limit.capacity : ℚ) (bucket.tokens + elapsed * limit.rate)

def retryAfterSeconds (limit : Limit) (missing : ℚ) : Int :=
  let retryAfter := ⌈missing / limit.rate / 1000⌉
  if retryAfter < 1 then 1 else retryAfter

def tolerance : ℚ := 1 / 10 ^ 9

theorem tolerance_nonneg : 0 ≤ tolerance := by
  rw [tolerance]
  positivity

/-- `_LUA_CONSUME` with the arguments `now`, `capacity`, `period_ms` and `take`. -/
def luaConsume (limit : Limit) (stored : Option Bucket) (now : Int) (take : ℚ) : ScriptRun :=
  let tokens := refilled limit stored now
  if take ≤ tokens + tolerance then
    let left := tokens - take
    { bucket := ⟨if left < 0 then 0 else left, now⟩
      pexpire := limit.refillPeriodMs * 2
      allowed := true
      retryAfter := 0 }
  else
    { bucket := ⟨tokens, now⟩
      pexpire := limit.refillPeriodMs * 2
      allowed := false
      retryAfter := retryAfterSeconds limit (take - tokens) }

/-- `TokenBucket.consume` with an injected `now_ms`: one token. -/
def consume (limit : Limit) (stored : Option Bucket) (nowMs : Int) : ScriptRun :=
  luaConsume limit stored nowMs 1

/-- The `now_ms` that `consume` computes from the answer of `TIME`. -/
def nowMs (seconds : Int) : Int := seconds * 1000

theorem minute_pos : (1 : Int) ≤ 60000 := by decide

def onePerMinute : Limit := ⟨1, 60000, Int.one_pos, minute_pos⟩

namespace Limit

variable (limit : Limit)

theorem capacity_cast_pos : (1 : ℚ) ≤ limit.capacity := by
  exact_mod_cast limit.capacity_pos

theorem refillPeriodMs_cast_pos : (0 : ℚ) < limit.refillPeriodMs := by
  exact_mod_cast limit.refillPeriodMs_pos

theorem rate_pos : 0 < limit.rate :=
  div_pos (one_pos.trans_le limit.capacity_cast_pos) limit.refillPeriodMs_cast_pos

end Limit

theorem refilled_le (limit : Limit) (stored : Option Bucket) (now : Int) :
    refilled limit stored now ≤ limit.capacity := min_le_left _ _

/-- An absent key is a full bucket. -/
theorem refilled_none (limit : Limit) (now : Int) :
    refilled limit none now = limit.capacity := by
  simp [refilled]

/-- While the clock does not go back, the refill is that of the time since the last run. -/
theorem refilled_some (limit : Limit) {bucket : Bucket} {now : Int} (ordered : bucket.ts ≤ now) :
    refilled limit (some bucket) now =
      min (limit.capacity : ℚ) (bucket.tokens + limit.rate * ((now : ℚ) - bucket.ts)) := by
  have forward : ¬ now - bucket.ts < 0 := by omega
  simp only [refilled, Option.getD_some, if_neg forward]
  push_cast
  rw [mul_comm]

def Bucket.Bounded (limit : Limit) (bucket : Bucket) : Prop :=
  0 ≤ bucket.tokens ∧ bucket.tokens ≤ limit.capacity

theorem refilled_nonneg (limit : Limit) {stored : Option Bucket} (now : Int)
    (bounded : ∀ bucket, stored = some bucket → bucket.Bounded limit) :
    0 ≤ refilled limit stored now := by
  have full : (0 : ℚ) ≤ limit.capacity := zero_le_one.trans limit.capacity_cast_pos
  cases stored with
  | none => rw [refilled_none]; exact full
  | some bucket =>
      have elapsed :
          (0 : ℚ) ≤ ((if now - bucket.ts < 0 then 0 else now - bucket.ts : Int) : ℚ) := by
        split
        · exact le_of_eq Int.cast_zero.symm
        · next forward => exact_mod_cast Int.not_lt.mp forward
      exact le_min full
        (add_nonneg (bounded bucket rfl).1 (mul_nonneg elapsed limit.rate_pos.le))

/-- The script reads the hash through the refilled tokens alone. -/
theorem consume_congr {limit : Limit} {stored image : Option Bucket} {now : Int}
    (same : refilled limit image now = refilled limit stored now) :
    consume limit image now = consume limit stored now := by
  simp only [consume, luaConsume, same]

/-- An admitted call takes a token, and never goes below zero. -/
theorem consume_of_enough {limit : Limit} {stored : Option Bucket} {now : Int}
    (enough : 1 ≤ refilled limit stored now + tolerance) :
    consume limit stored now =
      { bucket := ⟨max (refilled limit stored now - 1) 0, now⟩
        pexpire := limit.refillPeriodMs * 2, allowed := true, retryAfter := 0 } := by
  have clamp : (if refilled limit stored now - 1 < 0 then 0 else refilled limit stored now - 1) =
      max (refilled limit stored now - 1) 0 := by
    split
    · next below => exact (max_eq_right below.le).symm
    · next above => exact (max_eq_left (not_lt.mp above)).symm
  simp only [consume, luaConsume, if_pos enough, clamp]

/-- A refused call takes nothing. -/
theorem consume_of_short {limit : Limit} {stored : Option Bucket} {now : Int}
    (short : ¬ 1 ≤ refilled limit stored now + tolerance) :
    consume limit stored now =
      { bucket := ⟨refilled limit stored now, now⟩
        pexpire := limit.refillPeriodMs * 2, allowed := false
        retryAfter := retryAfterSeconds limit (1 - refilled limit stored now) } := by
  simp only [consume, luaConsume, if_neg short]

@[simp] theorem consume_ts (limit : Limit) (stored : Option Bucket) (now : Int) :
    (consume limit stored now).bucket.ts = now := by
  by_cases enough : 1 ≤ refilled limit stored now + tolerance
  · rw [consume_of_enough enough]
  · rw [consume_of_short enough]

/-- The script keeps the tokens between zero and the capacity. -/
theorem consume_bounded (limit : Limit) {stored : Option Bucket} (now : Int)
    (bounded : ∀ bucket, stored = some bucket → bucket.Bounded limit) :
    (consume limit stored now).bucket.Bounded limit := by
  have nonneg := refilled_nonneg limit now bounded
  have below := refilled_le limit stored now
  by_cases enough : 1 ≤ refilled limit stored now + tolerance
  · rw [consume_of_enough enough]
    exact ⟨le_max_right _ _,
      max_le ((sub_le_self _ zero_le_one).trans below) (nonneg.trans below)⟩
  · rw [consume_of_short enough]
    exact ⟨nonneg, below⟩

end NotificationsEngine
