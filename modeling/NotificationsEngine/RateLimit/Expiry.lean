import NotificationsEngine.Library.Observation
import NotificationsEngine.RateLimit.TokenBucket

/-!
# Expiry of a bucket

Redis deletes the key once the time of `PEXPIRE` has passed since the last run
of the script, by its own clock in milliseconds, while the script counts in
whole seconds.  After two periods the bucket would be full again, so no caller
can tell a deleted key from a kept one.
-/

namespace NotificationsEngine

open Observation

/-- `now_ms` at this time of the Redis clock, in milliseconds. -/
def nowMsAt (time : Int) : Int := nowMs (time / 1000)

variable (limit : Limit)

/-! ## A key that is never deleted -/

def keepStep (stored : Option Bucket) (time : Int) : Option Bucket :=
  some (consume limit stored (nowMsAt time)).bucket

def keepResult (stored : Option Bucket) (time : Int) : Option TokenBucketResult :=
  some (consume limit stored (nowMsAt time)).result

/-! ## A key with an expiry time -/

/-- The hash, with the time from which on Redis has deleted it. -/
structure ExpiringKey where
  bucket : Bucket
  expiresAt : Int

/-- What a command finds under the key at this time. -/
def ExpiringKey.live (key : Option ExpiringKey) (time : Int) : Option Bucket :=
  match key with
  | none => none
  | some key => if key.expiresAt ≤ time then none else some key.bucket

def expireStep (key : Option ExpiringKey) (time : Int) : Option ExpiringKey :=
  let run := consume limit (ExpiringKey.live key time) (nowMsAt time)
  some ⟨run.bucket, time + run.pexpire⟩

def expireResult (key : Option ExpiringKey) (time : Int) : Option TokenBucketResult :=
  some (consume limit (ExpiringKey.live key time) (nowMsAt time)).result

variable {limit}

/-! ## Both at once -/

theorem consume_pexpire (limit : Limit) (stored : Option Bucket) (now : Int) :
    (consume limit stored now).pexpire = limit.refillPeriodMs * 2 := by
  by_cases enough : 1 ≤ refilled limit stored now + tolerance
  · rw [consume_of_enough enough]
  · rw [consume_of_short enough]

/-- After a whole period the bucket is full. -/
theorem refilled_of_period {bucket : Bucket} {now : Int} (bounded : bucket.Bounded limit)
    (elapsed : bucket.ts + limit.refillPeriodMs ≤ now) :
    refilled limit (some bucket) now = limit.capacity := by
  have positive := limit.refillPeriodMs_pos
  have waited : (limit.refillPeriodMs : ℚ) ≤ (now : ℚ) - bucket.ts := by
    have elapsed : ((bucket.ts + limit.refillPeriodMs : ℤ) : ℚ) ≤ now := Int.cast_le.mpr elapsed
    push_cast at elapsed
    linarith
  have period : limit.rate * limit.refillPeriodMs = limit.capacity :=
    div_mul_cancel₀ _ limit.refillPeriodMs_cast_pos.ne'
  have gained := mul_le_mul_of_nonneg_left waited limit.rate_pos.le
  rw [refilled_some limit (by omega)]
  exact min_eq_left (by linarith [bounded.1])

/-- The same hash under both keys, and none of the remaining calls before its last run. -/
inductive SameBucket (limit : Limit) :
    List Int → Option ExpiringKey → Option Bucket → Prop where
  | absent (times : List Int) (sorted : times.Pairwise (· ≤ ·)) :
      SameBucket limit times none none
  | present (times : List Int) (bucket : Bucket) (last : Int) (bounded : bucket.Bounded limit)
      (ts : bucket.ts = nowMsAt last) (after : ∀ time ∈ times, last ≤ time)
      (sorted : times.Pairwise (· ≤ ·)) :
      SameBucket limit times (some ⟨bucket, last + limit.refillPeriodMs * 2⟩) (some bucket)

/-- The next call finds the same tokens, whether the key is deleted by then or not. -/
theorem SameBucket.consume_eq (period : 1000 ≤ limit.refillPeriodMs) {time : Int}
    {rest : List Int} {key : Option ExpiringKey} {stored : Option Bucket}
    (same : SameBucket limit (time :: rest) key stored) :
    consume limit (ExpiringKey.live key time) (nowMsAt time) =
      consume limit stored (nowMsAt time) := by
  cases same with
  | absent => rfl
  | present bucket last bounded ts after sorted =>
      simp only [ExpiringKey.live]
      split
      · next expired =>
          -- truncating both times to seconds loses less than a second of two periods
          refine consume_congr ?_
          rw [refilled_none, refilled_of_period bounded]
          rw [ts, nowMsAt, nowMsAt, nowMs, nowMs]
          omega
      · rfl

theorem SameBucket.sorted {times : List Int} {key : Option ExpiringKey} {stored : Option Bucket}
    (same : SameBucket limit times key stored) : times.Pairwise (· ≤ ·) := by
  cases same with
  | absent sorted => exact sorted
  | present _ _ _ _ _ sorted => exact sorted

theorem SameBucket.bounded {times : List Int} {key : Option ExpiringKey} {stored : Option Bucket}
    (same : SameBucket limit times key stored) :
    ∀ bucket, stored = some bucket → bucket.Bounded limit := by
  rintro bucket found
  cases same with
  | absent => cases found
  | present _ _ bounded =>
      cases found
      exact bounded

theorem SameBucket.step (period : 1000 ≤ limit.refillPeriodMs) {time : Int} {rest : List Int}
    {key : Option ExpiringKey} {stored : Option Bucket}
    (same : SameBucket limit (time :: rest) key stored) :
    SameBucket limit rest (expireStep limit key time) (keepStep limit stored time) := by
  obtain ⟨first, sorted⟩ := List.pairwise_cons.mp same.sorted
  have bounded := consume_bounded limit (nowMsAt time) same.bounded
  rw [expireStep, keepStep, same.consume_eq period, consume_pexpire]
  exact .present rest _ time bounded (consume_ts limit stored _) first sorted

/--
For every limit with a period of at least a second and every non-decreasing
sequence of Redis times, the callers are told the same whether the key expires
two periods after the last run of the script or is kept for ever.
-/
theorem expiry_unobservable (limit : Limit) (period : 1000 ≤ limit.refillPeriodMs)
    (times : List Int) (sorted : times.Pairwise (· ≤ ·)) :
    observe (expireStep limit) (expireResult limit) none times =
      observe (keepStep limit) (keepResult limit) none times :=
  observe_eq_of_related (R := SameBucket limit) (fun _ _ _ _ same => same.step period)
    (fun time rest key stored same => by
      rw [expireResult, keepResult, same.consume_eq period])
    (.absent times sorted)

def afterExpiry : List Int := [999, 1000, 121001]

theorem expiry_unobservable_afterExpiry :
    ExpiringKey.live (afterExpiry.take 2 |>.foldl (expireStep onePerMinute) none) 121001 = none ∧
      observe (expireStep onePerMinute) (expireResult onePerMinute) none afterExpiry =
        observe (keepStep onePerMinute) (keepResult onePerMinute) none afterExpiry := by
  have sorted : afterExpiry.Pairwise (· ≤ ·) := by simp [afterExpiry]
  exact ⟨by decide +kernel, expiry_unobservable onePerMinute (by decide) afterExpiry sorted⟩

end NotificationsEngine
