import NotificationsEngine.Library.CappedRefill
import NotificationsEngine.Library.Noninterference
import NotificationsEngine.RateLimit.TokenBucket

/-!
# Denied probes

A denied call writes the refilled tokens back and so splits one refill in two.
The script's later answers do not depend on it: any of the denied calls can be
left out of a run.
-/

namespace NotificationsEngine

open CappedRefill Noninterference Observation

/-- A call of `consume` on the key; a probe is left out if it is denied. -/
structure ConsumeCall where
  nowMs : Int
  probe : Bool

namespace ConsumeCall

variable (limit : Limit)

def step (stored : Option Bucket) (call : ConsumeCall) : Option Bucket :=
  some (consume limit stored call.nowMs).bucket

def output (stored : Option Bucket) (call : ConsumeCall) : Option TokenBucketResult :=
  some (consume limit stored call.nowMs).result

def stays (stored : Option Bucket) (call : ConsumeCall) : Bool :=
  !call.probe || (consume limit stored call.nowMs).allowed

end ConsumeCall

def results (limit : Limit) (calls : List ConsumeCall) : List TokenBucketResult :=
  observe (ConsumeCall.step limit) (ConsumeCall.output limit) none calls

/-- What the calls that stay are told in the run with all calls. -/
def resultsOfStaying (limit : Limit) (calls : List ConsumeCall) : List TokenBucketResult :=
  observe (ConsumeCall.step limit)
    (masked (ConsumeCall.stays limit) (ConsumeCall.output limit)) none calls

def withoutDeniedProbes (limit : Limit) (calls : List ConsumeCall) : List ConsumeCall :=
  purge (ConsumeCall.step limit) (ConsumeCall.stays limit) none calls

/-! ## One call -/

section Call

variable {limit : Limit} {stored : Option Bucket} {now later : Int}

/-- An absent key is never denied. -/
theorem allowed_of_absent (limit : Limit) (now : Int) :
    (consume limit none now).allowed = true := by
  have enough : 1 ≤ refilled limit none now + tolerance := by
    rw [refilled_none]
    exact limit.capacity_cast_pos.trans (le_add_of_nonneg_right tolerance_nonneg)
  rw [consume_of_enough enough]

/-- A denied call leaves what a later call finds. -/
theorem refilled_of_denied (denied : (consume limit stored now).allowed = false)
    (ordered : ∀ bucket, stored = some bucket → bucket.ts ≤ now) (after : now ≤ later) :
    refilled limit (some (consume limit stored now).bucket) later =
      refilled limit stored later := by
  cases stored with
  | none => rw [allowed_of_absent] at denied; cases denied
  | some bucket =>
      have before := ordered bucket rfl
      have short : ¬ 1 ≤ refilled limit (some bucket) now + tolerance := fun enough => by
        rw [consume_of_enough enough] at denied
        cases denied
      have gain : 0 ≤ limit.rate * ((later : ℚ) - now) :=
        mul_nonneg limit.rate_pos.le (sub_nonneg.mpr (Int.cast_le.mpr after))
      rw [consume_of_short short, refilled_some limit after, refilled_some limit before,
        refilled_some limit (before.trans after), min_add_of_nonneg gain, add_assoc, ← mul_add,
        sub_add_sub_cancel']

end Call

/-! ## Runs -/

/-- The calls come in the order of their times, and none before the last run of the script. -/
structure Ordered (stored : Option Bucket) (calls : List ConsumeCall) : Prop where
  sorted : calls.Pairwise fun first second => first.nowMs ≤ second.nowMs
  after : ∀ bucket, stored = some bucket → ∀ call ∈ calls, bucket.ts ≤ call.nowMs

theorem Ordered.step (limit : Limit) {stored : Option Bucket} {call : ConsumeCall}
    {rest : List ConsumeCall} (ordered : Ordered stored (call :: rest)) :
    Ordered (call.step limit stored) rest := by
  obtain ⟨first, sorted⟩ := List.pairwise_cons.mp ordered.sorted
  refine ⟨sorted, ?_⟩
  rintro _ ⟨⟩ next member
  rw [consume_ts]
  exact first next member

/-- From the last run of the script on, a call finds the same tokens. -/
def SameTokens (limit : Limit) (stored image : Option Bucket) : Prop :=
  ∀ now, (∀ bucket, stored = some bucket → bucket.ts ≤ now) →
    refilled limit image now = refilled limit stored now

theorem unwinding_probes (limit : Limit) :
    Unwinding (ConsumeCall.step limit) (ConsumeCall.output limit) (ConsumeCall.stays limit)
      Ordered (SameTokens limit) where
  admits := Ordered.step limit
  hidden {stored image call rest} ordered same left := by
    simp only [ConsumeCall.stays, Bool.or_eq_false_iff] at left
    have before := fun bucket found => ordered.after bucket found call List.mem_cons_self
    intro now after
    have after : call.nowMs ≤ now := by simpa using after _ rfl
    rw [ConsumeCall.step, refilled_of_denied left.2 before after]
    exact same now fun bucket found => (before bucket found).trans after
  related {stored image call rest} ordered same stays := by
    have before := fun bucket found => ordered.after bucket found call List.mem_cons_self
    intro now after
    rw [ConsumeCall.step, ConsumeCall.step, consume_congr (same call.nowMs before)]
  output {stored image call rest} ordered same stays := by
    have before := fun bucket found => ordered.after bucket found call List.mem_cons_self
    rw [ConsumeCall.output, ConsumeCall.output, consume_congr (same call.nowMs before)]

/--
For every limit and every non-decreasing sequence of calls on one key, the run
without any of the denied calls tells every other call what it is told in the
run with them.
-/
theorem denied_probes_free (limit : Limit) (calls : List ConsumeCall)
    (sorted : calls.Pairwise fun first second => first.nowMs ≤ second.nowMs) :
    results limit (withoutDeniedProbes limit calls) = resultsOfStaying limit calls :=
  (unwinding_probes limit).observe_purge ⟨sorted, by rintro _ ⟨⟩⟩ fun _ _ => rfl

/-- Between two admitted calls a minute apart, a denied one. -/
def hammering : List ConsumeCall := [⟨0, false⟩, ⟨1000, true⟩, ⟨60000, false⟩]

theorem denied_probes_free_hammering :
    (withoutDeniedProbes onePerMinute hammering).length = 2 ∧
      results onePerMinute (withoutDeniedProbes onePerMinute hammering) =
        resultsOfStaying onePerMinute hammering := by
  have sorted : hammering.Pairwise fun first second => first.nowMs ≤ second.nowMs := by
    simp [hammering]
  exact ⟨by decide +kernel, denied_probes_free onePerMinute hammering sorted⟩

end NotificationsEngine
