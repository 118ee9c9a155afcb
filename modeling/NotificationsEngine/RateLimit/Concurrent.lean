import NotificationsEngine.RateLimit.TokenBucket
import NotificationsEngine.Library.StepMachine
import Mathlib.Logic.Function.Basic
import Mathlib.Tactic.Linarith
import Mathlib.Tactic.NormNum

/-!
# Concurrent calls of consume

A process reads Redis `TIME` and runs the script later.  The script is atomic,
but a late run carries an older time: it adds no refill, yet it moves `ts`
back, and the next run is credited with the same stretch again.  The rate bound
holds for the runs in which that never happens.
-/

namespace NotificationsEngine

open StepMachine

/-- One key of Redis, its clock, and the processes that call `consume` on the key. -/
structure RateState where
  clock : Int
  /-- the `now_ms` of the processes between their two steps -/
  reads : Nat → Option Int
  stored : Option Bucket
  /-- the `now_ms` and the answer of every script run, newest first -/
  runs : List (Int × Bool)

inductive RateAction where
  | tick (seconds : Nat)
  | readTime (process : Nat)
  | runScript (process : Nat)

namespace RateState

def start (clock : Int) : RateState := ⟨clock, fun _ => none, none, []⟩

def step (limit : Limit) (state : RateState) : RateAction → Option RateState
  | .tick seconds => some { state with clock := state.clock + seconds }
  | .readTime process =>
      match state.reads process with
      | none =>
          some { state with
            reads := Function.update state.reads process (some (nowMs state.clock)) }
      | some _ => none
  | .runScript process =>
      match state.reads process with
      | some now =>
          let run := consume limit state.stored now
          some { state with
            reads := Function.update state.reads process none
            stored := some run.bucket
            runs := (now, run.allowed) :: state.runs }
      | none => none

def times (state : RateState) : List Int := state.runs.map (·.1)

def allowed (state : RateState) : Nat := state.runs.countP (·.2)

/-- The allowed calls stay within the rate bound of the stretch of time they have used. -/
def RateBounded (limit : Limit) (state : RateState) : Prop :=
  ∀ low ∈ state.times, ∀ high ∈ state.times, (∀ now ∈ state.times, low ≤ now ∧ now ≤ high) →
    (state.allowed : ℚ) * (1 - 1 / 10 ^ 9) ≤
      limit.capacity + (limit.capacity : ℚ) / limit.refillPeriodMs * (high - low)

/-- A script run finds no later `ts` than its own time. -/
def RunsForward (state : RateState) (action : RateAction) (_ : RateState) : Prop :=
  ∀ process now bucket, action = .runScript process → state.reads process = some now →
    state.stored = some bucket → bucket.ts ≤ now

end RateState

/-- An admitted call pays for itself, up to the tolerance. -/
theorem consume_cost (limit : Limit) (stored : Option Bucket) (now : Int) :
    (consume limit stored now).bucket.tokens +
      (if (consume limit stored now).allowed then 1 - tolerance else 0) ≤
        refilled limit stored now := by
  by_cases enough : 1 ≤ refilled limit stored now + tolerance
  · have small := tolerance_nonneg
    rw [consume_of_enough enough, if_pos rfl]
    rcases max_choice (refilled limit stored now - 1) 0 with same | same
    · show max (refilled limit stored now - 1) 0 + _ ≤ _
      rw [same]
      linarith
    · show max (refilled limit stored now - 1) 0 + _ ≤ _
      rw [same]
      linarith
  · rw [consume_of_short enough]
    simp

/-- A late run adds no refill, and moves `ts` back: the stretch up to the old `ts` counts again. -/
theorem late_run_rewinds (limit : Limit) {bucket : Bucket} {now : Int} (late : now < bucket.ts) :
    refilled limit (some bucket) now = min (limit.capacity : ℚ) bucket.tokens ∧
      (consume limit (some bucket) now).bucket.ts < bucket.ts := by
  have backward : now - bucket.ts < 0 := by omega
  exact ⟨by simp [refilled, backward], by rwa [consume_ts]⟩

/-- The calls so far are paid for by the capacity and one refill of each stretch of time. -/
inductive Credited (limit : Limit) : Option Bucket → List (Int × Bool) → Prop where
  | absent : Credited limit none []
  | present (bucket : Bucket) (runs : List (Int × Bool)) (first : Int)
      (first_used : first ∈ runs.map (·.1)) (last_used : bucket.ts ∈ runs.map (·.1))
      (between : ∀ now ∈ runs.map (·.1), first ≤ now ∧ now ≤ bucket.ts)
      (bounded : bucket.Bounded limit)
      (paid : bucket.tokens + (runs.countP (·.2) : ℚ) * (1 - tolerance) ≤
        limit.capacity + limit.rate * (bucket.ts - first)) :
      Credited limit (some bucket) runs

namespace Credited

variable {limit : Limit} {stored : Option Bucket} {runs : List (Int × Bool)}

theorem bounded (credited : Credited limit stored runs) (now : Int) :
    (consume limit stored now).bucket.Bounded limit := by
  refine consume_bounded limit now ?_
  rintro bucket rfl
  cases credited with
  | present _ _ _ _ _ _ bounded => exact bounded

/-- A script run that does not go back in time. -/
theorem run_script (credited : Credited limit stored runs) {now : Int}
    (forward : ∀ bucket, stored = some bucket → bucket.ts ≤ now) :
    Credited limit (some (consume limit stored now).bucket)
      ((now, (consume limit stored now).allowed) :: runs) := by
  have cost := consume_cost limit stored now
  have counted : (((now, (consume limit stored now).allowed) :: runs).countP (·.2) : ℚ) *
      (1 - tolerance) = (runs.countP (·.2) : ℚ) * (1 - tolerance) +
        if (consume limit stored now).allowed then 1 - tolerance else 0 := by
    rw [List.countP_cons]
    push_cast
    split <;> ring
  have bounded := credited.bounded now
  cases credited with
  | absent =>
      refine .present _ _ now (by simp) (by simp) (by simp) bounded ?_
      rw [counted, consume_ts]
      rw [refilled_none] at cost
      simpa using cost
  | present bucket runs first first_used last_used between _ paid =>
      have ordered := forward bucket rfl
      refine .present _ _ first (List.mem_cons_of_mem _ first_used) (by simp) ?_ bounded ?_
      · intro used member
        rw [consume_ts]
        rcases List.mem_cons.mp member with rfl | old
        · exact ⟨(between _ last_used).1.trans ordered, le_rfl⟩
        · exact ⟨(between used old).1, (between used old).2.trans ordered⟩
      · have refill := min_le_right (limit.capacity : ℚ)
          (bucket.tokens + limit.rate * ((now : ℚ) - bucket.ts))
        rw [← refilled_some limit ordered] at refill
        rw [counted, consume_ts]
        linarith

end Credited

namespace RateState

/-- A paid account keeps the rate bound. -/
theorem rateBounded_of_credited {limit : Limit} {state : RateState}
    (credited : Credited limit state.stored state.runs) : RateBounded limit state := by
  intro low low_used high high_used extremes
  obtain ⟨clock, reads, stored, runs⟩ := state
  cases credited with
  | absent => cases low_used
  | present bucket _ first first_used last_used between bounded paid =>
      have nonneg := bounded.1
      have early : (low : ℚ) ≤ first := by exact_mod_cast (extremes first first_used).1
      have late : (bucket.ts : ℚ) ≤ high := by exact_mod_cast (extremes _ last_used).2
      have stretch : limit.rate * (bucket.ts - first) ≤ limit.rate * ((high : ℚ) - low) :=
        mul_le_mul_of_nonneg_left (by linarith) limit.rate_pos.le
      have bound : ((runs.countP (·.2) : ℕ) : ℚ) * (1 - tolerance) ≤
          limit.capacity + limit.rate * ((high : ℚ) - low) := by linarith
      exact bound

theorem credited_step {limit : Limit} {state next : RateState} {action : RateAction}
    (credited : Credited limit state.stored state.runs)
    (forward : RunsForward state action next) (hstep : step limit state action = some next) :
    Credited limit next.stored next.runs := by
  cases action with
  | tick seconds =>
      cases hstep
      exact credited
  | readTime process =>
      simp only [step] at hstep
      split at hstep
      · cases hstep
        exact credited
      · cases hstep
  | runScript process =>
      simp only [step] at hstep
      split at hstep
      · next now reading =>
          cases hstep
          exact credited.run_script fun bucket found => forward process now bucket rfl reading found
      · cases hstep

/--
In every run from an absent key, with any number of processes, whose script
runs all find a `ts` not later than their own time, the allowed calls stay
within the rate bound.
-/
theorem rate_bounded_of_forward (limit : Limit) (clock : Int) (actions : List RateAction)
    (forward : Along (step limit) RunsForward (start clock) actions) (state : RateState)
    (reached : run (step limit) (start clock) actions = some state) :
    RateBounded limit state :=
  rateBounded_of_credited (run_guarded_invariant
    (I := fun state => Credited limit state.stored state.runs)
    (fun _ _ _ credited forward (hstep : step limit _ _ = some _) =>
      credited_step credited forward hstep)
    .absent forward reached)

def onePerSecond : Limit := ⟨1, 1000, by decide, by decide⟩

/-- Two processes read the same second and run in the other order, then both call again. -/
def interleavedCalls : List RateAction :=
  [.readTime 0, .readTime 1, .runScript 1, .tick 1, .runScript 0, .readTime 0, .readTime 1,
    .runScript 1, .runScript 0]

theorem rate_bounded_interleavedCalls :
    ∃ state, run (step onePerSecond) (start 0) interleavedCalls = some state ∧
      state.runs.map (·.1) = [1000, 1000, 0, 0] ∧ RateBounded onePerSecond state := by
  refine ⟨_, rfl, rfl, rate_bounded_of_forward onePerSecond 0 interleavedCalls ?_ _ rfl⟩
  rintro _ ⟨⟩
  refine ⟨by rintro _ _ _ ⟨⟩, ?_⟩
  rintro _ ⟨⟩
  refine ⟨by rintro _ _ _ ⟨⟩, ?_⟩
  rintro _ ⟨⟩
  refine ⟨by rintro _ _ _ ⟨⟩ _ ⟨⟩, ?_⟩
  rintro _ ⟨⟩
  refine ⟨by rintro _ _ _ ⟨⟩, ?_⟩
  rintro _ ⟨⟩
  constructor
  · rintro _ _ _ ⟨⟩ ⟨⟩ ⟨⟩
    rw [consume_ts]
  rintro _ ⟨⟩
  refine ⟨by rintro _ _ _ ⟨⟩, ?_⟩
  rintro _ ⟨⟩
  refine ⟨by rintro _ _ _ ⟨⟩, ?_⟩
  rintro _ ⟨⟩
  constructor
  · rintro _ _ _ ⟨⟩ ⟨⟩ ⟨⟩
    rw [consume_ts]
    decide
  rintro _ ⟨⟩
  refine ⟨?_, True.intro⟩
  rintro _ _ _ ⟨⟩ ⟨⟩ ⟨⟩
  rw [consume_ts]

/-- Two processes read the time, three others a second later; the early readers run in between. -/
def lateRuns : List RateAction :=
  [.readTime 1, .readTime 3, .tick 1, .readTime 0, .readTime 2, .readTime 4,
    .runScript 0, .runScript 1, .runScript 2, .runScript 3, .runScript 4]

/-- Three calls are allowed in a second for which the bound is two. -/
theorem rate_exceeded_lateRuns :
    ∃ state, run (step onePerSecond) (start 0) lateRuns = some state ∧
      state.runs = [(1000, true), (0, false), (1000, true), (0, false), (1000, true)] ∧
      ¬ RateBounded onePerSecond state := by
  obtain ⟨state, hrun, runs⟩ : ∃ state, run (step onePerSecond) (start 0) lateRuns = some state ∧
      state.runs = [(1000, true), (0, false), (1000, true), (0, false), (1000, true)] :=
    ⟨_, rfl, by decide +kernel⟩
  refine ⟨state, hrun, runs, fun bounded => ?_⟩
  have exceeded := bounded 0 (by simp [times, runs]) 1000 (by simp [times, runs])
    (by simp [times, runs])
  norm_num [allowed, runs, onePerSecond] at exceeded

end RateState

end NotificationsEngine
