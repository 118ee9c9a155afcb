import Mathlib.Algebra.Order.Field.Basic
import Mathlib.Order.Interval.Finset.Nat
import Mathlib.Tactic.Linarith

/-!
# Capped refill

A level that refills at a constant rate up to a cap and is lowered by one for
every admitted call.  The level before a call is the least slack over all
windows that start at a call so far, so admitting exactly at level one is the
same as keeping a bound on every window, and no other admission that keeps the
bound is ever ahead.
-/

namespace CappedRefill

/-- How many of the calls `i, ..., n - 1` were admitted. -/
def admitted (allowed : ℕ → Bool) (i n : ℕ) : ℕ := ((Finset.Ico i n).filter fun k => allowed k).card

section Counting

variable {allowed : ℕ → Bool} {i n : ℕ}

@[simp] theorem admitted_self : admitted allowed i i = 0 := by
  simp [admitted]

theorem admitted_succ (start : i ≤ n) :
    admitted allowed i (n + 1) = admitted allowed i n + if allowed n then 1 else 0 := by
  have split : Finset.Ico i (n + 1) = insert n (Finset.Ico i n) :=
    Nat.Ico_succ_right_eq_insert_Ico start
  rw [admitted, admitted, split, Finset.filter_insert]
  split
  · rw [Finset.card_insert_of_notMem (by simp)]
  · rfl

theorem admitted_add (allowed : ℕ → Bool) (start : i ≤ n) :
    admitted allowed 0 i + admitted allowed i n = admitted allowed 0 n := by
  induction n, start using Nat.le_induction with
  | base => simp
  | succ n start ih => rw [admitted_succ start, admitted_succ (Nat.zero_le n), ← ih, Nat.add_assoc]

end Counting

variable {α : Type*} [Field α] [LinearOrder α] [IsStrictOrderedRing α]

/-- What the window from call `i` to call `n` lets through. -/
def bound (cap rate : α) (time : ℕ → α) (i n : ℕ) : α := cap + rate * (time n - time i)

/-- The level that call `n` finds. -/
def level (cap rate : α) (time : ℕ → α) (allowed : ℕ → Bool) : ℕ → α
  | 0 => cap
  | n + 1 =>
      min cap (level cap rate time allowed n - (if allowed n then 1 else 0) +
        rate * (time (n + 1) - time n))

/-- Every admitted call keeps the bound on every window that ends with it. -/
def WithinBound (cap rate : α) (time : ℕ → α) (allowed : ℕ → Bool) : Prop :=
  ∀ n, allowed n = true → ∀ i ≤ n, (admitted allowed i n : α) + 1 ≤ bound cap rate time i n

/-- A call is admitted exactly when it keeps the bound on every window that ends with it. -/
def Greedy (cap rate : α) (time : ℕ → α) (allowed : ℕ → Bool) : Prop :=
  ∀ n, allowed n = true ↔ ∀ i ≤ n, (admitted allowed i n : α) + 1 ≤ bound cap rate time i n

variable {cap rate : α} {time : ℕ → α} {allowed other : ℕ → Bool}

/-- The level is the least slack over all windows. -/
theorem le_level_iff (n : ℕ) (x : α) :
    x ≤ level cap rate time allowed n ↔
      ∀ i ≤ n, (admitted allowed i n : α) + x ≤ bound cap rate time i n := by
  induction n generalizing x with
  | zero => simp [level, bound]
  | succ n ih =>
      have shifted : x ≤ level cap rate time allowed n - (if allowed n then 1 else 0) +
          rate * (time (n + 1) - time n) ↔
          x + (if allowed n then 1 else 0) - rate * (time (n + 1) - time n) ≤
            level cap rate time allowed n := by
        constructor <;> intro below <;> linarith
      have widened : ∀ i ≤ n, ((admitted allowed i n : α) +
          (x + (if allowed n then 1 else 0) - rate * (time (n + 1) - time n)) ≤
            bound cap rate time i n ↔
          (admitted allowed i (n + 1) : α) + x ≤ bound cap rate time i (n + 1)) := by
        intro i start
        rw [admitted_succ start, bound, bound]
        push_cast
        constructor <;> intro below <;> linarith
      rw [level, le_min_iff, shifted, ih]
      constructor
      · rintro ⟨below, windows⟩ i start
        rcases Nat.le_succ_iff.mp start with old | rfl
        · exact (widened i old).mp (windows i old)
        · simpa [bound] using below
      · intro windows
        refine ⟨by simpa [bound] using windows (n + 1) le_rfl, fun i start => ?_⟩
        exact (widened i start).mpr (windows i (Nat.le_succ_of_le start))

/-- A refill that is split in two stays what it is. -/
theorem min_add_of_nonneg {gain : α} (nonneg : 0 ≤ gain) (amount : α) :
    min cap (min cap amount + gain) = min cap (amount + gain) := by
  rcases le_total cap amount with full | below
  · rw [min_eq_left full, min_eq_left (le_add_of_nonneg_right nonneg),
      min_eq_left (full.trans (le_add_of_nonneg_right nonneg))]
  · rw [min_eq_right below]

/-- While nothing is admitted, the level is refilled as if in one go. -/
theorem level_of_refused (positive : 0 ≤ rate) (ordered : Monotone time) {i n : ℕ} (start : i ≤ n)
    (refused : ∀ k, i ≤ k → k < n → allowed k = false) :
    level cap rate time allowed n =
      min cap (level cap rate time allowed i + rate * (time n - time i)) := by
  induction n, start using Nat.le_induction with
  | base =>
      have below := (le_level_iff i (level cap rate time allowed i)).mp le_rfl i le_rfl
      rw [admitted_self, bound] at below
      simp only [sub_self, mul_zero, add_zero]
      exact (min_eq_right (by simpa using below)).symm
  | succ n start ih =>
      have gain : 0 ≤ rate * (time (n + 1) - time n) :=
        mul_nonneg positive (sub_nonneg.mpr (ordered (Nat.le_succ n)))
      rw [level, ih fun k from_i below => refused k from_i (Nat.lt_succ_of_lt below),
        refused n start (Nat.lt_succ_self n)]
      simp only [Bool.false_eq_true, if_false, sub_zero]
      rw [min_add_of_nonneg gain, add_assoc, ← mul_add, sub_add_sub_cancel']

/-- Admitting at level one is the greedy admission under the window bound. -/
theorem greedy_of_level (decided : ∀ n, allowed n = true ↔ 1 ≤ level cap rate time allowed n) :
    Greedy cap rate time allowed :=
  fun n => (decided n).trans (le_level_iff n 1)

/-- The greedy admission is never behind another one that keeps the bound. -/
theorem Greedy.admitted_le (greedy : Greedy cap rate time allowed)
    (within : WithinBound cap rate time other) (n : ℕ) :
    admitted other 0 n ≤ admitted allowed 0 n := by
  induction n using Nat.strong_induction_on with
  | _ n ih =>
    cases n with
    | zero => simp
    | succ n =>
        have before := ih n (Nat.lt_succ_self n)
        rw [admitted_succ (Nat.zero_le n), admitted_succ (Nat.zero_le n)]
        by_cases admits : other n = true
        · by_cases greedily : allowed n = true
          · simpa [admits, greedily] using before
          · -- a refused call has a window in which the greedy admission is strictly ahead
            obtain ⟨i, start, short⟩ : ∃ i ≤ n, bound cap rate time i n <
                (admitted allowed i n : α) + 1 := by
              by_contra none_short
              push Not at none_short
              exact greedily ((greedy n).mpr none_short)
            have within := within n admits i start
            have ahead : admitted other i n < admitted allowed i n := by
              have := within.trans_lt short
              exact_mod_cast lt_of_add_lt_add_right this
            have prefix_ := ih i (Nat.lt_succ_of_le start)
            have total := admitted_add other start
            have total' := admitted_add allowed start
            simp only [admits, greedily, if_true]
            omega
        · simp only [admits, Bool.false_eq_true, if_false]
          omega

end CappedRefill
