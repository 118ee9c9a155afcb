import Mathlib.Data.List.Basic
import Mathlib.Tactic.Ring

/-!
# Numerals of a fixed width

The digits of a number in any base, the most significant one first, padded to a
width.  Their value is the number again if the width is enough.
-/

namespace Positional

/-- The last `width` digits of a number. -/
def digits (base : ℕ) : ℕ → ℕ → List ℕ
  | 0, _ => []
  | width + 1, number => digits base width (number / base) ++ [number % base]

/-- The number that the digits stand for, read on after `start`. -/
def value (base start : ℕ) (digits : List ℕ) : ℕ :=
  digits.foldl (fun number digit => base * number + digit) start

variable {base : ℕ}

@[simp] theorem length_digits (base width number : ℕ) :
    (digits base width number).length = width := by
  induction width generalizing number with
  | zero => rfl
  | succ width ih => rw [digits, List.length_append, ih, List.length_singleton]

theorem lt_of_mem_digits (positive : 0 < base) {width number digit : ℕ}
    (member : digit ∈ digits base width number) : digit < base := by
  induction width generalizing number with
  | zero => cases member
  | succ width ih =>
      rcases List.mem_append.mp member with before | last
      · exact ih before
      · rw [List.mem_singleton.mp last]
        exact Nat.mod_lt number positive

theorem value_digits (base width number : ℕ) :
    value base 0 (digits base width number) = number % base ^ width := by
  induction width generalizing number with
  | zero => rw [pow_zero, Nat.mod_one]; rfl
  | succ width ih =>
      have before := ih (number / base)
      rw [value] at before
      rw [value, digits, List.foldl_append, before, List.foldl_cons, List.foldl_nil,
        pow_succ', Nat.mod_mul, Nat.add_comm]

end Positional
