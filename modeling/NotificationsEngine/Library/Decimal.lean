import Mathlib.Data.Nat.Notation

/-!
# Decimal numerals

Reading digits from the left, with single joints between digits allowed, over
any alphabet.  The digits of a number are read back as that number.
-/

namespace Decimal

variable {α : Type}

/-! ## Writing -/

def numeral (write : Char → α) (number : Nat) : List α := (Nat.toDigits 10 number).map write

section Writing

variable {write : Char → α}

theorem numeral_ne_nil (number : Nat) : numeral write number ≠ [] := by
  rw [numeral, Nat.toDigits_eq_if (by decide)]
  split <;> simp

/-- Every letter of a numeral stands for a digit. -/
theorem mem_numeral {number : Nat} {c : α} (member : c ∈ numeral write number) :
    ∃ d, d < 10 ∧ c = write (Nat.digitChar d) := by
  induction number using Nat.strongRecOn with
  | ind number ih =>
      rw [numeral, Nat.toDigits_eq_if (by decide)] at member
      split at member
      · next small =>
          obtain rfl : c = write number.digitChar := by simpa using member
          exact ⟨number, small, rfl⟩
      · next large =>
          rw [List.map_append, List.mem_append] at member
          rcases member with before | last
          · exact ih (number / 10) (by omega) before
          · exact ⟨number % 10, by omega, by simpa using last⟩

end Writing

/-! ## Reading -/

variable [DecidableEq α] (digit : α → Option Nat) (joint : α)

/-- Reads on after `value`; `owed` when a digit must come next. -/
def readFrom (value : Nat) (owed : Bool) : List α → Option Nat
  | [] => if owed then none else some value
  | c :: rest =>
      match digit c with
      | some d => readFrom (10 * value + d) false rest
      | none => if c = joint ∧ owed = false then readFrom value true rest else none

/-- Digits with single joints in between. -/
def read (text : List α) : Option Nat := readFrom digit joint 0 true text

variable {digit joint}

theorem readFrom_append_digit {d : Nat} {c : α} (reads : digit c = some d) (value : Nat)
    (owed : Bool) (text : List α) {number : Nat}
    (before : readFrom digit joint value owed text = some number) :
    readFrom digit joint value owed (text ++ [c]) = some (10 * number + d) := by
  induction text generalizing value owed with
  | nil =>
      cases owed with
      | true => cases before
      | false =>
          cases before
          simp [readFrom, reads]
  | cons first rest ih =>
      simp only [List.cons_append, readFrom] at before ⊢
      cases known : digit first with
      | some e =>
          simp only [known] at before ⊢
          exact ih _ _ before
      | none =>
          simp only [known] at before ⊢
          split at before
          · next joins =>
              rw [if_pos joins]
              exact ih _ _ before
          · cases before

/-- A number is read from its numeral. -/
theorem read_numeral {write : Char → α}
    (letters : ∀ d, d < 10 → digit (write (Nat.digitChar d)) = some d)
    (number : Nat) : read digit joint (numeral write number) = some number := by
  induction number using Nat.strongRecOn with
  | ind number ih =>
      rw [numeral, Nat.toDigits_eq_if (by decide)]
      split
      · next small => simp [read, readFrom, letters number small]
      · next large =>
          have before := ih (number / 10) (by omega)
          have last := letters (number % 10) (Nat.mod_lt number (by decide))
          rw [List.map_append, List.map_singleton]
          refine (readFrom_append_digit last 0 true _ before).trans ?_
          rw [Nat.div_add_mod]

end Decimal
