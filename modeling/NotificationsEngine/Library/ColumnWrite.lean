import Mathlib.Logic.Basic

/-!
# Writing back only the changed columns

A session loads a record, assigns to its own copy, and on commit writes the
columns whose value differs from the loaded one.  What is stored meanwhile
survives in every other column, so the stored record becomes a column-wise
mixture of the old one and the session's copy.
-/

namespace ColumnWrite

variable {γ : Type*} [DecidableEq γ]

/-- One column after the write: `base` was loaded, `assigned` is the copy's value. -/
def writeColumn (base assigned stored : γ) : γ :=
  if assigned = base then stored else assigned

theorem writeColumn_changed {base assigned : γ} (changed : assigned ≠ base) (stored : γ) :
    writeColumn base assigned stored = assigned := if_neg changed

/-- A session whose snapshot is still current installs exactly its copy. -/
@[simp] theorem writeColumn_current (base assigned : γ) :
    writeColumn base assigned base = assigned := by
  unfold writeColumn
  split
  · next same => exact same.symm
  · rfl

/-- Whatever holds of the stored value and of the copy holds of the mixture. -/
theorem writeColumn_induction {P : γ → Prop} (base : γ) {assigned stored : γ}
    (old : P stored) (new : P assigned) : P (writeColumn base assigned stored) := by
  unfold writeColumn
  split
  · exact old
  · exact new

end ColumnWrite
