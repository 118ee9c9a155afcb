import Mathlib.Data.List.Basic

/-!
# Event logs

A log lists what has happened, newest event first.  `Caused` says that each
event had its cause among the events before it.
-/

namespace EventLog

variable {ε : Type*}

/-- Every event of the log satisfies `cause event older` for the events before it. -/
def Caused (cause : ε → List ε → Prop) : List ε → Prop
  | [] => True
  | event :: older => cause event older ∧ Caused cause older

/-- The cause of an event, read at any place of the log where the event stands. -/
theorem Caused.at_event {cause : ε → List ε → Prop} {newer older : List ε} {event : ε}
    (caused : Caused cause (newer ++ event :: older)) : cause event older := by
  induction newer with
  | nil => exact caused.1
  | cons _ newer ih => exact ih caused.2

end EventLog
