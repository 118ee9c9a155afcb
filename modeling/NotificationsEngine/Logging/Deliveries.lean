import NotificationsEngine.Logging.Replay
import NotificationsEngine.Services.Operations

/-!
# The lines of a delivery

What `dispatch` logs about a row leads a reader to the row that it leaves behind,
and its failures are the dead letters.
-/

namespace NotificationsEngine

/-- A call that a handler at the level INFO lets pass, about this id or none. -/
structure LogCall.Concerns (id : UUID) (call : LogCall) : Prop where
  loud : LogLevel.info.number ≤ call.level.number
  other : call.message ≠ "notification_dead_lettered"
  subject : call.extra.lookup "notification_id" = none ∨ call.about id

def endsDead : Except DispatchError DispatchResult → Bool
  | .ok result => result.deadLetter
  | .error _ => false

/-- The calls of one dispatch of a row, by what it makes of the row and by how it ends. -/
structure Reports (id : UUID) (columns : DeliveryColumns)
    (ended : Except DispatchError DispatchResult) (calls : List LogCall) : Prop where
  concerns : ∀ call ∈ calls, call.Concerns id
  known : ∀ requestId known, KnownRow.hearAll id known (calls.map (LogCall.entry requestId)) =
    ⟨columns.status, columns.retryCount⟩
  failures : ∀ requestId, (calls.map (LogCall.entry requestId)).countP (LogEntry.failure id) =
    if endsDead ended then 1 else 0
  final : ∀ result, ended = .ok result → result.deadLetter = true → result.action ≠ .retry

theorem concerns_rowExtra (message : String) (row : Notification)
    (other : message ≠ "notification_dead_lettered") :
    (dispatchCall .info message (rowExtra row)).Concerns row.id :=
  ⟨Nat.le_refl _, other, .inr rfl⟩

theorem failure_rowExtra (message : String) (row : Notification) (requestId : Str) :
    LogEntry.failure row.id ((dispatchCall .info message (rowExtra row)).entry requestId) =
      decide (message = "notification_dispatch_failed") := by
  have about : (dispatchCall .info message (rowExtra row)).about row.id := rfl
  rw [LogEntry.failure, reports_entry, names_of_about about, decide_eq_true rfl, Bool.and_true]
  rfl

/-- The last line of a dispatch, after what says nothing about the outcome. -/
theorem Reports.ends {row : Notification} {columns : DeliveryColumns}
    {ended : Except DispatchError DispatchResult}
    {message : String} {logged : Notification} (before : List LogCall)
    (quiet : ∀ call ∈ before, call.Concerns row.id ∧
      call.message ≠ "notification_dispatch_failed")
    (same : logged.id = row.id) (other : message ≠ "notification_dead_lettered")
    (status : reportedStatus message logged.status = columns.status)
    (count : logged.retryCount = columns.retryCount)
    (failed : endsDead ended = decide (message = "notification_dispatch_failed"))
    (final : ∀ result, ended = .ok result → result.deadLetter = true → result.action ≠ .retry) :
    Reports row.id columns ended
      (before ++ [dispatchCall .info message (rowExtra logged)]) := by
  rw [← same] at quiet ⊢
  constructor
  case concerns =>
    intro call member
    rcases List.mem_append.mp member with early | last
    · exact (quiet call early).1
    · rw [List.mem_singleton.mp last]
      exact concerns_rowExtra message logged other
  case known =>
    intro requestId known
    rw [KnownRow.hearAll, List.map_append, List.foldl_append, List.map_singleton,
      List.foldl_cons, List.foldl_nil, hear_rowExtra, status, count]
  case failures =>
    intro requestId
    have none_before : (before.map (LogCall.entry requestId)).countP
        (LogEntry.failure logged.id) = 0 := by
      refine countP_unreported fun call early => ?_
      have unlike := (quiet call early).2
      rw [LogEntry.failure, reports_entry, decide_eq_false unlike, Bool.false_and]
    rw [List.map_append, List.countP_append, none_before, Nat.zero_add, List.map_singleton,
      List.countP_singleton, failure_rowExtra, failed]
  case final => exact final

end NotificationsEngine
