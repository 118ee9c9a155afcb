import NotificationsEngine.Logging.Calls

/-!
# Reading the log

The entries of a production log, and what a reader knows of a row after some of
them.  Most lines report nothing new; those of a dispatch are about the row that
it works on.
-/

namespace NotificationsEngine

open JsonRecord (Value Object)

/-! ## What a line says -/

structure LogEntry where
  requestId : Option Value
  message : Option Value
  notificationId : Option Value
  status : Option Value
  retryCount : Option Value
  deriving DecidableEq

def LogCall.entry (requestId : Str) (call : LogCall) : LogEntry where
  requestId := some (.string (JsonRecord.joined requestId))
  message := some (.string (Str.ofString call.message))
  notificationId := (call.extra.lookup "notification_id").map LogValue.read
  status := (call.extra.lookup "status").map LogValue.read
  retryCount := (call.extra.lookup "retry_count").map LogValue.read

structure KnownRow where
  status : NotificationStatus
  retryCount : Int
  deriving DecidableEq

def statusNamed (value : Value) : Option NotificationStatus :=
  [.pending, .processing, .sent, .failed].find? fun status : NotificationStatus =>
    Value.string (Str.ofString status.value) = value

namespace LogEntry

def reports (entry : LogEntry) (message : String) : Bool :=
  entry.message = some (.string (Str.ofString message))

def names (entry : LogEntry) (id : UUID) : Bool :=
  entry.notificationId = some (.string (Uuid.str id))

/-- The status after what the line reports; a failed attempt is logged with the one before it. -/
def statusAfter (entry : LogEntry) (before : NotificationStatus) : NotificationStatus :=
  if entry.reports "notification_retry_scheduled" then .pending
  else if entry.reports "notification_dispatch_failed" then .failed
  else (entry.status.bind statusNamed).getD before

def retryCountAfter (entry : LogEntry) (before : Int) : Int :=
  match entry.retryCount with
  | some (.integer count) => count
  | _ => before

end LogEntry

def KnownRow.hear (id : UUID) (known : KnownRow) (entry : LogEntry) : KnownRow :=
  if entry.names id then
    ⟨entry.statusAfter known.status, entry.retryCountAfter known.retryCount⟩
  else known

/-- A new row is PENDING without a failed attempt, and so is one that the log does not name. -/
def KnownRow.new : KnownRow := ⟨.pending, 0⟩

def KnownRow.ofRow (row : Notification) : KnownRow := ⟨row.status, row.retryCount⟩

def Table.known (table : Table) (id : UUID) : KnownRow :=
  ((table.getById id).map KnownRow.ofRow).getD .new

/-! ## Reading one call -/

/-- The text of an id has no surrogates to be joined. -/
theorem joined_str (id : UUID) : JsonRecord.joined (Uuid.str id) = Uuid.str id := by
  refine JsonRecord.joined_eq_self fun c member => ?_
  have letters : ∀ digit < 16, JsonRecord.isHigh (Uuid.hexLetter digit).val = false := by decide
  rcases Uuid.of_mem_str member with rfl | ⟨digit, small, rfl⟩
  · rfl
  · exact letters digit small

@[simp] theorem read_str (id : UUID) :
    LogValue.read (.text (Uuid.str id)) = .string (Uuid.str id) :=
  congrArg Value.string (joined_str id)

@[simp] theorem read_ofString (text : String) :
    LogValue.read (.text (Str.ofString text)) = .string (Str.ofString text) :=
  congrArg Value.string (joined_ofString text)

@[simp] theorem reports_entry (requestId : Str) (call : LogCall) (message : String) :
    (call.entry requestId).reports message = decide (call.message = message) := by
  simp [LogEntry.reports, LogCall.entry, ofString_injective.eq_iff]

/-- The call is about this id, or about none. -/
def LogCall.about (call : LogCall) (id : UUID) : Prop :=
  call.extra.lookup "notification_id" = some (.text (Uuid.str id))

theorem names_of_about {call : LogCall} {id : UUID} (about : call.about id) (requestId : Str)
    (other : UUID) : (call.entry requestId).names other = decide (id = other) := by
  have read : (call.entry requestId).notificationId = some (.string (Uuid.str id)) := by
    rw [LogCall.entry, about, Option.map_some, read_str]
  rw [LogEntry.names, read]
  simp [Uuid.str_injective.eq_iff]

theorem names_of_silent {call : LogCall} (silent : call.extra.lookup "notification_id" = none)
    (requestId : Str) (id : UUID) : (call.entry requestId).names id = false := by
  rw [LogEntry.names, LogCall.entry, silent]
  rfl

theorem statusNamed_value (status : NotificationStatus) :
    statusNamed (.string (Str.ofString status.value)) = some status := by
  cases status <;> decide

theorem KnownRow.hear_other {id : UUID} {entry : LogEntry} (other : entry.names id = false)
    (known : KnownRow) : known.hear id entry = known := by
  rw [hear, other]
  rfl

/-- The status that a line of `dispatch` with these fields leads to. -/
def reportedStatus (message : String) (status : NotificationStatus) : NotificationStatus :=
  if message = "notification_retry_scheduled" then .pending
  else if message = "notification_dispatch_failed" then .failed
  else status

/-- A line about a row with all its fields leaves nothing of what was known before. -/
theorem hear_rowExtra (level : LogLevel) (message : String) (row : Notification)
    (requestId : Str) (known : KnownRow) :
    known.hear row.id ((dispatchCall level message (rowExtra row)).entry requestId) =
      ⟨reportedStatus message row.status, row.retryCount⟩ := by
  have about : (dispatchCall level message (rowExtra row)).about row.id := rfl
  have own := names_of_about about requestId row.id
  have status : ((dispatchCall level message (rowExtra row)).entry requestId).status =
      some (.string (Str.ofString row.status.value)) := congrArg some (read_ofString _)
  have count : ((dispatchCall level message (rowExtra row)).entry requestId).retryCount =
      some (.integer row.retryCount) := rfl
  rw [KnownRow.hear, own, decide_eq_true rfl, if_pos rfl, LogEntry.statusAfter, status,
    LogEntry.retryCountAfter, count, Option.bind_some, statusNamed_value]
  simp only [reports_entry, decide_eq_true_eq]
  rfl

/-! ## Several lines -/

def LogEntry.failure (id : UUID) (entry : LogEntry) : Bool :=
  entry.reports "notification_dispatch_failed" && entry.names id

def LogEntry.deadLettered (id : UUID) (entry : LogEntry) : Bool :=
  entry.reports "notification_dead_lettered" && entry.names id

def KnownRow.hearAll (id : UUID) (known : KnownRow) (entries : List LogEntry) : KnownRow :=
  entries.foldl (KnownRow.hear id) known

theorem countP_unreported {calls : List LogCall} {requestId : Str} {reported : LogEntry → Bool}
    (unreported : ∀ call ∈ calls, reported (call.entry requestId) = false) :
    (calls.map (LogCall.entry requestId)).countP reported = 0 := by
  refine List.countP_eq_zero.mpr fun entry member => ?_
  obtain ⟨call, logged, rfl⟩ := List.mem_map.mp member
  rw [unreported call logged]
  exact Bool.false_ne_true

/-- A call that adds nothing to what is known of the rows. -/
structure LogCall.Plain (known : UUID → KnownRow) (call : LogCall) : Prop where
  loud : LogLevel.info.number ≤ call.level.number
  message : call.message ∉ ["notification_retry_scheduled", "notification_dispatch_failed",
    "notification_dead_lettered"]
  subject : call.extra.lookup "notification_id" = none ∨
    ∃ id, call.about id ∧ call.extra.lookup "retry_count" = none ∧
      call.extra.lookup "status" = some (.text (Str.ofString (known id).status.value))

theorem LogCall.Plain.unlike {known : UUID → KnownRow} {call : LogCall}
    (plain : call.Plain known) :
    call.message ≠ "notification_retry_scheduled" ∧
      call.message ≠ "notification_dispatch_failed" ∧
      call.message ≠ "notification_dead_lettered" := by
  have message := plain.message
  simpa only [List.mem_cons, List.not_mem_nil, or_false, not_or] using message

theorem LogCall.Plain.hear {known : UUID → KnownRow} {call : LogCall} (plain : call.Plain known)
    (requestId : Str) (id : UUID) :
    (known id).hear id (call.entry requestId) = known id := by
  rcases plain.subject with silent | ⟨other, about, count, status⟩
  · exact KnownRow.hear_other (names_of_silent silent requestId id) _
  · by_cases same : other = id
    · subst same
      obtain ⟨again, failed, -⟩ := plain.unlike
      have own : (call.entry requestId).names other = true := by
        rw [names_of_about about, decide_eq_true rfl]
      have read : (call.entry requestId).status =
          some (.string (Str.ofString (known other).status.value)) := by
        rw [entry, status, Option.map_some, read_ofString]
      have kept : (call.entry requestId).retryCount = none := by
        rw [entry, count, Option.map_none]
      rw [KnownRow.hear, own, if_pos rfl, LogEntry.statusAfter, reports_entry, reports_entry,
        decide_eq_false again, decide_eq_false failed, read, Option.bind_some,
        statusNamed_value, LogEntry.retryCountAfter, kept]
      rfl
    · refine KnownRow.hear_other ?_ _
      rw [names_of_about about, decide_eq_false same]

end NotificationsEngine
