import NotificationsEngine.Services.Dispatch

/-!
# Delivering a queued message

`app/workers/tasks.py`: the Celery task runs `dispatch` for the id of its
message and maps the result onto a retry or a dead letter.  A message carries
the number of retries that Celery has counted for it.
-/

namespace NotificationsEngine

structure Message where
  notificationId : UUID
  retries : Nat
  deriving DecidableEq, Repr

/-- `task.retry(max_retries=...)`: the follow-up message, or `MaxRetriesExceededError`. -/
def Message.retry (message : Message) (maxRetries : Int) : Option Message :=
  if (message.retries : Int) + 1 > maxRetries then none
  else some { message with retries := message.retries + 1 }

/-- `settings.max_delivery_attempts - 1`. -/
def DeliveryRetryPolicy.maxRetries (policy : DeliveryRetryPolicy) : Int := policy.maxAttempts - 1

/-- What the task asks of the broker once `dispatch` has returned. -/
inductive DeliveryEffect where
  | nothing
  | retry (countdown : Int) (followUp : Message)
  /-- `MaxRetriesExceededError` is raised -/
  | retryRefused
  | deadLetter (notificationId : UUID)
  deriving DecidableEq, Repr

def applyDeliveryResult (result : DispatchResult) (message : Message) (maxRetries : Int) :
    DeliveryEffect :=
  if result.action = .retry then
    let countdown := result.countdownSeconds.getD 5
    match message.retry maxRetries with
    | some followUp => .retry countdown followUp
    | none => .retryRefused
  else if result.deadLetter then .deadLetter message.notificationId
  else .nothing

/-- What the task asks of the broker when `dispatch` ends so. -/
def endedEffect (policy : DeliveryRetryPolicy) (message : Message) :
    Except DispatchError DispatchResult → DeliveryEffect
  | .ok result => applyDeliveryResult result message policy.maxRetries
  | .error _ => .nothing

structure DeliveryRun where
  table : Table
  messages : List OutboundMessage
  result : Except DispatchError DispatchResult
  effect : DeliveryEffect

/-- `deliver_notification` with no other session in between and every publication succeeding. -/
def deliverNotification (policy : DeliveryRetryPolicy)
    (provider : OutboundMessage → ProviderOutcome) (now : Instant) (table : Table)
    (message : Message) : DeliveryRun :=
  let run := dispatch policy provider now table message.notificationId
  ⟨run.table, run.messages, run.result, endedEffect policy message run.result⟩

@[simp] theorem Message.retry_eq_some {message followUp : Message} {maxRetries : Int} :
    message.retry maxRetries = some followUp ↔
      (message.retries : Int) + 1 ≤ maxRetries ∧
        followUp = { message with retries := message.retries + 1 } := by
  unfold Message.retry
  split
  · next refused =>
      have exceeded : ¬ (message.retries : Int) + 1 ≤ maxRetries := Int.not_le.mpr refused
      exact ⟨nofun, fun scheduled => absurd scheduled.1 exceeded⟩
  · next accepted => simp [Int.not_lt.mp accepted, eq_comm]

/-- A message that leaves room for one attempt more is accepted for a retry. -/
theorem Message.retry_of_budget {policy : DeliveryRetryPolicy} {message : Message}
    (budget : (message.retries : Int) + 2 ≤ policy.maxAttempts) :
    message.retry policy.maxRetries = some { message with retries := message.retries + 1 } := by
  refine Message.retry_eq_some.mpr ⟨?_, rfl⟩
  rw [DeliveryRetryPolicy.maxRetries]
  omega

/-- A retry is either published with one retry more or refused. -/
theorem applyDeliveryResult_retry {result : DispatchResult} (message : Message) (maxRetries : Int)
    (again : result.action = .retry) :
    applyDeliveryResult result message maxRetries =
      match message.retry maxRetries with
      | some followUp => .retry (result.countdownSeconds.getD 5) followUp
      | none => .retryRefused := if_pos again

theorem applyDeliveryResult_of_ne_retry {result : DispatchResult} (message : Message)
    (maxRetries : Int) (final : result.action ≠ .retry) :
    applyDeliveryResult result message maxRetries =
      if result.deadLetter then .deadLetter message.notificationId else .nothing := if_neg final

/-- A follow-up message is published only for a RETRY that Celery accepts. -/
theorem applyDeliveryResult_eq_retry {result : DispatchResult} {message followUp : Message}
    {maxRetries countdown : Int}
    (again : applyDeliveryResult result message maxRetries = .retry countdown followUp) :
    result.action = .retry ∧ message.retry maxRetries = some followUp := by
  by_cases retried : result.action = .retry
  · rw [applyDeliveryResult_retry _ _ retried] at again
    cases accepted : message.retry maxRetries with
    | none => simp [accepted] at again
    | some other =>
        rw [accepted] at again
        cases again
        exact ⟨retried, rfl⟩
  · rw [applyDeliveryResult_of_ne_retry _ _ retried] at again
    split at again <;> cases again

/-- Only a result that asks for it is dead-lettered. -/
theorem applyDeliveryResult_eq_deadLetter {result : DispatchResult} {message : Message}
    {maxRetries : Int} {id : UUID}
    (dead : applyDeliveryResult result message maxRetries = .deadLetter id) :
    result.deadLetter = true ∧ id = message.notificationId := by
  by_cases retried : result.action = .retry
  · rw [applyDeliveryResult_retry _ _ retried] at dead
    split at dead <;> cases dead
  · rw [applyDeliveryResult_of_ne_retry _ _ retried] at dead
    split at dead
    · next asked =>
        cases dead
        exact ⟨asked, rfl⟩
    · cases dead

end NotificationsEngine
