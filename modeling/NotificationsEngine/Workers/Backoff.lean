import NotificationsEngine.Workers.Focus

/-!
# Attempts in time

Celery holds the follow-up message of `task.retry(countdown=...)` back until the
countdown has passed.  A row whose message is never copied is attempted no
earlier than the sum of the countdowns before, whatever else is delivered.
-/

namespace NotificationsEngine

open StepMachine

structure TimedMessage where
  message : Message
  eta : Instant
  deriving DecidableEq, Repr

structure Timed where
  table : Table
  messages : List TimedMessage

/-- A delivery from its start to the call of `retry` at its end. -/
structure TimedTurn where
  message : TimedMessage
  outcome : ProviderOutcome
  now : Instant
  started : Instant
  finished : Instant

namespace Timed

/-- The message that `apply_async(eta=finished + countdown)` publishes. -/
def publish (finished : Instant) (messages : List TimedMessage) :
    DeliveryEffect → List TimedMessage
  | .retry countdown followUp => ⟨followUp, finished + countdown⟩ :: messages
  | _ => messages

def turn (policy : DeliveryRetryPolicy) (state : Timed) (label : TimedTurn) : Option Timed :=
  if label.message ∈ state.messages ∧ label.message.eta ≤ label.started ∧
      label.started ≤ label.finished then
    let run := deliverNotification policy (fun _ => label.outcome) label.now state.table
      label.message.message
    some ⟨run.table, publish label.finished (state.messages.erase label.message) run.effect⟩
  else none

/-- The waits before an attempt, one after each attempt that failed before it. -/
def waited (policy : DeliveryRetryPolicy) : ℕ → Int
  | 0 => 0
  | failures + 1 => waited policy failures + (policy.countdownFor (failures + 1)).toOption.getD 0

theorem waited_succ {policy : DeliveryRetryPolicy} {failures : ℕ} {countdown : Int}
    (scheduled : policy.countdownFor (failures + 1) = .ok countdown) :
    waited policy (failures + 1) = waited policy failures + countdown := by
  rw [waited, scheduled]
  rfl

def isAbout (id : UUID) (timed : TimedMessage) : Bool := timed.message.notificationId = id

/-- One message waits for the next attempt at its time, or the attempts are over. -/
inductive Paced (policy : DeliveryRetryPolicy) (id : UUID) (first : Instant) (state : Timed)
    (failures : ℕ) : Prop where
  | waiting (row : Notification) (eta : Instant)
      (found : state.table.getById id = some row) (pending : row.status = .pending)
      (counted : row.retryCount = failures) (budget : (failures : Int) + 1 ≤ policy.maxAttempts)
      (only : state.messages.filter (isAbout id) = [⟨⟨id, failures⟩, eta⟩])
      (due : first + waited policy failures ≤ eta)
  | spent (none_left : state.messages.filter (isAbout id) = [])

variable {policy : DeliveryRetryPolicy} {id : UUID} {first : Instant} {state next : Timed}
  {label : TimedTurn} {failures : ℕ}

theorem filter_publish_other {finished : Instant} {messages : List TimedMessage}
    {effect : DeliveryEffect} (other : ∀ subject, effect.subject = some subject → subject ≠ id) :
    (publish finished messages effect).filter (isAbout id) = messages.filter (isAbout id) := by
  cases effect with
  | nothing => rfl
  | retryRefused => rfl
  | deadLetter => rfl
  | retry countdown followUp =>
      have unlike : followUp.notificationId ≠ id := other _ rfl
      simp [publish, isAbout, unlike]

/-- A delivery of another id leaves row and message as they are. -/
theorem Paced.other (paced : Paced policy id first state failures)
    (hturn : turn policy state label = some next) (other : isAbout id label.message = false) :
    Paced policy id first next failures := by
  have unlike : label.message.message.notificationId ≠ id := of_decide_eq_false other
  unfold turn at hturn
  split at hturn
  · cases hturn
    have queue : (publish label.finished (state.messages.erase label.message)
        (deliverNotification policy (fun _ => label.outcome) label.now state.table
          label.message.message).effect).filter (isAbout id) =
            state.messages.filter (isAbout id) := by
      rw [filter_publish_other fun _ same => (deliverNotification_subject same).trans_ne unlike,
        ← List.erase_filter]
      refine List.erase_of_not_mem fun taken => ?_
      rw [(List.mem_filter.mp taken).2] at other
      cases other
    cases paced with
    | waiting row eta found pending counted budget only due =>
        refine .waiting row eta ?_ pending counted budget (queue.trans only) due
        exact (getById_dispatch_ne policy (fun _ => label.outcome) label.now state.table
          unlike).trans found
    | spent none_left => exact .spent (queue.trans none_left)
  · cases hturn

/-- A delivery of the id is its next attempt. -/
theorem Paced.attempt (paced : Paced policy id first state failures)
    (hturn : turn policy state label = some next) (own : isAbout id label.message = true) :
    first + waited policy failures ≤ label.started ∧
      (failures : Int) + 1 ≤ policy.maxAttempts ∧
      (∃ row, state.table.getById id = some row ∧ row.status = .pending ∧
        row.retryCount = failures) ∧
      Paced policy id first next (failures + 1) := by
  obtain ⟨timed, outcome, now, started, finished⟩ := label
  dsimp only at own ⊢
  unfold turn at hturn
  split at hturn
  · next taken =>
      obtain ⟨member, arrived, order⟩ := taken
      dsimp only at member arrived order
      cases hturn
      have waits : timed ∈ state.messages.filter (isAbout id) :=
        List.mem_filter.mpr ⟨member, own⟩
      cases paced with
      | spent none_left =>
          rw [none_left] at waits
          cases waits
      | waiting row eta found pending counted budget only due =>
          rw [only, List.mem_singleton] at waits
          have left : (state.messages.erase timed).filter (isAbout id) = [] := by
            rw [← List.erase_filter, only, waits, List.erase_cons_head]
          have paid : first + waited policy failures ≤ started := by
            rw [waits] at arrived
            exact due.trans arrived
          refine ⟨paid, budget, ⟨row, found, pending, counted⟩, ?_⟩
          obtain ⟨columns, messages, ended, dispatches, stored, -, returned⟩ :=
            dispatch_dispatches policy (fun _ => outcome) now found
          have message : timed.message = ⟨id, failures⟩ := by rw [waits]
          simp only [deliverNotification, message, returned]
          cases dispatches with
          | skipped terminal =>
              rw [pending] at terminal
              cases terminal
          | unrecorded => exact .spent left
          | settled _ _ _ settles =>
              cases settles with
              | sent => exact .spent left
              | failed => exact .spent left
              | retry error countdown transient budget' scheduled =>
                  have budget' : (row.retryCount : Int) + 1 < policy.maxAttempts := budget'
                  have scheduled : policy.countdownFor (row.retryCount + 1) = .ok countdown :=
                    scheduled
                  rw [counted] at budget' scheduled
                  have room : (failures : Int) + 2 ≤ policy.maxAttempts := by omega
                  rw [endedEffect, applyDeliveryResult_retry _ _ rfl, Message.retry_of_budget room]
                  refine .waiting _ (finished + countdown) stored rfl ?_ ?_ ?_ ?_
                  · exact congrArg (· + 1) counted
                  · push_cast
                    omega
                  · simp [publish, isAbout, left]
                  · rw [waited_succ scheduled, ← Int.add_assoc]
                    exact Int.add_le_add_right (paid.trans order) countdown
  · cases hturn

/-- What is known when the id is delivered after so many deliveries of it. -/
structure OnSchedule (policy : DeliveryRetryPolicy) (id : UUID) (first : Instant) (state : Timed)
    (before : ℕ) (started : Instant) : Prop where
  spaced : first + waited policy before ≤ started
  budget : (before : Int) + 1 ≤ policy.maxAttempts
  failed : ∃ row, state.table.getById id = some row ∧ row.status = .pending ∧
    row.retryCount = before

theorem Paced.run {final : Timed} {turns : List TimedTurn}
    (paced : Paced policy id first state failures)
    (ran : StepMachine.run (turn policy) state turns = some final) :
    Paced policy id first final
      (failures + turns.countP fun label => isAbout id label.message) := by
  induction turns generalizing state failures with
  | nil =>
      cases ran
      exact paced
  | cons label rest ih =>
      obtain ⟨middle, hturn, hrest⟩ := run_cons_eq_some.mp ran
      rw [List.countP_cons]
      by_cases own : isAbout id label.message = true
      · have later := ih (paced.attempt hturn own).2.2.2 hrest
        rw [if_pos own]
        convert later using 1
        omega
      · have later := ih (paced.other hturn (Bool.eq_false_iff.mpr own)) hrest
        rw [if_neg own]
        exact later

/--
In a queue that holds one message of a new row and any messages of others, and
for every order of deliveries with any outcomes: when the row is delivered
again after `n` deliveries, every one of them was a failed attempt, the sum of
the `n` countdowns has passed since its first message was due, and the budget
is not used up.
-/
theorem attempts_on_schedule (policy : DeliveryRetryPolicy) (state : Timed) (id clientId : UUID)
    (request : SendNotificationRequest)
    (created : state.table.getById id = some (create clientId request id)) (first : Instant)
    (only : state.messages.filter (isAbout id) = [⟨⟨id, 0⟩, first⟩]) (turns : List TimedTurn)
    (middle : Timed) (ran : run (turn policy) state turns = some middle) (label : TimedTurn)
    (own : isAbout id label.message = true) (next : Timed)
    (taken : turn policy middle label = some next) :
    OnSchedule policy id first middle (turns.countP fun label => isAbout id label.message)
      label.started := by
  have start : Paced policy id first state 0 :=
    .waiting _ first created rfl rfl (by simpa using policy.maxAttempts_pos) only
      (Int.add_zero first).le
  have paced := start.run ran
  rw [Nat.zero_add] at paced
  obtain ⟨spaced, budget, failed, -⟩ := paced.attempt taken own
  exact ⟨spaced, budget, failed⟩

def twoMessages : Timed := ⟨.single (create 7 (.welcome none) 1), [⟨⟨1, 0⟩, 100⟩, ⟨⟨2, 0⟩, 100⟩]⟩

/-- A failing attempt, which asks for five seconds, and the message of nobody. -/
def failedAttempt : List TimedTurn :=
  [⟨⟨⟨1, 0⟩, 100⟩, .raised ⟨false, []⟩, 0, 100, 101⟩, ⟨⟨⟨2, 0⟩, 100⟩, .returned, 0, 102, 103⟩]

theorem attempts_on_schedule_failedAttempt :
    ∃ middle, run (turn .default) twoMessages failedAttempt = some middle ∧
      OnSchedule .default 1 100 middle 1 110 :=
  ⟨_, rfl, attempts_on_schedule .default twoMessages 1 7 (.welcome none) rfl 100 rfl failedAttempt _
    rfl ⟨⟨⟨1, 1⟩, 106⟩, .returned, 0, 110, 111⟩ rfl _ rfl⟩

end Timed

end NotificationsEngine
