import NotificationsEngine.Services.Accept
import NotificationsEngine.Workers.Delivery
import NotificationsEngine.Library.StepMachine
import NotificationsEngine.Library.EventLog
import Mathlib.Logic.Function.Basic

/-!
# The whole system, one effect at a time

API calls and workers share one table and one broker.  Each action is one
effect of one party: a statement or commit of its session, a call of the
provider, a publication, an acknowledgement, a crash of a worker, or the
broker handing a message out a second time.  Workers write from the copy that
their own session loaded.
-/

namespace NotificationsEngine

open StepMachine

/-- What has happened, kept for the statements only: no step reads it. -/
inductive Event where
  | inserted (call : Nat) (row : Notification)
  | enqueue (call : Nat) (id : UUID) (outcome : EnqueueOutcome)
  | provider (id : UUID) (message : OutboundMessage) (outcome : ProviderOutcome)
  | deadLettered (id : UUID)
  /-- a delivery of the id ends by a commit or a retry publication that raised -/
  | faulted (id : UUID)

/-- Where a worker's run of `deliver_notification` stands. -/
inductive DeliveryPhase where
  | dispatching (phase : DispatchPhase)
  /-- the task function has returned or raised; the acknowledgement is next -/
  | finished

structure Delivery where
  message : Message
  phase : DeliveryPhase

structure Engine where
  table : Table
  calls : Nat → Option AcceptCall
  workers : Nat → Option Delivery
  /-- waiting in the notifications queue or scheduled for a retry -/
  queued : List Message
  log : List Event

inductive Action where
  | accept (call : Nat) (clientId : UUID) (request : SendNotificationRequest)
  | lookup (call : Nat)
  | insert (call : Nat) (id : UUID)
  | recover (call : Nat)
  | enqueue (call : Nat) (outcome : EnqueueOutcome)
  /-- the broker holds one copy more of a waiting message -/
  | duplicate (message : Message)
  /-- the broker hands out again what a worker has not acknowledged yet -/
  | redeliver (worker : Nat)
  | deliver (worker : Nat) (message : Message)
  | load (worker : Nat)
  /-- a commit inside `dispatch`, which raises when `stored` is false -/
  | commit (worker : Nat) (stored : Bool)
  | send (worker : Nat) (outcome : ProviderOutcome) (now : Instant)
  /-- `apply_delivery_result`, whose publication raises when `published` is false -/
  | apply (worker : Nat) (published : Bool)
  | acknowledge (worker : Nat)
  | crash (worker : Nat)

namespace Engine

def start (table : Table) (queued : List Message) : Engine where
  table := table
  calls := fun _ => none
  workers := fun _ => none
  queued := queued
  log := []

def setCall (state : Engine) (call : Nat) (value : AcceptCall) : Engine :=
  { state with calls := Function.update state.calls call (some value) }

def setWorker (state : Engine) (worker : Nat) (value : Option Delivery) : Engine :=
  { state with workers := Function.update state.workers worker value }

/-- The worker goes on with its message at this point of `dispatch`. -/
def setPhase (state : Engine) (worker : Nat) (message : Message) (phase : DispatchPhase) : Engine :=
  state.setWorker worker (some ⟨message, .dispatching phase⟩)

def record (state : Engine) (event : Event) : Engine :=
  { state with log := event :: state.log }

def setTable (state : Engine) (table : Table) : Engine := { state with table }

def setQueued (state : Engine) (queued : List Message) : Engine := { state with queued }

/-- A message that is waiting, scheduled, or held by a worker that has not acknowledged it. -/
def Outstanding (state : Engine) (message : Message) : Prop :=
  message ∈ state.queued ∨
    ∃ worker delivery, state.workers worker = some delivery ∧ delivery.message = message

/-- One publication of `apply_delivery_result`, and the end of the task function. -/
def applied (state : Engine) (worker : Nat) (message : Message) (published : Bool) :
    DeliveryEffect → Engine
  | .nothing => state.setWorker worker (some ⟨message, .finished⟩)
  | .retryRefused => state.setWorker worker (some ⟨message, .finished⟩)
  | .retry _ followUp =>
      let state := state.setWorker worker (some ⟨message, .finished⟩)
      if published then state.setQueued (followUp :: state.queued)
      else state.record (.faulted message.notificationId)
  | .deadLetter id =>
      let state := state.setWorker worker (some ⟨message, .finished⟩)
      if published then state.record (.deadLettered id) else state

/-- One effect; `none` when the party is not at that point. -/
def step (policy : DeliveryRetryPolicy) (state : Engine) : Action → Option Engine
  | .accept call clientId request =>
      match state.calls call with
      | none => some (state.setCall call ⟨clientId, request, .start request⟩)
      | some _ => none
  | .lookup call =>
      match state.calls call with
      | some ⟨clientId, request, .lookup⟩ =>
          some (state.setCall call
            ⟨clientId, request, .ofLookup (lookupExisting state.table clientId request)⟩)
      | _ => none
  | .insert call id =>
      match state.calls call with
      | some ⟨clientId, request, .create⟩ =>
          -- generated UUIDs are fresh
          if (state.table.getById id).isSome then none
          else
            let row := create clientId request id
            match state.table.insertValues row with
            | .ok table =>
                some (((state.setTable table).setCall call ⟨clientId, request, .enqueue row⟩).record
                  (.inserted call row))
            | .error (.integrity error) =>
                some (state.setCall call ⟨clientId, request, .recover error⟩)
            | .error .data => some (state.setCall call ⟨clientId, request, .raised .data⟩)
      | _ => none
  | .recover call =>
      match state.calls call with
      | some ⟨clientId, request, .recover error⟩ =>
          some (state.setCall call
            ⟨clientId, request, .ofResult (recover state.table clientId request error)⟩)
      | _ => none
  | .enqueue call outcome =>
      match state.calls call with
      | some ⟨clientId, request, .enqueue row⟩ =>
          let next := (state.setCall call
            ⟨clientId, request, .ofResult (afterEnqueue row outcome)⟩).record
              (.enqueue call row.id outcome)
          if outcome = .published then some (next.setQueued (⟨row.id, 0⟩ :: state.queued))
          else some next
      | _ => none
  | .duplicate message =>
      if message ∈ state.queued then some (state.setQueued (message :: state.queued)) else none
  | .redeliver worker =>
      match state.workers worker with
      | some delivery => some (state.setQueued (delivery.message :: state.queued))
      | none => none
  | .deliver worker message =>
      match state.workers worker with
      | none =>
          if message ∈ state.queued then
            some ((state.setQueued (state.queued.erase message)).setPhase worker message .load)
          else none
      | some _ => none
  | .load worker =>
      match state.workers worker with
      | some ⟨message, .dispatching .load⟩ =>
          let found := state.table.getById message.notificationId
          some (state.setPhase worker message (.ofLoad (afterLoad found)))
      | _ => none
  | .commit worker stored =>
      match state.workers worker with
      | some ⟨message, .dispatching phase⟩ =>
          match phase.pendingCommit with
          | some (change, next) =>
              match stored, state.table.commit change with
              | true, .ok table => some ((state.setTable table).setPhase worker message next)
              -- values that a column does not take are never stored
              | true, .error _ => none
              | false, _ =>
                  some ((state.setPhase worker message (.raised .database)).record
                    (.faulted message.notificationId))
          | none => none
      | _ => none
  | .send worker outcome now =>
      match state.workers worker with
      | some ⟨message, .dispatching (.send row)⟩ =>
          some ((state.setPhase worker message (.ofSend (afterSend policy row now outcome))).record
            (.provider message.notificationId row.outbound outcome))
      | _ => none
  | .apply worker published =>
      match state.workers worker with
      | some ⟨message, .dispatching (.returned result)⟩ =>
          some (state.applied worker message published
            (applyDeliveryResult result message policy.maxRetries))
      | some ⟨message, .dispatching (.raised _)⟩ =>
          some (state.setWorker worker (some ⟨message, .finished⟩))
      | _ => none
  | .acknowledge worker =>
      match state.workers worker with
      | some ⟨_, .finished⟩ => some (state.setWorker worker none)
      | _ => none
  | .crash worker =>
      match state.workers worker with
      | some delivery =>
          some ((state.setWorker worker none).setQueued (delivery.message :: state.queued))
      | none => none

end Engine

end NotificationsEngine
