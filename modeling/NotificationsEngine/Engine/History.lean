import NotificationsEngine.Engine.Ownership
import Mathlib.Data.List.Infix

/-!
# Counting provider calls

How often the provider has been called for one id, and how often it returned
or raised; and what a step adds to the log.
-/

namespace NotificationsEngine

namespace Event

/-- A call of `provider.send` for this id. -/
def isSend (id : UUID) : Event → Bool
  | provider target _ _ => target = id
  | _ => false

/-- A call of `provider.send` for this id that returned. -/
def isReturned (id : UUID) : Event → Bool
  | provider target _ .returned => target = id
  | _ => false

/-- A call of `provider.send` for this id that raised. -/
def isRaised (id : UUID) : Event → Bool
  | provider target _ (.raised _) => target = id
  | _ => false

end Event

/-- How often `provider.send` was called for the id. -/
def sends (id : UUID) (log : List Event) : Nat := log.countP (Event.isSend id)

def returnedSends (id : UUID) (log : List Event) : Nat := log.countP (Event.isReturned id)

def raisedSends (id : UUID) (log : List Event) : Nat := log.countP (Event.isRaised id)

/-- The ids published to `notifications.dlq`, newest first. -/
def deadLettered (log : List Event) : List UUID :=
  log.filterMap fun
    | .deadLettered id => some id
    | _ => none

section Counting

variable (id : UUID) (event : Event) (log : List Event)

@[simp] theorem sends_nil : sends id [] = 0 := rfl
@[simp] theorem returnedSends_nil : returnedSends id [] = 0 := rfl
@[simp] theorem raisedSends_nil : raisedSends id [] = 0 := rfl

theorem sends_cons :
    sends id (event :: log) = sends id log + if event.isSend id then 1 else 0 :=
  List.countP_cons

theorem returnedSends_cons :
    returnedSends id (event :: log) =
      returnedSends id log + if event.isReturned id then 1 else 0 :=
  List.countP_cons

theorem raisedSends_cons :
    raisedSends id (event :: log) = raisedSends id log + if event.isRaised id then 1 else 0 :=
  List.countP_cons

/-- Every call of the provider returns or raises. -/
theorem sends_eq_add : sends id log = returnedSends id log + raisedSends id log := by
  induction log with
  | nil => rfl
  | cons event log ih =>
      rw [sends_cons, returnedSends_cons, raisedSends_cons, ih]
      have split : (if event.isSend id then 1 else 0) =
          (if event.isReturned id then 1 else 0) + if event.isRaised id then 1 else 0 := by
        cases event with
        | provider target message outcome =>
            cases outcome <;> simp [Event.isSend, Event.isReturned, Event.isRaised]
        | inserted => rfl
        | enqueue => rfl
        | deadLettered => rfl
        | faulted => rfl
      omega

theorem raisedSends_mono {older newer : List Event} (extends_ : older <:+ newer) :
    raisedSends id older ≤ raisedSends id newer :=
  extends_.sublist.countP_le

end Counting

namespace Engine

inductive Logs (policy : DeliveryRetryPolicy) (state : Engine) : Action → Event → Prop where
  | inserted (call : Nat) (id clientId : UUID) (request : SendNotificationRequest)
      (at_create : state.calls call = some ⟨clientId, request, .create⟩) :
      Logs policy state (.insert call id) (.inserted call (create clientId request id))
  | enqueue (call : Nat) (outcome : EnqueueOutcome) (clientId : UUID)
      (request : SendNotificationRequest) (row : Notification)
      (at_enqueue : state.calls call = some ⟨clientId, request, .enqueue row⟩) :
      Logs policy state (.enqueue call outcome) (.enqueue call row.id outcome)
  | commitRaised (worker : Nat) (message : Message) (phase next : DispatchPhase)
      (change : Change) (held : state.Runs worker message phase)
      (pending : phase.pendingCommit = some (change, next)) :
      Logs policy state (.commit worker false) (.faulted message.notificationId)
  | send (worker : Nat) (outcome : ProviderOutcome) (now : Instant) (message : Message)
      (row : Notification) (held : state.Runs worker message (.send row)) :
      Logs policy state (.send worker outcome now)
        (.provider message.notificationId row.outbound outcome)
  | retryLost (worker : Nat) (message : Message) (result : DispatchResult)
      (held : state.Runs worker message (.returned result)) (again : result.action = .retry) :
      Logs policy state (.apply worker false) (.faulted message.notificationId)
  | deadLettered (worker : Nat) (message : Message) (result : DispatchResult)
      (held : state.Runs worker message (.returned result)) (dead : result.deadLetter = true) :
      Logs policy state (.apply worker true) (.deadLettered message.notificationId)

/-- A step adds at most one event. -/
theorem log_step {policy : DeliveryRetryPolicy} {state next : Engine} {action : Action}
    (hstep : Step policy state action next) :
    next.log = state.log ∨
      ∃ event, next.log = event :: state.log ∧ Logs policy state action event := by
  cases hstep with
  | insert call id clientId request table at_create =>
      exact .inr ⟨_, rfl, .inserted _ _ _ _ at_create⟩
  | enqueue call clientId request row at_enqueue =>
      exact .inr ⟨_, rfl, .enqueue _ _ _ _ _ at_enqueue⟩
  | enqueueRaised call outcome clientId request row at_enqueue =>
      exact .inr ⟨_, rfl, .enqueue _ _ _ _ _ at_enqueue⟩
  | commitRaised worker message phase next change held pending =>
      exact .inr ⟨_, rfl, .commitRaised _ _ _ _ _ held pending⟩
  | send worker outcome now message row held =>
      exact .inr ⟨_, rfl, .send _ _ _ _ _ held⟩
  | apply worker published message result held =>
      cases effect : applyDeliveryResult result message policy.maxRetries with
      | nothing => exact .inl rfl
      | retryRefused => exact .inl rfl
      | retry countdown followUp =>
          cases published with
          | true => exact .inl rfl
          | false =>
              exact .inr ⟨_, rfl, .retryLost _ _ _ held (applyDeliveryResult_eq_retry effect).1⟩
      | deadLetter id =>
          cases published with
          | false => exact .inl rfl
          | true =>
              obtain ⟨dead, rfl⟩ := applyDeliveryResult_eq_deadLetter effect
              exact .inr ⟨_, rfl, .deadLettered _ _ _ held dead⟩
  | _ => exact .inl rfl

theorem log_grows {policy : DeliveryRetryPolicy} {state next : Engine} {action : Action}
    (hstep : Step policy state action next) : state.log <:+ next.log := by
  rcases log_step hstep with same | ⟨event, same, -⟩
  · rw [same]
  · rw [same]
    exact List.suffix_cons _ _

/-- Where an event of the log comes from. -/
theorem event_step {policy : DeliveryRetryPolicy} {state next : Engine} {action : Action}
    {event : Event} (hstep : Step policy state action next) (logged : event ∈ next.log) :
    event ∈ state.log ∨ Logs policy state action event := by
  rcases log_step hstep with same | ⟨newest, same, cause⟩
  · exact .inl (same ▸ logged)
  · rw [same] at logged
    rcases List.mem_cons.mp logged with rfl | old
    · exact .inr cause
    · exact .inl old

/-! ## Outstanding messages -/

theorem outstanding_of_held {state : Engine} {worker : Nat} {message : Message}
    {phase : DeliveryPhase} (held : state.workers worker = some ⟨message, phase⟩) :
    state.Outstanding message :=
  .inr ⟨worker, ⟨message, phase⟩, held, rfl⟩

/-- A delivery under way after a step was under way before it, or is the one the step has set. -/
theorem outstanding_of_update {state next : Engine} {worker : Nat} {value : Option Delivery}
    (workers : next.workers = Function.update state.workers worker value)
    (own : ∀ delivery, value = some delivery → state.Outstanding delivery.message)
    {other : Nat} {delivery : Delivery} (held : next.workers other = some delivery) :
    state.Outstanding delivery.message := by
  rw [workers] at held
  rcases update_eq_some_iff.mp held with ⟨rfl, same⟩ | ⟨-, old⟩
  · exact own delivery same
  · exact outstanding_of_held old

/-- A worker that goes on with its message makes no other message outstanding. -/
theorem outstanding_of_moved {state next : Engine} {worker : Nat} {own message : Message}
    {before after : DeliveryPhase} (held : state.workers worker = some ⟨own, before⟩)
    (outstanding : next.Outstanding message) (queued : next.queued = state.queued)
    (workers : next.workers = Function.update state.workers worker (some ⟨own, after⟩)) :
    state.Outstanding message := by
  rcases outstanding with waiting | ⟨other, delivery, found, rfl⟩
  · exact .inl (queued ▸ waiting)
  · refine outstanding_of_update workers ?_ found
    rintro _ ⟨⟩
    exact outstanding_of_held held

/-- One copy more of an outstanding message. -/
theorem outstanding_of_mem_cons {state : Engine} {copy message : Message}
    (known : state.Outstanding copy) (member : message ∈ copy :: state.queued) :
    state.Outstanding message := by
  rcases List.mem_cons.mp member with rfl | old
  · exact known
  · exact .inl old

/-- The end of a delivery puts nothing into the queue but an accepted retry. -/
theorem queued_applied {state : Engine} {worker : Nat} {own message : Message}
    {published : Bool} {result : DispatchResult} {maxRetries : Int}
    (waiting : message ∈ (state.applied worker own published
      (applyDeliveryResult result own maxRetries)).queued) :
    message ∈ state.queued ∨
      published = true ∧ result.action = .retry ∧ own.retry maxRetries = some message := by
  cases effect : applyDeliveryResult result own maxRetries with
  | nothing =>
      rw [effect] at waiting
      exact .inl waiting
  | retryRefused =>
      rw [effect] at waiting
      exact .inl waiting
  | deadLetter id =>
      rw [effect] at waiting
      cases published <;> exact .inl waiting
  | retry countdown followUp =>
      rw [effect] at waiting
      cases published with
      | false => exact .inl waiting
      | true =>
          rcases List.mem_cons.mp waiting with rfl | old
          · exact .inr ⟨rfl, applyDeliveryResult_eq_retry effect⟩
          · exact .inl old

/-- A message becomes outstanding only by an enqueue or by an accepted retry. -/
theorem outstanding_step {policy : DeliveryRetryPolicy} {state next : Engine} {action : Action}
    {message : Message} (hstep : Step policy state action next)
    (outstanding : next.Outstanding message) :
    state.Outstanding message ∨
      (∃ call clientId request row, action = .enqueue call .published ∧
        state.calls call = some ⟨clientId, request, .enqueue row⟩ ∧ message = ⟨row.id, 0⟩) ∨
      ∃ worker held result, action = .apply worker true ∧
        state.Runs worker held (.returned result) ∧ result.action = .retry ∧
        held.retry policy.maxRetries = some message := by
  cases hstep with
  | enqueue call clientId request row at_enqueue =>
      rcases outstanding with waiting | held
      · rcases List.mem_cons.mp waiting with rfl | waiting
        · exact .inr (.inl ⟨call, clientId, request, row, rfl, at_enqueue, rfl⟩)
        · exact .inl (.inl waiting)
      · exact .inl (.inr held)
  | duplicate copy waiting =>
      rcases outstanding with member | held
      · exact .inl (outstanding_of_mem_cons (.inl waiting) member)
      · exact .inl (.inr held)
  | redeliver worker delivery held =>
      rcases outstanding with member | other
      · exact .inl (outstanding_of_mem_cons (outstanding_of_held held) member)
      · exact .inl (.inr other)
  | deliver worker taken idle waiting =>
      rcases outstanding with member | ⟨other, delivery, found, rfl⟩
      · exact .inl (.inl (List.mem_of_mem_erase member))
      · refine .inl (outstanding_of_update rfl ?_ found)
        rintro _ ⟨⟩
        exact .inl waiting
  | load worker own held => exact .inl (outstanding_of_moved held outstanding rfl rfl)
  | commit worker own phase after change held =>
      exact .inl (outstanding_of_moved held outstanding rfl rfl)
  | commitRaised worker own phase after change held =>
      exact .inl (outstanding_of_moved held outstanding rfl rfl)
  | send worker outcome now own row held =>
      exact .inl (outstanding_of_moved held outstanding rfl rfl)
  | raise worker published own error held =>
      exact .inl (outstanding_of_moved held outstanding rfl rfl)
  | acknowledge worker own held =>
      rcases outstanding with waiting | ⟨other, delivery, found, rfl⟩
      · exact .inl (.inl waiting)
      · exact .inl (outstanding_of_update rfl (by rintro _ ⟨⟩) found)
  | crash worker delivery held =>
      rcases outstanding with member | ⟨other, delivery', found, rfl⟩
      · exact .inl (outstanding_of_mem_cons (outstanding_of_held held) member)
      · exact .inl (outstanding_of_update rfl (by rintro _ ⟨⟩) found)
  | apply worker published own result held =>
      rcases outstanding with waiting | ⟨other, delivery, found, rfl⟩
      · rcases queued_applied waiting with old | ⟨rfl, again, accepted⟩
        · exact .inl (.inl old)
        · exact .inr (.inr ⟨worker, own, result, rfl, held, again, accepted⟩)
      · refine .inl (outstanding_of_update (applied_workers _ _ _ _ _) ?_ found)
        rintro _ ⟨⟩
        exact outstanding_of_held held
  | _ => exact .inl outstanding

end Engine

end NotificationsEngine
