import NotificationsEngine.Store.Notification

/-!
# The simulated provider

`app/providers/simulated.py`.  The adapter succeeds unless the template is
exactly one of two switches; its answer depends on nothing else.
-/

namespace NotificationsEngine

namespace SimulatedNotificationProvider

/-- `_PERMANENT_FAIL_TEMPLATE`. -/
def permanentFailTemplate : Str := .ofString "fail-permanent"

/-- `_TRANSIENT_FAIL_TEMPLATE`. -/
def transientFailTemplate : Str := .ofString "fail-transient"

def permanentFailure : ProviderException := ⟨true, .ofString "simulated permanent failure"⟩

def transientFailure : ProviderException := ⟨false, .ofString "simulated transient failure"⟩

def send (message : OutboundMessage) : ProviderOutcome :=
  if message.template = permanentFailTemplate then .raised permanentFailure
  else if message.template = transientFailTemplate then .raised transientFailure
  else .returned

variable {message : OutboundMessage}

theorem switches_ne : transientFailTemplate ≠ permanentFailTemplate := by decide

theorem send_of_permanent (switch : message.template = permanentFailTemplate) :
    send message = .raised permanentFailure := if_pos switch

theorem send_of_transient (switch : message.template = transientFailTemplate) :
    send message = .raised transientFailure := by
  rw [send, if_neg (by rw [switch]; exact switches_ne), if_pos switch]

theorem send_eq_returned_iff :
    send message = .returned ↔
      message.template ≠ permanentFailTemplate ∧ message.template ≠ transientFailTemplate := by
  unfold send
  split
  · next switch => simp [switch]
  · next notPermanent =>
      split
      · next switch => simp [switch]
      · next notTransient => simp [notPermanent, notTransient]

/-- A failure is one of the two switches, each with its own text. -/
theorem send_eq_raised {error : ProviderException} (raised : send message = .raised error) :
    message.template = permanentFailTemplate ∧ error = permanentFailure ∨
      message.template = transientFailTemplate ∧ error = transientFailure := by
  unfold send at raised
  split at raised
  · next switch => exact .inl ⟨switch, (ProviderOutcome.raised.inj raised).symm⟩
  · split at raised
    · next switch => exact .inr ⟨switch, (ProviderOutcome.raised.inj raised).symm⟩
    · cases raised

end SimulatedNotificationProvider

end NotificationsEngine
