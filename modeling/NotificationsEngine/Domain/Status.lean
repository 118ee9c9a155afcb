import Mathlib.Data.List.Basic

/-!
# Channels, statuses and legal status transitions

`app/domain/enums.py`, `app/domain/exceptions.py` and
`app/domain/state_machine.py`: a table of four statuses and four edges.
-/

namespace NotificationsEngine

inductive Channel where
  | email
  | sms
  | push
  | webhook
  deriving DecidableEq, Repr

namespace Channel

def value : Channel → String
  | email => "email"
  | sms => "sms"
  | push => "push"
  | webhook => "webhook"

end Channel

inductive NotificationStatus where
  | pending
  | processing
  | sent
  | failed
  deriving DecidableEq, Repr

namespace NotificationStatus

/-- The member's string, which is also what `format` prints for a `StrEnum`. -/
def value : NotificationStatus → String
  | pending => "PENDING"
  | processing => "PROCESSING"
  | sent => "SENT"
  | failed => "FAILED"

/-- `_ALLOWED`. -/
def allowed : NotificationStatus → List NotificationStatus
  | pending => [processing]
  | processing => [sent, failed, pending]
  | sent => []
  | failed => []

/-- The membership test `status in {SENT, FAILED}`. -/
def isTerminal (status : NotificationStatus) : Bool :=
  [sent, failed].contains status

end NotificationStatus

structure InvalidStatusTransition where
  fromStatus : NotificationStatus
  toStatus : NotificationStatus
  deriving DecidableEq, Repr

def InvalidStatusTransition.message (error : InvalidStatusTransition) : String :=
  "Cannot transition from " ++ error.fromStatus.value ++ " to " ++ error.toStatus.value

/-- Whether `src → dst` is in the frozen table. -/
def canTransition (src dst : NotificationStatus) : Bool :=
  src.allowed.contains dst

/-- Raises `InvalidStatusTransition` when `src → dst` is illegal. -/
def assertTransition (src dst : NotificationStatus) : Except InvalidStatusTransition Unit :=
  if ¬ canTransition src dst then .error ⟨src, dst⟩ else .ok ()

def transition (src dst : NotificationStatus) :
    Except InvalidStatusTransition NotificationStatus := do
  assertTransition src dst
  return dst

theorem assertTransition_ok_iff {src dst : NotificationStatus} :
    assertTransition src dst = .ok () ↔ canTransition src dst = true := by
  unfold assertTransition
  split <;> simp_all

/-- The table has no edge out of a terminal status. -/
theorem canTransition_terminal {src : NotificationStatus} (terminal : src.isTerminal = true)
    (dst : NotificationStatus) : canTransition src dst = false := by
  cases src with
  | pending => cases terminal
  | processing => cases terminal
  | sent => rfl
  | failed => rfl

/-- The statuses that `dispatch` skips are exactly those without an outgoing edge. -/
theorem isTerminal_iff_allowed_nil (status : NotificationStatus) :
    status.isTerminal = true ↔ status.allowed = [] := by
  cases status <;> decide

theorem canTransition_irrefl (status : NotificationStatus) :
    canTransition status status = false := by
  cases status <;> rfl

/-- Every status has at most one predecessor in the table. -/
theorem canTransition_source_unique {first second dst : NotificationStatus}
    (hfirst : canTransition first dst = true) (hsecond : canTransition second dst = true) :
    first = second := by
  revert hfirst hsecond
  cases first <;> cases second <;> cases dst <;> decide

end NotificationsEngine
