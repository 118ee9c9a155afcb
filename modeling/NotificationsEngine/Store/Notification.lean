import NotificationsEngine.Domain.Status
import NotificationsEngine.Library.ColumnWrite
import Mathlib.Data.BitVec

/-!
# Notification rows

`app/models/notification.py`, `app/schemas/notification.py` and
`app/providers/port.py`.  A Python `str` is a sequence of code points, lone
surrogates included.  The columns that a worker assigns to form a record of
their own, since an UPDATE of a row can only ever mix two values of it.
-/

namespace NotificationsEngine

open ColumnWrite

abbrev UUID := BitVec 128

abbrev CodePoint := Fin 0x110000

abbrev Str := List CodePoint

/-- A literal without surrogates. -/
def Str.ofString (text : String) : Str :=
  text.toList.map fun character => Fin.ofNat 0x110000 character.toNat

/-- A point of UTC time, in microseconds since the epoch. -/
abbrev Instant := Int

/-- A `float` read by Python's JSON parser, which also accepts `NaN` and `Infinity`. -/
inductive JsonFloat where
  | finite (significand : Int) (exponent : Int)
  | nan
  | infinity
  | negInfinity
  deriving DecidableEq, Repr

/-- A value as Python's JSON parser returns it. -/
inductive Json where
  | null
  | bool (value : Bool)
  | int (value : Int)
  | float (value : JsonFloat)
  | str (value : Str)
  | arr (items : List Json)
  | obj (fields : List (Str × Json))

/-- A parsed JSON object, in the order of its keys. -/
abbrev Payload := List (Str × Json)

/-- The columns of a row that `DispatchService` assigns to. -/
structure DeliveryColumns where
  status : NotificationStatus
  retryCount : Nat
  errorMessage : Option Str
  sentAt : Option Instant
  deriving DecidableEq

structure Notification extends DeliveryColumns where
  id : UUID
  clientId : UUID
  channel : Channel
  recipient : Str
  template : Str
  payload : Payload
  idempotencyKey : Option Str

structure SendNotificationRequest where
  channel : Channel
  recipient : Str
  template : Str
  payload : Payload
  idempotencyKey : Option Str

/-- The request that the repository's tests send, with an optional key. -/
def SendNotificationRequest.welcome (idempotencyKey : Option Str) : SendNotificationRequest where
  channel := .email
  recipient := .ofString "user@example.com"
  template := .ofString "welcome"
  payload := []
  idempotencyKey := idempotencyKey

structure SendAcceptedResponse where
  notificationId : UUID
  status : NotificationStatus
  deriving DecidableEq

/-- What the provider needs to deliver. -/
structure OutboundMessage where
  channel : Channel
  recipient : Str
  template : Str
  payload : Payload

/-- An `Exception` out of `provider.send`: is it a `PermanentProviderError`, and its text. -/
structure ProviderException where
  permanent : Bool
  text : Str
  deriving DecidableEq

/-- The outcome of one call of `provider.send`. -/
inductive ProviderOutcome where
  | returned
  | raised (error : ProviderException)
  deriving DecidableEq

namespace DeliveryColumns

/-- The UPDATE of one commit: every column that differs from the snapshot. -/
def write (base assigned stored : DeliveryColumns) : DeliveryColumns where
  status := writeColumn base.status assigned.status stored.status
  retryCount := writeColumn base.retryCount assigned.retryCount stored.retryCount
  errorMessage := writeColumn base.errorMessage assigned.errorMessage stored.errorMessage
  sentAt := writeColumn base.sentAt assigned.sentAt stored.sentAt

@[simp] theorem write_current (base assigned : DeliveryColumns) :
    write base assigned base = assigned := by
  simp [write]

end DeliveryColumns

namespace Notification

def withColumns (row : Notification) (columns : DeliveryColumns) : Notification :=
  { row with toDeliveryColumns := columns }

@[simp] theorem withColumns_columns (row : Notification) (columns : DeliveryColumns) :
    (row.withColumns columns).toDeliveryColumns = columns := rfl

@[simp] theorem withColumns_id (row : Notification) (columns : DeliveryColumns) :
    (row.withColumns columns).id = row.id := rfl

/-- What the worker hands to the provider for this row. -/
def outbound (row : Notification) : OutboundMessage where
  channel := row.channel
  recipient := row.recipient
  template := row.template
  payload := row.payload

/-- Two rows that the partial unique index `uq_notifications_client_idempotency` excludes. -/
def SameKey (first second : Notification) : Prop :=
  first.idempotencyKey ≠ none ∧ first.clientId = second.clientId ∧
    first.idempotencyKey = second.idempotencyKey

instance (first second : Notification) : Decidable (first.SameKey second) :=
  inferInstanceAs (Decidable (_ ≠ _ ∧ _ = _ ∧ _ = _))

theorem SameKey.symm {first second : Notification} (same : first.SameKey second) :
    second.SameKey first :=
  ⟨same.2.2 ▸ same.1, same.2.1.symm, same.2.2.symm⟩

@[simp] theorem sameKey_withColumns (first second : Notification) (a b : DeliveryColumns) :
    (first.withColumns a).SameKey (second.withColumns b) ↔ first.SameKey second := Iff.rfl

end Notification

end NotificationsEngine
