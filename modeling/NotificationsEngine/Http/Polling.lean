import NotificationsEngine.Http.Refinement
import NotificationsEngine.Services.Operations

/-!
# Polling an announced notification

The id of a 202 response can be read from then on by the client that got it and
by no other one.  Deliveries move its status, but never away from SENT or
FAILED.
-/

namespace NotificationsEngine

open KeyedList

/-! ## The row behind an id -/

/-- A status that may be read after another one. -/
def NotificationStatus.Settles (before after : NotificationStatus) : Prop :=
  before.isTerminal = true → after = before

theorem NotificationStatus.Settles.trans {first second third : NotificationStatus}
    (before : first.Settles second) (after : second.Settles third) : first.Settles third := by
  intro terminal
  have same := before terminal
  rw [after (same ▸ terminal), same]

/-- A row that stays with its client and settles. -/
structure Notification.Keeps (row later : Notification) : Prop where
  client : later.clientId = row.clientId
  status : row.status.Settles later.status

theorem Notification.Keeps.refl (row : Notification) : row.Keeps row := ⟨rfl, fun _ => rfl⟩

theorem Notification.Keeps.trans {first second third : Notification}
    (before : first.Keeps second) (after : second.Keeps third) : first.Keeps third :=
  ⟨after.client.trans before.client, before.status.trans after.status⟩

/-- A dispatch leaves a row of a terminal status as it is. -/
theorem Dispatches.keeps {policy : DeliveryRetryPolicy} {row : Notification}
    {outcome : ProviderOutcome} {columns : DeliveryColumns} {messages : List OutboundMessage}
    {ended : Except DispatchError DispatchResult}
    (dispatches : Dispatches policy row outcome columns messages ended) :
    row.Keeps (row.withColumns columns) := by
  cases dispatches with
  | skipped => exact ⟨rfl, fun _ => rfl⟩
  | settled live =>
      refine ⟨rfl, fun terminal => ?_⟩
      rw [live] at terminal
      cases terminal
  | unrecorded live =>
      refine ⟨rfl, fun terminal => ?_⟩
      rw [live] at terminal
      cases terminal

/-- No call of a service takes a stored row away. -/
theorem Performs.keeps {policy : DeliveryRetryPolicy} {table table' : Table} {op : ServiceOp}
    {created : Option Notification} {dispatched : Option (Notification × DispatchResult)}
    (performs : Performs policy table op table' created dispatched) {id : UUID}
    {row : Notification} (found : table.getById id = some row) :
    ∃ later, table'.getById id = some later ∧ row.Keeps later := by
  cases performs with
  | unchanged => exact ⟨row, found, .refl row⟩
  | inserted clientId newId request outcome _ stored =>
      exact ⟨row, Table.getById_insert_of_some stored found, .refl row⟩
  | settled changed provider now columns messages ended foundChanged dispatches _ rows =>
      by_cases same : changed.id = id
      · subst same
        cases foundChanged.symm.trans found
        exact ⟨row.withColumns columns, Table.getById_of_replace found rfl rows, dispatches.keeps⟩
      · exact ⟨row, (getById_of_replace_ne rows same).trans found, .refl row⟩

namespace App

variable {config : AppConfig} {app : App} {surroundings : Surroundings} {scope : Scope}
  {body : Body}

def announced (response : Response) : Option SendAcceptedResponse :=
  match response.content with
  | .accepted accepted => some accepted
  | _ => none

end App

end NotificationsEngine
