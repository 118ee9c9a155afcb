import NotificationsEngine.Services.Accept
import NotificationsEngine.Services.Dispatch
import NotificationsEngine.Services.Queries

/-!
# Clients' calls and workers' dispatches, one after another

One operation is one call of a service, uninterrupted, with everything that it
takes from its environment: the UUID it generates, the outcome of its enqueue,
the provider, the clock.
-/

namespace NotificationsEngine

open KeyedList

inductive ServiceOp where
  | accept (clientId : UUID) (request : SendNotificationRequest) (id : UUID)
      (outcome : EnqueueOutcome)
  | getStatus (clientId notificationId : UUID)
  | getClientMetrics (clientId : UUID)
  | dispatch (notificationId : UUID) (provider : OutboundMessage → ProviderOutcome) (now : Instant)

inductive Answer where
  | accepted (result : Except AcceptError SendAcceptedResponse)
  | status (result : Except NotificationNotFound NotificationStatusResponse)
  | metrics (response : ClientMetricsResponse)
  | dispatched (result : Except DispatchError DispatchResult)

namespace ServiceOp

/-- The client whose call it is; a dispatch is the call of a worker. -/
def caller : ServiceOp → Option UUID
  | .accept clientId _ _ _ => some clientId
  | .getStatus clientId _ => some clientId
  | .getClientMetrics clientId => some clientId
  | .dispatch _ _ _ => none

def perform (policy : DeliveryRetryPolicy) (table : Table) : ServiceOp → Table
  | .accept clientId request id outcome =>
      (NotificationsEngine.accept table clientId request id outcome).table
  | .getStatus _ _ => table
  | .getClientMetrics _ => table
  | .dispatch notificationId provider now =>
      (NotificationsEngine.dispatch policy provider now table notificationId).table

def answer (policy : DeliveryRetryPolicy) (table : Table) : ServiceOp → Answer
  | .accept clientId request id outcome =>
      .accepted (NotificationsEngine.accept table clientId request id outcome).result
  | .getStatus clientId notificationId =>
      .status (NotificationsEngine.getStatus table clientId notificationId)
  | .getClientMetrics clientId => .metrics (NotificationsEngine.getClientMetrics table clientId)
  | .dispatch notificationId provider now =>
      .dispatched (NotificationsEngine.dispatch policy provider now table notificationId).result

def created (table : Table) : ServiceOp → Option Notification
  | .accept clientId request id outcome =>
      (NotificationsEngine.accept table clientId request id outcome).inserted
  | _ => none

/-- The stored row that a dispatch finds, with the result that it returns. -/
def dispatched (policy : DeliveryRetryPolicy) (table : Table) :
    ServiceOp → Option (Notification × DispatchResult)
  | .dispatch notificationId provider now =>
      match table.getById notificationId,
        (NotificationsEngine.dispatch policy provider now table notificationId).result with
      | some row, .ok result => some (row, result)
      | _, _ => none
  | _ => none

end ServiceOp

def performAll (policy : DeliveryRetryPolicy) (table : Table) (ops : List ServiceOp) : Table :=
  ops.foldl (ServiceOp.perform policy) table

inductive Performs (policy : DeliveryRetryPolicy) (table : Table) :
    ServiceOp → Table → Option Notification → Option (Notification × DispatchResult) → Prop where
  | unchanged (op : ServiceOp) : Performs policy table op table none none
  | inserted (clientId id : UUID) (request : SendNotificationRequest) (outcome : EnqueueOutcome)
      (table' : Table) (stored : table.insert (create clientId request id) = .ok table') :
      Performs policy table (.accept clientId request id outcome) table'
        (some (create clientId request id)) none
  | settled (row : Notification) (provider : OutboundMessage → ProviderOutcome) (now : Instant)
      (columns : DeliveryColumns) (messages : List OutboundMessage)
      (ended : Except DispatchError DispatchResult) (found : table.getById row.id = some row)
      (dispatches : Dispatches policy row (provider row.outbound) columns messages ended)
      (table' : Table)
      (rows : table'.rows = replace (·.id) (row.withColumns columns) table.rows) :
      Performs policy table (.dispatch row.id provider now) table' none
        (ended.toOption.map fun result => (row, result))

/-- The rows of a client after a dispatch. -/
theorem ofClient_of_replace {table table' : Table} {row : Notification}
    {columns : DeliveryColumns} (found : table.getById row.id = some row)
    (rows : table'.rows = replace (·.id) (row.withColumns columns) table.rows) (clientId : UUID) :
    table'.ofClient clientId =
      replace (·.id) (row.withColumns columns) (table.ofClient clientId) := by
  have same : row.id = (row.withColumns columns).id := rfl
  rw [Table.ofClient, rows]
  exact filter_replace table.primaryKey (Table.getById_mem found) same rfl

theorem ofClient_of_replace_foreign {table table' : Table} {row : Notification}
    {columns : DeliveryColumns} (found : table.getById row.id = some row)
    (rows : table'.rows = replace (·.id) (row.withColumns columns) table.rows) {clientId : UUID}
    (foreign : row.clientId ≠ clientId) : table'.ofClient clientId = table.ofClient clientId := by
  rw [ofClient_of_replace found rows]
  refine replace_of_absent fun other member same => foreign ?_
  obtain ⟨stored, client⟩ := Table.mem_ofClient.mp member
  rw [← Table.eq_of_id_eq stored (Table.getById_mem found) same, client]

/-- A dispatch leaves the rows of other ids as they are. -/
theorem getById_of_replace_ne {table table' : Table} {row : Notification} {id : UUID}
    (rows : table'.rows = replace (·.id) row table.rows) (other : row.id ≠ id) :
    table'.getById id = table.getById id := by
  refine Option.ext fun stored => ?_
  rw [Table.getById_eq_some_iff, Table.getById_eq_some_iff, rows]
  refine and_congr_left fun same => mem_replace_of_ne ?_
  rw [same]
  exact Ne.symm other

theorem getById_dispatch_ne (policy : DeliveryRetryPolicy)
    (provider : OutboundMessage → ProviderOutcome) (now : Instant) (table : Table) {id other : UUID}
    (unlike : other ≠ id) :
    (dispatch policy provider now table other).table.getById id = table.getById id := by
  cases found : table.getById other with
  | none => rw [dispatch_of_missing policy provider now found]
  | some row =>
      obtain rfl : row.id = other := Table.getById_id found
      obtain ⟨columns, messages, result, -, rest⟩ := dispatch_row policy provider now row
      exact getById_of_replace_ne (rest table found).1 unlike

theorem perform_performs (policy : DeliveryRetryPolicy) (table : Table) (op : ServiceOp) :
    Performs policy table op (op.perform policy table) (op.created table)
      (op.dispatched policy table) := by
  cases op with
  | getStatus => exact .unchanged _
  | getClientMetrics => exact .unchanged _
  | accept clientId request id outcome =>
      have accepts := accept_accepts table clientId request id outcome
      simp only [ServiceOp.perform, ServiceOp.created, ServiceOp.dispatched]
      generalize accept table clientId request id outcome = run at accepts
      cases accepts with
      | replayed => exact .unchanged _
      | refused => exact .unchanged _
      | inserted table' stored => exact .inserted clientId id request outcome table' stored
  | dispatch id provider now =>
      cases found : table.getById id with
      | none =>
          simp only [ServiceOp.perform, ServiceOp.created, ServiceOp.dispatched, found,
            dispatch_of_missing policy provider now found]
          exact .unchanged _
      | some row =>
          obtain rfl : row.id = id := Table.getById_id found
          obtain ⟨columns, messages, ended, dispatches, rest⟩ :=
            dispatch_row policy provider now row
          obtain ⟨rows, -, returned⟩ := rest table found
          have settled :=
            Performs.settled row provider now columns messages ended found dispatches _ rows
          simp only [ServiceOp.perform, ServiceOp.created, ServiceOp.dispatched, found, returned]
          cases ended with
          | error error => exact settled
          | ok result => exact settled

end NotificationsEngine
