import NotificationsEngine.Store.Table

/-!
# Reading status and metrics

`get_status` of `app/services/notification_service.py` and
`app/services/metrics_service.py`, with the repository's queries that they
make.  Both are scoped by the client that asks.
-/

namespace NotificationsEngine

/-- No notification for this client: missing or not owned. -/
inductive NotificationNotFound where
  | notFound
  deriving DecidableEq, Repr

structure NotificationStatusResponse where
  notificationId : UUID
  status : NotificationStatus
  deriving DecidableEq

/-- Terminal send counts for one client. -/
structure ClientSendCounts where
  sent : Nat
  failed : Nat
  deriving DecidableEq

structure ClientMetricsResponse where
  sent : Nat
  failed : Nat
  deriving DecidableEq

namespace Table

def getByIdForClient (table : Table) (notificationId clientId : UUID) : Option Notification :=
  table.rows.find? fun row => row.id = notificationId ∧ row.clientId = clientId

/-- `SELECT count(*) FILTER (WHERE ...)` over the rows of the client. -/
def countSentAndFailedForClient (table : Table) (clientId : UUID) : ClientSendCounts :=
  let rows := table.rows.filter fun row => row.clientId = clientId
  ⟨rows.countP fun row => row.status = .sent, rows.countP fun row => row.status = .failed⟩

end Table

def getStatus (table : Table) (clientId notificationId : UUID) :
    Except NotificationNotFound NotificationStatusResponse :=
  match table.getByIdForClient notificationId clientId with
  | none => .error .notFound
  | some row => .ok ⟨row.id, row.status⟩

def getClientMetrics (table : Table) (clientId : UUID) : ClientMetricsResponse :=
  let counts := table.countSentAndFailedForClient clientId
  ⟨counts.sent, counts.failed⟩

/-! ## What a client can see -/

def Table.ofClient (table : Table) (clientId : UUID) : List Notification :=
  table.rows.filter fun row => row.clientId = clientId

@[simp] theorem Table.mem_ofClient {table : Table} {clientId : UUID} {row : Notification} :
    row ∈ table.ofClient clientId ↔ row ∈ table.rows ∧ row.clientId = clientId := by
  simp [ofClient]

theorem Table.getByIdForClient_eq (table : Table) (notificationId clientId : UUID) :
    table.getByIdForClient notificationId clientId =
      (table.ofClient clientId).find? fun row => row.id = notificationId := by
  rw [ofClient, List.find?_filter, getByIdForClient]
  congr 1
  funext row
  simp [and_comm]

theorem Table.getByIdempotencyKey_eq (table : Table) (clientId : UUID) (key : Str) :
    table.getByIdempotencyKey clientId key =
      (table.ofClient clientId).find? fun row => row.idempotencyKey = some key := by
  rw [ofClient, List.find?_filter, getByIdempotencyKey]
  congr 1
  funext row
  simp

theorem getClientMetrics_eq (table : Table) (clientId : UUID) :
    getClientMetrics table clientId =
      ⟨(table.ofClient clientId).countP fun row => row.status = .sent,
        (table.ofClient clientId).countP fun row => row.status = .failed⟩ := rfl

/-- A status is read of an own row only. -/
theorem getStatus_of_foreign {table : Table} {clientId notificationId : UUID}
    (foreign : ∀ row, table.getById notificationId = some row → row.clientId ≠ clientId) :
    getStatus table clientId notificationId = .error .notFound := by
  unfold getStatus
  cases found : table.getByIdForClient notificationId clientId with
  | none => rfl
  | some row =>
      have matched := List.find?_some found
      simp only [decide_eq_true_eq] at matched
      have stored := Table.getById_eq_some_iff.mpr ⟨List.mem_of_find?_eq_some found, matched.1⟩
      exact absurd matched.2 (foreign row stored)

end NotificationsEngine
