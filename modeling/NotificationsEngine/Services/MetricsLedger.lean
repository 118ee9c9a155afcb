import NotificationsEngine.Library.Observation
import NotificationsEngine.Services.Operations
import Mathlib.Data.Finset.Card

/-!
# The metrics as a ledger

`get_client_metrics` counts rows by their present status.  Over any run this
is the count of the dispatches that have returned SENT, or a dead letter: a
row changes into SENT or FAILED by such a dispatch only, and never again.
-/

namespace NotificationsEngine

open KeyedList Observation

variable {policy : DeliveryRetryPolicy} {table : Table} {clientId : UUID}

/-- The dispatches of stored rows over a run from the empty store, with their results. -/
def dispatchResults (policy : DeliveryRetryPolicy) (ops : List ServiceOp) :
    List (Notification × DispatchResult) :=
  observe (ServiceOp.perform policy) (ServiceOp.dispatched policy) .empty ops

/-- The rows that `accept` has created over a run from the empty store. -/
def createdRows (policy : DeliveryRetryPolicy) (ops : List ServiceOp) : List Notification :=
  observe (ServiceOp.perform policy) (fun table op => op.created table) .empty ops

def metricsAfter (policy : DeliveryRetryPolicy) (ops : List ServiceOp) (clientId : UUID) :
    ClientMetricsResponse :=
  getClientMetrics (performAll policy .empty ops) clientId

/-! ## One dispatch -/

/-- The status counts the results that are marked: a dispatch enters it exactly with such a one. -/
structure Marks (policy : DeliveryRetryPolicy) (status : NotificationStatus)
    (marked : DispatchResult → Bool) : Prop where
  created : status ≠ .pending
  entered : ∀ {row outcome columns messages ended},
    Dispatches policy row outcome columns messages ended →
      (if columns.status = status then 1 else 0) =
        (if row.status = status then 1 else 0) + if ended.toOption.any marked then 1 else 0

/-- A row enters a terminal status only when it is settled, never by a skip or a raise. -/
theorem marks_of_terminal {status : NotificationStatus} {marked : DispatchResult → Bool}
    (terminal : status.isTerminal = true) (skips : marked { action := .skipped } = false)
    (settled : ∀ {row outcome columns result}, Settles policy row outcome columns result →
      (columns.status = status ↔ marked result = true)) : Marks policy status marked where
  created := by
    rintro rfl
    cases terminal
  entered := by
    intro row outcome columns messages ended dispatches
    have other : row.status.isTerminal = false → row.status ≠ status := by
      rintro live rfl
      rw [terminal] at live
      cases live
    cases dispatches with
    | skipped => simp [Except.toOption, skips]
    | settled live _ _ settles =>
        rw [if_neg (other live), Nat.zero_add]
        exact if_congr (settled settles) rfl rfl
    | unrecorded live =>
        have claimed : NotificationStatus.processing ≠ status := by
          rintro rfl
          cases terminal
        simp [Except.toOption, other live, DeliveryColumns.claimed, claimed]

theorem marks_sent (policy : DeliveryRetryPolicy) :
    Marks policy .sent fun result => result.action = .sent :=
  marks_of_terminal rfl rfl fun settles => by cases settles <;> simp [countSuccess]

theorem marks_failed (policy : DeliveryRetryPolicy) :
    Marks policy .failed fun result => result.deadLetter :=
  marks_of_terminal rfl rfl fun settles => by cases settles <;> simp [countSuccess]

/-! ## Counts over a run -/

def countStatus (kind : Notification → Bool) (status : NotificationStatus) (table : Table) : Nat :=
  table.rows.countP fun row => kind row && decide (row.status = status)

/-- One more row has the status exactly when the operation returns a marked result. -/
theorem Performs.countStatus_eq {kind : Notification → Bool} {status : NotificationStatus}
    {marked : DispatchResult → Bool} (marks : Marks policy status marked)
    (fixed : ∀ row columns, kind (row.withColumns columns) = kind row) {table table' : Table}
    {op : ServiceOp} {created : Option Notification}
    {dispatched : Option (Notification × DispatchResult)}
    (performs : Performs policy table op table' created dispatched) :
    countStatus kind status table' = countStatus kind status table +
      dispatched.toList.countP fun entry => kind entry.1 && marked entry.2 := by
  cases performs with
  | unchanged => rfl
  | inserted clientId id request outcome table' stored =>
      have pending : decide ((create clientId request id).status = status) = false :=
        decide_eq_false fun same => marks.created same.symm
      simp [countStatus, Table.insert_rows stored, pending]
  | settled row provider now columns messages ended found dispatches table' rows =>
      have same : row.id = (row.withColumns columns).id := rfl
      have counted := countP_replace table.primaryKey (Table.getById_mem found) same fun row =>
        kind row && decide (row.status = status)
      have entered : (if (row.withColumns columns).status = status then 1 else 0) =
          (if row.status = status then 1 else 0) +
            if ended.toOption.any marked then 1 else 0 := marks.entered dispatches
      have results : (ended.toOption.map fun result => (row, result)).toList.countP
          (fun entry => kind entry.1 && marked entry.2) =
            if kind row && ended.toOption.any marked then 1 else 0 := by
        cases ended <;> simp [Except.toOption, List.countP_singleton]
      rw [results]
      simp only [countStatus, rows]
      cases of_kind : kind row with
      | false => simpa [fixed, of_kind] using counted
      | true =>
          simp only [fixed, of_kind, Bool.true_and, decide_eq_true_eq] at counted ⊢
          omega

theorem countStatus_perform {kind : Notification → Bool} {status : NotificationStatus}
    {marked : DispatchResult → Bool} (marks : Marks policy status marked)
    (fixed : ∀ row columns, kind (row.withColumns columns) = kind row) (table : Table)
    (op : ServiceOp) :
    countStatus kind status (op.perform policy table) = countStatus kind status table +
      (op.dispatched policy table).toList.countP fun entry => kind entry.1 && marked entry.2 :=
  (perform_performs policy table op).countStatus_eq marks fixed

/-- The count over the rows is the count over the results. -/
theorem countStatus_performAll {kind : Notification → Bool} {status : NotificationStatus}
    {marked : DispatchResult → Bool} (marks : Marks policy status marked)
    (fixed : ∀ row columns, kind (row.withColumns columns) = kind row) (ops : List ServiceOp) :
    countStatus kind status (performAll policy .empty ops) =
      (dispatchResults policy ops).countP fun entry => kind entry.1 && marked entry.2 := by
  have counted := count_run (countStatus_perform marks fixed) .empty ops
  rw [performAll, counted]
  exact Nat.zero_add _

theorem getClientMetrics_countStatus (table : Table) (clientId : UUID) :
    getClientMetrics table clientId =
      ⟨countStatus (fun row => row.clientId = clientId) .sent table,
        countStatus (fun row => row.clientId = clientId) .failed table⟩ := by
  rw [getClientMetrics_eq, Table.ofClient, List.countP_filter, List.countP_filter]
  simp only [countStatus, Bool.and_comm]

/-- A row has one status at most. -/
theorem countStatus_add_le (kind : Notification → Bool) (table : Table) :
    countStatus kind .sent table + countStatus kind .failed table ≤ table.rows.countP kind := by
  unfold countStatus
  induction table.rows with
  | nil => exact Nat.le_refl 0
  | cons row rest ih =>
      simp only [List.countP_cons]
      cases kind row <;> cases row.status <;> simp <;> omega

theorem countP_id_le_one (table : Table) (id : UUID) :
    table.rows.countP (fun row => row.id = id) ≤ 1 := by
  have counted := List.nodup_iff_count_le_one.mp table.primaryKey id
  rw [List.count, List.countP_map] at counted
  exact counted

theorem countStatus_le_more {kind : Notification → Bool} {status : NotificationStatus}
    {marked : DispatchResult → Bool} (marks : Marks policy status marked)
    (fixed : ∀ row columns, kind (row.withColumns columns) = kind row)
    (ops more : List ServiceOp) :
    countStatus kind status (performAll policy .empty ops) ≤
      countStatus kind status (performAll policy .empty (ops ++ more)) := by
  have counted := count_run (countStatus_perform marks fixed) (performAll policy .empty ops) more
  rw [performAll, performAll, List.foldl_append]
  exact (Nat.le_add_right _ _).trans counted.symm.le

def ownId (clientId : UUID) (row : Notification) : Option UUID :=
  if row.clientId = clientId then some row.id else none

/-- The ids of the client's rows, newest first, are those that `accept` has created. -/
theorem Performs.ids_eq {table table' : Table} {op : ServiceOp} {created : Option Notification}
    {dispatched : Option (Notification × DispatchResult)}
    (performs : Performs policy table op table' created dispatched) (clientId : UUID) :
    (table'.ofClient clientId).map (·.id) =
      (created.toList.filterMap (ownId clientId)).reverse ++
        (table.ofClient clientId).map (·.id) := by
  cases performs with
  | unchanged => rfl
  | inserted caller id request outcome table' stored =>
      by_cases own : caller = clientId
      · simp [Table.ofClient, Table.insert_rows stored, create, ownId, own]
      · simp [Table.ofClient, Table.insert_rows stored, create, ownId, own]
  | settled row provider now columns messages result found dispatches table' rows =>
      rw [ofClient_of_replace found rows, map_key_replace]
      rfl

/-! ## The ledger -/

/-- The distinct ids that `accept` has created for the client. -/
def createdIds (policy : DeliveryRetryPolicy) (ops : List ServiceOp) (clientId : UUID) :
    Finset UUID :=
  ((createdRows policy ops).filterMap (ownId clientId)).toFinset

theorem card_createdIds (policy : DeliveryRetryPolicy) (ops : List ServiceOp) (clientId : UUID) :
    (createdIds policy ops clientId).card =
      ((performAll policy .empty ops).ofClient clientId).length := by
  have ids : ((performAll policy .empty ops).ofClient clientId).map (·.id) =
      ((createdRows policy ops).filterMap (ownId clientId)).reverse ++ [] :=
    collect_run (fun table : Table => (table.ofClient clientId).map (·.id))
      (fun table op => (perform_performs policy table op).ids_eq clientId) .empty ops
  rw [List.append_nil] at ids
  have distinct : (((performAll policy .empty ops).ofClient clientId).map (·.id)).Nodup :=
    (performAll policy .empty ops).primaryKey.sublist (List.filter_sublist.map _)
  rw [ids, List.nodup_reverse] at distinct
  rw [createdIds, List.toFinset_card_of_nodup distinct, ← List.length_reverse, ← ids,
    List.length_map]

structure MetricsLedger (policy : DeliveryRetryPolicy) (ops : List ServiceOp) (clientId : UUID) :
    Prop where
  sent : (metricsAfter policy ops clientId).sent =
    (dispatchResults policy ops).countP fun entry =>
      entry.1.clientId = clientId ∧ entry.2.action = .sent
  failed : (metricsAfter policy ops clientId).failed =
    (dispatchResults policy ops).countP fun entry =>
      entry.1.clientId = clientId ∧ entry.2.deadLetter = true
  once : ∀ id,
    (dispatchResults policy ops).countP
        (fun entry => entry.1.id = id ∧ entry.2.action = .sent) +
      (dispatchResults policy ops).countP
        (fun entry => entry.1.id = id ∧ entry.2.deadLetter = true) ≤ 1
  sent_le : ∀ more,
    (metricsAfter policy ops clientId).sent ≤ (metricsAfter policy (ops ++ more) clientId).sent
  failed_le : ∀ more,
    (metricsAfter policy ops clientId).failed ≤ (metricsAfter policy (ops ++ more) clientId).failed
  accept : ∀ caller request id outcome,
    metricsAfter policy (ops ++ [.accept caller request id outcome]) clientId =
      metricsAfter policy ops clientId
  created : (metricsAfter policy ops clientId).sent + (metricsAfter policy ops clientId).failed ≤
    (createdIds policy ops clientId).card

/--
The metrics are an exact ledger of the results: over every run of `accept`
calls and dispatches from an empty store, with any outcomes, and for every
client.
-/
theorem metrics_ledger (policy : DeliveryRetryPolicy) (ops : List ServiceOp) (clientId : UUID) :
    MetricsLedger policy ops clientId where
  sent := by
    rw [metricsAfter, getClientMetrics_countStatus]
    simpa only [Bool.decide_and] using
      countStatus_performAll (marks_sent policy) (fun _ _ => rfl) ops
  failed := by
    rw [metricsAfter, getClientMetrics_countStatus]
    simpa only [Bool.decide_and, Bool.decide_eq_true] using
      countStatus_performAll (marks_failed policy) (fun _ _ => rfl) ops
  once := by
    intro id
    have one := (countStatus_add_le (fun row => row.id = id) _).trans
      (countP_id_le_one (performAll policy .empty ops) id)
    rw [countStatus_performAll (marks_sent policy) (fun _ _ => rfl),
      countStatus_performAll (marks_failed policy) (fun _ _ => rfl)] at one
    simpa only [Bool.decide_and, Bool.decide_eq_true] using one
  sent_le more := by
    simp only [metricsAfter, getClientMetrics_countStatus]
    exact countStatus_le_more (marks_sent policy) (fun _ _ => rfl) ops more
  failed_le more := by
    simp only [metricsAfter, getClientMetrics_countStatus]
    exact countStatus_le_more (marks_failed policy) (fun _ _ => rfl) ops more
  accept caller request id outcome := by
    simp only [metricsAfter, getClientMetrics_countStatus, performAll, List.foldl_append,
      List.foldl_cons, List.foldl_nil]
    rw [countStatus_perform (marks_sent policy) (fun _ _ => rfl),
      countStatus_perform (marks_failed policy) (fun _ _ => rfl)]
    rfl
  created := by
    rw [card_createdIds, metricsAfter, getClientMetrics_countStatus, Table.ofClient,
      ← List.countP_eq_length_filter]
    exact countStatus_add_le _ _

end NotificationsEngine
