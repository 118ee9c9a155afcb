import NotificationsEngine.Library.Noninterference
import NotificationsEngine.Services.Operations

/-!
# Tenant isolation

What a client is answered does not depend on the operations of other clients
or on the dispatches of their rows: its answers are the same in the run from
which all of these are removed.
-/

namespace NotificationsEngine

open KeyedList Noninterference Observation

/-- The UUID that an `accept` call generates. -/
def ServiceOp.generated : ServiceOp → Option UUID
  | .accept _ _ id _ => some id
  | _ => none

def generatedIds (ops : List ServiceOp) : List UUID := ops.filterMap ServiceOp.generated

/-- The generated UUIDs differ from each other and from the stored ones. -/
structure FreshIds (table : Table) (ops : List ServiceOp) : Prop where
  distinct : (generatedIds ops).Nodup
  unused : ∀ id ∈ generatedIds ops, table.getById id = none

/-- Neither a call of another client nor a dispatch of another client's row. -/
def ServiceOp.visibleTo (clientId : UUID) (table : Table) : ServiceOp → Bool
  | .dispatch notificationId _ _ =>
      match table.getById notificationId with
      | some row => row.clientId = clientId
      | none => true
  | op => op.caller = some clientId

theorem ServiceOp.visibleTo_of_caller {op : ServiceOp} {caller : UUID}
    (calls : op.caller = some caller) (clientId : UUID) (table : Table) :
    op.visibleTo clientId table = decide (caller = clientId) := by
  cases op with
  | dispatch => cases calls
  | _ => simp [visibleTo, calls]

def ServiceOp.answerTo (policy : DeliveryRetryPolicy) (clientId : UUID) (table : Table)
    (op : ServiceOp) : Option Answer :=
  if op.caller = some clientId then some (op.answer policy table) else none

def answersTo (policy : DeliveryRetryPolicy) (clientId : UUID) (table : Table)
    (ops : List ServiceOp) : List Answer :=
  observe (ServiceOp.perform policy) (ServiceOp.answerTo policy clientId) table ops

def withoutOthers (policy : DeliveryRetryPolicy) (clientId : UUID) (table : Table)
    (ops : List ServiceOp) : List ServiceOp :=
  purge (ServiceOp.perform policy) (ServiceOp.visibleTo clientId) table ops

/-- Two stores with the same rows of the client, the second one with no id of its own. -/
structure SameFor (clientId : UUID) (table image : Table) : Prop where
  rows : image.ofClient clientId = table.ofClient clientId
  unused : ∀ id, table.getById id = none → image.getById id = none

variable {policy : DeliveryRetryPolicy} {clientId : UUID} {table image : Table}

theorem SameFor.refl (clientId : UUID) (table : Table) : SameFor clientId table table :=
  ⟨rfl, fun _ missing => missing⟩

/-! ## Reads -/

theorem SameFor.findExisting_eq (same : SameFor clientId table image)
    (request : SendNotificationRequest) :
    findExisting image clientId request = findExisting table clientId request := by
  unfold findExisting
  cases request.idempotencyKey with
  | none => rfl
  | some key => simp only [Table.getByIdempotencyKey_eq, same.rows]

theorem SameFor.getStatus_eq (same : SameFor clientId table image) (notificationId : UUID) :
    getStatus image clientId notificationId = getStatus table clientId notificationId := by
  simp only [getStatus, Table.getByIdForClient_eq, same.rows]

theorem SameFor.getClientMetrics_eq (same : SameFor clientId table image) :
    getClientMetrics image clientId = getClientMetrics table clientId := by
  rw [NotificationsEngine.getClientMetrics_eq, NotificationsEngine.getClientMetrics_eq, same.rows]

/-- A row of the client is found in both. -/
theorem SameFor.getById (same : SameFor clientId table image) {row : Notification}
    (found : table.getById row.id = some row) (own : row.clientId = clientId) :
    image.getById row.id = some row := by
  have member : row ∈ image.ofClient clientId := by
    rw [same.rows]
    exact Table.mem_ofClient.mpr ⟨Table.getById_mem found, own⟩
  exact Table.getById_eq_some_iff.mpr ⟨(Table.mem_ofClient.mp member).1, rfl⟩

/-! ## Writes -/

/-- An INSERT of a row keeps both stores the same for its client. -/
theorem SameFor.insert (same : SameFor clientId table image) {row : Notification}
    {table' image' : Table} (stored : table.insert row = .ok table')
    (stored' : image.insert row = .ok image') : SameFor clientId table' image' where
  rows := by
    have rows := same.rows
    simp only [Table.ofClient] at rows
    simp only [Table.ofClient, Table.insert_rows stored, Table.insert_rows stored',
      List.filter_cons, rows]
  unused := by
    intro id missing
    rw [Table.getById_insert stored] at missing
    rw [Table.getById_insert stored']
    split at missing
    · cases missing
    · next other => rw [if_neg other, same.unused id missing]

/-- With the same row to replay, two calls leave their stores alike or both insert. -/
inductive AcceptAlike (table image : Table) (clientId : UUID) (request : SendNotificationRequest)
    (id : UUID) (outcome : EnqueueOutcome) : AcceptRun → AcceptRun → Prop where
  | kept (result : Except AcceptError SendAcceptedResponse) :
      AcceptAlike table image clientId request id outcome ⟨table, none, none, result⟩
        ⟨image, none, none, result⟩
  | inserted (table' image' : Table)
      (stored : table.insert (create clientId request id) = .ok table')
      (stored' : image.insert (create clientId request id) = .ok image') :
      AcceptAlike table image clientId request id outcome
        ⟨table', some (create clientId request id), some (id, outcome),
          afterEnqueue (create clientId request id) outcome⟩
        ⟨image', some (create clientId request id), some (id, outcome),
          afterEnqueue (create clientId request id) outcome⟩

theorem accept_alike {request : SendNotificationRequest} {id : UUID}
    (lookup : findExisting image clientId request = findExisting table clientId request)
    (fresh : table.getById id = none) (fresh' : image.getById id = none)
    (outcome : EnqueueOutcome) :
    AcceptAlike table image clientId request id outcome (accept table clientId request id outcome)
      (accept image clientId request id outcome) := by
  cases found : findExisting table clientId request with
  | some existing =>
      cases textual : request.keyTextual with
      | true =>
          rw [accept_of_found textual found, accept_of_found textual (lookup.trans found)]
          exact .kept _
      | false =>
          rw [accept_of_untextual textual, accept_of_untextual textual]
          exact .kept _
  | none =>
      cases fits : request.fits with
      | false =>
          rw [accept_of_misfit found fits, accept_of_misfit (lookup.trans found) fits]
          exact .kept _
      | true =>
          obtain ⟨table', stored, run⟩ := accept_of_not_found fresh found fits outcome
          obtain ⟨image', stored', run'⟩ :=
            accept_of_not_found fresh' (lookup.trans found) fits outcome
          rw [run, run']
          exact .inserted table' image' stored stored'

/-- An `accept` call of the client with a fresh UUID. -/
theorem SameFor.accept (same : SameFor clientId table image) (request : SendNotificationRequest)
    {id : UUID} (fresh : table.getById id = none) (outcome : EnqueueOutcome) :
    SameFor clientId (accept table clientId request id outcome).table
        (accept image clientId request id outcome).table ∧
      (accept image clientId request id outcome).result =
        (accept table clientId request id outcome).result := by
  have alike := accept_alike (same.findExisting_eq request) fresh (same.unused id fresh) outcome
  generalize NotificationsEngine.accept table clientId request id outcome = run at alike ⊢
  generalize NotificationsEngine.accept image clientId request id outcome = run' at alike ⊢
  cases alike with
  | kept => exact ⟨same, rfl⟩
  | inserted table' image' stored stored' => exact ⟨same.insert stored stored', rfl⟩

/-- A dispatch of a row of the client. -/
theorem SameFor.dispatch (same : SameFor clientId table image)
    (provider : OutboundMessage → ProviderOutcome) (now : Instant) {row : Notification}
    (found : table.getById row.id = some row) (own : row.clientId = clientId) :
    SameFor clientId (dispatch policy provider now table row.id).table
      (dispatch policy provider now image row.id).table := by
  have found' := same.getById found own
  obtain ⟨columns, _, _, -, rest⟩ := dispatch_row policy provider now row
  obtain ⟨rows, -⟩ := rest table found
  obtain ⟨rows', -⟩ := rest image found'
  constructor
  case rows =>
    rw [ofClient_of_replace found rows, ofClient_of_replace found' rows', same.rows]
  case unused =>
    intro id missing
    rw [Table.getById_eq_none_iff] at missing ⊢
    rw [rows, map_key_replace] at missing
    rw [rows', map_key_replace]
    exact Table.getById_eq_none_iff.mp (same.unused id (Table.getById_eq_none_iff.mpr missing))

/-! ## Operations of others -/

section Performed

variable {op : ServiceOp} {table' : Table} {created : Option Notification}
  {dispatched : Option (Notification × DispatchResult)}

/-- An operation that is hidden from the client leaves its rows as they were. -/
theorem Performs.ofClient_eq (performs : Performs policy table op table' created dispatched)
    (hidden : op.visibleTo clientId table = false) :
    table'.ofClient clientId = table.ofClient clientId := by
  cases performs with
  | unchanged => rfl
  | inserted caller id request outcome table' stored =>
      rw [ServiceOp.visibleTo_of_caller rfl, decide_eq_false_iff_not] at hidden
      simp [Table.ofClient, Table.insert_rows stored, create, hidden]
  | settled row provider now columns messages result found dispatches table' rows =>
      have other : row.clientId ≠ clientId := by simpa [ServiceOp.visibleTo, found] using hidden
      exact ofClient_of_replace_foreign found rows other

/-- The ids in the store after an operation: those before it, and one that it may generate. -/
theorem Performs.getById_eq_none_iff
    (performs : Performs policy table op table' created dispatched) (id : UUID) :
    table'.getById id = none ↔
      table.getById id = none ∧ ∀ row, created = some row → row.id ≠ id := by
  cases performs with
  | unchanged => simp
  | inserted caller id' request outcome table' stored =>
      rw [Table.getById_insert stored]
      by_cases same : id' = id
      · simp [same]
      · simp [same]
  | settled row provider now columns messages result found dispatches table' rows =>
      rw [Table.getById_eq_none_iff, Table.getById_eq_none_iff, rows, map_key_replace]
      simp

/-- What an operation creates has the id that it generates. -/
theorem Performs.generated_eq (performs : Performs policy table op table' created dispatched)
    {row : Notification} (creates : created = some row) : op.generated = some row.id := by
  cases performs with
  | inserted => cases creates; rfl
  | _ => cases creates

end Performed

/-- An operation takes no id away. -/
theorem unused_of_perform {op : ServiceOp} {id : UUID}
    (missing : (op.perform policy table).getById id = none) : table.getById id = none :=
  (((perform_performs policy table op).getById_eq_none_iff id).mp missing).1

/-- An operation stores no id but the one that it generates. -/
theorem getById_perform_eq_none {op : ServiceOp} {id : UUID}
    (missing : table.getById id = none) (other : op.generated ≠ some id) :
    (op.perform policy table).getById id = none := by
  have performs := perform_performs policy table op
  refine (performs.getById_eq_none_iff id).mpr ⟨missing, fun row creates same => other ?_⟩
  rw [performs.generated_eq creates, same]

theorem FreshIds.tail {op : ServiceOp} {rest : List ServiceOp}
    (fresh : FreshIds table (op :: rest)) : FreshIds (op.perform policy table) rest := by
  obtain ⟨distinct, unused⟩ := fresh
  cases generated : op.generated with
  | none =>
      simp only [generatedIds, List.filterMap_cons, generated] at distinct unused
      exact ⟨distinct, fun id member =>
        getById_perform_eq_none (unused id member) (by rw [generated]; rintro ⟨⟩)⟩
  | some own =>
      simp only [generatedIds, List.filterMap_cons, generated, List.nodup_cons] at distinct unused
      refine ⟨distinct.2, fun id member => getById_perform_eq_none
        (unused id (List.mem_cons_of_mem _ member)) ?_⟩
      rw [generated]
      rintro ⟨⟩
      exact distinct.1 member

/-- A visible operation keeps both stores the same for the client, and is answered the same. -/
theorem SameFor.perform (same : SameFor clientId table image) {op : ServiceOp}
    {rest : List ServiceOp} (fresh : FreshIds table (op :: rest))
    (visible : op.visibleTo clientId table = true) :
    SameFor clientId (op.perform policy table) (op.perform policy image) ∧
      op.answerTo policy clientId image = op.answerTo policy clientId table := by
  cases op with
  | getStatus caller notificationId =>
      rw [ServiceOp.visibleTo_of_caller rfl, decide_eq_true_eq] at visible
      subst visible
      exact ⟨same, by simp only [ServiceOp.answerTo, ServiceOp.answer, same.getStatus_eq]⟩
  | getClientMetrics caller =>
      rw [ServiceOp.visibleTo_of_caller rfl, decide_eq_true_eq] at visible
      subst visible
      exact ⟨same, by simp only [ServiceOp.answerTo, ServiceOp.answer, same.getClientMetrics_eq]⟩
  | accept caller request id outcome =>
      rw [ServiceOp.visibleTo_of_caller rfl, decide_eq_true_eq] at visible
      subst visible
      have unused := fresh.unused id List.mem_cons_self
      obtain ⟨after, result⟩ := same.accept request unused outcome
      exact ⟨after, by simp only [ServiceOp.answerTo, ServiceOp.answer, result]⟩
  | dispatch notificationId provider now =>
      refine ⟨?_, rfl⟩
      cases found : table.getById notificationId with
      | none =>
          simp only [ServiceOp.perform, dispatch_of_missing policy provider now found,
            dispatch_of_missing policy provider now (same.unused notificationId found)]
          exact same
      | some row =>
          obtain rfl : row.id = notificationId := Table.getById_id found
          have own : row.clientId = clientId := by simpa [ServiceOp.visibleTo, found] using visible
          exact same.dispatch provider now found own

theorem unwinding (policy : DeliveryRetryPolicy) (clientId : UUID) :
    Unwinding (ServiceOp.perform policy) (ServiceOp.answerTo policy clientId)
      (ServiceOp.visibleTo clientId) FreshIds (SameFor clientId) where
  admits := FreshIds.tail
  hidden _ same hidden :=
    ⟨same.rows.trans ((perform_performs policy _ _).ofClient_eq hidden).symm, fun id missing =>
      same.unused id (unused_of_perform missing)⟩
  related fresh same visible := (same.perform fresh visible).1
  output fresh same visible := (same.perform fresh visible).2

/-- Hidden operations are no calls of the client. -/
theorem answerTo_of_hidden (policy : DeliveryRetryPolicy) (clientId : UUID) (table : Table)
    (op : ServiceOp) (hidden : op.visibleTo clientId table = false) :
    op.answerTo policy clientId table = none := by
  refine if_neg fun own => ?_
  rw [ServiceOp.visibleTo_of_caller own, decide_eq_false_iff_not] at hidden
  exact hidden rfl

def ForeignAsMissing (clientId : UUID) : Prop :=
  ∀ (store : Table) (foreign missing : UUID) (row : Notification),
    store.getById foreign = some row → row.clientId ≠ clientId → store.getById missing = none →
      getStatus store clientId foreign = getStatus store clientId missing

theorem foreignAsMissing (clientId : UUID) : ForeignAsMissing clientId := by
  intro store foreign missing row found other absent
  have foreign_error : getStatus store clientId foreign = .error .notFound :=
    getStatus_of_foreign fun _ found' => Option.some.inj (found.symm.trans found') ▸ other
  have missing_error : getStatus store clientId missing = .error .notFound :=
    getStatus_of_foreign fun _ found' => by rw [absent] at found'; cases found'
  rw [foreign_error, missing_error]

/-- A key finds rows of its client only, and is free when no row of its client carries it. -/
structure KeysApart (clientId : UUID) : Prop where
  finds : ∀ (store : Table) (request : SendNotificationRequest) (row : Notification),
    findExisting store clientId request = some row → row.clientId = clientId
  inserts : ∀ (store : Table) (request : SendNotificationRequest) (id : UUID)
    (outcome : EnqueueOutcome), store.getById id = none →
      (∀ row ∈ store.rows, row.clientId = clientId →
        row.idempotencyKey = request.idempotencyKey → request.idempotencyKey = none) →
      (accept store clientId request id outcome).inserted =
        if request.fits then some (create clientId request id) else none

theorem keysApart (clientId : UUID) : KeysApart clientId where
  finds _ _ _ found := (findExisting_some found).2.1
  inserts := by
    intro store request id outcome unused unkeyed
    have absent : findExisting store clientId request = none := by
      refine Option.eq_none_iff_forall_ne_some.mpr fun row found => ?_
      obtain ⟨member, own, key, keyed⟩ := findExisting_some found
      exact keyed (unkeyed row member own key)
    cases fits : request.fits with
    | false =>
        rw [accept_of_misfit absent fits]
        rfl
    | true =>
        obtain ⟨_, -, run⟩ := accept_of_not_found unused absent fits outcome
        rw [run]
        rfl

/--
Tenant isolation: over every run of calls by any clients and dispatches of any
rows, in which generated UUIDs are fresh, a client is answered as in the run
without the operations of other clients and the dispatches of their rows.
-/
theorem tenant_isolation (policy : DeliveryRetryPolicy) (table : Table) (ops : List ServiceOp)
    (fresh : FreshIds table ops) (clientId : UUID) :
    answersTo policy clientId table (withoutOthers policy clientId table ops) =
        answersTo policy clientId table ops ∧
      ForeignAsMissing clientId ∧ KeysApart clientId := by
  have purged := (unwinding policy clientId).observe_purge fresh (.refl clientId table)
  rw [masked_of_silent (answerTo_of_hidden policy clientId)] at purged
  exact ⟨purged, foreignAsMissing clientId, keysApart clientId⟩

/-- Two clients with one key: the other one's call and the dispatch of its row are removed. -/
def twoTenants : List ServiceOp :=
  [.accept 7 (.welcome (some (.ofString "k"))) 1 .published,
    .accept 8 (.welcome (some (.ofString "k"))) 2 .published,
    .dispatch 1 (fun _ => .returned) 0, .getStatus 8 1, .getStatus 8 2, .getClientMetrics 8]

theorem tenant_isolation_twoTenants :
    (withoutOthers .default 8 .empty twoTenants).length = 4 ∧
      answersTo .default 8 .empty (withoutOthers .default 8 .empty twoTenants) =
        answersTo .default 8 .empty twoTenants :=
  ⟨rfl, (tenant_isolation .default .empty twoTenants ⟨by decide, fun _ _ => rfl⟩ 8).1⟩

end NotificationsEngine
