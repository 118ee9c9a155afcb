import NotificationsEngine.Store.Columns

/-!
# Accepting a send request

`app/services/notification_service.py` and `app/services/queue.py`.  One call
of `NotificationService.accept` is cut at its effects: the first lookup, the
INSERT with its commit, the rollback with the second lookup, and the enqueue.
`accept` composes them into one uninterrupted call, and `AcceptPhase` is where
a call stands when other calls run in between.
-/

namespace NotificationsEngine

inductive AcceptError where
  | integrity (error : IntegrityError)
  /-- a statement with a value that the database does not take -/
  | data
  | queueUnavailable
  deriving DecidableEq, Repr

/-- How a call of `queue.enqueue`, or the publication inside it, ends. -/
inductive EnqueueOutcome where
  | published
  /-- raises `QueueUnavailableError` -/
  | unavailable
  | failed
  deriving DecidableEq, Repr

/-- `CeleryNotificationQueue.enqueue`, by the outcome of `apply_async`. -/
def celeryEnqueue : EnqueueOutcome → EnqueueOutcome
  | .published => .published
  | .unavailable => .unavailable
  | .failed => .unavailable

/-- `NotificationRepository.create`: a PENDING row with a client-side UUID. -/
def create (clientId : UUID) (request : SendNotificationRequest) (id : UUID) : Notification where
  status := .pending
  retryCount := 0
  errorMessage := none
  sentAt := none
  id := id
  clientId := clientId
  channel := request.channel
  recipient := request.recipient
  template := request.template
  payload := request.payload
  idempotencyKey := request.idempotencyKey

def toAccepted (row : Notification) : SendAcceptedResponse := ⟨row.id, row.status⟩

def findExisting (table : Table) (clientId : UUID) (request : SendNotificationRequest) :
    Option Notification :=
  match request.idempotencyKey with
  | none => none
  | some key => table.getByIdempotencyKey clientId key

def SendNotificationRequest.keyTextual (request : SendNotificationRequest) : Bool :=
  request.idempotencyKey.all isTextParameter

/-- The lookup by idempotency key, made only for a request that has one. -/
def lookupExisting (table : Table) (clientId : UUID) (request : SendNotificationRequest) :
    Except AcceptError (Option Notification) :=
  if request.keyTextual then .ok (findExisting table clientId request) else .error .data

/-- After the rollback: the winner's row, or the `IntegrityError` again. -/
def recover (table : Table) (clientId : UUID) (request : SendNotificationRequest)
    (error : IntegrityError) : Except AcceptError SendAcceptedResponse :=
  match request.idempotencyKey with
  | none => .error (.integrity error)
  | some key =>
      if isTextParameter key then
        match table.getByIdempotencyKey clientId key with
        | none => .error (.integrity error)
        | some winner => .ok (toAccepted winner)
      else .error .data

/-- After the commit: the answer, by the outcome of `queue.enqueue(row.id)`. -/
def afterEnqueue (row : Notification) : EnqueueOutcome → Except AcceptError SendAcceptedResponse
  | .published => .ok (toAccepted row)
  | .unavailable => .error .queueUnavailable
  | .failed => .error .queueUnavailable

/-! ## One uninterrupted call -/

structure AcceptRun where
  table : Table
  inserted : Option Notification
  enqueued : Option (UUID × EnqueueOutcome)
  result : Except AcceptError SendAcceptedResponse

/-- `NotificationService.accept` with no other session in between. -/
def accept (table : Table) (clientId : UUID) (request : SendNotificationRequest) (id : UUID)
    (outcome : EnqueueOutcome) : AcceptRun :=
  match lookupExisting table clientId request with
  | .error error => ⟨table, none, none, .error error⟩
  | .ok (some existing) => ⟨table, none, none, .ok (toAccepted existing)⟩
  | .ok none =>
      let row := create clientId request id
      match table.insertValues row with
      | .error .data => ⟨table, none, none, .error .data⟩
      | .error (.integrity error) => ⟨table, none, none, recover table clientId request error⟩
      | .ok table' => ⟨table', some row, some (row.id, outcome), afterEnqueue row outcome⟩

/-! ## A call among others -/

inductive AcceptPhase where
  | lookup
  | create
  | recover (error : IntegrityError)
  | enqueue (row : Notification)
  | returned (response : SendAcceptedResponse)
  | raised (error : AcceptError)

structure AcceptCall where
  clientId : UUID
  request : SendNotificationRequest
  phase : AcceptPhase

namespace AcceptPhase

def ofResult : Except AcceptError SendAcceptedResponse → AcceptPhase
  | .ok response => returned response
  | .error error => raised error

/-- A request without a key skips the lookup. -/
def start (request : SendNotificationRequest) : AcceptPhase :=
  match request.idempotencyKey with
  | none => create
  | some _ => lookup

def ofLookup : Except AcceptError (Option Notification) → AcceptPhase
  | .error error => raised error
  | .ok (some existing) => returned (toAccepted existing)
  | .ok none => create

end AcceptPhase

@[simp] theorem create_id (clientId : UUID) (request : SendNotificationRequest) (id : UUID) :
    (create clientId request id).id = id := rfl

/-- A found row belongs to the client and carries the key of the request. -/
theorem findExisting_some {table : Table} {clientId : UUID} {request : SendNotificationRequest}
    {row : Notification} (found : findExisting table clientId request = some row) :
    row ∈ table.rows ∧ row.clientId = clientId ∧
      row.idempotencyKey = request.idempotencyKey ∧ request.idempotencyKey ≠ none := by
  unfold findExisting at found
  cases hkey : request.idempotencyKey with
  | none => simp [hkey] at found
  | some key =>
      simp only [hkey] at found
      obtain ⟨member, client, same⟩ := Table.getByIdempotencyKey_some found
      exact ⟨member, client, same, by simp⟩

/-! ## Values that the columns take -/

def SendNotificationRequest.fits (request : SendNotificationRequest) : Bool :=
  (create 0 request 0).fits

/-- Whether a row fits does not depend on its client and its generated id. -/
theorem create_fits (clientId : UUID) (request : SendNotificationRequest) (id : UUID) :
    (create clientId request id).fits = request.fits := by
  rw [SendNotificationRequest.fits, Bool.eq_iff_iff, fits_iff, fits_iff]
  refine forall_congr' fun column => ?_
  cases column <;> exact Iff.rfl

def nulRecipient : SendNotificationRequest := { SendNotificationRequest.welcome none with
  recipient := [nul] }

/-- A key that no statement takes is in the way of the INSERT as well. -/
theorem keyTextual_of_fits {request : SendNotificationRequest} (fits : request.fits = true) :
    request.keyTextual = true := by
  have holds := fits_iff.mp fits .idempotencyKey
  cases hkey : request.idempotencyKey with
  | none => simp [SendNotificationRequest.keyTextual, hkey]
  | some key =>
      simp only [Notification.columnValue, create, hkey, Option.elim_some] at holds
      have taken : (ColumnType.varchar 128).holds (.text key) = true := holds
      rw [ColumnType.holds, Bool.and_eq_true] at taken
      simpa [SendNotificationRequest.keyTextual, hkey] using taken.2

theorem insert_of_fits {table table' : Table} {clientId : UUID} {request : SendNotificationRequest}
    {id : UUID} (fits : request.fits = true)
    (stored : table.insert (create clientId request id) = .ok table') :
    table.insertValues (create clientId request id) = .ok table' :=
  insertValues_ok.mpr ⟨(create_fits _ _ _).trans fits, stored⟩

theorem conflict_of_fits {table : Table} {clientId : UUID} {request : SendNotificationRequest}
    {id : UUID} {error : IntegrityError} (fits : request.fits = true)
    (failed : table.insert (create clientId request id) = .error error) :
    table.insertValues (create clientId request id) = .error (.integrity error) :=
  insertValues_integrity.mpr ⟨(create_fits _ _ _).trans fits, failed⟩

theorem misfit_of_fits (table : Table) (clientId : UUID) {request : SendNotificationRequest}
    (id : UUID) (misfit : request.fits = false) :
    table.insertValues (create clientId request id) = .error .data :=
  insertValues_data.mpr ((create_fits _ _ _).trans misfit)

theorem lookupExisting_of_textual {request : SendNotificationRequest}
    (textual : request.keyTextual = true) (table : Table) (clientId : UUID) :
    lookupExisting table clientId request = .ok (findExisting table clientId request) :=
  if_pos textual

theorem lookupExisting_of_untextual {request : SendNotificationRequest}
    (untextual : request.keyTextual = false) (table : Table) (clientId : UUID) :
    lookupExisting table clientId request = .error .data := by
  rw [lookupExisting, untextual]
  rfl

/-- With a key that a statement takes, the second lookup finds what the first would. -/
theorem recover_of_textual {request : SendNotificationRequest} (textual : request.keyTextual = true)
    (table : Table) (clientId : UUID) (error : IntegrityError) :
    recover table clientId request error =
      match findExisting table clientId request with
      | none => .error (.integrity error)
      | some winner => .ok (toAccepted winner) := by
  unfold recover findExisting
  cases hkey : request.idempotencyKey with
  | none => rfl
  | some key =>
      have taken : isTextParameter key = true := by
        simpa [SendNotificationRequest.keyTextual, hkey] using textual
      simp only [taken, if_true]

/-! ## What a call does -/

/-- When a row of the client and key is stored, a lookup finds it. -/
theorem findExisting_of_conflict {table : Table} {clientId : UUID}
    {request : SendNotificationRequest} {other : Notification} (member : other ∈ table.rows)
    (client : other.clientId = clientId) (keyed : request.idempotencyKey ≠ none)
    (same : other.idempotencyKey = request.idempotencyKey) :
    ∃ winner, findExisting table clientId request = some winner := by
  obtain ⟨key, hkey⟩ := Option.ne_none_iff_exists'.mp keyed
  obtain ⟨winner, found⟩ := Table.getByIdempotencyKey_isSome member (same.trans hkey)
  rw [client] at found
  refine ⟨winner, ?_⟩
  simp only [findExisting, hkey, found]

/-- The conflict that makes an INSERT of a fresh id fail is one of client and key. -/
theorem insert_create_error {table : Table} {clientId : UUID}
    {request : SendNotificationRequest} {id : UUID} {error : IntegrityError}
    (fresh : table.getById id = none)
    (failed : table.insert (create clientId request id) = .error error) :
    ∃ other ∈ table.rows, other.clientId = clientId ∧
      other.idempotencyKey = request.idempotencyKey ∧ request.idempotencyKey ≠ none := by
  obtain ⟨-, other, member, hkey, hclient, same⟩ := Table.insert_conflict fresh failed
  exact ⟨other, member, hclient.symm, same.symm, hkey⟩

/-- A key that was not found is no obstacle to the INSERT of a fresh id. -/
theorem insert_of_not_found {table : Table} {clientId : UUID} {request : SendNotificationRequest}
    {id : UUID} (fresh : table.getById id = none)
    (absent : findExisting table clientId request = none) :
    ∃ table', table.insert (create clientId request id) = .ok table' := by
  cases stored : table.insert (create clientId request id) with
  | ok table' => exact ⟨table', rfl⟩
  | error error =>
      obtain ⟨other, member, client, same, keyed⟩ := insert_create_error fresh stored
      obtain ⟨winner, found⟩ := findExisting_of_conflict member client keyed same
      cases absent.symm.trans found

/-- Without a row to replay, a call with a fresh id inserts its row, if it fits. -/
theorem accept_of_not_found {table : Table} {clientId : UUID} {request : SendNotificationRequest}
    {id : UUID} (fresh : table.getById id = none)
    (absent : findExisting table clientId request = none)
    (fits : request.fits = true) (outcome : EnqueueOutcome) :
    ∃ table', table.insert (create clientId request id) = .ok table' ∧
      accept table clientId request id outcome =
        ⟨table', some (create clientId request id), some (id, outcome),
          afterEnqueue (create clientId request id) outcome⟩ := by
  obtain ⟨table', stored⟩ := insert_of_not_found fresh absent
  refine ⟨table', stored, ?_⟩
  have looked := lookupExisting_of_textual (keyTextual_of_fits fits) table clientId
  have inserted := insert_of_fits fits stored
  simp only [accept, looked, absent, inserted, create_id]

/-- Without a row to replay, a call whose row does not fit raises without an effect. -/
theorem accept_of_misfit {table : Table} {clientId : UUID} {request : SendNotificationRequest}
    {id : UUID} (absent : findExisting table clientId request = none)
    (misfit : request.fits = false) (outcome : EnqueueOutcome) :
    accept table clientId request id outcome = ⟨table, none, none, .error .data⟩ := by
  have failed := misfit_of_fits table clientId id misfit
  cases textual : request.keyTextual with
  | false => simp only [accept, lookupExisting_of_untextual textual]
  | true => simp only [accept, lookupExisting_of_textual textual, absent, failed]

/-- So does a call whose key no statement takes. -/
theorem accept_of_untextual {request : SendNotificationRequest}
    (untextual : request.keyTextual = false) (table : Table) (clientId id : UUID)
    (outcome : EnqueueOutcome) :
    accept table clientId request id outcome = ⟨table, none, none, .error .data⟩ := by
  simp only [accept, lookupExisting_of_untextual untextual]

/-- A row to replay is what an uninterrupted call returns, without an effect. -/
theorem accept_of_found {table : Table} {clientId : UUID} {request : SendNotificationRequest}
    {row : Notification} (textual : request.keyTextual = true)
    (found : findExisting table clientId request = some row) (id : UUID)
    (outcome : EnqueueOutcome) :
    accept table clientId request id outcome = ⟨table, none, none, .ok (toAccepted row)⟩ := by
  simp only [accept, lookupExisting_of_textual textual, found]

/-- An INSERT succeeds only where there is nothing to replay. -/
theorem findExisting_of_insert {table table' : Table} {clientId : UUID}
    {request : SendNotificationRequest} {id : UUID}
    (stored : table.insert (create clientId request id) = .ok table') :
    findExisting table clientId request = none := by
  cases found : findExisting table clientId request with
  | none => rfl
  | some row =>
      obtain ⟨member, client, same, keyed⟩ := findExisting_some found
      have later := table'.clientIdempotency
      rw [Table.insert_rows stored] at later
      exact absurd ⟨keyed, client.symm, same.symm⟩ ((List.pairwise_cons.mp later).1 row member)

theorem accept_of_insert {table table' : Table} {clientId : UUID}
    {request : SendNotificationRequest} {id : UUID}
    (stored : table.insert (create clientId request id) = .ok table')
    (fits : request.fits = true) (outcome : EnqueueOutcome) :
    accept table clientId request id outcome =
      ⟨table', some (create clientId request id), some (id, outcome),
        afterEnqueue (create clientId request id) outcome⟩ := by
  have looked := lookupExisting_of_textual (keyTextual_of_fits fits) table clientId
  have inserted := insert_of_fits fits stored
  simp only [accept, looked, findExisting_of_insert stored, inserted, create_id]

/-- The second lookup answers as the first lookup of a later call would. -/
theorem recover_of_found {table : Table} {clientId : UUID} {request : SendNotificationRequest}
    {row : Notification} (textual : request.keyTextual = true)
    (found : findExisting table clientId request = some row) (error : IntegrityError) :
    recover table clientId request error = .ok (toAccepted row) := by
  rw [recover_of_textual textual, found]

inductive Accepts (table : Table) (clientId : UUID) (request : SendNotificationRequest)
    (id : UUID) (outcome : EnqueueOutcome) : AcceptRun → Prop where
  | replayed (row : Notification) (member : row ∈ table.rows) (own : row.clientId = clientId) :
      Accepts table clientId request id outcome ⟨table, none, none, .ok (toAccepted row)⟩
  | inserted (table' : Table) (stored : table.insert (create clientId request id) = .ok table')
      (fits : request.fits = true) :
      Accepts table clientId request id outcome
        ⟨table', some (create clientId request id), some (id, outcome),
          afterEnqueue (create clientId request id) outcome⟩
  | refused (error : AcceptError) :
      Accepts table clientId request id outcome ⟨table, none, none, .error error⟩

theorem accept_accepts (table : Table) (clientId : UUID) (request : SendNotificationRequest)
    (id : UUID) (outcome : EnqueueOutcome) :
    Accepts table clientId request id outcome (accept table clientId request id outcome) := by
  cases textual : request.keyTextual with
  | false =>
      rw [accept_of_untextual textual]
      exact .refused .data
  | true =>
      cases found : findExisting table clientId request with
      | some row =>
          rw [accept_of_found textual found]
          obtain ⟨member, own, -⟩ := findExisting_some found
          exact .replayed row member own
      | none =>
          cases fits : request.fits with
          | false =>
              rw [accept_of_misfit found fits]
              exact .refused .data
          | true =>
              cases stored : table.insert (create clientId request id) with
              | ok table' =>
                  rw [accept_of_insert stored fits]
                  exact .inserted table' stored fits
              | error error =>
                  have failed := conflict_of_fits fits stored
                  simp only [accept, lookupExisting_of_textual textual, found, failed,
                    recover_of_textual textual]
                  exact .refused (.integrity error)

end NotificationsEngine
