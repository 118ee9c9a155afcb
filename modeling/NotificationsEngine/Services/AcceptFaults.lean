import NotificationsEngine.Services.Accept

/-!
# Accepting while statements fail

`NotificationService.accept` once more, with every statement free to raise and
to see rows that other sessions have committed in between.  What remains of a
call is the list of its effects, in their order.
-/

namespace NotificationsEngine

inductive SqlError where
  | integrity
  | other
  deriving DecidableEq, Repr

inductive AcceptException where
  | sql (error : SqlError)
  | queueUnavailable
  deriving DecidableEq, Repr

/-- The port `NotificationQueue`: how `enqueue` ends for an id. -/
structure NotificationQueue where
  enqueue : UUID → EnqueueOutcome

/-- `CeleryNotificationQueue`, by the outcome of `apply_async`. -/
def celeryNotificationQueue (applyAsync : UUID → EnqueueOutcome) : NotificationQueue :=
  ⟨fun id => celeryEnqueue (applyAsync id)⟩

/-- What one call meets: the rows that each statement runs on, or what it raises. -/
structure AcceptEnv where
  lookup : Except SqlError Table
  commit : Except SqlError Table
  rollback : Except SqlError Unit
  lookupAgain : Except SqlError Table
  newId : UUID
  queue : NotificationQueue

inductive SendEffect where
  /-- a commit, with the rows before and after it -/
  | committed (before after : Table)
  | enqueued (id : UUID)

structure AcceptLog where
  effects : List SendEffect
  result : Except AcceptException SendAcceptedResponse

/-- The `except IntegrityError` clause. -/
def recoverWithFaults (env : AcceptEnv) (clientId : UUID) (request : SendNotificationRequest) :
    Except AcceptException SendAcceptedResponse :=
  match env.rollback with
  | .error error => .error (.sql error)
  | .ok () =>
      match request.idempotencyKey with
      | none => .error (.sql .integrity)
      | some key =>
          match env.lookupAgain with
          | .error error => .error (.sql error)
          | .ok table =>
              match table.getByIdempotencyKey clientId key with
              | none => .error (.sql .integrity)
              | some winner => .ok (toAccepted winner)

/-- From `self._queue.enqueue(row.id)` on. -/
def enqueueWithFaults (env : AcceptEnv) (before after : Table) (row : Notification) : AcceptLog :=
  match env.queue.enqueue row.id with
  | .published => ⟨[.committed before after, .enqueued row.id], .ok (toAccepted row)⟩
  | .unavailable => ⟨[.committed before after], .error .queueUnavailable⟩
  | .failed => ⟨[.committed before after], .error .queueUnavailable⟩

/-- From `self._repository.create` on. -/
def createWithFaults (env : AcceptEnv) (clientId : UUID) (request : SendNotificationRequest) :
    AcceptLog :=
  let row := create clientId request env.newId
  match env.commit with
  | .error .other => ⟨[], .error (.sql .other)⟩
  | .error .integrity => ⟨[], recoverWithFaults env clientId request⟩
  | .ok before =>
      match before.insert row with
      | .error _ => ⟨[], recoverWithFaults env clientId request⟩
      | .ok after => enqueueWithFaults env before after row

/-- `NotificationService.accept`. -/
def acceptWithFaults (env : AcceptEnv) (clientId : UUID) (request : SendNotificationRequest) :
    AcceptLog :=
  match request.idempotencyKey with
  | none => createWithFaults env clientId request
  | some key =>
      match env.lookup with
      | .error error => ⟨[], .error (.sql error)⟩
      | .ok table =>
          match table.getByIdempotencyKey clientId key with
          | some existing => ⟨[], .ok (toAccepted existing)⟩
          | none => createWithFaults env clientId request

/-! ## What a call can do -/

/-- A row of this client and key, found by one of the two lookups of the call. -/
structure Replays (env : AcceptEnv) (clientId : UUID) (request : SendNotificationRequest)
    (row : Notification) : Prop where
  seen : ∃ table, (env.lookup = .ok table ∨ env.lookupAgain = .ok table) ∧ row ∈ table.rows
  clientId : row.clientId = clientId
  idempotencyKey : row.idempotencyKey = request.idempotencyKey
  keyed : request.idempotencyKey ≠ none

theorem replays_of_found {env : AcceptEnv} {clientId : UUID} {request : SendNotificationRequest}
    {table : Table} {key : Str} {row : Notification}
    (seen : env.lookup = .ok table ∨ env.lookupAgain = .ok table)
    (hkey : request.idempotencyKey = some key)
    (found : table.getByIdempotencyKey clientId key = some row) :
    Replays env clientId request row := by
  obtain ⟨member, client, same⟩ := Table.getByIdempotencyKey_some found
  exact ⟨⟨table, seen, member⟩, client, same.trans hkey.symm, by simp [hkey]⟩

inductive AcceptsWithFaults (env : AcceptEnv) (clientId : UUID)
    (request : SendNotificationRequest) : AcceptLog → Prop where
  | replayed (row : Notification) (replays : Replays env clientId request row) :
      AcceptsWithFaults env clientId request ⟨[], .ok (toAccepted row)⟩
  | raised (error : SqlError) : AcceptsWithFaults env clientId request ⟨[], .error (.sql error)⟩
  | enqueued (before after : Table)
      (stored : before.insert (create clientId request env.newId) = .ok after) :
      AcceptsWithFaults env clientId request
        ⟨[.committed before after, .enqueued env.newId],
          .ok (toAccepted (create clientId request env.newId))⟩
  | unavailable (before after : Table)
      (stored : before.insert (create clientId request env.newId) = .ok after) :
      AcceptsWithFaults env clientId request
        ⟨[.committed before after], .error .queueUnavailable⟩

section Calls

variable (env : AcceptEnv) (clientId : UUID) (request : SendNotificationRequest)

theorem recoverWithFaults_accepts :
    AcceptsWithFaults env clientId request ⟨[], recoverWithFaults env clientId request⟩ := by
  unfold recoverWithFaults
  cases env.rollback with
  | error error => exact .raised error
  | ok _ =>
      cases hkey : request.idempotencyKey with
      | none => exact .raised .integrity
      | some key =>
          cases again : env.lookupAgain with
          | error error => exact .raised error
          | ok table =>
              cases found : table.getByIdempotencyKey clientId key with
              | none => simpa only [found] using .raised .integrity
              | some winner =>
                  simpa only [found] using
                    .replayed winner (replays_of_found (.inr again) hkey found)

theorem createWithFaults_accepts :
    AcceptsWithFaults env clientId request (createWithFaults env clientId request) := by
  have recovers := recoverWithFaults_accepts env clientId request
  unfold createWithFaults
  cases env.commit with
  | error error =>
      cases error with
      | integrity => exact recovers
      | other => exact .raised .other
  | ok before =>
      cases stored : before.insert (create clientId request env.newId) with
      | error error => simpa only [stored] using recovers
      | ok after =>
          simp only [stored, enqueueWithFaults, create_id]
          cases env.queue.enqueue env.newId with
          | published => exact .enqueued before after stored
          | unavailable => exact .unavailable before after stored
          | failed => exact .unavailable before after stored

theorem acceptWithFaults_accepts :
    AcceptsWithFaults env clientId request (acceptWithFaults env clientId request) := by
  have creates := createWithFaults_accepts env clientId request
  unfold acceptWithFaults
  cases hkey : request.idempotencyKey with
  | none => exact creates
  | some key =>
      cases seen : env.lookup with
      | error error => exact .raised error
      | ok table =>
          cases found : table.getByIdempotencyKey clientId key with
          | none => simpa only [found] using creates
          | some existing =>
              simpa only [found] using .replayed existing (replays_of_found (.inl seen) hkey found)

end Calls

theorem enqueueWithFaults_celery (env : AcceptEnv) (applyAsync : UUID → EnqueueOutcome)
    (before after : Table) (row : Notification) :
    enqueueWithFaults { env with queue := celeryNotificationQueue applyAsync } before after row =
      enqueueWithFaults { env with queue := ⟨applyAsync⟩ } before after row := by
  simp only [enqueueWithFaults, celeryNotificationQueue]
  cases applyAsync row.id <;> rfl

/-- `accept` would translate what Celery raises in the same way as the adapter does. -/
theorem acceptWithFaults_celery (env : AcceptEnv) (applyAsync : UUID → EnqueueOutcome)
    (clientId : UUID) (request : SendNotificationRequest) :
    acceptWithFaults { env with queue := celeryNotificationQueue applyAsync } clientId request =
      acceptWithFaults { env with queue := ⟨applyAsync⟩ } clientId request := by
  simp only [acceptWithFaults, createWithFaults, recoverWithFaults, enqueueWithFaults_celery]

/-! ## Without faults -/

/-- Every statement runs on this table and none raises. -/
structure Undisturbed (env : AcceptEnv) (table : Table) : Prop where
  lookup : env.lookup = .ok table
  commit : env.commit = .ok table
  rollback : env.rollback = .ok ()
  lookupAgain : env.lookupAgain = .ok table

def AcceptError.exception : AcceptError → AcceptException
  | .integrity _ => .sql .integrity
  | .data => .sql .other
  | .queueUnavailable => .queueUnavailable

def AcceptRun.log (table : Table) (run : AcceptRun) : AcceptLog where
  effects := run.inserted.toList.map (fun _ => .committed table run.table) ++
    (run.enqueued.toList.filter (·.2 = .published)).map (.enqueued ·.1)
  result := run.result.mapError AcceptError.exception

section Calls

variable {env : AcceptEnv} {table : Table} {clientId : UUID} {request : SendNotificationRequest}

theorem recoverWithFaults_undisturbed (undisturbed : Undisturbed env table)
    (textual : request.keyTextual = true) (error : IntegrityError) :
    recoverWithFaults env clientId request =
      (recover table clientId request error).mapError AcceptError.exception := by
  rw [recover_of_textual textual]
  simp only [recoverWithFaults, findExisting, undisturbed.rollback, undisturbed.lookupAgain]
  cases request.idempotencyKey with
  | none => rfl
  | some key =>
      dsimp only
      cases table.getByIdempotencyKey clientId key <;> rfl

theorem createWithFaults_undisturbed (undisturbed : Undisturbed env table)
    (absent : findExisting table clientId request = none)
    (fits : request.fits = true) :
    createWithFaults env clientId request =
      (accept table clientId request env.newId (env.queue.enqueue env.newId)).log table := by
  have textual := keyTextual_of_fits fits
  simp only [createWithFaults, undisturbed.commit]
  cases stored : table.insert (create clientId request env.newId) with
  | error error =>
      have failed := conflict_of_fits fits stored
      simp only [accept, lookupExisting_of_textual textual, absent, failed]
      rw [recoverWithFaults_undisturbed undisturbed textual error]
      rfl
  | ok after =>
      rw [accept_of_insert stored fits]
      simp only [enqueueWithFaults, create_id]
      cases env.queue.enqueue env.newId <;> rfl

/-- Without faults and without other sessions the call is the uninterrupted one. -/
theorem acceptWithFaults_undisturbed (undisturbed : Undisturbed env table)
    (textual : request.keyTextual = true)
    (fits : findExisting table clientId request = none → request.fits = true) :
    acceptWithFaults env clientId request =
      (accept table clientId request env.newId (env.queue.enqueue env.newId)).log table := by
  cases found : findExisting table clientId request with
  | none =>
      rw [← createWithFaults_undisturbed undisturbed found (fits found)]
      cases hkey : request.idempotencyKey with
      | none => simp only [acceptWithFaults, hkey]
      | some key =>
          simp only [findExisting, hkey] at found
          simp only [acceptWithFaults, hkey, undisturbed.lookup, found]
  | some existing =>
      rw [accept_of_found textual found]
      cases hkey : request.idempotencyKey with
      | none => simp [findExisting, hkey] at found
      | some key =>
          simp only [findExisting, hkey] at found
          simp only [acceptWithFaults, hkey, undisturbed.lookup, found]
          rfl

end Calls

end NotificationsEngine
