import NotificationsEngine.Http.SendNotification
import NotificationsEngine.Store.Columns

/-!
# Storing what was validated

The schema of a request and the columns of its row, side by side.  A request
that passed validation can still hold a value that PostgreSQL takes nowhere,
and neither `accept` nor `app/main.py` catches what the session raises then.
-/

namespace NotificationsEngine

/-- The rows that the three statements of a call see; other sessions remove none of them. -/
structure Snapshots where
  atLookup : Table
  atCommit : Table
  atLookupAgain : Table
  kept : ∀ row ∈ atCommit.rows, ∃ later ∈ atLookupAgain.rows,
    later.clientId = row.clientId ∧ later.idempotencyKey = row.idempotencyKey

def Snapshots.constant (table : Table) : Snapshots where
  atLookup := table
  atCommit := table
  atLookupAgain := table
  kept row member := ⟨row, member, rfl, rfl⟩

def lookupBy (idempotencyKey : Option Str) (table : Table) : Except SqlError Table :=
  if idempotencyKey.all isTextParameter then .ok table else .error .other

theorem lookupBy_cases (idempotencyKey : Option Str) (table : Table) :
    lookupBy idempotencyKey table = .ok table ∨
      lookupBy idempotencyKey table = .error .other := by
  unfold lookupBy
  split
  · exact .inl rfl
  · exact .inr rfl

/-- A database that raises on values it cannot hold, and on nothing else. -/
def storageEnv (snapshots : Snapshots) (clientId : UUID) (request : SendNotificationRequest)
    (newId : UUID) (queue : NotificationQueue) : AcceptEnv where
  lookup := lookupBy request.idempotencyKey snapshots.atLookup
  commit := if (create clientId request newId).fits then .ok snapshots.atCommit else .error .other
  rollback := .ok ()
  lookupAgain := lookupBy request.idempotencyKey snapshots.atLookupAgain
  newId := newId
  queue := queue

/-- `accept` with the INSERT that reads the values of the row. -/
theorem createWithFaults_storage (snapshots : Snapshots) (clientId : UUID)
    (request : SendNotificationRequest) (newId : UUID) (queue : NotificationQueue) :
    let env := storageEnv snapshots clientId request newId queue
    createWithFaults env clientId request =
      match snapshots.atCommit.insertValues (create clientId request newId) with
      | .error .data => ⟨[], .error (.sql .other)⟩
      | .error (.integrity _) => ⟨[], recoverWithFaults env clientId request⟩
      | .ok after => enqueueWithFaults env snapshots.atCommit after
          (create clientId request newId) := by
  cases fits : (create clientId request newId).fits with
  | false => simp [createWithFaults, storageEnv, Table.insertValues, fits]
  | true =>
      cases stored : snapshots.atCommit.insert (create clientId request newId) <;>
        simp [createWithFaults, storageEnv, Table.insertValues, fits, stored, Except.mapError]

/-! ## What the columns take -/

/-- A request without the values that the schema lets through and no column takes. -/
structure Representable (request : SendNotificationRequest) : Prop where
  recipient : nul ∉ request.recipient
  template : nul ∉ request.template
  idempotencyKey : ∀ key, request.idempotencyKey = some key → nul ∉ key
  payload : ∀ leaf ∈ (Json.obj request.payload).leaves, leaf.Standard

theorem isTextParameter_constrained {minLength maxLength : Nat} {value : Str}
    (constrained : ConstrainedStr minLength maxLength value) :
    isTextParameter value = true ↔ nul ∉ value := by
  have scalar : ∀ c ∈ value, isSurrogate c = false := by simpa using constrained.scalar
  rw [isTextParameter_iff]
  exact ⟨And.left, fun clean => ⟨clean, scalar⟩⟩

/-- The lengths of the schema are those of the columns. -/
theorem holds_constrained {minLength maxLength : Nat} {value : Str}
    (constrained : ConstrainedStr minLength maxLength value) :
    (ColumnType.varchar maxLength).holds (.text value) = true ↔ nul ∉ value := by
  rw [ColumnType.holds, decide_eq_true constrained.maxLength, Bool.true_and]
  exact isTextParameter_constrained constrained

variable {request : SendNotificationRequest}

theorem holds_idempotencyKey (wellFormed : request.WellFormed) (clientId id : UUID) :
    NotificationColumn.idempotencyKey.holds
        ((create clientId request id).columnValue .idempotencyKey) = true ↔
      ∀ key, request.idempotencyKey = some key → nul ∉ key := by
  cases hkey : request.idempotencyKey with
  | none => simp [Notification.columnValue, create, hkey, NotificationColumn.holds,
      NotificationColumn.nullable]
  | some key =>
      have holds := holds_constrained (wellFormed.idempotencyKey key hkey)
      simp only [Notification.columnValue, create, hkey, Option.elim_some, Option.some.injEq,
        forall_eq']
      exact holds

/-- The values that do not come from the request fit in any case. -/
theorem holds_generated (clientId id : UUID) {column : NotificationColumn}
    (generated : column ∉ [.recipient, .template, .payload, .idempotencyKey]) :
    column.holds ((create clientId request id).columnValue column) = true := by
  cases column with
  | channel =>
      change (ColumnType.varchar 16).holds (.text (.ofString request.channel.value)) = true
      cases request.channel <;> decide
  | status =>
      change (ColumnType.varchar 16).holds
        (.text (.ofString NotificationStatus.pending.value)) = true
      decide
  | retryCount =>
      change ColumnType.integer.holds (.integer 0) = true
      decide
  | id | clientId | errorMessage | sentAt => rfl
  | recipient | template | payload | idempotencyKey => simp at generated

/-- The columns take the row of a validated request if and only if it is representable. -/
theorem create_fits_iff (wellFormed : request.WellFormed) (clientId id : UUID) :
    (create clientId request id).fits = true ↔ Representable request := by
  rw [fits_iff]
  constructor
  · intro each
    constructor
    case recipient => exact (holds_constrained wellFormed.recipient).mp (each .recipient)
    case template => exact (holds_constrained wellFormed.template).mp (each .template)
    case idempotencyKey =>
      exact (holds_idempotencyKey wellFormed clientId id).mp (each .idempotencyKey)
    case payload => exact (Json.isJsonb_iff _).mp (each .payload)
  · intro representable column
    cases column with
    | recipient => exact (holds_constrained wellFormed.recipient).mpr representable.recipient
    | template => exact (holds_constrained wellFormed.template).mpr representable.template
    | payload => exact (Json.isJsonb_iff _).mpr representable.payload
    | idempotencyKey =>
        exact (holds_idempotencyKey wellFormed clientId id).mpr representable.idempotencyKey
    | _ => exact holds_generated clientId id (by decide)

/-! ## Handled requests -/

def Handled (log : AcceptLog) : Prop := ∀ error, log.result ≠ .error (.sql error)

theorem answerOf_ne_raised {log : AcceptLog} (handled : Handled log) :
    answerOf log.result ≠ .raised := by
  cases ended : log.result with
  | ok response => nofun
  | error exception =>
      cases exception with
      | sql error => exact absurd ended (handled error)
      | queueUnavailable => nofun

section Calls

variable (snapshots : Snapshots) (clientId newId : UUID) (queue : NotificationQueue)

theorem enqueueWithFaults_handled (env : AcceptEnv) (before after : Table) (row : Notification) :
    Handled (enqueueWithFaults env before after row) := by
  unfold enqueueWithFaults
  cases env.queue.enqueue row.id <;> nofun

theorem lookupBy_of_representable (wellFormed : request.WellFormed)
    (representable : Representable request) (table : Table) :
    lookupBy request.idempotencyKey table = .ok table := by
  refine if_pos ?_
  cases hkey : request.idempotencyKey with
  | none => rfl
  | some key =>
      have clean := representable.idempotencyKey key hkey
      exact (isTextParameter_constrained (wellFormed.idempotencyKey key hkey)).mpr clean

/-- The row in the way of an INSERT is there for the second lookup. -/
theorem recoverWithFaults_storage (wellFormed : request.WellFormed)
    (representable : Representable request) {error : IntegrityError}
    (fresh : snapshots.atCommit.getById newId = none)
    (failed : snapshots.atCommit.insert (create clientId request newId) = .error error) :
    ∃ winner, recoverWithFaults (storageEnv snapshots clientId request newId queue)
      clientId request = .ok (toAccepted winner) := by
  obtain ⟨other, member, client, same, keyed⟩ := insert_create_error fresh failed
  obtain ⟨key, hkey⟩ := Option.ne_none_iff_exists'.mp keyed
  obtain ⟨later, visible, laterClient, laterKey⟩ := snapshots.kept other member
  have laterHas : later.idempotencyKey = some key := laterKey.trans (same.trans hkey)
  obtain ⟨winner, found⟩ := Table.getByIdempotencyKey_isSome visible laterHas
  rw [laterClient.trans client] at found
  have read := lookupBy_of_representable wellFormed representable snapshots.atLookupAgain
  refine ⟨winner, ?_⟩
  simp only [recoverWithFaults, storageEnv, read]
  simp only [hkey, found]

theorem createWithFaults_handled (wellFormed : request.WellFormed)
    (representable : Representable request)
    (fresh : snapshots.atCommit.getById newId = none) :
    Handled (createWithFaults (storageEnv snapshots clientId request newId queue)
      clientId request) := by
  have fits := (create_fits_iff wellFormed clientId newId).mpr representable
  rw [createWithFaults_storage, Table.insertValues, if_pos fits]
  cases stored : snapshots.atCommit.insert (create clientId request newId) with
  | ok after => exact enqueueWithFaults_handled _ _ _ _
  | error error =>
      obtain ⟨winner, recovered⟩ := recoverWithFaults_storage snapshots clientId newId queue
        wellFormed representable fresh stored
      intro escaped ended
      simp [Except.mapError, recovered] at ended

theorem acceptWithFaults_handled (wellFormed : request.WellFormed)
    (representable : Representable request)
    (fresh : snapshots.atCommit.getById newId = none) :
    Handled (acceptWithFaults (storageEnv snapshots clientId request newId queue)
      clientId request) := by
  have creates := createWithFaults_handled snapshots clientId newId queue wellFormed
    representable fresh
  have read := lookupBy_of_representable wellFormed representable snapshots.atLookup
  unfold acceptWithFaults
  cases hkey : request.idempotencyKey with
  | none => exact creates
  | some key =>
      simp only [storageEnv, read]
      cases found : snapshots.atLookup.getByIdempotencyKey clientId key with
      | none => exact creates
      | some existing => nofun

/-- With nothing to replay, a row that some column does not take ends the call. -/
theorem acceptWithFaults_misfit (misfit : (create clientId request newId).fits = false)
    (absent : findExisting snapshots.atLookup clientId request = none) :
    (acceptWithFaults (storageEnv snapshots clientId request newId queue) clientId request).result =
      .error (.sql .other) := by
  have creates : createWithFaults (storageEnv snapshots clientId request newId queue)
      clientId request = ⟨[], .error (.sql .other)⟩ := by
    simp [createWithFaults_storage, Table.insertValues, misfit]
  unfold acceptWithFaults
  cases hkey : request.idempotencyKey with
  | none => simp only [creates]
  | some key =>
      simp only [findExisting, hkey] at absent
      have seen : (storageEnv snapshots clientId request newId queue).lookup =
          lookupBy request.idempotencyKey snapshots.atLookup := rfl
      rcases lookupBy_cases request.idempotencyKey snapshots.atLookup with read | read
      · simp only [seen, read, absent, creates]
      · simp only [seen, read]

end Calls

/-- What a body that validation turns into this request should come to. -/
structure Storable (json : Json) (request : SendNotificationRequest) : Prop where
  insert : ∀ (table : Table) (clientId id : UUID) (error : InsertError),
    table.getById id = none → table.insertValues (create clientId request id) = .error error →
      error = .integrity .clientIdempotency ∧
        ∃ other ∈ table.rows, (create clientId request id).SameKey other
  handled : ∀ env scope client snapshots newId queue,
    (rateLimit env.limiter scope).decision = .callNext → getCurrentClient env scope = .ok client →
      snapshots.atCommit.getById newId = none →
        env.accept = storageEnv snapshots client.id request newId queue →
          (handleSend env scope (.json json)).answer ≠ .raised

/-- A request that is let through ends as its call of `accept` does. -/
theorem handleSend_answer {env : SendEnv} {scope : Scope} {client : AuthenticatedClient}
    {json : Json} (passes : (rateLimit env.limiter scope).decision = .callNext)
    (found : getCurrentClient env scope = .ok client)
    (validated : SendNotificationRequest.modelValidate json = some request) :
    (handleSend env scope (.json json)).answer =
      answerOf (acceptWithFaults env.accept client.id request).result := by
  simp [handleSend, passes, routeSend, sendNotification, found, validateBody, validated]

/-- A request that no column holds ends in an exception, unless it replays a row. -/
theorem raised_of_not_representable {env : SendEnv} {scope : Scope} {client : AuthenticatedClient}
    {json : Json} {snapshots : Snapshots} {newId : UUID} {queue : NotificationQueue}
    (validated : SendNotificationRequest.modelValidate json = some request)
    (unrepresentable : ¬ Representable request)
    (passes : (rateLimit env.limiter scope).decision = .callNext)
    (found : getCurrentClient env scope = .ok client)
    (absent : findExisting snapshots.atLookup client.id request = none)
    (same : env.accept = storageEnv snapshots client.id request newId queue) :
    (handleSend env scope (.json json)).answer = .raised := by
  have wellFormed := SendNotificationRequest.wellFormed_of_modelValidate validated
  have misfit : (create client.id request newId).fits = false := by
    rw [← Bool.not_eq_true, create_fits_iff wellFormed]
    exact unrepresentable
  rw [handleSend_answer passes found validated, same,
    acceptWithFaults_misfit snapshots client.id newId queue misfit absent]
  rfl

/--
For every body that the schema accepts: it can be stored and is answered if and
only if its strings are free of U+0000, its payload of unpaired surrogates too,
and the numbers of its payload are finite.
-/
theorem storable_iff_representable {json : Json}
    (validated : SendNotificationRequest.modelValidate json = some request) :
    Storable json request ↔ Representable request := by
  have wellFormed := SendNotificationRequest.wellFormed_of_modelValidate validated
  constructor
  · intro storable
    by_contra unrepresentable
    have misfit : (create 0 request 0).fits ≠ true :=
      fun fits => unrepresentable ((create_fits_iff wellFormed 0 0).mp fits)
    have failed : Table.empty.insertValues (create 0 request 0) = .error .data := if_neg misfit
    cases (storable.insert .empty 0 0 .data rfl failed).1
  · intro representable
    constructor
    case insert =>
      intro table clientId id error fresh failed
      have fits := (create_fits_iff wellFormed clientId id).mpr representable
      rw [Table.insertValues, if_pos fits] at failed
      cases stored : table.insert (create clientId request id) with
      | ok after => simp [stored, Except.mapError] at failed
      | error conflict =>
          obtain ⟨rfl, duplicate⟩ := Table.insert_conflict fresh stored
          simp only [stored, Except.mapError, Except.error.injEq] at failed
          exact ⟨failed.symm, duplicate⟩
    case handled =>
      intro env scope client snapshots newId queue passes found fresh same
      rw [handleSend_answer passes found validated, same]
      exact answerOf_ne_raised (acceptWithFaults_handled snapshots client.id newId queue wellFormed
        representable fresh)

/-- U+1F600 as `json.loads` reads the escapes of its two surrogates. -/
def surrogatePair : Str := [⟨0xD83D, by decide⟩, ⟨0xDE00, by decide⟩]

/-- A payload with a surrogate pair and a finite number, both of them nested. -/
def nestedPayload : SendNotificationRequest := { SendNotificationRequest.welcome none with
  payload := [(.ofString "user", .obj [(surrogatePair, .arr [.float (.finite 15 (-1)), .null])])] }

theorem storable_nestedPayload : Storable nestedPayload.body nestedPayload := by
  have validated :
      SendNotificationRequest.modelValidate nestedPayload.body = some nestedPayload := by rfl
  refine (storable_iff_representable validated).mpr ?_
  constructor
  case recipient => decide
  case template => decide
  case idempotencyKey => nofun
  case payload => exact (Json.isJsonb_iff _).mp (by decide)

def emptyStore (request : SendNotificationRequest) : SendEnv :=
  { brokerDown with
    accept := storageEnv (.constant .empty) 1 request 7
      (celeryNotificationQueue fun _ => .published) }

def sendWithKey : Scope := { sendWithHost (.ofString "example.com") with
  headers := [(.ofString "host", .ofString "example.com"),
    (.ofString "x-api-key", .ofString "ne_key")] }

/-- The recipient passes validation, the INSERT raises, and nothing catches the exception. -/
theorem not_storable_nulRecipient :
    SendNotificationRequest.modelValidate nulRecipient.body = some nulRecipient ∧
      Table.empty.insertValues (create 1 nulRecipient 7) = .error .data ∧
      (handleSend (emptyStore nulRecipient) sendWithKey (.json nulRecipient.body)).answer =
        .raised ∧
      ¬ Storable nulRecipient.body nulRecipient := by
  have failed : Table.empty.insertValues (create 1 nulRecipient 7) = .error .data := by rfl
  refine ⟨by rfl, failed, by rfl, fun storable => ?_⟩
  cases (storable.insert .empty 1 7 .data rfl failed).1

end NotificationsEngine
