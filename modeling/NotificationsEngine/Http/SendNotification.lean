import NotificationsEngine.Http.RateLimitMiddleware
import NotificationsEngine.Http.Validation
import NotificationsEngine.Services.AcceptFaults

/-!
# Handling a send request

`POST /api/v1/notifications/send` from the limiter to the answer: the
middleware, the body as FastAPI reads it, `get_current_client` of
`app/api/deps.py`, validation, `accept`, and the exception handlers of
`app/main.py`.
-/

namespace NotificationsEngine

/-- A row of `clients`. -/
structure Client where
  id : UUID
  name : Str
  isActive : Bool

structure AuthenticatedClient where
  id : UUID
  name : Str

/-- What the limiter, the database and the queue do during one request. -/
structure SendEnv where
  limiter : LimiterEnv
  getByHashedApiKey : Str → Except SqlError (Option Client)
  accept : AcceptEnv

inductive AuthException where
  | unauthorized
  | sql (error : SqlError)

def getCurrentClient (env : SendEnv) (scope : Scope) : Except AuthException AuthenticatedClient :=
  match scope.header (.ofString "x-api-key") with
  | none => .error .unauthorized
  | some apiKey =>
      if apiKey = [] then .error .unauthorized
      else
        match env.getByHashedApiKey (env.limiter.hashApiKey apiKey) with
        | .error error => .error (.sql error)
        | .ok none => .error .unauthorized
        | .ok (some client) =>
            if client.isActive then .ok ⟨client.id, client.name⟩ else .error .unauthorized

/-- The body as FastAPI reads it before it resolves the dependencies. -/
inductive Body where
  | json (value : Json)
  /-- no bytes, or none that the content type announces as JSON -/
  | notJson
  /-- raises `JSONDecodeError` -/
  | undecodable
  | unreadable

inductive SendAnswer where
  | accepted (response : SendAcceptedResponse)
  | error (response : ErrorResponse)
  /-- 422 of a `RequestValidationError`, whose rendering of the input is left to FastAPI -/
  | unprocessable
  /-- 400, "There was an error parsing the body" -/
  | badRequest
  | raised

def unauthorizedResponse : ErrorResponse :=
  ⟨401, "Invalid or missing API key", "unauthorized", [("WWW-Authenticate", "ApiKey")]⟩

def queueUnavailableResponse : ErrorResponse :=
  ⟨503, "Queue unavailable", "service_unavailable", []⟩

structure SendRun where
  effects : List SendEffect
  answer : SendAnswer

/-- The answer to what leaves `accept`. -/
def answerOf : Except AcceptException SendAcceptedResponse → SendAnswer
  | .ok response => .accepted response
  | .error .queueUnavailable => .error queueUnavailableResponse
  | .error (.sql _) => .raised

def validateBody : Body → Option SendNotificationRequest
  | .json value => SendNotificationRequest.modelValidate value
  | _ => none

/-- `send_notification`, after the dependencies and the validation of its body. -/
def sendNotification (env : SendEnv) (scope : Scope) (body : Body) : SendRun :=
  match getCurrentClient env scope with
  | .error .unauthorized => ⟨[], .error unauthorizedResponse⟩
  | .error (.sql _) => ⟨[], .raised⟩
  | .ok currentClient =>
      match validateBody body with
      | none => ⟨[], .unprocessable⟩
      | some request =>
          let log := acceptWithFaults env.accept currentClient.id request
          ⟨log.effects, answerOf log.result⟩

def routeSend (env : SendEnv) (scope : Scope) (body : Body) : SendRun :=
  match body with
  | .undecodable => ⟨[], .unprocessable⟩
  | .unreadable => ⟨[], .badRequest⟩
  | .json _ => sendNotification env scope body
  | .notJson => sendNotification env scope body

/-- One request that the application routes to `send_notification`. -/
def handleSend (env : SendEnv) (scope : Scope) (body : Body) : SendRun :=
  match (rateLimit env.limiter scope).decision with
  | .callNext => routeSend env scope body
  | .respond response => ⟨[], .error response⟩
  | .raised => ⟨[], .raised⟩

/-! ## The effects that an answer stands for -/

def Authenticated (env : SendEnv) (scope : Scope) (client : AuthenticatedClient) : Prop :=
  ∃ apiKey stored, scope.header (.ofString "x-api-key") = some apiKey ∧ apiKey ≠ [] ∧
    env.getByHashedApiKey (env.limiter.hashApiKey apiKey) = .ok (some stored) ∧
    stored.isActive = true ∧ client = ⟨stored.id, stored.name⟩

/-- A PENDING row of this client with the fields of this request. -/
structure NewRow (clientId : UUID) (request : SendNotificationRequest) (row : Notification) :
    Prop where
  columns : row.toDeliveryColumns = ⟨.pending, 0, none, none⟩
  clientId : row.clientId = clientId
  channel : row.channel = request.channel
  recipient : row.recipient = request.recipient
  template : row.template = request.template
  payload : row.payload = request.payload
  idempotencyKey : row.idempotencyKey = request.idempotencyKey

/-- The second table is the first with one new row for this request. -/
structure AddsRow (clientId : UUID) (request : SendNotificationRequest) (before after : Table)
    (row : Notification) : Prop where
  rows : after.rows = row :: before.rows
  fresh : before.getById row.id = none
  new : NewRow clientId request row

theorem addsRow_of_insert {clientId id : UUID} {request : SendNotificationRequest}
    {before after : Table} (stored : before.insert (create clientId request id) = .ok after) :
    AddsRow clientId request before after (create clientId request id) :=
  ⟨Table.insert_rows stored, Table.insert_fresh stored, rfl, rfl, rfl, rfl, rfl, rfl, rfl⟩

theorem AddsRow.kept {clientId : UUID} {request : SendNotificationRequest} {before after : Table}
    {row : Notification} (adds : AddsRow clientId request before after row) :
    ∀ stored ∈ before.rows, stored ∈ after.rows :=
  fun _ member => adds.rows ▸ List.mem_cons_of_mem row member

/-- The answers that leave the table and the queue alone. -/
inductive Unchanging : SendAnswer → Prop where
  | rateLimited (seconds : Int) : Unchanging (.error (rateLimitedResponse seconds))
  | limiterUnavailable : Unchanging (.error limiterUnavailableResponse)
  | unauthorized : Unchanging (.error unauthorizedResponse)
  | unprocessable : Unchanging .unprocessable
  | badRequest : Unchanging .badRequest
  | raised : Unchanging .raised

theorem Unchanging.ne_queueUnavailable {answer : SendAnswer} (unchanging : Unchanging answer) :
    answer ≠ .error queueUnavailableResponse := by
  cases unchanging with
  | rateLimited seconds => simp [rateLimitedResponse, queueUnavailableResponse]
  | limiterUnavailable => simp [limiterUnavailableResponse, queueUnavailableResponse]
  | unauthorized => simp [unauthorizedResponse, queueUnavailableResponse]
  | _ => nofun

theorem Unchanging.ne_accepted {answer : SendAnswer} (unchanging : Unchanging answer)
    (response : SendAcceptedResponse) : answer ≠ .accepted response := by
  cases unchanging <;> nofun

/-- The request got past authentication and validation. -/
structure Admitted (env : SendEnv) (scope : Scope) (body : Body) (client : AuthenticatedClient)
    (request : SendNotificationRequest) : Prop where
  authenticated : Authenticated env scope client
  validated : validateBody body = some request

/-- What is true of the table and the queue after a request with this answer. -/
structure SendContract (env : SendEnv) (scope : Scope) (body : Body) (run : SendRun) : Prop where
  answered : Unchanging run.answer ∨ run.answer = .error queueUnavailableResponse ∨
    ∃ response, run.answer = .accepted response
  rowsKept : ∀ before after, .committed before after ∈ run.effects →
    ∀ row ∈ before.rows, row ∈ after.rows
  unchanged : Unchanging run.answer → run.effects = []
  queueUnavailable : run.answer = .error queueUnavailableResponse →
    ∃ client request before after row, Admitted env scope body client request ∧
      AddsRow client.id request before after row ∧ run.effects = [.committed before after]
  accepted : ∀ response, run.answer = .accepted response →
    ∃ client request row, Admitted env scope body client request ∧ response = toAccepted row ∧
      (Replays env.accept client.id request row ∧ run.effects = [] ∨
        ∃ before after, AddsRow client.id request before after row ∧
          run.effects = [.committed before after, .enqueued row.id])

inductive Sends (env : SendEnv) (scope : Scope) (body : Body) : SendRun → Prop where
  | unchanged (answer : SendAnswer) (unchanging : Unchanging answer) :
      Sends env scope body ⟨[], answer⟩
  | replayed (client : AuthenticatedClient) (request : SendNotificationRequest)
      (admitted : Admitted env scope body client request) (row : Notification)
      (replays : Replays env.accept client.id request row) :
      Sends env scope body ⟨[], .accepted (toAccepted row)⟩
  | enqueued (client : AuthenticatedClient) (request : SendNotificationRequest)
      (admitted : Admitted env scope body client request) (before after : Table)
      (row : Notification) (adds : AddsRow client.id request before after row) :
      Sends env scope body
        ⟨[.committed before after, .enqueued row.id], .accepted (toAccepted row)⟩
  | unavailable (client : AuthenticatedClient) (request : SendNotificationRequest)
      (admitted : Admitted env scope body client request) (before after : Table)
      (row : Notification) (adds : AddsRow client.id request before after row) :
      Sends env scope body ⟨[.committed before after], .error queueUnavailableResponse⟩

theorem unchanging_of_decision {outcome : LimiterOutcome} {response : ErrorResponse}
    (responds : outcome.decision = .respond response) : Unchanging (.error response) := by
  cases outcome with
  | redisError =>
      cases responds
      exact .limiterUnavailable
  | raised => cases responds
  | result answer =>
      cases allowed : answer.allowed with
      | true => simp [LimiterOutcome.decision, allowed] at responds
      | false =>
          simp only [LimiterOutcome.decision, allowed, Bool.false_eq_true, if_false,
            GateDecision.respond.injEq] at responds
          exact responds ▸ .rateLimited answer.retryAfterSeconds

/-- The limiter answers on its own with 429 or its 503 only. -/
theorem unchanging_of_rateLimit {env : LimiterEnv} {scope : Scope} {response : ErrorResponse}
    (responds : (rateLimit env scope).decision = .respond response) :
    Unchanging (.error response) := by
  by_cases isPost : scope.method = post
  · cases split : scope.urlPath env.refused with
    | none => simp [rateLimit, isPost, split] at responds
    | some path =>
        by_cases same : path = sendPath
        · obtain ⟨outcome, run⟩ := rateLimit_of_sendPath isPost (same ▸ split)
          rw [run] at responds
          exact unchanging_of_decision responds
        · simp [rateLimit_of_other_path split same] at responds
  · simp [rateLimit, isPost] at responds

theorem authenticated_of_getCurrentClient {env : SendEnv} {scope : Scope}
    {client : AuthenticatedClient} (found : getCurrentClient env scope = .ok client) :
    Authenticated env scope client := by
  unfold getCurrentClient at found
  cases header : scope.header (.ofString "x-api-key") with
  | none => simp [header] at found
  | some apiKey =>
      by_cases empty : apiKey = []
      · simp [header, empty] at found
      · cases row : env.getByHashedApiKey (env.limiter.hashApiKey apiKey) with
        | error error => simp [header, empty, row] at found
        | ok stored =>
            cases stored with
            | none => simp [header, empty, row] at found
            | some stored =>
                cases active : stored.isActive with
                | false => simp [header, empty, row, active] at found
                | true =>
                    simp only [header, empty, if_false, row, active, if_true,
                      Except.ok.injEq] at found
                    exact ⟨apiKey, stored, header, empty, row, active, found.symm⟩

section Requests

variable (env : SendEnv) (scope : Scope) (body : Body)

theorem sendNotification_sends : Sends env scope body (sendNotification env scope body) := by
  unfold sendNotification
  cases found : getCurrentClient env scope with
  | ok client =>
      cases validated : validateBody body with
      | none => exact .unchanged _ .unprocessable
      | some request =>
          have admitted : Admitted env scope body client request :=
            ⟨authenticated_of_getCurrentClient found, validated⟩
          have accepts := acceptWithFaults_accepts env.accept client.id request
          dsimp only
          generalize acceptWithFaults env.accept client.id request = log at accepts
          cases accepts with
          | replayed row replays => exact .replayed client request admitted row replays
          | raised error => exact .unchanged _ .raised
          | enqueued before after stored =>
              exact .enqueued client request admitted before after _ (addsRow_of_insert stored)
          | unavailable before after stored =>
              exact .unavailable client request admitted before after _ (addsRow_of_insert stored)
  | error error =>
      cases error with
      | unauthorized => exact .unchanged _ .unauthorized
      | sql error => exact .unchanged _ .raised

theorem handleSend_sends : Sends env scope body (handleSend env scope body) := by
  unfold handleSend
  cases decision : (rateLimit env.limiter scope).decision with
  | respond response => exact .unchanged _ (unchanging_of_rateLimit decision)
  | raised => exact .unchanged _ .raised
  | callNext =>
      cases body with
      | json value => exact sendNotification_sends env scope (.json value)
      | notJson => exact sendNotification_sends env scope .notJson
      | undecodable => exact .unchanged _ .unprocessable
      | unreadable => exact .unchanged _ .badRequest

end Requests

theorem SendContract.of_sends {env : SendEnv} {scope : Scope} {body : Body} {run : SendRun}
    (sends : Sends env scope body run) : SendContract env scope body run := by
  cases sends with
  | unchanged answer unchanging =>
      constructor
      case answered => exact .inl unchanging
      case rowsKept => nofun
      case unchanged =>
        intro _
        rfl
      case queueUnavailable =>
        intro same
        exact absurd same unchanging.ne_queueUnavailable
      case accepted =>
        intro response same
        exact absurd same (unchanging.ne_accepted response)
  | replayed client request admitted row replays =>
      constructor
      case answered => exact .inr (.inr ⟨_, rfl⟩)
      case rowsKept => nofun
      case unchanged =>
        intro _
        rfl
      case queueUnavailable => nofun
      case accepted =>
        rintro response ⟨⟩
        exact ⟨client, request, row, admitted, rfl, .inl ⟨replays, rfl⟩⟩
  | enqueued client request admitted before after row adds =>
      constructor
      case answered => exact .inr (.inr ⟨_, rfl⟩)
      case rowsKept =>
        intro first last committed
        obtain ⟨rfl, rfl⟩ : first = before ∧ last = after := by simpa using committed
        exact adds.kept
      case unchanged => nofun
      case queueUnavailable => nofun
      case accepted =>
        rintro response ⟨⟩
        exact ⟨client, request, row, admitted, rfl, .inr ⟨before, after, adds, rfl⟩⟩
  | unavailable client request admitted before after row adds =>
      constructor
      case answered => exact .inr (.inl rfl)
      case rowsKept =>
        intro first last committed
        obtain ⟨rfl, rfl⟩ : first = before ∧ last = after := by simpa using committed
        exact adds.kept
      case unchanged =>
        intro unchanging
        exact absurd rfl unchanging.ne_queueUnavailable
      case queueUnavailable =>
        intro _
        exact ⟨client, request, before, after, row, admitted, adds, rfl⟩
      case accepted => nofun

/-- For every request and every outcome of the limiter, the database and the queue. -/
theorem send_effects_by_answer (env : SendEnv) (scope : Scope) (body : Body) :
    SendContract env scope body (handleSend env scope body) :=
  .of_sends (handleSend_sends env scope body)

/-- A known client, an allowed request, an empty table, and a broker that is down. -/
def brokerDown : SendEnv where
  limiter := { emptyBucket with consume := fun _ _ => .result ⟨true, 0⟩ }
  getByHashedApiKey _ := .ok (some ⟨1, .ofString "tester", true⟩)
  accept :=
    { lookup := .ok .empty
      commit := .ok .empty
      rollback := .ok ()
      lookupAgain := .ok .empty
      newId := 7
      queue := celeryNotificationQueue fun _ => .failed }

example :
    let scope := { sendWithHost (.ofString "example.com") with
      headers := [(.ofString "host", .ofString "example.com"),
        (.ofString "x-api-key", .ofString "ne_key")] }
    let run := handleSend brokerDown scope (.json (SendNotificationRequest.welcome none).body)
    run.effects.length = 1 ∧ run.answer = .error queueUnavailableResponse :=
  ⟨rfl, rfl⟩

end NotificationsEngine
