import NotificationsEngine.Http.Handling
import NotificationsEngine.Logging.Formatters
import NotificationsEngine.Python.Uuid

/-!
# What the service logs

The calls of the loggers in `app/services`, `app/providers/simulated.py`,
`app/workers/tasks.py`, `app/api/deps.py` and the rate-limit middleware, in
their order, for the uninterrupted requests and deliveries of the application.
-/

namespace NotificationsEngine

/-! ## Dispatching -/

/-- `extra` of the calls of `dispatch` about a row. -/
def rowExtra (row : Notification) : List (String × LogValue) :=
  [("notification_id", .text (Uuid.str row.id)), ("client_id", .text (Uuid.str row.clientId)),
    ("channel", .text (Str.ofString row.channel.value)),
    ("status", .text (Str.ofString row.status.value)), ("retry_count", .number row.retryCount)]

/-- A call of `logging.getLogger("app.dispatch")`. -/
def dispatchCall (level : LogLevel) (message : String) (extra : List (String × LogValue)) :
    LogCall :=
  ⟨level, "app.dispatch", message, extra⟩

/-- `SimulatedNotificationProvider.send`, which logs what it does not refuse. -/
def providerLog (message : OutboundMessage) : ProviderOutcome → List LogCall
  | .returned =>
      [⟨.info, "app.providers.simulated", "simulated_send",
        [("channel", .text (Str.ofString message.channel.value)),
          ("template", .text message.template)]⟩]
  | .raised _ => []

/-- From the outcome of the provider call on.  A failure is logged with the status before it, and
a commit that raises is not followed by a line. -/
def afterSendLog (policy : DeliveryRetryPolicy) (row : Notification) (now : Instant)
    (outcome : ProviderOutcome) : List LogCall :=
  match afterSend policy row now outcome with
  | .error _ => []
  | .ok (change, result) =>
      if change.fits then
        match outcome with
        | .returned => [dispatchCall .info "notification_sent" (rowExtra change.row)]
        | .raised error =>
            let extras := rowExtra (row.withColumns (countFailure row.toDeliveryColumns error))
            if result.action = .retry then
              [dispatchCall .info "notification_retry_scheduled" extras]
            else [dispatchCall .info "notification_dispatch_failed" extras]
      else []

def sendLog (policy : DeliveryRetryPolicy) (provider : OutboundMessage → ProviderOutcome)
    (now : Instant) (row : Notification) : List LogCall :=
  dispatchCall .info "notification_dispatch_started" (rowExtra row) ::
    (providerLog row.outbound (provider row.outbound) ++
      afterSendLog policy row now (provider row.outbound))

/-- `DispatchService.dispatch`. -/
def dispatchLog (policy : DeliveryRetryPolicy) (provider : OutboundMessage → ProviderOutcome)
    (now : Instant) (table : Table) (notificationId : UUID) : List LogCall :=
  match table.getById notificationId with
  | none =>
      [dispatchCall .warning "notification_dispatch_missing"
        [("notification_id", .text (Uuid.str notificationId))]]
  | some row =>
      match afterLoad (some row) with
      | .error _ => []
      | .ok (.finished _) => [dispatchCall .info "notification_dispatch_skipped" (rowExtra row)]
      | .ok (.claim change) => sendLog policy provider now change.row
      | .ok (.resume row) => sendLog policy provider now row

/-- `record_dead_letter`. -/
def recordDeadLetterCall (notificationId : UUID) : LogCall :=
  ⟨.warning, "app.workers.tasks", "notification_dead_lettered",
    [("notification_id", .text (Uuid.str notificationId))]⟩

/-! ## Accepting and reading -/

/-- `extra` of the calls of `NotificationService` about a row. -/
def serviceExtra (clientId : UUID) (row : Notification) : List (String × LogValue) :=
  [("notification_id", .text (Uuid.str row.id)), ("client_id", .text (Uuid.str clientId)),
    ("channel", .text (Str.ofString row.channel.value)),
    ("status", .text (Str.ofString row.status.value))]

/-- A call of `logging.getLogger("app.notifications")`. -/
def serviceCall (message : String) (clientId : UUID) (row : Notification) : LogCall :=
  ⟨.info, "app.notifications", message, serviceExtra clientId row⟩

/-- From `self._repository.create` on. -/
def createLog (env : AcceptEnv) (clientId : UUID) (request : SendNotificationRequest) :
    List LogCall :=
  let row := create clientId request env.newId
  match env.commit with
  | .error _ => []
  | .ok before =>
      match before.insert row with
      | .error _ => []
      | .ok _ =>
          match env.queue.enqueue row.id with
          | .published => [serviceCall "notification_accepted" clientId row]
          | .unavailable => []
          | .failed => []

/-- `NotificationService.accept`. -/
def acceptLog (env : AcceptEnv) (clientId : UUID) (request : SendNotificationRequest) :
    List LogCall :=
  match request.idempotencyKey with
  | none => createLog env clientId request
  | some key =>
      match env.lookup with
      | .error _ => []
      | .ok table =>
          match table.getByIdempotencyKey clientId key with
          | some existing => [serviceCall "notification_idempotent_replay" clientId existing]
          | none => createLog env clientId request

/-- `NotificationService.get_status`. -/
def statusLog (table : Table) (clientId notificationId : UUID) : List LogCall :=
  match table.getByIdForClient notificationId clientId with
  | none => []
  | some row => [serviceCall "notification_status_read" clientId row]

/-- `MetricsService.get_client_metrics`. -/
def metricsLog (table : Table) (clientId : UUID) : List LogCall :=
  let counts := table.countSentAndFailedForClient clientId
  [⟨.info, "app.metrics", "metrics_read", [("client_id", .text (Uuid.str clientId)),
    ("sent", .number counts.sent), ("failed", .number counts.failed)]⟩]

/-! ## In front of the handlers -/

def BucketKind.value : BucketKind → String
  | key => "key"
  | ip => "ip"

/-- `RateLimitMiddleware.dispatch`, by the outcome of `bucket.consume`. -/
def limiterLog (kind : BucketKind) : LimiterOutcome → List LogCall
  | .redisError =>
      [⟨.error, "app.rate_limit", "rate_limit_store_unavailable",
        [("kind", .text (Str.ofString kind.value))]⟩]
  | .raised => []
  | .result answer =>
      if answer.allowed then
        [⟨.info, "app.rate_limit", "rate_limit_allowed",
          [("kind", .text (Str.ofString kind.value))]⟩]
      else
        [⟨.info, "app.rate_limit", "rate_limit_exceeded",
          [("kind", .text (Str.ofString kind.value)),
            ("retry_after", .number answer.retryAfterSeconds)]⟩]

def gateLog (env : LimiterEnv) (scope : Scope) : List LogCall :=
  (rateLimit env scope).consumed.flatMap fun call =>
    limiterLog (bucketKey env.hashApiKey scope).2 call.2

def apiKeyRejectedCall (reason : String) : LogCall :=
  ⟨.info, "app.auth", "api_key_rejected", [("reason", .text (Str.ofString reason))]⟩

/-- `get_current_client`. -/
def currentClientLog (hashApiKey : Str → Str) (clients : Clients) (scope : Scope) :
    List LogCall :=
  match scope.header apiKeyHeader with
  | none => [apiKeyRejectedCall "missing"]
  | some apiKey =>
      if apiKey = [] then [apiKeyRejectedCall "missing"]
      else
        match currentClient hashApiKey clients scope with
        | none => [apiKeyRejectedCall "unknown_or_inactive"]
        | some client =>
            [⟨.info, "app.auth", "client_authenticated",
              [("client_id", .text (Uuid.str client.id))]⟩]

/-! ## The application -/

namespace App

variable (config : AppConfig) (app : App) (surroundings : Surroundings) (scope : Scope)
  (body : Body)

/-- A handler that depends on `get_current_client`. -/
def authenticatedLog (handler : AuthenticatedClient → List LogCall) : List LogCall :=
  currentClientLog config.hashApiKey config.clients scope ++
    match currentClient config.hashApiKey config.clients scope with
    | none => []
    | some client => handler client

/-- `send_notification` of a body that could be read. -/
def sendNotificationLog : List LogCall :=
  authenticatedLog config scope fun client =>
    match validateBody body with
    | none => []
    | some request =>
        acceptLog (app.sendEnv config surroundings scope body).accept client.id request

def handlerLog : List LogCall :=
  match route scope with
  | .health => []
  | .readMe => authenticatedLog config scope fun _ => []
  | .sendNotification =>
      match body with
      | .undecodable => []
      | .unreadable => []
      | .json _ => app.sendNotificationLog config surroundings scope body
      | .notJson => app.sendNotificationLog config surroundings scope body
  | .readNotificationStatus notificationId =>
      authenticatedLog config scope fun client =>
        match config.readUuid notificationId with
        | none => []
        | some id => statusLog app.table client.id id
  | .readMetrics => authenticatedLog config scope fun client => metricsLog app.table client.id
  | .framework => []

def requestLog : List LogCall :=
  gateLog (app.limiterEnv config surroundings) scope ++
    match (rateLimit (app.limiterEnv config surroundings) scope).decision with
    | .callNext => (app.spent config surroundings scope).handlerLog config surroundings scope body
    | .respond _ => []
    | .raised => []

end App

/-- What happens to the service, and a worker that takes an id off `notifications.dlq`. -/
inductive LoggedOp where
  | app (op : AppOp)
  | recordDeadLetter (id : UUID)

namespace App

def performLogged (config : AppConfig) (app : App) : LoggedOp → App
  | .app op => app.perform config op
  | .recordDeadLetter id => { app with deadLetters := app.deadLetters.erase id }

/-- The calls of one operation, each with the request id that the filter puts on its record. -/
def logOf (config : AppConfig) (app : App) : LoggedOp → List (Str × LogCall)
  | .app (.request scope body surroundings) =>
      (app.requestLog config surroundings scope body).map fun call =>
        (requestId scope surroundings.generatedRequestId, call)
  | .app (.deliver turn) =>
      match Drain.turn config.policy app.toDrain turn with
      | none => []
      | some _ =>
          (dispatchLog config.policy (fun _ => turn.outcome) turn.now app.table
            turn.message.notificationId).map fun call => (noRequestId, call)
  | .app (.duplicate _) => []
  | .recordDeadLetter id =>
      if app.deadLetters.contains id then [(noRequestId, recordDeadLetterCall id)] else []

def log (config : AppConfig) : App → List LoggedOp → List (Str × LogCall)
  | _, [] => []
  | app, op :: ops => app.logOf config op ++ log config (app.performLogged config op) ops

end App

end NotificationsEngine
