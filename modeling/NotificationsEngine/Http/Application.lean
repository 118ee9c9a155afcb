import NotificationsEngine.Http.Authentication
import NotificationsEngine.Http.Storage
import NotificationsEngine.RateLimit.Expiry
import NotificationsEngine.Services.Queries
import NotificationsEngine.Workers.Drain
import Mathlib.Logic.Function.Basic

/-!
# The whole application

`app/main.py` with its middleware stack and its routers, over everything that
the service stores: the rows, the buckets in Redis, the waiting messages and
the dead letters.  A request is handled uninterrupted, and a worker's delivery
is one turn of the queue.
-/

namespace NotificationsEngine

/-! ## Routes -/

inductive Route where
  | health
  | readMe
  | sendNotification
  | readNotificationStatus (notificationId : Str)
  | readMetrics
  | framework

def get : Str := .ofString "GET"

/-- The pattern `^...$` of a registered path without parameters. -/
def matchesPath (registered : String) (path : Str) : Bool :=
  path = .ofString registered || path = .ofString registered ++ [UrlSplit.code '\n']

/-- `{notification_id}` of `/api/v1/notifications/{notification_id}/status`. -/
def statusParameter (path : Str) : Option Str :=
  let base : Str := .ofString "/api/v1/notifications/"
  if base.isPrefixOf path then
    let rest := path.drop base.length
    let parameter := rest.takeWhile fun c => c ≠ UrlSplit.code '/'
    let tail := rest.dropWhile fun c => c ≠ UrlSplit.code '/'
    if parameter ≠ [] ∧ matchesPath "/status" tail then some parameter else none
  else none

/-- The route that Starlette finds by method and path. -/
def route (scope : Scope) : Route :=
  if routesToSend scope then .sendNotification
  else if scope.method = get then
    if matchesPath "/health" scope.path then .health
    else if matchesPath "/api/v1/clients/me" scope.path then .readMe
    else if matchesPath "/api/v1/metrics" scope.path then .readMetrics
    else
      match statusParameter scope.path with
      | some notificationId => .readNotificationStatus notificationId
      | none => .framework
  else .framework

inductive Content where
  | health
  | client (client : AuthenticatedClient)
  | accepted (response : SendAcceptedResponse)
  | status (response : NotificationStatusResponse)
  | metrics (response : ClientMetricsResponse)
  | error (detail code : String)
  | validation
  /-- "There was an error parsing the body" -/
  | unreadableBody
  | framework

structure Response where
  statusCode : Nat
  headers : List (Str × Str)
  content : Content

/-- `response.headers[name] = value`. -/
def Response.setHeader (response : Response) (name value : Str) : Response :=
  { response with
    headers := (response.headers.filter fun header => header.1 ≠ name) ++ [(name, value)] }

/-- A `JSONResponse` of a handler or of the limiter. -/
def ErrorResponse.response (error : ErrorResponse) : Response where
  statusCode := error.statusCode
  headers := error.headers.map fun header => (.ofString header.1, .ofString header.2)
  content := .error error.detail error.code

/-- `handle_notification_not_found`. -/
def notFoundResponse : ErrorResponse := ⟨404, "Notification not found", "not_found", []⟩

/-- The response to an answer of `send_notification`; `none` for an unhandled exception. -/
def SendAnswer.response : SendAnswer → Option Response
  | .accepted response => some ⟨202, [], .accepted response⟩
  | .error answer => some answer.response
  | .unprocessable => some ⟨422, [], .validation⟩
  | .badRequest => some ⟨400, [], .unreadableBody⟩
  | .raised => none

/-! ## What is stored, and what a request meets -/

/-- The settings, the clients, and what belongs to libraries. -/
structure AppConfig where
  hashApiKey : Str → Str
  clients : Clients
  limit : Limit
  policy : DeliveryRetryPolicy
  /-- the checks of `urlsplit` on the authority -/
  refused : Str → Bool
  /-- a path parameter of type `uuid.UUID`; `none` where it is invalid -/
  readUuid : Str → Option UUID
  /-- status and headers of what the framework answers on its own -/
  framework : Scope → Nat × List (Str × Str)

/-- The rows, the messages and the dead letters, with the keys of the limiter in Redis. -/
structure App extends Drain where
  redis : Str → Option ExpiringKey

/-- What one request meets beside the stored data. -/
structure Surroundings where
  /-- the Redis clock in milliseconds; `none` when the call raises `RedisError` -/
  redisTime : Option Int
  newId : UUID
  applyAsync : EnqueueOutcome
  generatedRequestId : Str

namespace App

variable (config : AppConfig) (app : App) (surroundings : Surroundings) (scope : Scope)
  (body : Body)

def limiterEnv : LimiterEnv where
  hashApiKey := config.hashApiKey
  rateLimitPerMinute := config.limit.capacity
  consume key _ :=
    match surroundings.redisTime with
    | none => .redisError
    | some time =>
        .result (consume config.limit (ExpiringKey.live (app.redis key) time) (nowMsAt time)).result
  refused := config.refused

/-- Redis after the calls of `bucket.consume`. -/
def spend (consumed : List (Str × LimiterOutcome)) : App :=
  match surroundings.redisTime with
  | none => app
  | some time =>
      consumed.foldl
        (fun app call => { app with
          redis := Function.update app.redis call.1
            (expireStep config.limit (app.redis call.1) time) })
        app

def clientId : UUID := ((currentClient config.hashApiKey config.clients scope).map (·.id)).getD 0

/-- The database and the queue during one request: they raise on values they cannot hold only. -/
def sendEnv : SendEnv where
  limiter := app.limiterEnv config surroundings
  getByHashedApiKey digest := .ok (config.clients.getByHashedApiKey digest)
  accept :=
    storageEnv (.constant app.table) (clientId config scope)
      ((validateBody body).getD (.welcome none)) surroundings.newId
      (celeryNotificationQueue fun _ => surroundings.applyAsync)

/-- What is stored after the effects of `accept`. -/
def afterEffects : App → List SendEffect → App
  | app, [] => app
  | app, .committed _ after :: rest => afterEffects { app with table := after } rest
  | app, .enqueued id :: rest => afterEffects { app with messages := ⟨id, 0⟩ :: app.messages } rest

/-- A handler that depends on `get_current_client`. -/
def authenticated (handler : AuthenticatedClient → Response) : Response :=
  match currentClient config.hashApiKey config.clients scope with
  | none => unauthorizedResponse.response
  | some client => handler client

def readMe : Response := authenticated config scope fun client => ⟨200, [], .client client⟩

def readNotificationStatus (notificationId : Str) : Response :=
  authenticated config scope fun client =>
    match config.readUuid notificationId with
    | none => ⟨422, [], .validation⟩
    | some id =>
        match getStatus app.table client.id id with
        | .ok status => ⟨200, [], .status status⟩
        | .error .notFound => notFoundResponse.response

def readMetrics : Response :=
  authenticated config scope fun client =>
    ⟨200, [], .metrics (getClientMetrics app.table client.id)⟩

/-- The routers, with the exception handlers of `create_app`. -/
def callNext : App × Option Response :=
  match route scope with
  | .health => (app, some ⟨200, [], .health⟩)
  | .readMe => (app, some (readMe config scope))
  | .sendNotification =>
      let run := routeSend (app.sendEnv config surroundings scope body) scope body
      (app.afterEffects run.effects, run.answer.response)
  | .readNotificationStatus notificationId =>
      (app, some (app.readNotificationStatus config scope notificationId))
  | .readMetrics => (app, some (app.readMetrics config scope))
  | .framework => (app, some ⟨(config.framework scope).1, (config.framework scope).2, .framework⟩)

/-- `RateLimitMiddleware.dispatch`. -/
def limited : App × Option Response :=
  let gate := rateLimit (app.limiterEnv config surroundings) scope
  let spent := app.spend config surroundings gate.consumed
  match gate.decision with
  | .callNext => spent.callNext config surroundings scope body
  | .respond error => (spent, some error.response)
  | .raised => (spent, none)

end App

/-- `X-Request-ID`. -/
def requestIdHeader : Str := .ofString "x-request-id"

/-- The request id of the middleware: the one that came in, or a generated one. -/
def requestId (scope : Scope) (generated : Str) : Str :=
  let incoming := strip ((scope.header requestIdHeader).getD [])
  if incoming ≠ [] then incoming else generated

namespace App

/-- One request, from the outermost middleware on; no response is an unhandled exception. -/
def handle (config : AppConfig) (app : App) (surroundings : Surroundings) (scope : Scope)
    (body : Body) : App × Option Response :=
  let (next, response) := app.limited config surroundings scope body
  (next, response.map fun response =>
    response.setHeader requestIdHeader (requestId scope surroundings.generatedRequestId))

end App

/-- What happens to the service: a request, a delivery, or a copy of a message in the broker. -/
inductive AppOp where
  | request (scope : Scope) (body : Body) (surroundings : Surroundings)
  | deliver (turn : Turn)
  | duplicate (message : Message)

namespace App

def perform (config : AppConfig) (app : App) : AppOp → App
  | .request scope body surroundings => (app.handle config surroundings scope body).1
  | .deliver turn =>
      match Drain.turn config.policy app.toDrain turn with
      | some next => { app with toDrain := next }
      | none => app
  | .duplicate message =>
      if message ∈ app.messages then { app with messages := message :: app.messages } else app

def respond (config : AppConfig) (app : App) : AppOp → Option (Option Response)
  | .request scope body surroundings => some (app.handle config surroundings scope body).2
  | _ => none

def performAll (config : AppConfig) (app : App) (ops : List AppOp) : App :=
  ops.foldl (perform config) app

end App

end NotificationsEngine
