import NotificationsEngine.Http.Application
import NotificationsEngine.Engine.Uninterrupted

/-!
# What a request does

A request changes at most one bucket in Redis, and on `POST /send` what one
call of `accept` changes.  Everything else leaves the stored data as it is.
-/

namespace NotificationsEngine

open Engine (enqueuedMessages)

/-! ## The call of accept over the columns -/

section Storage

variable {table : Table} {clientId newId : UUID} {request : SendNotificationRequest}
  {queue : NotificationQueue}

/-- A call whose key is no text parameter raises in its first lookup. -/
theorem acceptWithFaults_of_untextual
    (untextual : request.keyTextual = false) :
    acceptWithFaults (storageEnv (.constant table) clientId request newId queue) clientId
      request = ⟨[], .error (.sql .other)⟩ := by
  cases hkey : request.idempotencyKey with
  | none => simp [SendNotificationRequest.keyTextual, hkey] at untextual
  | some key =>
      rw [SendNotificationRequest.keyTextual, hkey] at untextual
      simp [acceptWithFaults, hkey, storageEnv, lookupBy, untextual]

/-- A call with nothing to replay raises in its INSERT when its row does not fit. -/
theorem acceptWithFaults_of_misfit (textual : request.keyTextual = true)
    (absent : findExisting table clientId request = none) (misfit : request.fits = false) :
    acceptWithFaults (storageEnv (.constant table) clientId request newId queue) clientId
      request = ⟨[], .error (.sql .other)⟩ := by
  have creates : createWithFaults (storageEnv (.constant table) clientId request newId queue)
      clientId request = ⟨[], .error (.sql .other)⟩ := by
    simp [createWithFaults_storage, Table.insertValues, create_fits, misfit]
  cases hkey : request.idempotencyKey with
  | none => simp only [acceptWithFaults, hkey, creates]
  | some key =>
      simp only [findExisting, hkey] at absent
      have read : (storageEnv (.constant table) clientId request newId queue).lookup =
          .ok table := if_pos textual
      simp only [acceptWithFaults, hkey, read, absent, creates]

/-- A call that finds a row replays it, whatever the columns hold. -/
theorem acceptWithFaults_of_found (textual : request.keyTextual = true)
    {existing : Notification} (found : findExisting table clientId request = some existing) :
    acceptWithFaults (storageEnv (.constant table) clientId request newId queue) clientId
      request = ⟨[], .ok (toAccepted existing)⟩ := by
  cases hkey : request.idempotencyKey with
  | none => simp [findExisting, hkey] at found
  | some key =>
      simp only [findExisting, hkey] at found
      have read : (storageEnv (.constant table) clientId request newId queue).lookup =
          .ok table := if_pos textual
      simp only [acceptWithFaults, hkey, read, found]

/-- Over the columns and without other sessions the call is the uninterrupted one. -/
theorem acceptWithFaults_constant :
    acceptWithFaults (storageEnv (.constant table) clientId request newId queue) clientId
        request =
      (accept table clientId request newId (queue.enqueue newId)).log table := by
  cases textual : request.keyTextual with
  | false =>
      rw [acceptWithFaults_of_untextual textual, accept_of_untextual textual]
      rfl
  | true =>
      cases found : findExisting table clientId request with
      | some existing =>
          rw [acceptWithFaults_of_found textual found, accept_of_found textual found]
          rfl
      | none =>
          cases fits : request.fits with
          | false =>
              rw [acceptWithFaults_of_misfit textual found fits, accept_of_misfit found fits]
              rfl
          | true =>
              have undisturbed : Undisturbed
                  (storageEnv (.constant table) clientId request newId queue) table :=
                ⟨if_pos textual, if_pos ((create_fits _ _ _).trans fits), rfl, if_pos textual⟩
              exact acceptWithFaults_undisturbed undisturbed textual fun _ => fits

end Storage

namespace App

variable {config : AppConfig} {app : App} {surroundings : Surroundings} {scope : Scope}
  {body : Body}

/-! ## Redis -/

theorem spend_toDrain (consumed : List (Str × LimiterOutcome)) :
    (app.spend config surroundings consumed).toDrain = app.toDrain := by
  unfold spend
  cases surroundings.redisTime with
  | none => rfl
  | some time =>
      dsimp only
      induction consumed generalizing app with
      | nil => rfl
      | cons call rest ih => exact ih

/-- The limiter of a request is that of its own bucket. -/
theorem rateLimit_consumed :
    (rateLimit (app.limiterEnv config surroundings) scope).consumed = [] ∨
      ∃ outcome, (rateLimit (app.limiterEnv config surroundings) scope).consumed =
        [((bucketKey config.hashApiKey scope).1, outcome)] := by
  by_cases isPost : scope.method = post
  · cases split : scope.urlPath config.refused with
    | none => exact .inl (by simp [rateLimit, isPost, limiterEnv, split])
    | some path =>
        by_cases same : path = sendPath
        · have sends : scope.urlPath (app.limiterEnv config surroundings).refused =
              some sendPath := same ▸ split
          obtain ⟨outcome, run⟩ := rateLimit_of_sendPath isPost sends
          exact .inr ⟨outcome, by rw [run]; rfl⟩
        · have other : rateLimit (app.limiterEnv config surroundings) scope = ⟨[], .callNext⟩ :=
            rateLimit_of_other_path split same
          exact .inl (by rw [other])
  · exact .inl (by simp [rateLimit, isPost])

/-! ## Sending -/

def authorized (config : AppConfig) (scope : Scope) (body : Body) :
    Except SendAnswer (AuthenticatedClient × SendNotificationRequest) :=
  match currentClient config.hashApiKey config.clients scope with
  | none => .error (.error unauthorizedResponse)
  | some client =>
      match validateBody body with
      | none => .error .unprocessable
      | some request => .ok (client, request)

/-- The client and the request of a send, or the answer before `accept` is called. -/
def admitted (config : AppConfig) (scope : Scope) (body : Body) :
    Except SendAnswer (AuthenticatedClient × SendNotificationRequest) :=
  match body with
  | .undecodable => .error .unprocessable
  | .unreadable => .error .badRequest
  | .json _ => authorized config scope body
  | .notJson => authorized config scope body

theorem authorized_eq_ok {client : AuthenticatedClient} {request : SendNotificationRequest}
    (admits : authorized config scope body = .ok (client, request)) :
    currentClient config.hashApiKey config.clients scope = some client ∧
      validateBody body = some request := by
  unfold authorized at admits
  cases found : currentClient config.hashApiKey config.clients scope with
  | none => simp [found] at admits
  | some caller =>
      cases validated : validateBody body with
      | none => simp [found, validated] at admits
      | some validRequest =>
          simp only [found, validated, Except.ok.injEq, Prod.mk.injEq] at admits
          rw [admits.1, admits.2]
          exact ⟨rfl, rfl⟩

/-- An admitted request has a client and a valid body. -/
theorem admitted_eq_ok {client : AuthenticatedClient} {request : SendNotificationRequest}
    (admits : admitted config scope body = .ok (client, request)) :
    currentClient config.hashApiKey config.clients scope = some client ∧
      validateBody body = some request := by
  cases body with
  | undecodable => cases admits
  | unreadable => cases admits
  | json value => exact authorized_eq_ok admits
  | notJson => exact authorized_eq_ok admits

def accepted (app : App) (run : AcceptRun) : App :=
  { app with table := run.table, messages := enqueuedMessages app.messages run.enqueued }

def acceptRun (app : App) (surroundings : Surroundings) (clientId : UUID)
    (request : SendNotificationRequest) : AcceptRun :=
  accept app.table clientId request surroundings.newId (celeryEnqueue surroundings.applyAsync)

theorem afterEffects_log (clientId : UUID) (request : SendNotificationRequest) :
    app.afterEffects ((app.acceptRun surroundings clientId request).log app.table).effects =
      app.accepted (app.acceptRun surroundings clientId request) := by
  have accepts := accept_accepts app.table clientId request surroundings.newId
    (celeryEnqueue surroundings.applyAsync)
  unfold acceptRun
  generalize accept app.table clientId request surroundings.newId
    (celeryEnqueue surroundings.applyAsync) = run at accepts
  cases accepts with
  | replayed => rfl
  | refused => rfl
  | inserted table' stored => cases celeryEnqueue surroundings.applyAsync <;> rfl

/-- The statements of a send meet the stored rows and the columns. -/
theorem sendEnv_accept {client : AuthenticatedClient} {request : SendNotificationRequest}
    (found : currentClient config.hashApiKey config.clients scope = some client)
    (validated : validateBody body = some request) :
    acceptWithFaults (app.sendEnv config surroundings scope body).accept client.id request =
      (app.acceptRun surroundings client.id request).log app.table := by
  have env : (app.sendEnv config surroundings scope body).accept =
      storageEnv (.constant app.table) client.id request surroundings.newId
        (celeryNotificationQueue fun _ => surroundings.applyAsync) := by
    simp only [sendEnv, clientId, found, validated, Option.map_some, Option.getD_some]
  rw [env, acceptWithFaults_constant]
  rfl

/-- `send_notification` answers on its own or hands over to `accept`. -/
theorem sendNotification_sendEnv :
    sendNotification (app.sendEnv config surroundings scope body) scope body =
      match currentClient config.hashApiKey config.clients scope with
      | none => ⟨[], .error unauthorizedResponse⟩
      | some client =>
          match validateBody body with
          | none => ⟨[], .unprocessable⟩
          | some request =>
              let log := (app.acceptRun surroundings client.id request).log app.table
              ⟨log.effects, answerOf log.result⟩ := by
  have lookup : ∀ digest, (app.sendEnv config surroundings scope body).getByHashedApiKey digest =
      .ok (config.clients.getByHashedApiKey digest) := fun _ => rfl
  have hashes : (app.sendEnv config surroundings scope body).limiter.hashApiKey =
      config.hashApiKey := rfl
  have authenticates := getCurrentClient_eq config.clients scope lookup
  rw [hashes] at authenticates
  simp only [sendNotification, authenticates]
  cases found : currentClient config.hashApiKey config.clients scope with
  | none => rfl
  | some client =>
      cases validated : validateBody body with
      | none => rfl
      | some request => simp only [sendEnv_accept found validated]

/-- An admitted request stores what its call of `accept` stores. -/
theorem callNext_of_send (sends : route scope = .sendNotification) :
    app.callNext config surroundings scope body =
      match admitted config scope body with
      | .error answer => (app, answer.response)
      | .ok (client, request) =>
          (app.accepted (app.acceptRun surroundings client.id request),
            (answerOf ((app.acceptRun surroundings client.id request).log
              app.table).result).response) := by
  have called : sendNotification (app.sendEnv config surroundings scope body) scope body = _ :=
    sendNotification_sendEnv
  cases body with
  | undecodable => simp only [callNext, sends, routeSend, admitted, afterEffects]
  | unreadable => simp only [callNext, sends, routeSend, admitted, afterEffects]
  | _ =>
      simp only [callNext, sends, routeSend, called, admitted, authorized]
      cases currentClient config.hashApiKey config.clients scope with
      | none => rfl
      | some client =>
          cases validateBody _ with
          | none => rfl
          | some request => simp only [afterEffects_log]

def Silent (response : Option Response) : Prop :=
  ∀ answer, response = some answer → ∀ accepted, answer.content ≠ .accepted accepted

theorem silent_error (error : ErrorResponse) : Silent (some error.response) := by
  rintro _ ⟨⟩ _ ⟨⟩

theorem silent_authenticated {handler : AuthenticatedClient → Response}
    (silent : ∀ client, Silent (some (handler client))) :
    Silent (some (authenticated config scope handler)) := by
  unfold authenticated
  cases currentClient config.hashApiKey config.clients scope with
  | none => exact silent_error _
  | some client => exact silent client

theorem silent_readNotificationStatus (notificationId : Str) :
    Silent (some (app.readNotificationStatus config scope notificationId)) := by
  refine silent_authenticated fun client => ?_
  cases config.readUuid notificationId with
  | none => rintro _ ⟨⟩ _ ⟨⟩
  | some id =>
      dsimp only
      split
      · rintro _ ⟨⟩ _ ⟨⟩
      · exact silent_error _

/-- Any other handler leaves what is stored as it is. -/
theorem callNext_of_other (other : route scope ≠ .sendNotification) :
    (app.callNext config surroundings scope body).1 = app ∧
      Silent (app.callNext config surroundings scope body).2 := by
  unfold callNext
  split
  · exact ⟨rfl, by rintro _ ⟨⟩ _ ⟨⟩⟩
  · exact ⟨rfl, silent_authenticated fun _ => by rintro _ ⟨⟩ _ ⟨⟩⟩
  · next sends => exact absurd sends other
  · exact ⟨rfl, silent_readNotificationStatus _⟩
  · exact ⟨rfl, silent_authenticated fun _ => by rintro _ ⟨⟩ _ ⟨⟩⟩
  · exact ⟨rfl, by rintro _ ⟨⟩ _ ⟨⟩⟩

theorem Silent.map {response : Option Response} (silent : Silent response) (name value : Str) :
    Silent (response.map fun response => response.setHeader name value) := by
  rintro _ found accepted announced
  obtain ⟨answer, rfl, rfl⟩ := Option.map_eq_some_iff.mp found
  exact silent answer rfl accepted announced

theorem silent_of_authorized {answer : SendAnswer}
    (refused : authorized config scope body = .error answer) : Silent answer.response := by
  unfold authorized at refused
  cases found : currentClient config.hashApiKey config.clients scope with
  | none =>
      simp only [found, Except.error.injEq] at refused
      exact refused ▸ silent_error _
  | some client =>
      cases validated : validateBody body with
      | some request => simp [found, validated] at refused
      | none =>
          simp only [found, validated, Except.error.injEq] at refused
          subst refused
          rintro _ ⟨⟩ _ ⟨⟩

theorem silent_of_admitted {answer : SendAnswer}
    (refused : admitted config scope body = .error answer) : Silent answer.response := by
  cases body with
  | undecodable =>
      cases refused
      rintro _ ⟨⟩ _ ⟨⟩
  | unreadable =>
      cases refused
      rintro _ ⟨⟩ _ ⟨⟩
  | json value =>
      have refused : authorized config scope (.json value) = .error answer := refused
      exact silent_of_authorized refused
  | notJson =>
      have refused : authorized config scope .notJson = .error answer := refused
      exact silent_of_authorized refused

def spent (config : AppConfig) (app : App) (surroundings : Surroundings) (scope : Scope) : App :=
  app.spend config surroundings (rateLimit (app.limiterEnv config surroundings) scope).consumed

@[simp] theorem spent_toDrain :
    (app.spent config surroundings scope).toDrain = app.toDrain := spend_toDrain _

theorem spent_accepted_toDrain (run : AcceptRun) :
    ((app.spent config surroundings scope).accepted run).toDrain =
      ⟨run.table, enqueuedMessages app.messages run.enqueued, app.deadLetters⟩ := by
  have messages : (app.spent config surroundings scope).messages = app.messages :=
    congrArg Drain.messages spent_toDrain
  have deadLetters : (app.spent config surroundings scope).deadLetters = app.deadLetters :=
    congrArg Drain.deadLetters spent_toDrain
  simp only [accepted, messages, deadLetters]

structure Admits (config : AppConfig) (app : App) (surroundings : Surroundings) (scope : Scope)
    (body : Body) (client : AuthenticatedClient) (request : SendNotificationRequest) : Prop where
  passes : (rateLimit (app.limiterEnv config surroundings) scope).decision = .callNext
  sends : route scope = .sendNotification
  admitted : admitted config scope body = .ok (client, request)

/-- What is stored after a request, and the response where `accept` was called. -/
inductive Handles (config : AppConfig) (app : App) (surroundings : Surroundings) (scope : Scope)
    (body : Body) : App × Option Response → Prop where
  | kept (response : Option Response) (silent : Silent response)
      (refused : ∀ client request, ¬ Admits config app surroundings scope body client request) :
      Handles config app surroundings scope body (app.spent config surroundings scope, response)
  | accepted (client : AuthenticatedClient) (request : SendNotificationRequest)
      (admits : Admits config app surroundings scope body client request) :
      Handles config app surroundings scope body
        ((app.spent config surroundings scope).accepted
            (app.acceptRun surroundings client.id request),
          (answerOf ((app.acceptRun surroundings client.id request).log
            app.table).result).response.map fun response =>
              response.setHeader requestIdHeader
                (requestId scope surroundings.generatedRequestId))

theorem spent_acceptRun (clientId : UUID) (request : SendNotificationRequest) :
    (app.spent config surroundings scope).acceptRun surroundings clientId request =
      app.acceptRun surroundings clientId request := by
  rw [acceptRun, spent_toDrain, acceptRun]

theorem handle_handles :
    Handles config app surroundings scope body (app.handle config surroundings scope body) := by
  have table : (app.spent config surroundings scope).table = app.table :=
    congrArg Drain.table spent_toDrain
  unfold handle limited
  dsimp only
  cases decision : (rateLimit (app.limiterEnv config surroundings) scope).decision with
  | respond error =>
      refine .kept _ ((silent_error error).map _ _) fun client request admits => ?_
      cases decision.symm.trans admits.passes
  | raised =>
      refine .kept _ (by rintro _ ⟨⟩) fun client request admits => ?_
      cases decision.symm.trans admits.passes
  | callNext =>
      change Handles config app surroundings scope body
        (((app.spent config surroundings scope).callNext config surroundings scope body).1,
          ((app.spent config surroundings scope).callNext config surroundings scope body).2.map _)
      by_cases sends : route scope = .sendNotification
      · rw [callNext_of_send sends]
        cases admits : admitted config scope body with
        | error answer =>
            refine .kept _ ((silent_of_admitted admits).map _ _) fun client request admitted => ?_
            cases admits.symm.trans admitted.admitted
        | ok admittee =>
            obtain ⟨client, request⟩ := admittee
            dsimp only
            rw [table, spent_acceptRun]
            exact .accepted client request ⟨decision, sends, admits⟩
      · obtain ⟨same, silent⟩ := (callNext_of_other sends :
          ((app.spent config surroundings scope).callNext config surroundings scope body).1 = _ ∧ _)
        rw [same]
        exact .kept _ (silent.map _ _) fun client request admits => sends admits.sends

end App

end NotificationsEngine
