import NotificationsEngine.Engine.Room
import NotificationsEngine.Http.Handling
import NotificationsEngine.RateLimit.WindowLaw
import NotificationsEngine.Services.Isolation

/-!
# The application is a run of the system

Requests that are handled and messages that are delivered one after another
make the same rows, messages and dead letters as a run of the system in which
calls and workers are cut at their effects.  So whatever holds of every run of
the system holds of the application behind its routes and its middleware.
-/

namespace NotificationsEngine

open StepMachine Observation

/-! ## Fresh ids -/

def AppOp.generated : AppOp → Option UUID
  | .request _ _ surroundings => some surroundings.newId
  | _ => none

/-- The generated UUIDs differ from each other and from the stored ones. -/
structure FreshRequests (app : App) (ops : List AppOp) : Prop where
  distinct : (ops.filterMap AppOp.generated).Nodup
  unused : ∀ id ∈ ops.filterMap AppOp.generated, app.table.getById id = none

namespace App

variable {config : AppConfig} {app : App}

/-- What an operation does to the rows is done by a call of a service, or nothing. -/
theorem perform_table (config : AppConfig) (app : App) (op : AppOp) :
    (app.perform config op).table = app.table ∨
      ∃ service : ServiceOp, (service.generated = op.generated ∨ service.generated = none) ∧
        (app.perform config op).table = service.perform config.policy app.table := by
  cases op with
  | request scope body surroundings =>
      have handles : Handles config app surroundings scope body _ := handle_handles
      rw [perform]
      generalize app.handle config surroundings scope body = run at handles
      cases handles with
      | kept => exact .inl (congrArg Drain.table spent_toDrain)
      | accepted client request =>
          exact .inr ⟨.accept client.id request surroundings.newId
            (celeryEnqueue surroundings.applyAsync), .inl rfl, rfl⟩
  | deliver turn =>
      rw [perform, Drain.turn]
      by_cases waiting : turn.message ∈ app.messages
      · rw [if_pos waiting]
        refine .inr ⟨.dispatch turn.message.notificationId (fun _ => turn.outcome) turn.now,
          .inr rfl, ?_⟩
        exact Drain.publish_table _ _
      · rw [if_neg waiting]
        exact .inl rfl
  | duplicate message =>
      rw [perform]
      split
      · exact .inl rfl
      · exact .inl rfl

theorem unused_performed {op : AppOp} {id : UUID} (missing : app.table.getById id = none)
    (other : op.generated ≠ some id) : (app.perform config op).table.getById id = none := by
  rcases perform_table config app op with same | ⟨service, generated, same⟩
  · rwa [same]
  · rw [same]
    refine getById_perform_eq_none missing ?_
    rcases generated with same | none
    · rwa [same]
    · rw [none]
      rintro ⟨⟩

end App

theorem FreshRequests.tail {config : AppConfig} {app : App} {op : AppOp} {rest : List AppOp}
    (fresh : FreshRequests app (op :: rest)) : FreshRequests (app.perform config op) rest := by
  obtain ⟨distinct, unused⟩ := fresh
  cases generated : op.generated with
  | none =>
      simp only [List.filterMap_cons, generated] at distinct unused
      exact ⟨distinct, fun id member =>
        App.unused_performed (unused id member) (by rw [generated]; rintro ⟨⟩)⟩
  | some own =>
      simp only [List.filterMap_cons, generated, List.nodup_cons] at distinct unused
      refine ⟨distinct.2, fun id member =>
        App.unused_performed (unused id (List.mem_cons_of_mem _ member)) ?_⟩
      rw [generated]
      rintro ⟨⟩
      exact distinct.1 member

/-! ## The simulation -/

/-- The system stores what the application stores, and has room for another party. -/
structure Refines (engine : Engine) (app : App) : Prop where
  drain : engine.drain = app.toDrain
  unused : ∃ bound, engine.Unused bound

/-- The response to a call of `accept` names the row that the call has returned. -/
theorem result_of_accepted {run : AcceptRun} {table : Table} {name value : Str}
    {answer : Response} {accepted : SendAcceptedResponse}
    (responds : (answerOf (run.log table).result).response.map
      (fun response => response.setHeader name value) = some answer)
    (announced : answer.content = .accepted accepted) : run.result = .ok accepted := by
  obtain ⟨response, same, rfl⟩ := Option.map_eq_some_iff.mp responds
  rw [AcceptRun.log] at same
  cases ended : run.result with
  | ok result =>
      rw [ended] at same
      cases same
      cases announced
      rfl
  | error error =>
      rw [ended] at same
      cases error with
      | integrity => cases same
      | data => cases same
      | queueUnavailable =>
          cases same
          cases announced

theorem request_refines (config : AppConfig) {engine : Engine} {app : App}
    (refines : Refines engine app) (scope : Scope) (body : Body) (surroundings : Surroundings)
    (fresh : app.table.getById surroundings.newId = none) :
    ∃ actions next, run (Engine.step config.policy) engine actions = some next ∧
      Refines next (app.handle config surroundings scope body).1 ∧
      ∀ answer accepted, (app.handle config surroundings scope body).2 = some answer →
        answer.content = .accepted accepted →
          ∃ call clientId request,
            next.calls call = some ⟨clientId, request, .returned accepted⟩ := by
  have handles : App.Handles config app surroundings scope body _ := App.handle_handles
  generalize app.handle config surroundings scope body = run at handles
  cases handles with
  | kept response silent refused =>
      refine ⟨[], engine, rfl, ⟨refines.drain.trans App.spent_toDrain.symm, refines.unused⟩, ?_⟩
      intro answer accepted responds announced
      exact absurd announced (silent answer responds accepted)
  | accepted client request admits =>
      obtain ⟨bound, unused⟩ := refines.unused
      have table : engine.table = app.table := congrArg Drain.table refines.drain
      obtain ⟨actions, next, reached, answered, drained⟩ :=
        Engine.accept_run config.policy (unused bound (Nat.le_refl bound)).1 client.id request
          (by rw [table]; exact fresh) (celeryEnqueue surroundings.applyAsync)
      refine ⟨actions, next, reached, ⟨?_, Engine.unused_run ⟨bound, unused⟩ reached⟩, ?_⟩
      · have messages : engine.queued = app.messages := congrArg Drain.messages refines.drain
        have deadLetters : deadLettered engine.log = app.deadLetters :=
          congrArg Drain.deadLetters refines.drain
        rw [drained, App.spent_accepted_toDrain, table, messages, ← deadLetters]
        rfl
      · intro answer accepted responds announced
        rw [table] at answered
        have returned := result_of_accepted responds announced
        rw [App.acceptRun] at returned
        rw [returned] at answered
        exact ⟨bound, client.id, request, answered⟩

theorem deliver_refines (config : AppConfig) {engine : Engine} {app : App}
    (refines : Refines engine app) (turn : Turn) :
    ∃ actions next, run (Engine.step config.policy) engine actions = some next ∧
      Refines next (app.perform config (.deliver turn)) := by
  rw [App.perform]
  cases taken : Drain.turn config.policy app.toDrain turn with
  | none => exact ⟨[], engine, rfl, refines⟩
  | some drained =>
      obtain ⟨bound, unused⟩ := refines.unused
      rw [← refines.drain] at taken
      obtain ⟨actions, next, reached, same, -⟩ :=
        Engine.turn_run config.policy (unused bound (Nat.le_refl bound)).2 taken
      exact ⟨actions, next, reached, same, Engine.unused_run ⟨bound, unused⟩ reached⟩

theorem duplicate_refines (config : AppConfig) {engine : Engine} {app : App}
    (refines : Refines engine app) (message : Message) :
    ∃ actions next, run (Engine.step config.policy) engine actions = some next ∧
      Refines next (app.perform config (.duplicate message)) := by
  rw [App.perform]
  by_cases waiting : message ∈ app.messages
  · have messages : engine.queued = app.messages := congrArg Drain.messages refines.drain
    have copied : Engine.step config.policy engine (.duplicate message) = some _ :=
      Engine.step_complete (.duplicate message (by rw [messages]; exact waiting))
    refine ⟨[.duplicate message], _, run_cons_eq_some.mpr ⟨_, copied, rfl⟩, ?_, refines.unused⟩
    rw [if_pos waiting, ← messages, ← refines.drain]
    rfl
  · rw [if_neg waiting]
    exact ⟨[], engine, rfl, refines⟩

/-- One operation is a run of the system, in which an announced row has been returned. -/
theorem perform_refines (config : AppConfig) {engine : Engine} {app : App}
    (refines : Refines engine app) (op : AppOp)
    (fresh : ∀ id, op.generated = some id → app.table.getById id = none) :
    ∃ actions next, run (Engine.step config.policy) engine actions = some next ∧
      Refines next (app.perform config op) ∧
      ∀ answer accepted, app.respond config op = some (some answer) →
        answer.content = .accepted accepted →
          ∃ call clientId request,
            next.calls call = some ⟨clientId, request, .returned accepted⟩ := by
  cases op with
  | request scope body surroundings =>
      obtain ⟨actions, next, reached, refines, answered⟩ :=
        request_refines config refines scope body surroundings (fresh _ rfl)
      exact ⟨actions, next, reached, refines, fun answer accepted responds =>
        answered answer accepted (Option.some.inj responds)⟩
  | deliver turn =>
      obtain ⟨actions, next, reached, refines⟩ := deliver_refines config refines turn
      exact ⟨actions, next, reached, refines, nofun⟩
  | duplicate message =>
      obtain ⟨actions, next, reached, refines⟩ := duplicate_refines config refines message
      exact ⟨actions, next, reached, refines, nofun⟩

theorem performAll_refines (config : AppConfig) {engine : Engine} {app : App} {ops : List AppOp}
    (refines : Refines engine app) (fresh : FreshRequests app ops) :
    ∃ actions final, run (Engine.step config.policy) engine actions = some final ∧
      Refines final (app.performAll config ops) ∧
      ∀ answer accepted,
        some answer ∈ observe (App.perform config) (App.respond config) app ops →
          answer.content = .accepted accepted →
            ∃ call clientId request,
              final.calls call = some ⟨clientId, request, .returned accepted⟩ := by
  induction ops generalizing engine app with
  | nil =>
      refine ⟨[], engine, rfl, refines, ?_⟩
      intro answer accepted member
      cases member
  | cons op rest ih =>
      have unused : ∀ id, op.generated = some id → app.table.getById id = none := by
        intro id generated
        exact fresh.unused id (List.mem_filterMap.mpr ⟨op, List.mem_cons_self, generated⟩)
      obtain ⟨first, middle, hfirst, refines', answered⟩ := perform_refines config refines op unused
      obtain ⟨second, final, hsecond, refines'', answered'⟩ := ih refines' fresh.tail
      refine ⟨first ++ second, final, run_append_eq_some hfirst hsecond, refines'', ?_⟩
      intro answer accepted member announced
      rw [observe, List.mem_append, Option.mem_toList] at member
      rcases member with now | later
      · obtain ⟨call, clientId, request, returned⟩ := answered answer accepted now announced
        exact ⟨call, clientId, request, Engine.answered_run returned hsecond⟩
      · exact answered' answer accepted later announced

/--
The application refines the system.  For every configuration, every stored
state without dead letters and every sequence of requests to any routes,
deliveries and copies, in which generated UUIDs are fresh, some run of the
system ends with the same rows, messages and dead letters, and every row that a
response has announced was returned by one of its calls of `accept`.
-/
theorem application_refines_system (config : AppConfig) (app : App)
    (noDeadLetters : app.deadLetters = []) (ops : List AppOp) (fresh : FreshRequests app ops) :
    ∃ actions final,
      run (Engine.step config.policy) (Engine.start app.table app.messages) actions = some final ∧
      final.drain = (app.performAll config ops).toDrain ∧
      ∀ answer accepted,
        some answer ∈ observe (App.perform config) (App.respond config) app ops →
          answer.content = .accepted accepted →
            ∃ call clientId request,
              final.calls call = some ⟨clientId, request, .returned accepted⟩ := by
  have initial : Refines (Engine.start app.table app.messages) app := by
    refine ⟨?_, 0, fun _ _ => ⟨rfl, rfl⟩⟩
    simp only [Engine.drain, Engine.start, deadLettered, List.filterMap_nil, ← noDeadLetters]
  obtain ⟨actions, final, reached, refines, answered⟩ := performAll_refines config initial fresh
  exact ⟨actions, final, reached, refines.drain, answered⟩

/-- Two clients, whose digests are their keys. -/
def twoClients : Clients where
  rows := [⟨⟨7, .ofString "Acme", true⟩, .ofString "ne_a"⟩,
    ⟨⟨8, .ofString "Globex", true⟩, .ofString "ne_b"⟩]
  primaryKey := by decide
  hashedApiKey := by decide

def servingTwoClients : AppConfig where
  hashApiKey := id
  clients := twoClients
  limit := tenPerMinute
  policy := .default
  refused := emptyBucket.refused
  readUuid _ := some 1
  framework _ := (404, [])

def App.empty : App := ⟨⟨.empty, [], []⟩, fun _ => none⟩

def requestAs (apiKey : String) (scope : Scope) (body : Body) (time : Int) (newId : UUID) : AppOp :=
  .request { scope with headers := [(apiKeyHeader, .ofString apiKey)] } body
    ⟨some time, newId, .published, .ofString "r"⟩

def sendAs (apiKey : String) (time : Int) (newId : UUID) : AppOp :=
  requestAs apiKey sendWithKey
    (.json (SendNotificationRequest.welcome (some (.ofString "k"))).body) time newId

def sendThenDeliver : List AppOp := [sendAs "ne_a" 0 1, .deliver ⟨⟨1, 0⟩, .returned, 0⟩]

theorem application_refines_system_sendThenDeliver :
    ((App.empty.performAll servingTwoClients sendThenDeliver).table.getById 1).map (·.status) =
        some .sent ∧
      ∃ actions final,
        run (Engine.step .default) (Engine.start .empty []) actions = some final ∧
          final.drain = (App.empty.performAll servingTwoClients sendThenDeliver).toDrain := by
  obtain ⟨actions, final, reached, drain, -⟩ :=
    application_refines_system servingTwoClients .empty rfl sendThenDeliver
      ⟨by decide, fun _ _ => rfl⟩
  exact ⟨by decide +kernel, actions, final, reached, drain⟩

end NotificationsEngine
