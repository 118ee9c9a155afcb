import NotificationsEngine.Http.Refinement
import NotificationsEngine.Workers.Isolation

/-!
# What a client sees over HTTP

A client sees the responses to the requests that show its key: status, metrics
and sends, and also 429 with `Retry-After`, since the bucket is its own.  None
of them depends on the requests of others, on deliveries of their rows, or on
copies of their messages.
-/

namespace NotificationsEngine

open Noninterference Observation

def shownKey (scope : Scope) : Str := strip ((scope.header apiKeyHeader).getD [])

def StoredClient.bucketKey (row : StoredClient) : Str := .ofString "rl:key:" ++ row.hashedApiKey

def StoredClient.shownBy (row : StoredClient) (hashApiKey : Str → Str) (scope : Scope) : Bool :=
  shownKey scope ≠ [] && hashApiKey (shownKey scope) = row.hashedApiKey

/-- A text that a request of the run shows, as a header or stripped. -/
def Shown (ops : List AppOp) (text : Str) : Prop :=
  ∃ scope body surroundings, .request scope body surroundings ∈ ops ∧
    (scope.header apiKeyHeader = some text ∨ shownKey scope = text)

/-- Every client has a key that stripping leaves alone, and no other text of the run has its
digest. -/
def KeysDistinct (config : AppConfig) (ops : List AppOp) : Prop :=
  ∀ row ∈ config.clients.rows, ∃ key, strip key = key ∧ key ≠ [] ∧
    ∀ text, Shown ops text → config.hashApiKey text = row.hashedApiKey → text = key

theorem KeysDistinct.tail {config : AppConfig} {op : AppOp} {rest : List AppOp}
    (distinct : KeysDistinct config (op :: rest)) : KeysDistinct config rest := by
  intro row member
  obtain ⟨key, stripped, present, unique⟩ := distinct row member
  refine ⟨key, stripped, present, fun text shown => unique text ?_⟩
  obtain ⟨scope, body, surroundings, later, same⟩ := shown
  exact ⟨scope, body, surroundings, List.mem_cons_of_mem _ later, same⟩

/-! ## Buckets -/

theorem bucketKey_eq (hashApiKey : Str → Str) (scope : Scope) :
    (bucketKey hashApiKey scope).1 =
      if shownKey scope ≠ [] then .ofString "rl:key:" ++ hashApiKey (shownKey scope)
      else .ofString "rl:ip:" ++ scope.client.getD (.ofString "unknown") := by
  unfold bucketKey shownKey apiKeyHeader
  dsimp only
  split <;> rfl

/-- A bucket for an address is no bucket for a key. -/
theorem ip_ne_key (host digest : Str) :
    Str.ofString "rl:ip:" ++ host ≠ Str.ofString "rl:key:" ++ digest := by
  intro same
  have fourth : (Str.ofString "rl:ip:" ++ host)[3]? = (Str.ofString "rl:key:" ++ digest)[3]? := by
    rw [same]
  have left : (Str.ofString "rl:ip:" ++ host)[3]? = some (letter 'i') := rfl
  have right : (Str.ofString "rl:key:" ++ digest)[3]? = some (letter 'k') := rfl
  rw [left, right] at fourth
  exact absurd fourth (by decide)

theorem bucketKey_eq_iff {hashApiKey : Str → Str} {scope : Scope} {row : StoredClient} :
    (bucketKey hashApiKey scope).1 = row.bucketKey ↔ row.shownBy hashApiKey scope = true := by
  rw [bucketKey_eq, StoredClient.bucketKey, StoredClient.shownBy]
  by_cases shown : shownKey scope ≠ []
  · simp [shown]
  · rw [if_neg shown]
    simp only [shown, decide_false, Bool.false_and, Bool.false_eq_true, iff_false]
    exact ip_ne_key _ _

namespace App

variable {config : AppConfig} {app image : App} {surroundings : Surroundings} {scope : Scope}
  {body : Body} {row : StoredClient}

/-- The limiter reads the bucket of the request and nothing else. -/
theorem rateLimit_congr
    (same : image.redis (bucketKey config.hashApiKey scope).1 =
      app.redis (bucketKey config.hashApiKey scope).1) :
    rateLimit (image.limiterEnv config surroundings) scope =
      rateLimit (app.limiterEnv config surroundings) scope := by
  simp only [rateLimit, limiterEnv, same]

theorem spent_redis_of_ne {key : Str} (other : key ≠ (bucketKey config.hashApiKey scope).1) :
    (app.spent config surroundings scope).redis key = app.redis key := by
  unfold spent spend
  have consumed : (rateLimit (app.limiterEnv config surroundings) scope).consumed = [] ∨ _ :=
    rateLimit_consumed
  cases surroundings.redisTime with
  | none => rfl
  | some time =>
      rcases consumed with none | ⟨outcome, one⟩
      · rw [none]
        rfl
      · rw [one]
        exact Function.update_of_ne other _ _

theorem spent_redis_congr
    (same : image.redis (bucketKey config.hashApiKey scope).1 =
      app.redis (bucketKey config.hashApiKey scope).1) :
    (image.spent config surroundings scope).redis (bucketKey config.hashApiKey scope).1 =
      (app.spent config surroundings scope).redis (bucketKey config.hashApiKey scope).1 := by
  unfold spent
  rw [rateLimit_congr same]
  unfold spend
  have consumed : (rateLimit (app.limiterEnv config surroundings) scope).consumed = [] ∨ _ :=
    rateLimit_consumed
  cases surroundings.redisTime with
  | none => exact same
  | some time =>
      rcases consumed with none | ⟨outcome, one⟩
      · rw [none]
        exact same
      · rw [one]
        simp only [List.foldl_cons, List.foldl_nil, Function.update_self, same]

/-! ## Who a request is from -/

/-- With distinct keys a request authenticates as the client whose bucket it uses. -/
theorem currentClient_id_iff {ops : List AppOp} (distinct : KeysDistinct config ops)
    (member : .request scope body surroundings ∈ ops) (stored : row ∈ config.clients.rows)
    {client : AuthenticatedClient}
    (found : currentClient config.hashApiKey config.clients scope = some client) :
    client.id = row.id ↔ row.shownBy config.hashApiKey scope = true := by
  obtain ⟨apiKey, _, header, present, lookup, -, rfl⟩ := currentClient_eq_some_iff.mp found
  obtain ⟨own, ownStored, digest, rfl⟩ := Clients.getByHashedApiKey_some lookup
  obtain ⟨key, stripped, -, unique⟩ := distinct own ownStored
  have same : apiKey = key :=
    unique apiKey ⟨scope, body, surroundings, member, .inl header⟩ digest.symm
  have shown : shownKey scope = apiKey := by
    rw [shownKey, header, Option.getD_some, same, stripped]
  have shows : row.shownBy config.hashApiKey scope = true ↔
      own.hashedApiKey = row.hashedApiKey := by
    simp [StoredClient.shownBy, shown, present, digest]
  rw [shows]
  constructor
  · intro sameId
    rw [Clients.eq_of_id_eq ownStored stored sameId]
  · intro sameDigest
    rw [Clients.eq_of_hashedApiKey_eq ownStored stored sameDigest]

end App

/-! ## The application as a client sees it -/

namespace App

def visibleTo (config : AppConfig) (row : StoredClient) (app : App) : AppOp → Bool
  | .request scope _ _ => row.shownBy config.hashApiKey scope
  | .deliver turn => app.table.owns row.id turn.message.notificationId
  | .duplicate message => app.table.owns row.id message.notificationId

/-- Two handlers that agree on the client of the request. -/
theorem authenticated_congr {handler handler' : AuthenticatedClient → Response}
    (same : ∀ client, currentClient config.hashApiKey config.clients scope = some client →
      handler' client = handler client) :
    authenticated config scope handler' = authenticated config scope handler := by
  unfold authenticated
  cases found : currentClient config.hashApiKey config.clients scope with
  | none => rfl
  | some client => exact same client found

def responsesTo (config : AppConfig) (row : StoredClient) (app : App) (ops : List AppOp) :
    List (Option Response) :=
  observe (perform config) (masked (visibleTo config row) (respond config)) app ops

/-- The run without the requests of others, the deliveries of their rows and the copies of
their messages. -/
def withoutOthers (config : AppConfig) (row : StoredClient) (app : App) (ops : List AppOp) :
    List AppOp :=
  purge (perform config) (visibleTo config row) app ops

theorem perform_deliver (config : AppConfig) (app : App) (turn : Turn) :
    app.perform config (.deliver turn) =
      { app with toDrain := app.toDrain.deliver config.policy turn } := by
  rw [perform, Drain.deliver]
  cases Drain.turn config.policy app.toDrain turn <;> rfl

end App

/-- The same rows, messages and bucket of one client. -/
structure SameView (row : StoredClient) (app image : App) : Prop where
  drain : SameDrain row.id app.toDrain image.toDrain
  bucket : image.redis row.bucketKey = app.redis row.bucketKey

namespace SameView

variable {config : AppConfig} {app image : App} {surroundings : Surroundings} {scope : Scope}
  {body : Body} {row : StoredClient}

/-- A send of the client stores and answers the same. -/
theorem send (same : SameView row app image)
    (own : ∀ client, currentClient config.hashApiKey config.clients scope = some client →
      client.id = row.id)
    (fresh : app.table.getById surroundings.newId = none)
    (sends : route scope = .sendNotification) :
    SameView row (app.callNext config surroundings scope body).1
        (image.callNext config surroundings scope body).1 ∧
      (image.callNext config surroundings scope body).2 =
        (app.callNext config surroundings scope body).2 := by
  rw [App.callNext_of_send sends, App.callNext_of_send sends]
  cases admits : App.admitted config scope body with
  | error answer => exact ⟨same, rfl⟩
  | ok admittee =>
      obtain ⟨client, request⟩ := admittee
      have client_id : client.id = row.id := own client (App.admitted_eq_ok admits).1
      dsimp only
      rw [client_id]
      obtain ⟨drain, result⟩ := same.drain.accept_visible request
        (celeryEnqueue surroundings.applyAsync) fresh
      refine ⟨⟨drain, same.bucket⟩, ?_⟩
      simp only [AcceptRun.log, App.acceptRun, result]

/-- The client's rows are all that a handler reads. -/
theorem callNext (same : SameView row app image) (body : Body)
    (own : ∀ client, currentClient config.hashApiKey config.clients scope = some client →
      client.id = row.id)
    (fresh : app.table.getById surroundings.newId = none) :
    SameView row (app.callNext config surroundings scope body).1
        (image.callNext config surroundings scope body).1 ∧
      (image.callNext config surroundings scope body).2 =
        (app.callNext config surroundings scope body).2 := by
  have rows := same.drain.rows
  cases path : route scope with
  | sendNotification => exact same.send own fresh path
  | readNotificationStatus notificationId =>
      simp only [App.callNext, path]
      refine ⟨same, congrArg some (App.authenticated_congr fun client found => ?_)⟩
      simp only [own client found, rows.getStatus_eq]
  | readMetrics =>
      simp only [App.callNext, path]
      refine ⟨same, congrArg some (App.authenticated_congr fun client found => ?_)⟩
      rw [own client found, rows.getClientMetrics_eq]
  | _ =>
      simp only [App.callNext, path]
      exact ⟨same, trivial⟩

theorem spent (same : SameView row app image) (surroundings : Surroundings)
    (shown : row.shownBy config.hashApiKey scope = true) :
    SameView row (app.spent config surroundings scope)
      (image.spent config surroundings scope) where
  drain := by rw [App.spent_toDrain, App.spent_toDrain]; exact same.drain
  bucket := by
    have key := bucketKey_eq_iff.mpr shown
    rw [← key]
    exact App.spent_redis_congr (by rw [key]; exact same.bucket)

/-- A request with the client's key is answered the same. -/
theorem handle (same : SameView row app image) (body : Body)
    (own : ∀ client, currentClient config.hashApiKey config.clients scope = some client →
      client.id = row.id)
    (shown : row.shownBy config.hashApiKey scope = true)
    (fresh : app.table.getById surroundings.newId = none) :
    SameView row (app.handle config surroundings scope body).1
        (image.handle config surroundings scope body).1 ∧
      (image.handle config surroundings scope body).2 =
        (app.handle config surroundings scope body).2 := by
  have key := bucketKey_eq_iff.mpr shown
  have gate : rateLimit (image.limiterEnv config surroundings) scope =
      rateLimit (app.limiterEnv config surroundings) scope :=
    App.rateLimit_congr (by rw [key]; exact same.bucket)
  have unused : (app.spent config surroundings scope).table.getById surroundings.newId = none := by
    rwa [App.spent_toDrain]
  have spent := same.spent surroundings shown
  simp only [App.spent, gate] at spent unused
  simp only [App.handle, App.limited, gate]
  cases (rateLimit (app.limiterEnv config surroundings) scope).decision with
  | respond error => exact ⟨spent, rfl⟩
  | raised => exact ⟨spent, rfl⟩
  | callNext =>
      obtain ⟨next, answer⟩ := spent.callNext body own unused
      exact ⟨next, congrArg _ answer⟩

/-- A request without the client's key changes nothing that the client sees. -/
theorem handle_hidden (same : SameView row app image)
    (other : ∀ client, currentClient config.hashApiKey config.clients scope = some client →
      client.id ≠ row.id)
    (foreign : row.shownBy config.hashApiKey scope = false)
    (fresh : app.table.getById surroundings.newId = none) :
    SameView row (app.handle config surroundings scope body).1 image := by
  have key : row.bucketKey ≠ (bucketKey config.hashApiKey scope).1 := fun used => by
    rw [bucketKey_eq_iff.mp used.symm] at foreign
    cases foreign
  have bucket : image.redis row.bucketKey =
      (app.spent config surroundings scope).redis row.bucketKey :=
    same.bucket.trans (App.spent_redis_of_ne key).symm
  have handles : App.Handles config app surroundings scope body _ := App.handle_handles
  generalize app.handle config surroundings scope body = run at handles
  cases handles with
  | kept response silent refused =>
      refine ⟨?_, bucket⟩
      rw [App.spent_toDrain]
      exact same.drain
  | accepted client request admits =>
      have own := other client (App.admitted_eq_ok admits.admitted).1
      refine ⟨?_, bucket⟩
      change SameDrain row.id ((app.spent config surroundings scope).toDrain.accepted _) _
      rw [App.spent_toDrain]
      exact same.drain.accept_hidden own fresh

end SameView

/-! ## Isolation -/

/-- Fresh ids and distinct keys, for the rest of a run. -/
structure IsolationAssumptions (config : AppConfig) (app : App) (ops : List AppOp) : Prop where
  fresh : FreshRequests app ops
  distinct : KeysDistinct config ops

section Isolation

variable {config : AppConfig} {row : StoredClient} {app image : App} {op : AppOp}
  {rest : List AppOp}

theorem SameView.perform_hidden (same : SameView row app image)
    (assumptions : IsolationAssumptions config app (op :: rest))
    (stored : row ∈ config.clients.rows) (hidden : app.visibleTo config row op = false) :
    SameView row (app.perform config op) image := by
  cases op with
  | request scope body surroundings =>
      have other : ∀ client, currentClient config.hashApiKey config.clients scope = some client →
          client.id ≠ row.id := fun client found own => by
        have shows := (App.currentClient_id_iff assumptions.distinct List.mem_cons_self stored
          found).mp own
        rw [App.visibleTo, shows] at hidden
        cases hidden
      exact same.handle_hidden other hidden
        (assumptions.fresh.unused _ (List.mem_filterMap.mpr ⟨_, List.mem_cons_self, rfl⟩))
  | deliver turn =>
      rw [App.perform_deliver]
      exact ⟨same.drain.deliver_hidden (Table.owns_eq_false_iff.mp hidden), same.bucket⟩
  | duplicate message =>
      rw [App.perform]
      split
      · next waiting =>
          exact ⟨same.drain.duplicate_hidden waiting (Table.owns_eq_false_iff.mp hidden),
            same.bucket⟩
      · exact same

theorem SameView.perform_visible (same : SameView row app image)
    (assumptions : IsolationAssumptions config app (op :: rest))
    (stored : row ∈ config.clients.rows) (visible : app.visibleTo config row op = true) :
    SameView row (app.perform config op) (image.perform config op) ∧
      image.respond config op = app.respond config op := by
  cases op with
  | request scope body surroundings =>
      have own : ∀ client, currentClient config.hashApiKey config.clients scope = some client →
          client.id = row.id := fun client found =>
        (App.currentClient_id_iff assumptions.distinct List.mem_cons_self stored found).mpr visible
      obtain ⟨next, answer⟩ := same.handle body own visible
        (assumptions.fresh.unused _ (List.mem_filterMap.mpr ⟨_, List.mem_cons_self, rfl⟩))
      exact ⟨next, congrArg some answer⟩
  | deliver turn =>
      rw [App.perform_deliver, App.perform_deliver]
      exact ⟨⟨same.drain.deliver_visible (Table.owns_iff.mp visible), same.bucket⟩, rfl⟩
  | duplicate message =>
      have waits := same.drain.mem_messages_iff (Table.owns_iff.mp visible)
      rw [App.perform, App.perform]
      by_cases waiting : message ∈ app.messages
      · rw [if_pos waiting, if_pos (waits.mpr waiting)]
        exact ⟨⟨same.drain.duplicate_visible waiting, same.bucket⟩, rfl⟩
      · rw [if_neg waiting, if_neg fun member => waiting (waits.mp member)]
        exact ⟨same, rfl⟩

theorem unwinding_http (stored : row ∈ config.clients.rows) :
    Unwinding (App.perform config) (App.respond config) (App.visibleTo config row)
      (IsolationAssumptions config) (SameView row) where
  admits assumptions := ⟨assumptions.fresh.tail, assumptions.distinct.tail⟩
  hidden assumptions same hidden := same.perform_hidden assumptions stored hidden
  related assumptions same visible := (same.perform_visible assumptions stored visible).1
  output assumptions same visible := (same.perform_visible assumptions stored visible).2

end Isolation

/--
Tenant isolation over HTTP.  For every configuration, every stored state whose
waiting messages are about stored rows, and every sequence of requests to any
routes, deliveries and copies, in which generated UUIDs are fresh and no two
texts shown as keys share a client's digest: the requests that show a client's
key are answered as in the run without the requests of all others, the
deliveries of their rows and the copies of their messages.
-/
theorem http_isolation (config : AppConfig) (app : App) (ops : List AppOp)
    (known : AboutStored app.table app.messages)
    (assumptions : IsolationAssumptions config app ops) (row : StoredClient)
    (stored : row ∈ config.clients.rows) :
    observe (App.perform config) (App.respond config) app (app.withoutOthers config row ops) =
      app.responsesTo config row ops :=
  (unwinding_http stored).observe_purge assumptions ⟨.refl known, rfl⟩

theorem keysDistinct_twoClients {config : AppConfig} (hash : config.hashApiKey = id)
    (clients : config.clients = twoClients) (ops : List AppOp) : KeysDistinct config ops := by
  intro row member
  rw [clients] at member
  refine ⟨row.hashedApiKey, ?_, ?_, fun text _ digest => by rwa [hash] at digest⟩
  · rcases List.mem_pair.mp member with rfl | rfl <;> decide
  · rcases List.mem_pair.mp member with rfl | rfl <;> decide

/-- Two clients send under one idempotency key, and the second one asks for its metrics. -/
def twoSenders : List AppOp :=
  [sendAs "ne_a" 0 1, sendAs "ne_b" 0 2, .deliver ⟨⟨1, 0⟩, .returned, 0⟩,
    .deliver ⟨⟨2, 0⟩, .returned, 0⟩,
    requestAs "ne_b" { sendWithKey with method := get, path := .ofString "/api/v1/metrics" }
      .notJson 0 3]

theorem http_isolation_twoSenders :
    (App.empty.withoutOthers servingTwoClients ⟨⟨8, .ofString "Globex", true⟩, .ofString "ne_b"⟩
        twoSenders).length = 3 ∧
      observe (App.perform servingTwoClients) (App.respond servingTwoClients) .empty
          (App.empty.withoutOthers servingTwoClients
            ⟨⟨8, .ofString "Globex", true⟩, .ofString "ne_b"⟩ twoSenders) =
        App.empty.responsesTo servingTwoClients
          ⟨⟨8, .ofString "Globex", true⟩, .ofString "ne_b"⟩ twoSenders := by
  refine ⟨by decide +kernel, ?_⟩
  exact http_isolation servingTwoClients .empty twoSenders nofun
    ⟨⟨by decide, fun _ _ => rfl⟩, keysDistinct_twoClients rfl rfl _⟩ _
    (List.mem_pair.mpr (.inr rfl))

end NotificationsEngine
