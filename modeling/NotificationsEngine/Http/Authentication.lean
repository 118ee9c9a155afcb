import NotificationsEngine.Http.SendNotification
import Mathlib.Data.List.Nodup

/-!
# Who sends a request

The table of `app/models/client.py`, the lookup of
`app/repositories/client_repository.py` and `get_current_client` over it.  Both
unique indexes are fields of the table.  The service reads it and never writes
to it.
-/

namespace NotificationsEngine

/-- A row of `clients` with the digest that it is looked up by. -/
structure StoredClient extends Client where
  hashedApiKey : Str

structure Clients where
  rows : List StoredClient
  primaryKey : (rows.map (·.id)).Nodup
  hashedApiKey : (rows.map (·.hashedApiKey)).Nodup

namespace Clients

def getByHashedApiKey (clients : Clients) (hashedApiKey : Str) : Option Client :=
  (clients.rows.find? fun row => row.hashedApiKey = hashedApiKey).map (·.toClient)

variable {clients : Clients}

theorem getByHashedApiKey_some {hashedApiKey : Str} {client : Client}
    (found : clients.getByHashedApiKey hashedApiKey = some client) :
    ∃ row ∈ clients.rows, row.hashedApiKey = hashedApiKey ∧ row.toClient = client := by
  obtain ⟨row, first, same⟩ := Option.map_eq_some_iff.mp found
  exact ⟨row, List.mem_of_find?_eq_some first, by simpa using List.find?_some first, same⟩

/-- Two rows with one digest are the same row. -/
theorem eq_of_hashedApiKey_eq {first second : StoredClient} (hfirst : first ∈ clients.rows)
    (hsecond : second ∈ clients.rows) (same : first.hashedApiKey = second.hashedApiKey) :
    first = second :=
  List.inj_on_of_nodup_map clients.hashedApiKey hfirst hsecond same

/-- Two rows with one id are the same row. -/
theorem eq_of_id_eq {first second : StoredClient} (hfirst : first ∈ clients.rows)
    (hsecond : second ∈ clients.rows) (same : first.id = second.id) : first = second :=
  List.inj_on_of_nodup_map clients.primaryKey hfirst hsecond same

end Clients

/-- `X-API-Key`, as the dependencies and the limiter look it up. -/
def apiKeyHeader : Str := .ofString "x-api-key"

/-- `get_current_client` over the stored clients. -/
def currentClient (hashApiKey : Str → Str) (clients : Clients) (scope : Scope) :
    Option AuthenticatedClient :=
  match scope.header apiKeyHeader with
  | none => none
  | some apiKey =>
      if apiKey = [] then none
      else
        match clients.getByHashedApiKey (hashApiKey apiKey) with
        | none => none
        | some client => if client.isActive then some ⟨client.id, client.name⟩ else none

theorem currentClient_eq_some_iff {hashApiKey : Str → Str} {clients : Clients} {scope : Scope}
    {client : AuthenticatedClient} :
    currentClient hashApiKey clients scope = some client ↔
      ∃ apiKey stored, scope.header apiKeyHeader = some apiKey ∧ apiKey ≠ [] ∧
        clients.getByHashedApiKey (hashApiKey apiKey) = some stored ∧ stored.isActive = true ∧
        client = ⟨stored.id, stored.name⟩ := by
  unfold currentClient
  cases header : scope.header apiKeyHeader with
  | none => simp
  | some apiKey =>
      by_cases empty : apiKey = []
      · simp [empty]
      · cases row : clients.getByHashedApiKey (hashApiKey apiKey) with
        | none => simp [empty, row]
        | some stored =>
            cases active : stored.isActive with
            | false => simp [empty, row, active]
            | true =>
                simp only [empty, if_false, row, active, if_true, Option.some.injEq]
                constructor
                · rintro rfl
                  exact ⟨apiKey, stored, rfl, empty, row, active, rfl⟩
                · rintro ⟨_, other, rfl, -, found, -, rfl⟩
                  rw [row, Option.some.injEq] at found
                  rw [found]

/-- It is the one of `send_notification` where the lookup does not raise. -/
theorem getCurrentClient_eq {env : SendEnv} (clients : Clients) (scope : Scope)
    (lookup : ∀ digest, env.getByHashedApiKey digest = .ok (clients.getByHashedApiKey digest)) :
    getCurrentClient env scope =
      match currentClient env.limiter.hashApiKey clients scope with
      | some client => .ok client
      | none => .error .unauthorized := by
  unfold getCurrentClient currentClient apiKeyHeader
  cases scope.header (.ofString "x-api-key") with
  | none => rfl
  | some apiKey =>
      by_cases empty : apiKey = []
      · simp [empty]
      · cases row : clients.getByHashedApiKey (env.limiter.hashApiKey apiKey) with
        | none => simp [empty, lookup, row]
        | some stored =>
            cases active : stored.isActive with
            | false => simp [empty, lookup, row, active]
            | true => simp [empty, lookup, row, active]

end NotificationsEngine
