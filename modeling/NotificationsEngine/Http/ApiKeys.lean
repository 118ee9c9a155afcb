import NotificationsEngine.Http.TenantView
import NotificationsEngine.Library.Base64

/-!
# Generated API keys

`generate_api_key` of `app/core/security.py`.  A key is told apart from every
other one, stripping leaves it alone, and over the lookup by digest it is the
one text that authenticates its client and is charged to its bucket.
-/

namespace NotificationsEngine

/-! ## The text of a key -/

/-- What `secrets.token_bytes(32)` returns. -/
structure Token where
  bytes : List ℕ
  small : ∀ byte ∈ bytes, byte < 256
  length : bytes.length = 32

def sextetLetter (sextet : ℕ) : CodePoint :=
  if sextet < 26 then letter (Char.ofNat (65 + sextet))
  else if sextet < 52 then letter (Char.ofNat (71 + sextet))
  else if sextet < 62 then letter (Char.ofNat (sextet - 4))
  else if sextet = 62 then letter '-'
  else letter '_'

def letterSextet (c : CodePoint) : ℕ :=
  if c.val = 45 then 62
  else if c.val = 95 then 63
  else if c.val ≤ 57 then c.val + 4
  else if c.val ≤ 90 then c.val - 65
  else c.val - 71

def padding : CodePoint := letter '='

def urlsafeB64encode (bytes : List ℕ) : Str :=
  (Base64.encode bytes).map sextetLetter ++ List.replicate (2 - (bytes.length + 2) % 3) padding

/-- `text.rstrip("=")`. -/
def rstripPadding (text : Str) : Str := (text.reverse.dropWhile (· = padding)).reverse

def tokenUrlsafe (token : Token) : Str := rstripPadding (urlsafeB64encode token.bytes)

def generateApiKey (token : Token) : Str := .ofString "ne_" ++ tokenUrlsafe token

theorem sextetLetter_spec : ∀ sextet, sextet < 64 →
    letterSextet (sextetLetter sextet) = sextet ∧ isSpace (sextetLetter sextet) = false ∧
      sextetLetter sextet ≠ padding := by
  decide

theorem lt_of_mem_encode {token : Token} {sextet : ℕ}
    (member : sextet ∈ Base64.encode token.bytes) : sextet < 64 :=
  Base64.lt_of_mem_encode token.small member

/-- The padding comes off, and nothing else. -/
theorem tokenUrlsafe_eq (token : Token) :
    tokenUrlsafe token = (Base64.encode token.bytes).map sextetLetter := by
  have kept : ((Base64.encode token.bytes).map sextetLetter).reverse.dropWhile
      (fun c => c = padding) = ((Base64.encode token.bytes).map sextetLetter).reverse := by
    refine Tokens.dropWhile_eq_self fun c member => decide_eq_false ?_
    obtain ⟨sextet, encoded, rfl⟩ := List.mem_map.mp (List.mem_reverse.mp member)
    exact (sextetLetter_spec sextet (lt_of_mem_encode encoded)).2.2
  rw [tokenUrlsafe, rstripPadding, urlsafeB64encode, List.reverse_append, List.reverse_replicate,
    List.dropWhile_append_of_pos (by simp), kept, List.reverse_reverse]

theorem length_generateApiKey (token : Token) : (generateApiKey token).length = 46 := by
  rw [generateApiKey, List.length_append, tokenUrlsafe_eq, List.length_map, Base64.length_encode,
    token.length]
  rfl

theorem generateApiKey_injective : Function.Injective generateApiKey := by
  intro first second same
  rw [generateApiKey, generateApiKey, List.append_cancel_left_eq, tokenUrlsafe_eq,
    tokenUrlsafe_eq] at same
  have read : ∀ token : Token, ((Base64.encode token.bytes).map sextetLetter).map letterSextet =
      Base64.encode token.bytes := by
    intro token
    rw [List.map_map]
    conv_rhs => rw [← List.map_id' (Base64.encode token.bytes)]
    exact List.map_congr_left fun sextet member =>
      (sextetLetter_spec sextet (lt_of_mem_encode member)).1
  have sextets := congrArg (List.map letterSextet) same
  rw [read, read] at sextets
  have bytes := Base64.encode_injOn first.small second.small sextets
  cases first
  cases second
  congr

/-- A key has no space at its ends. -/
theorem strip_generateApiKey (token : Token) :
    strip (generateApiKey token) = generateApiKey token := by
  refine Tokens.trim_eq_self fun c member => ?_
  rw [generateApiKey, tokenUrlsafe_eq] at member
  rcases List.mem_append.mp member with mark | written
  · have plain : (Str.ofString "ne_").all (fun c => !isSpace c) = true := by decide
    simpa using List.all_eq_true.mp plain c mark
  · obtain ⟨sextet, encoded, rfl⟩ := List.mem_map.mp written
    exact (sextetLetter_spec sextet (lt_of_mem_encode encoded)).2.1

theorem generateApiKey_ne_nil (token : Token) : generateApiKey token ≠ [] := by
  intro empty
  have length := length_generateApiKey token
  rw [empty] at length
  cases length

/-! ## Who shows a key -/

/-- The clients were registered with generated keys, and nothing that a run shows to the service
collides with one of them. -/
structure RegisteredKeys (config : AppConfig) (keyOf : UUID → Token) (ops : List AppOp) : Prop where
  stored : ∀ row ∈ config.clients.rows,
    row.hashedApiKey = config.hashApiKey (generateApiKey (keyOf row.id))
  digest : ∀ row ∈ config.clients.rows, ∀ text, Shown ops text →
    config.hashApiKey text = config.hashApiKey (generateApiKey (keyOf row.id)) →
      text = generateApiKey (keyOf row.id)

variable {config : AppConfig} {keyOf : UUID → Token} {ops : List AppOp}

theorem RegisteredKeys.keysDistinct (registered : RegisteredKeys config keyOf ops) :
    KeysDistinct config ops := by
  intro row member
  refine ⟨generateApiKey (keyOf row.id), strip_generateApiKey _, generateApiKey_ne_nil _, ?_⟩
  intro text shown same
  exact registered.digest row member text shown (same.trans (registered.stored row member))

/-- A stored client is found by its own digest. -/
theorem Clients.getByHashedApiKey_of_mem {clients : Clients} {row : StoredClient}
    (stored : row ∈ clients.rows) :
    clients.getByHashedApiKey row.hashedApiKey = some row.toClient := by
  rw [getByHashedApiKey]
  cases found : clients.rows.find? fun other => other.hashedApiKey = row.hashedApiKey with
  | none =>
      have other := List.find?_eq_none.mp found row stored
      simp at other
  | some other =>
      have same : other.hashedApiKey = row.hashedApiKey := by simpa using List.find?_some found
      rw [eq_of_hashedApiKey_eq (List.mem_of_find?_eq_some found) stored same]
      rfl

/-- Whoever is authenticated has shown the whole key of an active client. -/
theorem RegisteredKeys.shown (registered : RegisteredKeys config keyOf ops) {scope : Scope}
    {body : Body} {surroundings : Surroundings}
    (member : .request scope body surroundings ∈ ops) {caller : AuthenticatedClient}
    (found : currentClient config.hashApiKey config.clients scope = some caller) :
    ∃ own ∈ config.clients.rows, own.isActive = true ∧ caller = ⟨own.id, own.name⟩ ∧
      scope.header apiKeyHeader = some (generateApiKey (keyOf own.id)) := by
  obtain ⟨apiKey, _, header, -, lookup, active, rfl⟩ := currentClient_eq_some_iff.mp found
  obtain ⟨own, stored, digest, rfl⟩ := Clients.getByHashedApiKey_some lookup
  refine ⟨own, stored, active, rfl, ?_⟩
  rw [header, registered.digest own stored apiKey ⟨scope, body, surroundings, member, .inl header⟩
    (digest.symm.trans (registered.stored own stored))]

/-- What the requests of a run are to a client with a generated key. -/
structure KnownBy (config : AppConfig) (row : StoredClient) (key : Str) (scope : Scope) : Prop where
  authenticated : row.isActive = true →
    (currentClient config.hashApiKey config.clients scope = some ⟨row.id, row.name⟩ ↔
      scope.header apiKeyHeader = some key)
  inactive : row.isActive = false → ∀ caller,
    currentClient config.hashApiKey config.clients scope = some caller → caller.id ≠ row.id
  charged : (bucketKey config.hashApiKey scope).1 = row.bucketKey ↔ shownKey scope = key

/--
Over any digest without a collision among the texts that the run shows, a
generated key is the one header value that authenticates its client, its bucket
is charged exactly for the requests that show it, and the assumption of tenant
isolation on the keys holds.
-/
theorem generated_keys_tell_apart (config : AppConfig) (keyOf : UUID → Token) (ops : List AppOp)
    (registered : RegisteredKeys config keyOf ops) :
    KeysDistinct config ops ∧
      ∀ scope body surroundings, .request scope body surroundings ∈ ops →
        ∀ row ∈ config.clients.rows, KnownBy config row (generateApiKey (keyOf row.id)) scope := by
  refine ⟨registered.keysDistinct, fun scope body surroundings member row stored => ?_⟩
  constructor
  case authenticated =>
    intro active
    constructor
    · intro found
      obtain ⟨own, ownStored, -, same, header⟩ := registered.shown member found
      have sameId : row.id = own.id := congrArg AuthenticatedClient.id same
      rw [header, sameId]
    · intro header
      refine currentClient_eq_some_iff.mpr
        ⟨_, row.toClient, header, generateApiKey_ne_nil _, ?_, active, rfl⟩
      rw [← registered.stored row stored]
      exact Clients.getByHashedApiKey_of_mem stored
  case inactive =>
    intro disabled caller found same
    obtain ⟨own, ownStored, active, rfl, -⟩ := registered.shown member found
    rw [Clients.eq_of_id_eq ownStored stored same, disabled] at active
    cases active
  case charged =>
    rw [bucketKey_eq_iff, StoredClient.shownBy, registered.stored row stored]
    simp only [Bool.and_eq_true, decide_eq_true_eq]
    constructor
    · rintro ⟨-, same⟩
      exact registered.digest row stored _ ⟨scope, body, surroundings, member, .inr rfl⟩ same
    · intro same
      rw [same]
      exact ⟨generateApiKey_ne_nil _, rfl⟩

def Token.constant (byte : Fin 256) : Token where
  bytes := List.replicate 32 byte
  small := by
    intro other member
    rw [List.eq_of_mem_replicate member]
    exact byte.isLt
  length := List.length_replicate

def constantKey (id : UUID) : Token := .constant (Fin.ofNat 256 id.toNat)

def twoGeneratedKeys : Clients where
  rows := [⟨⟨7, .ofString "Acme", true⟩, generateApiKey (constantKey 7)⟩,
    ⟨⟨8, .ofString "Globex", false⟩, generateApiKey (constantKey 8)⟩]
  primaryKey := by decide
  hashedApiKey := by decide +kernel

def servingGeneratedKeys : AppConfig := { servingTwoClients with clients := twoGeneratedKeys }

theorem registeredKeys_twoGeneratedKeys (ops : List AppOp) :
    RegisteredKeys servingGeneratedKeys constantKey ops where
  stored := by
    intro row member
    rcases List.mem_cons.mp member with rfl | later
    · rfl
    · rw [List.mem_singleton.mp later]
      rfl
  digest _ _ _ _ same := same

def generatedKeyRequest : List AppOp :=
  [.request { sendWithKey with headers := [(apiKeyHeader, generateApiKey (constantKey 7))] }
    .notJson ⟨some 0, 1, .published, .ofString "r"⟩]

theorem generated_keys_tell_apart_twoGeneratedKeys :
    currentClient id twoGeneratedKeys
      { sendWithKey with headers := [(apiKeyHeader, generateApiKey (constantKey 7))] } =
        some ⟨7, .ofString "Acme"⟩ := by
  obtain ⟨-, known⟩ := generated_keys_tell_apart servingGeneratedKeys constantKey
    generatedKeyRequest (registeredKeys_twoGeneratedKeys _)
  have first := known _ _ _ List.mem_cons_self _ List.mem_cons_self
  exact (first.authenticated rfl).mpr rfl

end NotificationsEngine
