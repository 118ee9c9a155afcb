import NotificationsEngine.Http.Request
import NotificationsEngine.Python.Text
import NotificationsEngine.RateLimit.TokenBucket

/-!
# The rate-limit middleware

`app/api/middleware/rate_limit.py`.  The middleware decides by the path of
`request.url`, the router behind it by the path of the scope.  The two agree
for every Host header without `/`, `?` and `#`; with one of them a request for
`send_notification` passes without a token.
-/

namespace NotificationsEngine

open UrlSplit

/-- How a call of `bucket.consume` ends. -/
inductive LimiterOutcome where
  | result (result : TokenBucketResult)
  | redisError
  | raised

structure ErrorResponse where
  statusCode : Nat
  detail : String
  code : String
  headers : List (String × String) := []
  deriving DecidableEq

def limiterUnavailableResponse : ErrorResponse :=
  ⟨503, "Rate limiter unavailable", "service_unavailable", []⟩

def rateLimitedResponse (retryAfterSeconds : Int) : ErrorResponse :=
  ⟨429, "Rate limit exceeded", "rate_limited", [("Retry-After", toString retryAfterSeconds)]⟩

inductive BucketKind where
  | key
  | ip
  deriving DecidableEq, Repr

/-- What the middleware is given: `hash_api_key`, the settings, the bucket, `urlsplit`'s checks. -/
structure LimiterEnv where
  hashApiKey : Str → Str
  rateLimitPerMinute : Int
  consume : Str → Int → LimiterOutcome
  refused : Str → Bool

def bucketKey (hashApiKey : Str → Str) (scope : Scope) : Str × BucketKind :=
  let raw := strip ((scope.header (.ofString "x-api-key")).getD [])
  if raw ≠ [] then (.ofString "rl:key:" ++ hashApiKey raw, .key)
  else (.ofString "rl:ip:" ++ scope.client.getD (.ofString "unknown"), .ip)

inductive GateDecision where
  | callNext
  | respond (response : ErrorResponse)
  | raised

/-- What becomes of a request after the call of `bucket.consume`. -/
def LimiterOutcome.decision : LimiterOutcome → GateDecision
  | .redisError => .respond limiterUnavailableResponse
  | .raised => .raised
  | .result answer =>
      if answer.allowed then .callNext
      else .respond (rateLimitedResponse answer.retryAfterSeconds)

/-- The calls of `bucket.consume` on behalf of a request, and what becomes of it. -/
structure GateRun where
  consumed : List (Str × LimiterOutcome)
  decision : GateDecision

/-- `RateLimitMiddleware.dispatch`. -/
def rateLimit (env : LimiterEnv) (scope : Scope) : GateRun :=
  if scope.method ≠ post then ⟨[], .callNext⟩
  else
    match scope.urlPath env.refused with
    | none => ⟨[], .raised⟩
    | some path =>
        if path ≠ sendPath then ⟨[], .callNext⟩
        else
          let (redisKey, _) := bucketKey env.hashApiKey scope
          let outcome := env.consume redisKey env.rateLimitPerMinute
          ⟨[(redisKey, outcome)], outcome.decision⟩

/-- The request is sent on with a token of its bucket, taken by one allowed call. -/
def TokenTaken (env : LimiterEnv) (scope : Scope) : Prop :=
  ∃ result : TokenBucketResult, result.allowed = true ∧
    (rateLimit env scope).consumed = [((bucketKey env.hashApiKey scope).1, .result result)]

/-- If the application routes the request to `send_notification`, a token was taken for it. -/
def LimitedFirst (env : LimiterEnv) (scope : Scope) : Prop :=
  (rateLimit env scope).decision = .callNext → routesToSend scope = true → TokenTaken env scope

/-! ## The path that the middleware sees -/

/-- The Host header as `urlsplit` reads it. -/
def plainAuthority (authority : Str) : Str := authority.filter fun c => !isUnsafe c

/-- The checks of `urlsplit` refuse what it takes for the authority. -/
def AuthorityRefused (refused : Str → Bool) (authority : Str) : Prop :=
  (plainAuthority authority).takeWhile inAuthority ≠ [] ∧
    refused ((plainAuthority authority).takeWhile inAuthority) = true

/-- No delimiter, or the send path from the first delimiter on up to the next `?` or `#`. -/
def AuthorityHarmless (authority : Str) : Prop :=
  let rest := (plainAuthority authority).dropWhile inAuthority
  rest = [] ∨ (rest.takeWhile inPath = sendPath ∧ rest ≠ sendPath)

theorem sendPath_cons : ∃ tail, sendPath = code '/' :: tail := ⟨_, rfl⟩

theorem inPath_of_mem_sendPath : ∀ c ∈ sendPath, inPath c = true :=
  List.all_eq_true.mp (by decide)

/-- A final newline of the path is removed with those of the Host header. -/
theorem plain_of_routesToSend {scope : Scope} (routes : routesToSend scope = true)
    (authority : Str) :
    (authority ++ scope.path).filter (fun c => !isUnsafe c) =
      plainAuthority authority ++ sendPath := by
  have path : scope.path.filter (fun c => !isUnsafe c) = sendPath := by
    simp only [routesToSend, Bool.and_eq_true, Bool.or_eq_true, decide_eq_true_eq] at routes
    rcases routes.2 with same | same <;> rw [same] <;> rfl
  rw [List.filter_append, path, plainAuthority]

/-- Without a Host header and a server address the path is split off itself. -/
theorem urlPath_of_no_authority (refused : Str → Bool) {scope : Scope}
    (absent : scope.authority = none) (routes : routesToSend scope = true) :
    scope.urlPath refused = some sendPath := by
  simp only [routesToSend, Bool.and_eq_true, Bool.or_eq_true, decide_eq_true_eq] at routes
  rw [Scope.urlPath, Scope.urlText, absent]
  dsimp only
  rcases routes.2 with same | same <;> rw [same] <;> rfl

/-- What the middleware sees of a request that is routed to `send_notification`. -/
theorem urlPath_of_authority (refused : Str → Bool) {scope : Scope} {authority : Str}
    (present : scope.authority = some authority) (routes : routesToSend scope = true) :
    AuthorityRefused refused authority ∧ scope.urlPath refused = none ∨
      ¬ AuthorityRefused refused authority ∧ ∃ path, scope.urlPath refused = some path ∧
        (path = sendPath ↔ AuthorityHarmless authority) := by
  have split := urlsplit_hierarchical refused (isScheme_text scope.scheme)
    (authority ++ scope.path)
  obtain ⟨tail, slash⟩ := sendPath_cons
  have stops : inAuthority (code '/') = false := rfl
  have netloc : (plainAuthority authority ++ sendPath).takeWhile inAuthority =
      (plainAuthority authority).takeWhile inAuthority := by
    rw [slash, takeWhile_append_stop stops]
  have rest : (plainAuthority authority ++ sendPath).dropWhile inAuthority =
      (plainAuthority authority).dropWhile inAuthority ++ sendPath := by
    rw [slash, dropWhile_append_stop stops]
  rw [plain_of_routesToSend routes] at split
  dsimp only at split
  rw [netloc, rest] at split
  rw [Scope.urlPath, Scope.urlText, present]
  dsimp only
  by_cases refuses : AuthorityRefused refused authority
  · exact .inl ⟨refuses, split.trans (if_pos refuses)⟩
  · exact .inr ⟨refuses, _, split.trans (if_neg refuses),
      takeWhile_append_eq_iff inPath_of_mem_sendPath⟩

/-! ## When the limiter comes first -/

theorem LimiterOutcome.allowed_of_callNext {outcome : LimiterOutcome}
    (next : outcome.decision = .callNext) :
    ∃ answer : TokenBucketResult, answer.allowed = true ∧ outcome = .result answer := by
  cases outcome with
  | redisError => cases next
  | raised => cases next
  | result answer =>
      cases allowed : answer.allowed with
      | false => simp [decision, allowed] at next
      | true => exact ⟨answer, allowed, rfl⟩

/-- A POST whose split path is the send path asks the bucket once. -/
theorem rateLimit_of_sendPath {env : LimiterEnv} {scope : Scope} (isPost : scope.method = post)
    (path : scope.urlPath env.refused = some sendPath) :
    ∃ outcome, rateLimit env scope =
      ⟨[((bucketKey env.hashApiKey scope).1, outcome)], outcome.decision⟩ := by
  refine ⟨env.consume (bucketKey env.hashApiKey scope).1 env.rateLimitPerMinute, ?_⟩
  simp only [rateLimit, isPost, path, ne_eq, not_true_eq_false, if_false]

theorem tokenTaken_of_sendPath {env : LimiterEnv} {scope : Scope} (isPost : scope.method = post)
    (path : scope.urlPath env.refused = some sendPath)
    (next : (rateLimit env scope).decision = .callNext) : TokenTaken env scope := by
  obtain ⟨outcome, run⟩ := rateLimit_of_sendPath isPost path
  rw [run] at next
  obtain ⟨result, allowed, rfl⟩ := LimiterOutcome.allowed_of_callNext next
  exact ⟨result, allowed, by rw [run]⟩

/-- A request whose split path is another one passes without a token. -/
theorem rateLimit_of_other_path {env : LimiterEnv} {scope : Scope} {path : Str}
    (split : scope.urlPath env.refused = some path) (other : path ≠ sendPath) :
    rateLimit env scope = ⟨[], .callNext⟩ := by
  by_cases isPost : scope.method = post
  · simp [rateLimit, isPost, split, other]
  · simp [rateLimit, isPost]

/-- The Host header is refused by `urlsplit` or does not move the path. -/
def HostHarmless (refused : Str → Bool) (scope : Scope) : Prop :=
  ∀ authority, scope.authority = some authority →
    AuthorityRefused refused authority ∨ AuthorityHarmless authority

/--
For every request and every limiter: the limiter comes first exactly when the
request is not routed to `send_notification` or its Host header is harmless.
-/
theorem limitedFirst_iff_hostHarmless (env : LimiterEnv) (scope : Scope) :
    LimitedFirst env scope ↔ (routesToSend scope = true → HostHarmless env.refused scope) := by
  constructor
  · intro limited routes authority present
    rcases urlPath_of_authority env.refused present routes with
      ⟨refuses, -⟩ | ⟨-, path, split, same⟩
    · exact .inl refuses
    · refine .inr (same.mp ?_)
      by_contra other
      have passes := rateLimit_of_other_path split other
      obtain ⟨result, -, consumed⟩ := limited (by rw [passes]) routes
      rw [passes] at consumed
      cases consumed
  · intro harmless next routes
    have isPost : scope.method = post := by
      simp only [routesToSend, Bool.and_eq_true, decide_eq_true_eq] at routes
      exact routes.1
    cases present : scope.authority with
    | none =>
        exact tokenTaken_of_sendPath isPost
          (urlPath_of_no_authority env.refused present routes) next
    | some authority =>
        rcases urlPath_of_authority env.refused present routes with
          ⟨-, raises⟩ | ⟨accepted, path, split, same⟩
        · simp [rateLimit, isPost, raises] at next
        · have plain := (harmless routes authority present).resolve_left accepted
          rw [same.mpr plain] at split
          exact tokenTaken_of_sendPath isPost split next

/-- A bucket that is always empty, and `urlsplit`'s check of an authority without brackets. -/
def emptyBucket : LimiterEnv where
  hashApiKey := id
  rateLimitPerMinute := 10
  consume _ _ := .result ⟨false, 6⟩
  refused netloc := netloc.contains (code '[') || netloc.contains (code ']')

/-- A request for `send_notification` with this Host header. -/
def sendWithHost (host : Str) : Scope where
  method := post
  scheme := .http
  path := sendPath
  headers := [(.ofString "host", host)]
  server := some (.ofString "127.0.0.1", 8000)
  client := some (.ofString "192.0.2.1")

/-- With a slash in the Host header the request is routed and no token is asked for. -/
theorem limiter_bypassed_slashInHost :
    (rateLimit emptyBucket (sendWithHost (.ofString "example.com/x"))).consumed = [] ∧
      (rateLimit emptyBucket (sendWithHost (.ofString "example.com/x"))).decision = .callNext ∧
      routesToSend (sendWithHost (.ofString "example.com/x")) = true ∧
      ¬ LimitedFirst emptyBucket (sendWithHost (.ofString "example.com/x")) := by
  have split : (sendWithHost (.ofString "example.com/x")).urlPath emptyBucket.refused =
      some (.ofString "/x/api/v1/notifications/send") := by decide +kernel
  have passes : rateLimit emptyBucket (sendWithHost (.ofString "example.com/x")) =
      ⟨[], .callNext⟩ := rateLimit_of_other_path split (by decide)
  have routes : routesToSend (sendWithHost (.ofString "example.com/x")) = true := by decide
  refine ⟨by rw [passes], by rw [passes], routes, fun limited => ?_⟩
  obtain ⟨result, -, consumed⟩ := limited (by rw [passes]) routes
  rw [passes] at consumed
  cases consumed

end NotificationsEngine
