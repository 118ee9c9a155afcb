import NotificationsEngine.Library.UrlSplit
import NotificationsEngine.Store.Notification

/-!
# Requests and routes

What Starlette makes of a request: `request.method`, `request.headers`,
`request.url` and the route of `send_notification`.  Routing reads the path of
the scope, while the path of `request.url` is split off a text that starts with
the Host header.
-/

namespace NotificationsEngine

open UrlSplit

inductive Scheme where
  | http
  | https
  deriving DecidableEq, Repr

def Scheme.text : Scheme → Str
  | .http => .ofString "http"
  | .https => .ofString "https"

def Scheme.defaultPort : Scheme → Nat
  | .http => 80
  | .https => 443

/-- The ASGI scope of a request; header names are lower case, values are decoded. -/
structure Scope where
  method : Str
  scheme : Scheme
  path : Str
  headers : List (Str × Str)
  server : Option (Str × Nat)
  client : Option Str

namespace Scope

/-- `request.headers.get(name)`: the first header of this name. -/
def header (scope : Scope) (name : Str) : Option Str :=
  (scope.headers.find? fun header => header.1 = name).map (·.2)

/-- What stands between the two slashes and the path: the Host header, or the server. -/
def authority (scope : Scope) : Option Str :=
  match scope.header (.ofString "host"), scope.server with
  | some host, _ => some host
  | none, none => none
  | none, some (host, port) =>
      if port = scope.scheme.defaultPort then some host
      else some (host ++ .ofString ":" ++ .ofString (toString port))

/-- The text of `request.url`, up to the query string. -/
def urlText (scope : Scope) : Str :=
  match scope.authority with
  | some authority => hierarchical scope.scheme.text (authority ++ scope.path)
  | none => scope.path

/-- `request.url.path`; `none` where splitting the text raises `ValueError`. -/
def urlPath (refused : Str → Bool) (scope : Scope) : Option Str :=
  (urlsplit refused scope.urlText).map (·.path)

end Scope

/-- `_SEND_PATH`, and the registered path of `send_notification`. -/
def sendPath : Str := .ofString "/api/v1/notifications/send"

def post : Str := .ofString "POST"

/-- The route matches its path, also before a final newline, which `$` allows. -/
def routesToSend (scope : Scope) : Bool :=
  scope.method = post && (scope.path = sendPath || scope.path = sendPath ++ [code '\n'])

theorem isScheme_text (scheme : Scheme) : IsScheme scheme.text := by
  have chars : scheme.text.all isSchemeChar = true := by cases scheme <;> decide
  exact ⟨by cases scheme <;> decide, List.all_eq_true.mp chars⟩

end NotificationsEngine
