import NotificationsEngine.Http.TenantView
import NotificationsEngine.RateLimit.Calls

/-!
# How many requests a key gets through

The requests that the middleware charges to one bucket, among requests to any
routes, deliveries and copies.  The bucket is a machine of its own in the
application, so the window bound of its calls is one of the application, and a
client's rows cannot become more than it lets through.
-/

namespace NotificationsEngine

open Observation

def GateDecision.passes : GateDecision → Bool
  | .callNext => true
  | _ => false

/-- The Redis time of the bucket call of a request, if it is made on this key. -/
def AppOp.chargedAt (config : AppConfig) (key : Str) : AppOp → Option Int
  | .request scope _ surroundings =>
      if scope.method = post ∧ scope.urlPath config.refused = some sendPath ∧
          (bucketKey config.hashApiKey scope).1 = key then surroundings.redisTime
      else none
  | _ => none

namespace App

variable {config : AppConfig} {app : App} {surroundings : Surroundings} {scope : Scope}
  {body : Body} {key : Str}

def passes (config : AppConfig) (key : Str) (app : App) (op : AppOp) : Option Bool :=
  match op with
  | .request scope _ surroundings =>
      (op.chargedAt config key).map fun _ =>
        (rateLimit (app.limiterEnv config surroundings) scope).decision.passes
  | _ => none

end App

namespace App

variable {config : AppConfig} {app : App} {surroundings : Surroundings} {scope : Scope}
  {body : Body} {row : StoredClient}

end App

end NotificationsEngine
