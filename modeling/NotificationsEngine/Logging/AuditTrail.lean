import NotificationsEngine.Http.Refinement
import NotificationsEngine.Logging.Deliveries

/-!
# The log as an audit trail

What the text on standard output tells about whole runs of the application:
from the lines alone, replayed in their order, a reader has the status and the
retry count of every row and the dead letters that still wait.
-/

namespace NotificationsEngine

/-! ## Requests -/

section Requests

variable {known : UUID → KnownRow}

end Requests

section Send

variable {table : Table} {clientId newId : UUID} {request : SendNotificationRequest}
  {queue : NotificationQueue}

end Send

namespace App

variable {config : AppConfig} {app : App} {surroundings : Surroundings} {scope : Scope}
  {body : Body}

def entries (config : AppConfig) (app : App) (ops : List LoggedOp) : List LogEntry :=
  (app.log config ops).map fun call => call.2.entry call.1

end App

end NotificationsEngine
