import NotificationsEngine.Library.StepMachine
import NotificationsEngine.Library.ColumnWrite
import NotificationsEngine.Library.EventLog
import NotificationsEngine.Library.KeyedList
import NotificationsEngine.Library.Observation
import NotificationsEngine.Library.Noninterference
import NotificationsEngine.Library.CappedRefill
import NotificationsEngine.Library.UrlSplit
import NotificationsEngine.Library.Tokens
import NotificationsEngine.Library.Decimal
import NotificationsEngine.Library.Positional
import NotificationsEngine.Library.Base64
import NotificationsEngine.Domain.Status
import NotificationsEngine.Domain.RetryPolicy
import NotificationsEngine.Store.Notification
import NotificationsEngine.Python.Text
import NotificationsEngine.Python.Uuid
import NotificationsEngine.Store.Table
import NotificationsEngine.Store.Columns
import NotificationsEngine.Services.Accept
import NotificationsEngine.Services.AcceptSequence
import NotificationsEngine.Services.AcceptFaults
import NotificationsEngine.Services.Dispatch
import NotificationsEngine.Services.DispatchSequence
import NotificationsEngine.Services.Queries
import NotificationsEngine.Services.Operations
import NotificationsEngine.Services.Isolation
import NotificationsEngine.Services.MetricsLedger
import NotificationsEngine.Workers.Delivery
import NotificationsEngine.Workers.Drain
import NotificationsEngine.Workers.Wire
import NotificationsEngine.Providers.Simulated
import NotificationsEngine.Workers.Fate
import NotificationsEngine.Engine.Step
import NotificationsEngine.Engine.Effects
import NotificationsEngine.Engine.Room
import NotificationsEngine.Engine.Ownership
import NotificationsEngine.Engine.Transitions
import NotificationsEngine.Engine.History
import NotificationsEngine.Engine.Calls
import NotificationsEngine.Engine.Idempotency
import NotificationsEngine.Engine.Linear
import NotificationsEngine.Engine.Provenance
import NotificationsEngine.Engine.Fate
import NotificationsEngine.Engine.Serial
import NotificationsEngine.Engine.Ledger
import NotificationsEngine.Engine.Retries
import NotificationsEngine.Engine.DeadLetters
import NotificationsEngine.Engine.StoredRow
import NotificationsEngine.Engine.Carriers
import NotificationsEngine.Engine.Completion
import NotificationsEngine.Engine.Uninterrupted
import NotificationsEngine.Workers.Isolation
import NotificationsEngine.Workers.Focus
import NotificationsEngine.Workers.Backoff
import NotificationsEngine.RateLimit.TokenBucket
import NotificationsEngine.RateLimit.WindowLaw
import NotificationsEngine.RateLimit.RetryAfter
import NotificationsEngine.RateLimit.Probes
import NotificationsEngine.RateLimit.Expiry
import NotificationsEngine.RateLimit.Calls
import NotificationsEngine.RateLimit.Concurrent
import NotificationsEngine.Http.Request
import NotificationsEngine.Http.RateLimitMiddleware
import NotificationsEngine.Http.Validation
import NotificationsEngine.Http.SendNotification
import NotificationsEngine.Http.Storage
import NotificationsEngine.Http.Authentication
import NotificationsEngine.Http.Application
import NotificationsEngine.Http.Handling
import NotificationsEngine.Http.Refinement
import NotificationsEngine.Http.Polling
import NotificationsEngine.Http.TenantView
import NotificationsEngine.Http.ApiKeys
import NotificationsEngine.Http.Admission
import NotificationsEngine.Http.Settlement
import NotificationsEngine.Config.Settings
import NotificationsEngine.Logging.Formatters
import NotificationsEngine.Logging.Calls
import NotificationsEngine.Logging.Replay
import NotificationsEngine.Logging.Deliveries
import NotificationsEngine.Logging.AuditTrail
