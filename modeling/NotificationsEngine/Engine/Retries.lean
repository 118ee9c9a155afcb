import NotificationsEngine.Engine.Calls
import NotificationsEngine.Engine.Serial

/-!
# The two attempt counters

Postgres counts attempts in `retry_count`, Celery in the message.  With one
delivery of an id at a time the message never runs ahead of the row, across
crashes, duplicates and lost commits, and so Celery accepts every retry that
`dispatch` asks for.
-/

namespace NotificationsEngine.Engine

open StepMachine

variable {policy : DeliveryRetryPolicy} {state next : Engine} {action : Action} {id : UUID}

def StoredCount (state : Engine) (id : UUID) (retries : Nat) : Prop :=
  ∃ row, state.table.getById id = some row ∧ retries ≤ row.retryCount

/-- No message of `id` has more retries than the stored row, and a scheduled retry has fewer. -/
structure RetriesCounted (policy : DeliveryRetryPolicy) (id : UUID) (state : Engine) : Prop where
  outstanding : ∀ message, state.Outstanding message → message.notificationId = id →
    state.StoredCount id message.retries
  scheduled : ∀ worker message result, state.Runs worker message (.returned result) →
    message.notificationId = id → result.action = .retry →
      state.StoredCount id (message.retries + 1) ∧
        (message.retries : Int) + 2 ≤ policy.maxAttempts

theorem StoredCount.step (serial : SerialSound policy id state) {retries : Nat}
    (counted : state.StoredCount id retries) (hstep : Step policy state action next) :
    next.StoredCount id retries := by
  obtain ⟨row, found, below⟩ := counted
  obtain ⟨row', found', changes⟩ := serial.row_step found hstep
  refine ⟨row', found', below.trans ?_⟩
  cases changes with
  | same => exact Nat.le_refl _
  | claimed => exact Nat.le_refl _
  | settled outcome columns result processing settles => exact settles_retryCount_le settles

theorem RetriesCounted.outstanding_step (counted : RetriesCounted policy id state)
    (serial : SerialSound policy id state) (calls : CallsSound state)
    (hstep : Step policy state action next) {message : Message}
    (outstanding : next.Outstanding message) (own : message.notificationId = id) :
    next.StoredCount id message.retries := by
  refine StoredCount.step serial ?_ hstep
  rcases Engine.outstanding_step hstep outstanding with
    old | ⟨call, clientId, request, row, -, at_enqueue, rfl⟩ |
      ⟨worker, held, result, -, runs, again, followUp⟩
  · exact counted.outstanding message old own
  · obtain ⟨stored, found⟩ := calls.stored_of_enqueue at_enqueue
    exact ⟨stored, own ▸ found, Nat.zero_le _⟩
  · obtain ⟨-, rfl⟩ := Message.retry_eq_some.mp followUp
    exact (counted.scheduled worker held result runs own again).1

/-- A RETRY is committed on a count of at least the message's retries, so one more fits. -/
theorem RetriesCounted.scheduled_step (counted : RetriesCounted policy id state)
    (serial : SerialSound policy id state) (hstep : Step policy state action next)
    {worker : Nat} {message : Message} {result : DispatchResult}
    (runs : next.Runs worker message (.returned result)) (own : message.notificationId = id)
    (again : result.action = .retry) :
    next.StoredCount id (message.retries + 1) ∧
      (message.retries : Int) + 2 ≤ policy.maxAttempts := by
  rcases returned_step serial.owned hstep runs with ⟨-, old⟩ | returns
  · obtain ⟨stored, budget⟩ := counted.scheduled worker message result old own again
    exact ⟨stored.step serial hstep, budget⟩
  · cases returns with
    | missing => cases again
    | skipped => cases again
    | settled change _ outcome held settles =>
        obtain ⟨row, found, below⟩ := counted.outstanding message (outstanding_of_held held) own
        have base : change.base = row :=
          Option.some.inj ((serial.exclusive.current worker _
            ⟨message, _, held, own, rfl⟩).symm.trans found)
        rw [← base] at below
        have installed := serial.exclusive.commit_installs held rfl own
        rw [← commit_table hstep held rfl] at installed
        generalize assigned : change.assigned = columns at settles
        cases settles with
        | sent => cases again
        | failed => cases again
        | retry error countdown transient budget scheduled =>
            refine ⟨⟨change.row, installed, ?_⟩, by omega⟩
            rw [Change.row, assigned]
            exact Nat.succ_le_succ below

theorem retriesCounted_step (counted : RetriesCounted policy id state)
    (serial : SerialSound policy id state) (calls : CallsSound state)
    (hstep : Step policy state action next) : RetriesCounted policy id next where
  outstanding _ outstanding own := counted.outstanding_step serial calls hstep outstanding own
  scheduled _ _ _ runs own again := counted.scheduled_step serial hstep runs own again

/-! ## Whole runs -/

structure CountersSound (policy : DeliveryRetryPolicy) (id : UUID) (state : Engine) : Prop where
  calls : CallsSound state
  serial : SerialSound policy id state
  counted : RetriesCounted policy id state

theorem countersSound_step (sound : CountersSound policy id state)
    (alone : LoadsAlone id state action next) (hstep : Step policy state action next) :
    CountersSound policy id next where
  calls := callsSound_step sound.calls hstep
  serial := serialSound_step sound.serial alone hstep
  counted := retriesCounted_step sound.counted sound.serial sound.calls hstep

/-- First messages start the count. -/
theorem countersSound_start {table : Table} {queued : List Message}
    (first : ∀ message ∈ queued, message.notificationId = id →
      message.retries = 0 ∧ ∃ row, table.getById id = some row) :
    CountersSound policy id (start table queued) where
  calls := callsSound_start table queued
  serial := serialSound_start policy id table queued
  counted :=
    { outstanding := by
        rintro message (waiting | ⟨_, _, ⟨⟩, _⟩) own
        obtain ⟨none_yet, row, found⟩ := first message waiting own
        exact ⟨row, found, none_yet ▸ Nat.zero_le _⟩
      scheduled := by rintro _ _ _ ⟨⟩ }

structure CountersAgree (policy : DeliveryRetryPolicy) (id : UUID) (state : Engine) : Prop where
  outstanding : ∀ message, state.Outstanding message → message.notificationId = id →
    ∃ row, state.table.getById id = some row ∧ message.retries ≤ row.retryCount
  accepted : ∀ worker message result, state.Runs worker message (.returned result) →
    message.notificationId = id → result.action = .retry →
      ∃ followUp, message.retry policy.maxRetries = some followUp

theorem RetriesCounted.countersAgree (counted : RetriesCounted policy id state) :
    CountersAgree policy id state where
  outstanding := counted.outstanding
  accepted worker message result runs own again :=
    ⟨_, Message.retry_of_budget (counted.scheduled worker message result runs own again).2⟩

/--
In every run with one delivery of `id` at a time, with duplicates, crashes and
lost commits, an outstanding message has at most as many retries as the row
has counted attempts, and no retry that `dispatch` asks for is refused.
-/
theorem attempt_counters_agree (policy : DeliveryRetryPolicy) (table : Table)
    (queued : List Message) (id : UUID) (row : Notification)
    (found : table.getById id = some row)
    (first : ∀ message ∈ queued, message.notificationId = id → message.retries = 0)
    (actions : List Action)
    (alone : Along (step policy) (DeliversAlone id) (start table queued) actions)
    (state : Engine) (reached : run (step policy) (start table queued) actions = some state) :
    CountersAgree policy id state := by
  have sound := run_guarded_invariant (I := CountersSound policy id)
    (fun _ _ _ sound guard (hstep : step policy _ _ = some _) =>
      countersSound_step sound guard (step_sound hstep))
    (countersSound_start fun message waiting own => ⟨first message waiting own, row, found⟩)
    (loadsAlone_of_deliversAlone alone) reached
  exact sound.counted.countersAgree

/-- A delivery whose attempt fails and whose worker has just committed PENDING again. -/
def failedAttempt : List Action :=
  [.deliver 0 ⟨1, 0⟩, .load 0, .commit 0 true, .send 0 (.raised ⟨false, []⟩) 0, .commit 0 true]

theorem attempt_counters_agree_failedAttempt :
    ∃ state, run (step .default) (start (.single (create 7 (.welcome none) 1)) [⟨1, 0⟩])
        failedAttempt = some state ∧ CountersAgree .default 1 state :=
  ⟨_, rfl, attempt_counters_agree .default (.single (create 7 (.welcome none) 1)) [⟨1, 0⟩] 1 _ rfl
    (by simp) failedAttempt
    (deliversAlone_of_worker 0 (by simp [failedAttempt])) _ rfl⟩

end NotificationsEngine.Engine
