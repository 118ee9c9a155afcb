import NotificationsEngine.Engine.Serial
import NotificationsEngine.Engine.Transitions

/-!
# Attempts, sends and the stored count

While an id is loaded by one worker at a time and nobody crashes, the provider
calls made for it are exactly those that the stored count, or the count about
to be committed, has accounted for.  Overlapping dispatches break each part.
-/

namespace NotificationsEngine

open StepMachine

/-- The delivery columns account for every provider call for `id`. -/
structure Balanced (policy : DeliveryRetryPolicy) (log : List Event) (id : UUID)
    (columns : DeliveryColumns) : Prop where
  raised : raisedSends id log = columns.retryCount
  returned : returnedSends id log = if columns.status = .sent then 1 else 0
  budget : (columns.retryCount : Int) + (if columns.status = .failed then 0 else 1) ≤
    policy.maxAttempts

namespace Balanced

variable {policy : DeliveryRetryPolicy} {log log' : List Event} {id : UUID}
  {columns assigned : DeliveryColumns}

theorem of_counts (balanced : Balanced policy log id columns)
    (raised : raisedSends id log' = raisedSends id log)
    (returned : returnedSends id log' = returnedSends id log) :
    Balanced policy log' id columns where
  raised := raised.trans balanced.raised
  returned := returned.trans balanced.returned
  budget := balanced.budget

/-- Claiming a PENDING row changes no count. -/
theorem claim (balanced : Balanced policy log id columns) (pending : columns.status = .pending) :
    Balanced policy log id { columns with status := .processing } where
  raised := balanced.raised
  returned := by simpa [pending] using balanced.returned
  budget := by simpa [pending] using balanced.budget

/-- One more provider call, and the columns that the worker assigns after it. -/
theorem settles {row : Notification} {outcome : ProviderOutcome} {result : DispatchResult}
    (balanced : Balanced policy log id row.toDeliveryColumns)
    (processing : row.status = .processing)
    (settles : Settles policy row outcome assigned result) (message : OutboundMessage) :
    Balanced policy (.provider id message outcome :: log) id assigned := by
  have raised := balanced.raised
  have returned := balanced.returned
  have budget := balanced.budget
  simp only [processing, reduceCtorEq, if_false] at returned budget
  cases settles with
  | sent now =>
      refine ⟨?_, ?_, ?_⟩
      · simpa [raisedSends_cons, Event.isRaised, countSuccess] using raised
      · simp [returnedSends_cons, Event.isReturned, countSuccess, returned]
      · simpa [countSuccess] using budget
  | retry error countdown transient below scheduled =>
      refine ⟨?_, ?_, ?_⟩
      · simp [raisedSends_cons, Event.isRaised, countFailure, raised]
      · simpa [returnedSends_cons, Event.isReturned] using returned
      · simp only [countFailure, reduceCtorEq, if_false]
        omega
  | failed error exhausted =>
      refine ⟨?_, ?_, ?_⟩
      · simp [raisedSends_cons, Event.isRaised, countFailure, raised]
      · simpa [returnedSends_cons, Event.isReturned] using returned
      · simp only [countFailure, if_true]
        omega

theorem returned_le (balanced : Balanced policy log id columns) : returnedSends id log ≤ 1 := by
  rw [balanced.returned]
  split <;> omega

/-- The calls of the provider stay within the budget. -/
theorem sends_le (balanced : Balanced policy log id columns) :
    (sends id log : Int) ≤ policy.maxAttempts := by
  have budget := balanced.budget
  rw [sends_eq_add, balanced.raised, balanced.returned]
  cases status : columns.status <;> simp [status] at budget ⊢ <;> omega

end Balanced

namespace Engine

variable {policy : DeliveryRetryPolicy} {state next : Engine} {action : Action} {id : UUID}

/-- The worker has the outcome of its provider call and has not committed it yet. -/
def Settling (state : Engine) (id : UUID) (worker : Nat) (change : Change) : Prop :=
  ∃ message result, state.Runs worker message (.settle change result) ∧
    message.notificationId = id

theorem Settling.engaged {worker : Nat} {change : Change}
    (settling : state.Settling id worker change) : state.Engaged id worker change.base := by
  obtain ⟨message, result, runs, own⟩ := settling
  exact ⟨message, _, runs, own, rfl⟩

/-- The stored columns, or those of the outcome about to be committed, are balanced. -/
structure Ledger (policy : DeliveryRetryPolicy) (id : UUID) (state : Engine) : Prop where
  stored : ∃ row, state.table.getById id = some row ∧
    ((∀ worker change, ¬ state.Settling id worker change) →
      Balanced policy state.log id row.toDeliveryColumns)
  settling : ∀ worker change, state.Settling id worker change →
    Balanced policy state.log id change.assigned

def Undisturbed (_ : Engine) (action : Action) (_ : Engine) : Prop :=
  match action with
  | .crash _ => False
  | .commit _ false => False
  | _ => True

/-- The two kinds of step that the account of `id` is about. -/
inductive Touches (state : Engine) (id : UUID) : Action → Prop where
  | commit (worker : Nat) (message : Message) (phase after : DispatchPhase) (change : Change)
      (held : state.Runs worker message phase)
      (pending : phase.pendingCommit = some (change, after)) (own : message.notificationId = id) :
      Touches state id (.commit worker true)
  | send (worker : Nat) (outcome : ProviderOutcome) (now : Instant) (message : Message)
      (row : Notification) (held : state.Runs worker message (.send row))
      (own : message.notificationId = id) :
      Touches state id (.send worker outcome now)

/-- A call of the provider for `id` is a step that touches its account. -/
theorem counts_untouched (untouched : ¬ Touches state id action)
    (hstep : Step policy state action next) :
    raisedSends id next.log = raisedSends id state.log ∧
      returnedSends id next.log = returnedSends id state.log := by
  rcases log_step hstep with same | ⟨event, same, logs⟩
  · rw [same]
    exact ⟨rfl, rfl⟩
  · rw [same, raisedSends_cons, returnedSends_cons]
    cases logs with
    | send worker outcome now message row held =>
        have other : message.notificationId ≠ id :=
          fun own => untouched (.send _ _ _ _ _ held own)
        cases outcome <;> simp [Event.isRaised, Event.isReturned, other]
    | _ => exact ⟨rfl, rfl⟩

theorem settling_untouched (untouched : ¬ Touches state id action)
    (hstep : Step policy state action next) {worker : Nat} {change : Change}
    (settling : next.Settling id worker change) : state.Settling id worker change := by
  obtain ⟨message, result, runs, own⟩ := settling
  rcases settle_step hstep runs with old | ⟨outcome, now, row, rfl, held⟩
  · exact ⟨message, result, old, own⟩
  · exact absurd (.send _ _ _ _ _ held own) untouched

/-- Nothing but its own commit ends a settling without a crash. -/
theorem settling_stays (undisturbed : Undisturbed state action next)
    (untouched : ¬ Touches state id action) (hstep : Step policy state action next)
    {worker : Nat} {change : Change} (settling : state.Settling id worker change) :
    next.Settling id worker change := by
  obtain ⟨message, result, runs, own⟩ := settling
  have idle : action.worker ≠ some worker := by
    intro acts
    cases hstep with
    | deliver _ _ idle => cases acts; cases idle.symm.trans runs
    | load _ _ held => cases acts; cases held.symm.trans runs
    | commit _ _ _ _ _ held pending =>
        cases acts
        cases held.symm.trans runs
        exact untouched (.commit _ _ _ _ _ runs pending own)
    | commitRaised => exact undisturbed
    | send _ _ _ _ _ held => cases acts; cases held.symm.trans runs
    | apply _ _ _ _ held => cases acts; cases held.symm.trans runs
    | raise _ _ _ _ held => cases acts; cases held.symm.trans runs
    | acknowledge _ _ held => cases acts; cases held.symm.trans runs
    | crash => exact undisturbed
    | _ => cases acts
  exact ⟨message, result, (workers_idle hstep idle).trans runs, own⟩

theorem Ledger.untouched (ledger : Ledger policy id state) (exclusive : Exclusive id state)
    (owned : WorkersOwned policy state) (undisturbed : Undisturbed state action next)
    (untouched : ¬ Touches state id action) (hstep : Step policy state action next) :
    Ledger policy id next := by
  obtain ⟨row, found, settled⟩ := ledger.stored
  obtain ⟨raised, returned⟩ := counts_untouched untouched hstep
  have found' : next.table.getById id = some row := by
    rcases exclusive.stored_step owned found hstep with
      same | ⟨worker, message, phase, change, after, rfl, held, pending, own, -⟩
    · exact same
    · exact absurd (.commit _ _ _ _ _ held pending own) untouched
  refine ⟨⟨row, found', fun nobody => ?_⟩, fun worker change settling => ?_⟩
  · refine (settled fun worker change settling => ?_).of_counts raised returned
    exact nobody worker change (settling_stays undisturbed untouched hstep settling)
  · exact (ledger.settling worker change (settling_untouched untouched hstep settling)).of_counts
      raised returned

/-- The engaged worker is the only one that can be settling. -/
theorem Exclusive.not_settling (exclusive : Exclusive id state) {worker : Nat}
    {message : Message} {phase : DispatchPhase} {row : Notification}
    (runs : state.Runs worker message phase) (own : message.notificationId = id)
    (snapshot : phase.snapshot = some row) (other : ∀ change result, phase ≠ .settle change result)
    (actor : Nat) (change : Change) : ¬ state.Settling id actor change := by
  intro settling
  obtain rfl := exclusive.unique _ _ _ _ ⟨message, phase, runs, own, snapshot⟩ settling.engaged
  obtain ⟨message', result, runs', -⟩ := settling
  cases runs.symm.trans runs'
  exact other _ _ rfl

theorem Ledger.commit (ledger : Ledger policy id state) (exclusive : Exclusive id state)
    (owned : WorkersOwned policy state) {worker : Nat} {message : Message}
    {phase after : DispatchPhase} {change : Change} (held : state.Runs worker message phase)
    (pending : phase.pendingCommit = some (change, after)) (own : message.notificationId = id) :
    Ledger policy id
      ((state.setTable (state.table.write change)).setPhase worker message after) := by
  obtain ⟨row, found, settled⟩ := ledger.stored
  have engaged : state.Engaged id worker change.base :=
    ⟨message, phase, held, own, snapshot_of_pendingCommit pending⟩
  have current : change.base = row :=
    Option.some.inj ((exclusive.current _ _ engaged).symm.trans found)
  have found' := exclusive.commit_installs held pending own
  obtain ⟨-, steps⟩ := (owned _ _ _ held).pendingCommit pending
  -- after the commit nobody settles: the engaged worker has moved on
  have nobody : ∀ other change', ¬ Settling
      ((state.setTable (state.table.write change)).setPhase worker message after) id other
        change' := by
    rintro other change' ⟨message', result, runs, own'⟩
    rcases update_eq_some_iff.mp runs with ⟨rfl, same⟩ | ⟨different, old⟩
    · rcases steps with ⟨-, rfl, -⟩ | ⟨_, _, -, rfl, -⟩ <;> cases same
    · exact different
        (exclusive.unique _ _ _ _ (Settling.engaged ⟨message', result, old, own'⟩) engaged)
  refine ⟨⟨change.row, found', fun _ => ?_⟩, fun other change' settling =>
    absurd settling (nobody other change')⟩
  rcases steps with ⟨rfl, rfl, status, assigned⟩ | ⟨result, outcome, rfl, rfl, -⟩
  · have balanced := settled (exclusive.not_settling held own rfl (by rintro _ _ ⟨⟩))
    rw [← current] at balanced
    rw [Change.row, assigned]
    exact balanced.claim status
  · exact ledger.settling worker change ⟨message, result, held, own⟩

theorem Ledger.send (ledger : Ledger policy id state) (exclusive : Exclusive id state)
    (owned : WorkersOwned policy state) {worker : Nat} {message : Message}
    {row : Notification} (held : state.Runs worker message (.send row))
    (own : message.notificationId = id) (outcome : ProviderOutcome) (now : Instant) :
    Ledger policy id
      ((state.setPhase worker message (.ofSend (afterSend policy row now outcome))).record
        (.provider message.notificationId row.outbound outcome)) := by
  obtain ⟨stored, found, settled⟩ := ledger.stored
  obtain ⟨change, result, same, base, -, processing, settles⟩ :=
    (owned _ _ _ held).afterSend now outcome
  have current : row = stored :=
    Option.some.inj ((exclusive.current _ _ ⟨message, _, held, own, rfl⟩).symm.trans found)
  have nobody := exclusive.not_settling held own rfl (by rintro _ _ ⟨⟩)
  have balanced := settled nobody
  rw [← current] at balanced
  rw [same, own]
  refine ⟨⟨stored, found, fun none => ?_⟩, ?_⟩
  · exact absurd ⟨message, result, Function.update_self _ _ _, own⟩ (none worker change)
  · rintro other change' ⟨message', result', runs, own'⟩
    rcases update_eq_some_iff.mp runs with ⟨rfl, moved⟩ | ⟨-, old⟩
    · cases moved
      exact balanced.settles processing settles _
    · exact absurd ⟨message', result', old, own'⟩ (nobody other change')

/-- The account of `id` over one step. -/
theorem ledger_step (ledger : Ledger policy id state) (exclusive : Exclusive id state)
    (owned : WorkersOwned policy state) (undisturbed : Undisturbed state action next)
    (hstep : Step policy state action next) : Ledger policy id next := by
  by_cases touches : Touches state id action
  · cases touches with
    | commit worker message phase after change held pending own =>
        cases hstep with
        | commit _ _ _ _ _ held' pending' =>
            cases held.symm.trans held'
            cases pending.symm.trans pending'
            exact ledger.commit exclusive owned held pending own
    | send worker outcome now message row held own =>
        cases hstep with
        | send _ _ _ _ _ held' =>
            cases held.symm.trans held'
            exact ledger.send exclusive owned held own outcome now
  · exact ledger.untouched exclusive owned undisturbed touches hstep

/-! ## Whole runs -/

/-- What the stored row and the budget say about the provider calls for `id`. -/
structure AttemptsAccounted (policy : DeliveryRetryPolicy) (id : UUID) (state : Engine) :
    Prop where
  returnedOnce : returnedSends id state.log ≤ 1
  budget : (sends id state.log : Int) ≤ policy.maxAttempts
  counted : (∀ worker row, ¬ state.Engaged id worker row) →
    ∀ row, state.table.getById id = some row → row.retryCount = raisedSends id state.log

theorem Ledger.attemptsAccounted (ledger : Ledger policy id state) :
    AttemptsAccounted policy id state := by
  obtain ⟨row, found, settled⟩ := ledger.stored
  obtain ⟨columns, balanced⟩ : ∃ columns, Balanced policy state.log id columns := by
    by_cases settles : ∃ worker change, state.Settling id worker change
    · obtain ⟨worker, change, settling⟩ := settles
      exact ⟨_, ledger.settling worker change settling⟩
    · refine ⟨_, settled fun worker change settling => settles ⟨worker, change, settling⟩⟩
  refine ⟨balanced.returned_le, balanced.sends_le, fun idle row' found' => ?_⟩
  cases found.symm.trans found'
  exact (settled fun worker change settling => idle worker _ settling.engaged).raised.symm

/-- A fresh row owes nothing, and its account stays balanced in every undisturbed run. -/
theorem ledger_run {table : Table} {queued : List Message} {clientId : UUID}
    {request : SendNotificationRequest} {actions : List Action} {final : Engine}
    (created : table.getById id = some (create clientId request id))
    (alone : Along (step policy) (LoadsAlone id) (start table queued) actions)
    (undisturbed : Along (step policy) Undisturbed (start table queued) actions)
    (reached : run (step policy) (start table queued) actions = some final) :
    Ledger policy id final := by
  have initial : Ledger policy id (start table queued) :=
    { stored := ⟨_, created, fun _ => ⟨rfl, rfl, by simpa [create] using policy.maxAttempts_pos⟩⟩
      settling := by rintro _ _ ⟨_, _, ⟨⟩, _⟩ }
  have invariant := run_guarded_invariant
    (I := fun state => SerialSound policy id state ∧ Ledger policy id state)
    (fun _ _ _ sound guard hstep =>
      ⟨serialSound_step sound.1 guard.1 (step_sound hstep),
        ledger_step sound.2 sound.1.exclusive sound.1.owned guard.2 (step_sound hstep)⟩)
    ⟨serialSound_start policy id table queued, initial⟩ (alone.and undisturbed) reached
  exact invariant.2

/--
For a fresh row, any policy and any number of deliveries, in every run without
a crash in which the row is loaded only while no other dispatch of it is under
way: the provider returns at most once and is called at most `max_attempts`
times, and between dispatches the stored count is that of the failed calls.
-/
theorem attempts_accounted_of_loadsAlone (policy : DeliveryRetryPolicy) (table : Table)
    (queued : List Message) (id clientId : UUID) (request : SendNotificationRequest)
    (created : table.getById id = some (create clientId request id)) (actions : List Action)
    (alone : Along (step policy) (LoadsAlone id) (start table queued) actions)
    (undisturbed : Along (step policy) Undisturbed (start table queued) actions)
    (state : Engine) (reached : run (step policy) (start table queued) actions = some state) :
    AttemptsAccounted policy id state :=
  (ledger_run created alone undisturbed reached).attemptsAccounted

/-- The second worker holds a copy of the message, but loads the row when the first is done. -/
theorem attempts_accounted_twoDispatches :
    ∃ state, run (step .default) twoDeliveries twoDispatches = some state ∧
      AttemptsAccounted .default 1 state ∧ sends 1 state.log = 2 ∧
      raisedSends 1 state.log = 1 := by
  refine ⟨_, rfl, attempts_accounted_of_loadsAlone .default
    (.single (create 7 (.welcome none) 1)) [⟨1, 0⟩, ⟨1, 0⟩] 1 7 (.welcome none) rfl twoDispatches
    ?_ (.of_labels (by simp [twoDispatches, Undisturbed]) _) _ rfl, rfl, rfl⟩
  rintro _ ⟨⟩
  refine ⟨by rintro _ _ ⟨⟩, ?_⟩
  rintro _ ⟨⟩
  constructor
  · rintro _ _ ⟨⟩ - - other row ⟨message, phase, runs, -, snapshot⟩
    cases other with
    | zero => cases runs; cases snapshot
    | succ => cases runs
  rintro _ ⟨⟩
  refine ⟨by rintro _ _ ⟨⟩, ?_⟩
  rintro _ ⟨⟩
  refine ⟨by rintro _ _ ⟨⟩, ?_⟩
  rintro _ ⟨⟩
  refine ⟨by rintro _ _ ⟨⟩, ?_⟩
  rintro _ ⟨⟩
  refine ⟨by rintro _ _ ⟨⟩, ?_⟩
  rintro _ ⟨⟩
  constructor
  · rintro _ _ ⟨⟩ - - other row ⟨message, phase, runs, -, snapshot⟩
    match other with
    | 0 => cases runs; cases snapshot
    | 1 => cases runs; cases snapshot
    | _ + 2 => cases runs
  exact .of_labels (by simp [LoadsAlone]) _

/-- Two workers load the PENDING row before either commits. -/
def overlappingDispatches (outcome : ProviderOutcome) : List Action :=
  [.deliver 0 ⟨1, 0⟩, .deliver 1 ⟨1, 0⟩, .load 0, .load 1, .commit 0 true, .commit 1 true,
    .send 0 outcome 0, .send 1 outcome 0, .commit 0 true, .commit 1 true]

def singleAttempt : DeliveryRetryPolicy :=
  ⟨1, [5], Int.one_pos, by decide, by decide⟩

/-- Without the condition: two normal returns, two calls on a budget of one, a lost failure. -/
theorem attempts_unaccounted_overlapping :
    (∃ state, run (step .default) twoDeliveries (overlappingDispatches .returned) = some state ∧
      returnedSends 1 state.log = 2) ∧
    ∃ state row, run (step singleAttempt) twoDeliveries
        (overlappingDispatches (.raised ⟨false, []⟩)) = some state ∧
      ¬ (sends 1 state.log : Int) ≤ singleAttempt.maxAttempts ∧
      state.table.getById 1 = some row ∧ row.retryCount = 1 ∧ raisedSends 1 state.log = 2 :=
  ⟨⟨_, rfl, rfl⟩, _, _, rfl, by decide, rfl, rfl, rfl⟩

end Engine

end NotificationsEngine
