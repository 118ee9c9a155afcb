import NotificationsEngine.Engine.Retries

/-!
# Enqueued rows and their messages

With one delivery of an id at a time, an enqueued row that is not terminal has
a carrier: a waiting message, or a delivery that will still commit or publish
for it.  The chain breaks only where a commit or the retry publication raises,
since the message of a failed task is acknowledged.
-/

namespace NotificationsEngine

/-- A delivery at this point will still commit or publish for its id. -/
inductive DispatchPhase.Carries : DispatchPhase → Prop where
  | load : Carries .load
  | claim (change : Change) : Carries (.claim change)
  | send (row : Notification) : Carries (.send row)
  | settle (change : Change) (result : DispatchResult) : Carries (.settle change result)
  | retry (result : DispatchResult) (again : result.action = .retry) : Carries (.returned result)

namespace Engine

open StepMachine

variable {policy : DeliveryRetryPolicy} {state next : Engine} {action : Action} {id : UUID}

/-- A waiting message of `id`, or a delivery of it that carries on. -/
inductive Carrier (state : Engine) (id : UUID) : Prop where
  | waiting (message : Message) (member : message ∈ state.queued)
      (own : message.notificationId = id)
  | delivery (worker : Nat) (message : Message) (phase : DispatchPhase)
      (runs : state.Runs worker message phase) (own : message.notificationId = id)
      (carries : phase.Carries)

/-- The row is terminal, or a fault was logged for it, or it has a carrier. -/
inductive Carried (state : Engine) (id : UUID) : Prop where
  | terminal (row : Notification) (found : state.table.getById id = some row)
      (final : row.status.isTerminal = true)
  | faulted (logged : .faulted id ∈ state.log)
  | carrier (carrier : state.Carrier id)

theorem Carrier.outstanding (carrier : state.Carrier id) :
    ∃ message, state.Outstanding message ∧ message.notificationId = id := by
  cases carrier with
  | waiting message member own => exact ⟨message, .inl member, own⟩
  | delivery worker message phase runs own => exact ⟨message, outstanding_of_held runs, own⟩

/-- A waiting message stays in the queue or is handed to a worker. -/
theorem waiting_step (hstep : Step policy state action next) {message : Message}
    (member : message ∈ state.queued) (own : message.notificationId = id) : next.Carrier id := by
  have kept : message ∈ next.queued → next.Carrier id := fun member => .waiting _ member own
  cases hstep with
  | enqueue => exact kept (List.mem_cons_of_mem _ member)
  | duplicate => exact kept (List.mem_cons_of_mem _ member)
  | redeliver => exact kept (List.mem_cons_of_mem _ member)
  | crash => exact kept (List.mem_cons_of_mem _ member)
  | deliver worker taken idle waiting =>
      by_cases same : message = taken
      · subst same
        exact .delivery worker message .load (Function.update_self _ _ _) own .load
      · exact kept ((List.mem_erase_of_ne same).mpr member)
  | apply worker published held result =>
      generalize applyDeliveryResult result held policy.maxRetries = effect at kept ⊢
      cases effect <;> cases published
      case retry.true => exact kept (List.mem_cons_of_mem _ member)
      all_goals exact kept member
  | _ => exact kept member

/-- The outcome that is not retried is stored as a terminal status. -/
theorem settles_final {row : Notification} {outcome : ProviderOutcome}
    {assigned : DeliveryColumns} {result : DispatchResult}
    (settles : Settles policy row outcome assigned result) (final : result.action ≠ .retry) :
    assigned.status.isTerminal = true := by
  cases settles with
  | sent => rfl
  | retry => exact absurd rfl final
  | failed => rfl

/-- A worker that is about to commit or publish for `id` carries it. -/
theorem carried_of_phase {worker : Nat} {message : Message} {phase : DispatchPhase}
    (runs : state.Runs worker message phase) (own : message.notificationId = id)
    (carries : phase.Carries) : state.Carried id :=
  .carrier (.delivery worker message phase runs own carries)

/-- A load of a stored row finds it terminal, or goes on to a commit. -/
theorem carried_of_load (counted : RetriesCounted policy id state) {worker : Nat}
    {message : Message} (runs : state.Runs worker message .load)
    (own : message.notificationId = id) :
    (state.setPhase worker message
      (.ofLoad (afterLoad (state.table.getById message.notificationId)))).Carried id := by
  obtain ⟨row, found, -⟩ := counted.outstanding message (outstanding_of_held runs) own
  obtain ⟨loaded, same, loads⟩ := afterLoad_loads (state.table.getById message.notificationId)
  rw [own, found] at loads
  rw [same]
  cases loads with
  | skipped _ final => exact .terminal row found final
  | claim _ pending legal =>
      exact carried_of_phase (Function.update_self _ _ _) own (.claim _)
  | resume _ processing => exact carried_of_phase (Function.update_self _ _ _) own (.send _)

/-- A commit goes on to the provider call or to a retry, or has stored a terminal status. -/
theorem carried_of_commit (serial : SerialSound policy id state) {worker : Nat}
    {message : Message} {phase after : DispatchPhase} {change : Change}
    (runs : state.Runs worker message phase)
    (pending : phase.pendingCommit = some (change, after)) (own : message.notificationId = id) :
    ((state.setTable (state.table.write change)).setPhase worker message after).Carried id := by
  have installed := serial.exclusive.commit_installs runs pending own
  obtain ⟨-, ⟨-, rfl, -⟩ | ⟨result, outcome, -, rfl, -, settles⟩⟩ :=
    (serial.owned _ _ _ runs).pendingCommit pending
  · exact carried_of_phase (Function.update_self _ _ _) own (.send _)
  · by_cases again : result.action = .retry
    · exact carried_of_phase (Function.update_self _ _ _) own (.retry _ again)
    · exact .terminal change.row installed (settles_final settles again)

/-- Celery accepts the retry, so its message is waiting unless the publication has raised. -/
theorem carried_of_retry (counted : RetriesCounted policy id state) {worker : Nat}
    {message : Message} {result : DispatchResult}
    (runs : state.Runs worker message (.returned result)) (own : message.notificationId = id)
    (again : result.action = .retry) (published : Bool) :
    (state.applied worker message published
      (applyDeliveryResult result message policy.maxRetries)).Carried id := by
  have budget := (counted.scheduled worker message result runs own again).2
  rw [applyDeliveryResult_retry _ _ again, Message.retry_of_budget budget]
  cases published with
  | true => exact .carrier (.waiting _ List.mem_cons_self own)
  | false => exact .faulted (own ▸ List.mem_cons_self)

/-- A delivery that carries on hands over to its next point, to the queue, to a terminal
row or to a logged fault. -/
theorem delivery_step (serial : SerialSound policy id state)
    (counted : RetriesCounted policy id state) (hstep : Step policy state action next)
    {worker : Nat} {message : Message} {phase : DispatchPhase}
    (runs : state.Runs worker message phase) (own : message.notificationId = id)
    (carries : phase.Carries) : next.Carried id := by
  by_cases acts : action.worker = some worker
  · cases hstep with
    | deliver _ _ idle => cases acts; cases idle.symm.trans runs
    | load _ _ held =>
        cases acts
        cases held.symm.trans runs
        exact carried_of_load counted runs own
    | commit _ _ _ after change held pending =>
        cases acts
        cases held.symm.trans runs
        exact carried_of_commit serial runs pending own
    | commitRaised _ _ _ _ _ held =>
        cases acts
        cases held.symm.trans runs
        exact .faulted (own ▸ List.mem_cons_self)
    | send _ outcome now _ row held =>
        cases acts
        cases held.symm.trans runs
        obtain ⟨change, result, same, -⟩ := (serial.owned _ _ _ runs).afterSend now outcome
        rw [same]
        exact carried_of_phase (Function.update_self _ _ _) own (.settle _ _)
    | apply _ published _ result held =>
        cases acts
        cases held.symm.trans runs
        cases carries with
        | retry _ again => exact carried_of_retry counted runs own again published
    | raise _ _ _ _ held =>
        cases acts
        cases held.symm.trans runs
        cases carries
    | acknowledge _ _ held => cases acts; cases held.symm.trans runs
    | crash _ _ held =>
        cases acts
        cases held.symm.trans runs
        exact .carrier (.waiting message List.mem_cons_self own)
    | _ => cases acts
  · exact carried_of_phase ((workers_idle hstep acts).trans runs) own carries

theorem carried_step (carried : state.Carried id) (serial : SerialSound policy id state)
    (counted : RetriesCounted policy id state) (hstep : Step policy state action next) :
    next.Carried id := by
  cases carried with
  | terminal row found final => exact .terminal row (terminal_stays serial found final hstep) final
  | faulted logged => exact .faulted ((log_grows hstep).subset logged)
  | carrier carrier =>
      cases carrier with
      | waiting message member own => exact .carrier (waiting_step hstep member own)
      | delivery worker message phase runs own carries =>
          exact delivery_step serial counted hstep runs own carries

/-! ## Whole runs -/

/-- A row whose enqueue has returned normally has a carrier, a terminal status or a fault. -/
def EnqueuedCarried (id : UUID) (state : Engine) : Prop :=
  ∀ call, .enqueue call id .published ∈ state.log → state.Carried id

theorem enqueuedCarried_step (carried : EnqueuedCarried id state)
    (sound : CountersSound policy id state) (hstep : Step policy state action next) :
    EnqueuedCarried id next := by
  intro call logged
  rcases event_step hstep logged with old | new
  · exact carried_step (carried call old) sound.serial sound.counted hstep
  · generalize enqueued : Event.enqueue call id .published = event at new
    cases new with
    | enqueue _ _ _ _ row at_enqueue =>
        cases enqueued
        cases hstep with
        | enqueue _ _ _ row' at_enqueue' =>
            cases at_enqueue.symm.trans at_enqueue'
            exact .carrier (.waiting ⟨row.id, 0⟩ List.mem_cons_self rfl)
        | enqueueRaised _ _ _ _ _ _ raised => exact absurd rfl raised
    | _ => cases enqueued

/-- An enqueued row that is PENDING or PROCESSING has a message outstanding. -/
def Attended (state : Engine) (id : UUID) : Prop :=
  ∀ call row, .enqueue call id .published ∈ state.log → state.table.getById id = some row →
    row.status = .pending ∨ row.status = .processing →
      ∃ message, state.Outstanding message ∧ message.notificationId = id

theorem EnqueuedCarried.attended (carried : EnqueuedCarried id state) :
    state.Attended id ∨ .faulted id ∈ state.log := by
  by_cases fault : .faulted id ∈ state.log
  · exact .inr fault
  · refine .inl fun call row logged found live => ?_
    cases carried call logged with
    | terminal row' found' final =>
        cases found.symm.trans found'
        rcases live with status | status <;> rw [status] at final <;> cases final
    | faulted logged => exact absurd logged fault
    | carrier carrier => exact carrier.outstanding

/--
With one delivery of `id` at a time, whatever the provider does and wherever
workers crash: an enqueued row that is PENDING or PROCESSING has a message
outstanding, unless a delivery of it has ended by a commit inside `dispatch` or
a retry publication that raised.
-/
theorem enqueued_attended_or_faulted (policy : DeliveryRetryPolicy) (table : Table) (id : UUID)
    (actions : List Action)
    (alone : Along (step policy) (DeliversAlone id) (start table []) actions)
    (state : Engine) (reached : run (step policy) (start table []) actions = some state) :
    state.Attended id ∨ .faulted id ∈ state.log := by
  have sound := run_guarded_invariant
    (I := fun state => CountersSound policy id state ∧ EnqueuedCarried id state)
    (fun _ _ _ sound guard (hstep : step policy _ _ = some _) =>
      ⟨countersSound_step sound.1 guard (step_sound hstep),
        enqueuedCarried_step sound.2 sound.1 (step_sound hstep)⟩)
    ⟨countersSound_start (by rintro _ ⟨⟩), by rintro _ ⟨⟩⟩
    (loadsAlone_of_deliversAlone alone) reached
  exact sound.2.attended

def acceptAndEnqueue : List Action :=
  [.accept 0 7 (.welcome none), .insert 0 1, .enqueue 0 .published]

/-- The first attempt fails, and a worker crashes in the middle of the second one. -/
def retryCrashes : List Action :=
  acceptAndEnqueue ++
    [.deliver 0 ⟨1, 0⟩, .load 0, .commit 0 true, .send 0 (.raised ⟨false, []⟩) 0, .commit 0 true,
      .apply 0 true, .acknowledge 0, .deliver 0 ⟨1, 1⟩, .load 0, .commit 0 true, .crash 0]

/-- The row is PROCESSING after one failure, and the message of its retry waits again. -/
theorem enqueued_attended_retryCrashes :
    ∃ state row, run (step .default) (start .empty []) retryCrashes = some state ∧
      state.table.getById 1 = some row ∧ row.status = .processing ∧ row.retryCount = 1 ∧
      state.queued = [⟨1, 1⟩] ∧ (state.Attended 1 ∨ .faulted 1 ∈ state.log) :=
  ⟨_, _, rfl, rfl, rfl, rfl, rfl, enqueued_attended_or_faulted .default .empty 1 retryCrashes
    (deliversAlone_of_worker 0 (by simp [retryCrashes, acceptAndEnqueue])) _ rfl⟩

/-- The commit of PROCESSING raises, and the message of the failed task is acknowledged. -/
def claimRaises : List Action :=
  acceptAndEnqueue ++ [.deliver 0 ⟨1, 0⟩, .load 0, .commit 0 false, .apply 0 true, .acknowledge 0]

/-- The row is PENDING for ever after: no message of it is left. -/
theorem unattended_claimRaises :
    ∃ state row, run (step .default) (start .empty []) claimRaises = some state ∧
      Along (step .default) (DeliversAlone 1) (start .empty []) claimRaises ∧
      .enqueue 0 1 .published ∈ state.log ∧ state.table.getById 1 = some row ∧
      row.status = .pending ∧ ¬ state.Attended 1 := by
  refine ⟨_, _, rfl, ?_, List.mem_cons_of_mem _ List.mem_cons_self, rfl, rfl, ?_⟩
  · rintro _ ⟨⟩
    refine ⟨by rintro _ _ ⟨⟩, ?_⟩
    rintro _ ⟨⟩
    refine ⟨by rintro _ _ ⟨⟩, ?_⟩
    rintro _ ⟨⟩
    refine ⟨by rintro _ _ ⟨⟩, ?_⟩
    rintro _ ⟨⟩
    refine ⟨by rintro _ _ - - _ _ ⟨⟩, ?_⟩
    exact .of_labels (by simp [DeliversAlone]) _
  · intro attended
    obtain ⟨message, waiting | ⟨worker, delivery, held, -⟩, -⟩ :=
      attended 0 _ (List.mem_cons_of_mem _ List.mem_cons_self) rfl (.inl rfl)
    · exact absurd waiting List.not_mem_nil
    · cases worker <;> cases held

end Engine

end NotificationsEngine
