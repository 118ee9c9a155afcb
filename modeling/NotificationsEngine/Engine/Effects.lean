import NotificationsEngine.Engine.Step

/-!
# What one step can do

`Step` lists the steps of the system with their guards and successors, so that
an invariant is checked by one case analysis, and `step_iff` shows that `step`
performs these and nothing else.
-/

namespace NotificationsEngine.Engine

/-- An updated map holds the new value at its key and the old ones elsewhere. -/
theorem update_eq_some_iff {β : Type} {map : Nat → Option β} {key other : Nat}
    {value : Option β} {found : β} :
    Function.update map key value other = some found ↔
      (other = key ∧ value = some found) ∨ (other ≠ key ∧ map other = some found) := by
  by_cases same : other = key
  · subst same
    simp
  · simp [same]

/-! ## Projections of a successor -/

section Projections

variable (state : Engine) (call worker : Nat) (value : AcceptCall) (delivery : Option Delivery)
  (message : Message) (phase : DispatchPhase) (event : Event) (table : Table)
  (queued : List Message)

@[simp] theorem setCall_table : (state.setCall call value).table = state.table := rfl
@[simp] theorem setCall_workers : (state.setCall call value).workers = state.workers := rfl
@[simp] theorem setCall_queued : (state.setCall call value).queued = state.queued := rfl
@[simp] theorem setCall_log : (state.setCall call value).log = state.log := rfl
@[simp] theorem setCall_calls :
    (state.setCall call value).calls = Function.update state.calls call (some value) := rfl

@[simp] theorem setWorker_table : (state.setWorker worker delivery).table = state.table := rfl
@[simp] theorem setWorker_calls : (state.setWorker worker delivery).calls = state.calls := rfl
@[simp] theorem setWorker_queued : (state.setWorker worker delivery).queued = state.queued := rfl
@[simp] theorem setWorker_log : (state.setWorker worker delivery).log = state.log := rfl
@[simp] theorem setWorker_workers :
    (state.setWorker worker delivery).workers =
      Function.update state.workers worker delivery := rfl

@[simp] theorem setPhase_table : (state.setPhase worker message phase).table = state.table := rfl
@[simp] theorem setPhase_calls : (state.setPhase worker message phase).calls = state.calls := rfl
@[simp] theorem setPhase_queued :
    (state.setPhase worker message phase).queued = state.queued := rfl
@[simp] theorem setPhase_log : (state.setPhase worker message phase).log = state.log := rfl
@[simp] theorem setPhase_workers :
    (state.setPhase worker message phase).workers =
      Function.update state.workers worker (some ⟨message, .dispatching phase⟩) := rfl

@[simp] theorem record_table : (state.record event).table = state.table := rfl
@[simp] theorem record_calls : (state.record event).calls = state.calls := rfl
@[simp] theorem record_workers : (state.record event).workers = state.workers := rfl
@[simp] theorem record_queued : (state.record event).queued = state.queued := rfl
@[simp] theorem record_log : (state.record event).log = event :: state.log := rfl

@[simp] theorem setTable_table : (state.setTable table).table = table := rfl
@[simp] theorem setTable_calls : (state.setTable table).calls = state.calls := rfl
@[simp] theorem setTable_workers : (state.setTable table).workers = state.workers := rfl
@[simp] theorem setTable_queued : (state.setTable table).queued = state.queued := rfl
@[simp] theorem setTable_log : (state.setTable table).log = state.log := rfl

@[simp] theorem setQueued_table : (state.setQueued queued).table = state.table := rfl
@[simp] theorem setQueued_calls : (state.setQueued queued).calls = state.calls := rfl
@[simp] theorem setQueued_workers : (state.setQueued queued).workers = state.workers := rfl
@[simp] theorem setQueued_queued : (state.setQueued queued).queued = queued := rfl
@[simp] theorem setQueued_log : (state.setQueued queued).log = state.log := rfl

@[simp] theorem start_table : (start table queued).table = table := rfl
@[simp] theorem start_calls : (start table queued).calls call = none := rfl
@[simp] theorem start_workers : (start table queued).workers worker = none := rfl
@[simp] theorem start_queued : (start table queued).queued = queued := rfl
@[simp] theorem start_log : (start table queued).log = [] := rfl

variable (published : Bool) (effect : DeliveryEffect)

@[simp] theorem applied_table :
    (state.applied worker message published effect).table = state.table := by
  cases effect <;> cases published <;> rfl

@[simp] theorem applied_calls :
    (state.applied worker message published effect).calls = state.calls := by
  cases effect <;> cases published <;> rfl

@[simp] theorem applied_workers :
    (state.applied worker message published effect).workers =
      Function.update state.workers worker (some ⟨message, .finished⟩) := by
  cases effect <;> cases published <;> rfl

end Projections

/-! ## The steps -/

inductive Step (policy : DeliveryRetryPolicy) (state : Engine) : Action → Engine → Prop where
  | accept (call : Nat) (clientId : UUID) (request : SendNotificationRequest)
      (idle : state.calls call = none) :
      Step policy state (.accept call clientId request)
        (state.setCall call ⟨clientId, request, .start request⟩)
  | lookup (call : Nat) (clientId : UUID) (request : SendNotificationRequest)
      (at_lookup : state.calls call = some ⟨clientId, request, .lookup⟩) :
      Step policy state (.lookup call)
        (state.setCall call
          ⟨clientId, request, .ofLookup (lookupExisting state.table clientId request)⟩)
  | insert (call : Nat) (id : UUID) (clientId : UUID) (request : SendNotificationRequest)
      (table : Table)
      (at_create : state.calls call = some ⟨clientId, request, .create⟩)
      (fresh : state.table.getById id = none)
      (inserted : state.table.insert (create clientId request id) = .ok table)
      (fits : request.fits = true) :
      Step policy state (.insert call id)
        (((state.setTable table).setCall call
          ⟨clientId, request, .enqueue (create clientId request id)⟩).record
            (.inserted call (create clientId request id)))
  | conflict (call : Nat) (id : UUID) (clientId : UUID) (request : SendNotificationRequest)
      (error : IntegrityError)
      (at_create : state.calls call = some ⟨clientId, request, .create⟩)
      (fresh : state.table.getById id = none)
      (failed : state.table.insert (create clientId request id) = .error error)
      (fits : request.fits = true) :
      Step policy state (.insert call id)
        (state.setCall call ⟨clientId, request, .recover error⟩)
  | misfit (call : Nat) (id : UUID) (clientId : UUID) (request : SendNotificationRequest)
      (at_create : state.calls call = some ⟨clientId, request, .create⟩)
      (fresh : state.table.getById id = none)
      (refused : request.fits = false) :
      Step policy state (.insert call id) (state.setCall call ⟨clientId, request, .raised .data⟩)
  | recover (call : Nat) (clientId : UUID) (request : SendNotificationRequest)
      (error : IntegrityError)
      (at_recover : state.calls call = some ⟨clientId, request, .recover error⟩) :
      Step policy state (.recover call)
        (state.setCall call
          ⟨clientId, request, .ofResult (recover state.table clientId request error)⟩)
  | enqueue (call : Nat) (clientId : UUID) (request : SendNotificationRequest)
      (row : Notification)
      (at_enqueue : state.calls call = some ⟨clientId, request, .enqueue row⟩) :
      Step policy state (.enqueue call .published)
        (((state.setCall call ⟨clientId, request, .returned (toAccepted row)⟩).record
          (.enqueue call row.id .published)).setQueued (⟨row.id, 0⟩ :: state.queued))
  | enqueueRaised (call : Nat) (outcome : EnqueueOutcome) (clientId : UUID)
      (request : SendNotificationRequest) (row : Notification)
      (at_enqueue : state.calls call = some ⟨clientId, request, .enqueue row⟩)
      (raised : outcome ≠ .published) :
      Step policy state (.enqueue call outcome)
        ((state.setCall call ⟨clientId, request, .raised .queueUnavailable⟩).record
          (.enqueue call row.id outcome))
  | duplicate (message : Message) (waiting : message ∈ state.queued) :
      Step policy state (.duplicate message) (state.setQueued (message :: state.queued))
  | redeliver (worker : Nat) (delivery : Delivery)
      (held : state.workers worker = some delivery) :
      Step policy state (.redeliver worker)
        (state.setQueued (delivery.message :: state.queued))
  | deliver (worker : Nat) (message : Message) (idle : state.workers worker = none)
      (waiting : message ∈ state.queued) :
      Step policy state (.deliver worker message)
        ((state.setQueued (state.queued.erase message)).setPhase worker message .load)
  | load (worker : Nat) (message : Message)
      (held : state.workers worker = some ⟨message, .dispatching .load⟩) :
      Step policy state (.load worker)
        (state.setPhase worker message
          (.ofLoad (afterLoad (state.table.getById message.notificationId))))
  | commit (worker : Nat) (message : Message) (phase next : DispatchPhase) (change : Change)
      (held : state.workers worker = some ⟨message, .dispatching phase⟩)
      (pending : phase.pendingCommit = some (change, next)) (fits : change.fits = true) :
      Step policy state (.commit worker true)
        ((state.setTable (state.table.write change)).setPhase worker message next)
  | commitRaised (worker : Nat) (message : Message) (phase next : DispatchPhase)
      (change : Change)
      (held : state.workers worker = some ⟨message, .dispatching phase⟩)
      (pending : phase.pendingCommit = some (change, next)) :
      Step policy state (.commit worker false)
        ((state.setPhase worker message (.raised .database)).record
          (.faulted message.notificationId))
  | send (worker : Nat) (outcome : ProviderOutcome) (now : Instant) (message : Message)
      (row : Notification)
      (held : state.workers worker = some ⟨message, .dispatching (.send row)⟩) :
      Step policy state (.send worker outcome now)
        ((state.setPhase worker message (.ofSend (afterSend policy row now outcome))).record
          (.provider message.notificationId row.outbound outcome))
  | apply (worker : Nat) (published : Bool) (message : Message) (result : DispatchResult)
      (held : state.workers worker = some ⟨message, .dispatching (.returned result)⟩) :
      Step policy state (.apply worker published)
        (state.applied worker message published
          (applyDeliveryResult result message policy.maxRetries))
  | raise (worker : Nat) (published : Bool) (message : Message) (error : DispatchError)
      (held : state.workers worker = some ⟨message, .dispatching (.raised error)⟩) :
      Step policy state (.apply worker published)
        (state.setWorker worker (some ⟨message, .finished⟩))
  | acknowledge (worker : Nat) (message : Message)
      (held : state.workers worker = some ⟨message, .finished⟩) :
      Step policy state (.acknowledge worker) (state.setWorker worker none)
  | crash (worker : Nat) (delivery : Delivery)
      (held : state.workers worker = some delivery) :
      Step policy state (.crash worker)
        ((state.setWorker worker none).setQueued (delivery.message :: state.queued))

/-- The executable step function performs only the listed steps. -/
theorem step_sound {policy : DeliveryRetryPolicy} {state next : Engine} {action : Action}
    (hstep : step policy state action = some next) : Step policy state action next := by
  cases action with
  | accept call clientId request =>
      simp only [step] at hstep
      split at hstep
      · next idle => cases hstep; exact .accept _ _ _ idle
      · cases hstep
  | lookup call =>
      simp only [step] at hstep
      split at hstep
      · next at_lookup => cases hstep; exact .lookup _ _ _ at_lookup
      · cases hstep
  | insert call id =>
      simp only [step] at hstep
      split at hstep
      · next at_create =>
          split at hstep
          · cases hstep
          · next fresh =>
              have fresh : state.table.getById id = none := by simpa using fresh
              split at hstep
              · next stored =>
                  cases hstep
                  obtain ⟨fits, inserted⟩ := insertValues_ok.mp stored
                  rw [create_fits] at fits
                  exact .insert _ _ _ _ _ at_create fresh inserted fits
              · next refused =>
                  cases hstep
                  obtain ⟨fits, failed⟩ := insertValues_integrity.mp refused
                  rw [create_fits] at fits
                  exact .conflict _ _ _ _ _ at_create fresh failed fits
              · next refused =>
                  cases hstep
                  have misfit := insertValues_data.mp refused
                  rw [create_fits] at misfit
                  exact .misfit _ _ _ _ at_create fresh misfit
      · cases hstep
  | recover call =>
      simp only [step] at hstep
      split at hstep
      · next at_recover => cases hstep; exact .recover _ _ _ _ at_recover
      · cases hstep
  | enqueue call outcome =>
      simp only [step] at hstep
      split at hstep
      · next at_enqueue =>
          cases outcome with
          | published => cases hstep; exact .enqueue _ _ _ _ at_enqueue
          | unavailable => cases hstep; exact .enqueueRaised _ _ _ _ _ at_enqueue (by decide)
          | failed => cases hstep; exact .enqueueRaised _ _ _ _ _ at_enqueue (by decide)
      · cases hstep
  | duplicate message =>
      simp only [step] at hstep
      split at hstep
      · next waiting => cases hstep; exact .duplicate _ waiting
      · cases hstep
  | redeliver worker =>
      simp only [step] at hstep
      split at hstep
      · next held => cases hstep; exact .redeliver _ _ held
      · cases hstep
  | deliver worker message =>
      simp only [step] at hstep
      split at hstep
      · next idle =>
          split at hstep
          · next waiting => cases hstep; exact .deliver _ _ idle waiting
          · cases hstep
      · cases hstep
  | load worker =>
      simp only [step] at hstep
      split at hstep
      · next held => cases hstep; exact .load _ _ held
      · cases hstep
  | commit worker stored =>
      simp only [step] at hstep
      split at hstep
      · next held =>
          split at hstep
          · next change after pending =>
              cases stored with
              | false => cases hstep; exact .commitRaised _ _ _ _ _ held pending
              | true =>
                  cases fits : change.fits with
                  | true =>
                      simp only [commit_of_fits fits] at hstep
                      cases hstep
                      exact .commit _ _ _ _ _ held pending fits
                  | false =>
                      simp only [commit_of_misfit fits] at hstep
                      cases hstep
          · cases hstep
      · cases hstep
  | send worker outcome now =>
      simp only [step] at hstep
      split at hstep
      · next held => cases hstep; exact .send _ _ _ _ _ held
      · cases hstep
  | apply worker published =>
      simp only [step] at hstep
      split at hstep
      · next held => cases hstep; exact .apply _ _ _ _ held
      · next held => cases hstep; exact .raise _ _ _ _ held
      · cases hstep
  | acknowledge worker =>
      simp only [step] at hstep
      split at hstep
      · next held => cases hstep; exact .acknowledge _ _ held
      · cases hstep
  | crash worker =>
      simp only [step] at hstep
      split at hstep
      · next held => cases hstep; exact .crash _ _ held
      · cases hstep

/-- The executable step function performs all of the listed steps. -/
theorem step_complete {policy : DeliveryRetryPolicy} {state next : Engine} {action : Action}
    (listed : Step policy state action next) : step policy state action = some next := by
  cases listed with
  | accept _ _ _ idle => simp only [step, idle]
  | lookup _ _ _ at_lookup => simp only [step, at_lookup]
  | insert _ _ _ _ _ at_create fresh inserted fits =>
      simp [step, at_create, fresh, insert_of_fits fits inserted]
  | conflict _ _ _ _ _ at_create fresh failed fits =>
      simp [step, at_create, fresh, conflict_of_fits fits failed]
  | misfit _ _ _ _ at_create fresh refused =>
      simp [step, at_create, fresh, misfit_of_fits _ _ _ refused]
  | recover _ _ _ _ at_recover => simp only [step, at_recover]
  | enqueue _ _ _ _ at_enqueue =>
      simp only [step, at_enqueue, if_true]
      rfl
  | enqueueRaised _ outcome _ _ _ at_enqueue raised =>
      cases outcome with
      | published => exact absurd rfl raised
      | unavailable =>
          simp only [step, at_enqueue]
          rfl
      | failed =>
          simp only [step, at_enqueue]
          rfl
  | duplicate _ waiting => simp only [step, waiting, if_true]
  | redeliver _ _ held => simp only [step, held]
  | deliver _ _ idle waiting => simp only [step, idle, waiting, if_true]
  | load _ _ held => simp only [step, held]
  | commit _ _ _ _ _ held pending fits => simp only [step, held, pending, commit_of_fits fits]
  | commitRaised _ _ _ _ _ held pending => simp [step, held, pending]
  | send _ _ _ _ _ held => simp only [step, held]
  | apply _ _ _ _ held => simp only [step, held]
  | raise _ _ _ _ held => simp only [step, held]
  | acknowledge _ _ held => simp only [step, held]
  | crash _ _ held => simp only [step, held]

theorem step_iff {policy : DeliveryRetryPolicy} {state next : Engine} {action : Action} :
    step policy state action = some next ↔ Step policy state action next :=
  ⟨step_sound, step_complete⟩

def pendingChange (state : Engine) (worker : Nat) : Option Change :=
  match state.workers worker with
  | some ⟨_, .dispatching phase⟩ => phase.pendingCommit.map (·.1)
  | _ => none

theorem pendingChange_of_held {state : Engine} {worker : Nat} {message : Message}
    {phase next : DispatchPhase} {change : Change}
    (held : state.workers worker = some ⟨message, .dispatching phase⟩)
    (pending : phase.pendingCommit = some (change, next)) :
    state.pendingChange worker = some change := by
  simp only [pendingChange, held, pending, Option.map_some]

/-! ## What a step does to a stored row -/

/-- A stored row stays as it is, or one worker's commit writes its changed columns. -/
theorem stored_step {policy : DeliveryRetryPolicy} {state next : Engine} {action : Action}
    {id : UUID} {row : Notification} (hstep : Step policy state action next)
    (found : state.table.getById id = some row) :
    next.table.getById id = some row ∨
      ∃ worker message phase change after,
        action = .commit worker true ∧
        state.workers worker = some ⟨message, .dispatching phase⟩ ∧
        phase.pendingCommit = some (change, after) ∧ change.base.id = id ∧
        next.table.getById id = some (row.withColumns
          (.write change.base.toDeliveryColumns change.assigned row.toDeliveryColumns)) := by
  cases hstep with
  | insert call id clientId request table at_create fresh inserted =>
      exact .inl (Table.getById_insert_of_some inserted found)
  | commit worker message phase after change held pending =>
      by_cases same : change.base.id = id
      · subst same
        exact .inr ⟨worker, message, phase, change, after, rfl, held, pending, rfl,
          Table.getById_update_self _ _ found⟩
      · exact .inl ((Table.getById_update_of_ne _ _ _ (Ne.symm same)).trans found)
  | apply =>
      rw [applied_table]
      exact .inl found
  | _ => exact .inl found

/-- No step deletes a row or changes a column outside the worker's. -/
theorem stored_persists {policy : DeliveryRetryPolicy} {state next : Engine} {action : Action}
    {id : UUID} {row : Notification} (hstep : Step policy state action next)
    (found : state.table.getById id = some row) :
    ∃ columns, next.table.getById id = some (row.withColumns columns) := by
  rcases stored_step hstep found with same | ⟨_, _, _, _, _, -, -, -, -, same⟩
  · exact ⟨row.toDeliveryColumns, same⟩
  · exact ⟨_, same⟩

/-- A row appears only by the INSERT of an `accept` call. -/
theorem stored_new {policy : DeliveryRetryPolicy} {state next : Engine} {action : Action}
    {id : UUID} {row : Notification} (hstep : Step policy state action next)
    (absent : state.table.getById id = none) (found : next.table.getById id = some row) :
    ∃ call clientId request, action = .insert call id ∧ row = create clientId request id ∧
      state.calls call = some ⟨clientId, request, .create⟩ ∧
      next.log = .inserted call row :: state.log := by
  cases hstep with
  | insert call target clientId request table at_create fresh inserted =>
      have split := Table.getById_insert inserted id
      rw [absent] at split
      by_cases same : target = id
      · subst same
        rw [create_id, if_pos rfl] at split
        cases split.symm.trans found
        exact ⟨call, clientId, request, rfl, rfl, at_create, rfl⟩
      · rw [create_id, if_neg same] at split
        cases split.symm.trans found
  | commit worker message phase after change held pending =>
      have split := Table.getById_update state.table change.base.id
        change.base.toDeliveryColumns change.assigned id
      rw [absent] at split
      cases split.symm.trans found
  | apply =>
      rw [applied_table] at found
      cases absent.symm.trans found
  | _ => cases absent.symm.trans found

end NotificationsEngine.Engine
