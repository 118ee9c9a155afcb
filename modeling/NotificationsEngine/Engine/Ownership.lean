import NotificationsEngine.Engine.Effects

/-!
# Every worker works on the row of its own message

The facts about a call in progress that hold in every run, whatever the other
parties do: its snapshot is a row with the id of its message, the snapshot has
the status that its next change starts from, and nothing but a failing commit
has made it raise.
-/

namespace NotificationsEngine

/-- A call of `dispatch` for `id` that stands at this point. -/
inductive DispatchPhase.Owned (policy : DeliveryRetryPolicy) (id : UUID) : DispatchPhase → Prop
  where
  | load : Owned policy id .load
  | claim (change : Change) (own : change.base.id = id)
      (pending : change.base.status = .pending)
      (assigned : change.assigned = { change.base.toDeliveryColumns with status := .processing }) :
      Owned policy id (.claim change)
  | send (row : Notification) (own : row.id = id) (processing : row.status = .processing) :
      Owned policy id (.send row)
  | settle (change : Change) (result : DispatchResult) (outcome : ProviderOutcome)
      (own : change.base.id = id) (processing : change.base.status = .processing)
      (settles : Settles policy change.base outcome change.assigned result) :
      Owned policy id (.settle change result)
  | returned (result : DispatchResult) : Owned policy id (.returned result)
  | raised : Owned policy id (.raised .database)

namespace DispatchPhase

theorem owned_ofLoad (policy : DeliveryRetryPolicy) (table : Table) (id : UUID) :
    (ofLoad (afterLoad (table.getById id))).Owned policy id := by
  obtain ⟨loaded, same, loads⟩ := afterLoad_loads (table.getById id)
  rw [same]
  generalize found : table.getById id = answer at loads
  cases loads with
  | missing => exact .returned _
  | skipped => exact .returned _
  | claim row pending legal => exact .claim _ (Table.getById_id found) pending rfl
  | resume row processing => exact .send _ (Table.getById_id found) processing

/-- The two commits of a call, with what follows each. -/
theorem Owned.pendingCommit {policy : DeliveryRetryPolicy} {id : UUID}
    {phase next : DispatchPhase} {change : Change} (owned : phase.Owned policy id)
    (pending : phase.pendingCommit = some (change, next)) :
    change.base.id = id ∧
      ((phase = .claim change ∧ next = .send change.row ∧ change.base.status = .pending ∧
          change.assigned = { change.base.toDeliveryColumns with status := .processing }) ∨
        ∃ result outcome, phase = .settle change result ∧ next = .returned result ∧
          change.base.status = .processing ∧
          Settles policy change.base outcome change.assigned result) := by
  rcases pendingCommit_cases pending with ⟨rfl, rfl⟩ | ⟨result, rfl, rfl⟩
  · cases owned with
    | claim _ own status assigned => exact ⟨own, .inl ⟨rfl, rfl, status, assigned⟩⟩
  · cases owned with
    | settle _ _ outcome own processing settles =>
        exact ⟨own, .inr ⟨result, outcome, rfl, rfl, processing, settles⟩⟩

theorem Owned.commit {policy : DeliveryRetryPolicy} {id : UUID} {phase next : DispatchPhase}
    {change : Change} (owned : phase.Owned policy id)
    (pending : phase.pendingCommit = some (change, next)) : next.Owned policy id := by
  obtain ⟨own, ⟨-, rfl, -, assigned⟩ | ⟨result, -, -, rfl, -⟩⟩ := owned.pendingCommit pending
  · exact .send _ own (by rw [Change.row, assigned]; rfl)
  · exact .returned result

/-- After the provider call the outcome is assigned and its commit is next. -/
theorem Owned.afterSend {policy : DeliveryRetryPolicy} {id : UUID} {row : Notification}
    (owned : (DispatchPhase.send row).Owned policy id) (now : Instant) (outcome : ProviderOutcome) :
    ∃ change result, afterSend policy row now outcome = .ok (change, result) ∧
      change.base = row ∧ row.id = id ∧ row.status = .processing ∧
      Settles policy row outcome change.assigned result := by
  obtain ⟨own, processing⟩ : row.id = id ∧ row.status = .processing := by
    cases owned with
    | send _ own processing => exact ⟨own, processing⟩
  obtain ⟨change, result, same, base, settles⟩ := afterSend_settles policy now outcome processing
  exact ⟨change, result, same, base, own, processing, settles⟩

theorem Owned.send_next {policy : DeliveryRetryPolicy} {id : UUID} {row : Notification}
    (owned : (DispatchPhase.send row).Owned policy id) (now : Instant) (outcome : ProviderOutcome) :
    (ofSend (NotificationsEngine.afterSend policy row now outcome)).Owned policy id := by
  obtain ⟨change, result, same, rfl, own, processing, settles⟩ := owned.afterSend now outcome
  rw [same]
  exact .settle change result outcome own processing settles

end DispatchPhase

def Action.worker : Action → Option Nat
  | .deliver worker _ => some worker
  | .load worker => some worker
  | .commit worker _ => some worker
  | .send worker _ _ => some worker
  | .apply worker _ => some worker
  | .acknowledge worker => some worker
  | .crash worker => some worker
  | _ => none

namespace Engine

/-- The worker is inside `dispatch` for this message. -/
def Runs (state : Engine) (worker : Nat) (message : Message) (phase : DispatchPhase) : Prop :=
  state.workers worker = some ⟨message, .dispatching phase⟩

/-- How a worker comes to stand at a point of `dispatch`. -/
inductive Enters (policy : DeliveryRetryPolicy) (state : Engine) (worker : Nat)
    (message : Message) : Action → DispatchPhase → Prop where
  | deliver (idle : state.workers worker = none) (waiting : message ∈ state.queued) :
      Enters policy state worker message (.deliver worker message) .load
  | load (held : state.Runs worker message .load) :
      Enters policy state worker message (.load worker)
        (.ofLoad (afterLoad (state.table.getById message.notificationId)))
  | commit (phase next : DispatchPhase) (change : Change)
      (held : state.Runs worker message phase)
      (pending : phase.pendingCommit = some (change, next)) :
      Enters policy state worker message (.commit worker true) next
  | commitRaised (phase next : DispatchPhase) (change : Change)
      (held : state.Runs worker message phase)
      (pending : phase.pendingCommit = some (change, next)) :
      Enters policy state worker message (.commit worker false) (.raised .database)
  | send (outcome : ProviderOutcome) (now : Instant) (row : Notification)
      (held : state.Runs worker message (.send row)) :
      Enters policy state worker message (.send worker outcome now)
        (.ofSend (afterSend policy row now outcome))

/-- A worker in `dispatch` has just come to where it stands, or others took the step. -/
theorem runs_step {policy : DeliveryRetryPolicy} {state next : Engine} {action : Action}
    {worker : Nat} {message : Message} {phase : DispatchPhase}
    (hstep : Step policy state action next) (runs : next.Runs worker message phase) :
    action.worker ≠ some worker ∧ state.Runs worker message phase ∨
      Enters policy state worker message action phase := by
  have updated : ∀ {actor value}, Function.update state.workers actor value worker =
      some ⟨message, .dispatching phase⟩ →
      worker = actor ∧ value = some ⟨message, .dispatching phase⟩ ∨
        some actor ≠ some worker ∧ state.Runs worker message phase := fun found => by
    rcases update_eq_some_iff.mp found with self | ⟨different, old⟩
    · exact .inl self
    · exact .inr ⟨fun same => different (Option.some.inj same).symm, old⟩
  cases hstep with
  | deliver actor taken idle waiting =>
      rcases updated runs with ⟨rfl, same⟩ | old
      · cases same
        exact .inr (.deliver idle waiting)
      · exact .inl old
  | load actor own held =>
      rcases updated runs with ⟨rfl, same⟩ | old
      · cases same
        exact .inr (.load held)
      · exact .inl old
  | commit actor own before after change held pending =>
      rcases updated runs with ⟨rfl, same⟩ | old
      · cases same
        exact .inr (.commit _ _ _ held pending)
      · exact .inl old
  | commitRaised actor own before after change held pending =>
      rcases updated runs with ⟨rfl, same⟩ | old
      · cases same
        exact .inr (.commitRaised _ _ _ held pending)
      · exact .inl old
  | send actor outcome now own row held =>
      rcases updated runs with ⟨rfl, same⟩ | old
      · cases same
        exact .inr (.send _ _ _ held)
      · exact .inl old
  | apply actor published own result held =>
      rw [Runs, applied_workers] at runs
      rcases updated runs with ⟨rfl, same⟩ | old
      · cases same
      · exact .inl old
  | raise actor published own error held =>
      rcases updated runs with ⟨rfl, same⟩ | old
      · cases same
      · exact .inl old
  | acknowledge actor own held =>
      rcases updated runs with ⟨rfl, same⟩ | old
      · cases same
      · exact .inl old
  | crash actor delivery held =>
      rcases updated runs with ⟨rfl, same⟩ | old
      · cases same
      · exact .inl old
  | _ => exact .inl ⟨by rintro ⟨⟩, runs⟩

/-- A worker stays where it is while others take steps. -/
theorem workers_idle {policy : DeliveryRetryPolicy} {state next : Engine} {action : Action}
    (hstep : Step policy state action next) {worker : Nat}
    (idle : action.worker ≠ some worker) : next.workers worker = state.workers worker := by
  have other : ∀ {actor value}, some actor ≠ some worker →
      Function.update state.workers actor value worker = state.workers worker :=
    fun different => Function.update_of_ne (fun same => different (congrArg some same.symm)) _ _
  cases hstep with
  | deliver => exact other idle
  | load => exact other idle
  | commit => exact other idle
  | commitRaised => exact other idle
  | send => exact other idle
  | apply =>
      rw [applied_workers]
      exact other idle
  | raise => exact other idle
  | acknowledge => exact other idle
  | crash => exact other idle
  | _ => rfl

/-- The table after a commit that does not raise. -/
theorem commit_table {policy : DeliveryRetryPolicy} {state next : Engine} {worker : Nat}
    {message : Message} {phase after : DispatchPhase} {change : Change}
    (hstep : Step policy state (.commit worker true) next)
    (held : state.Runs worker message phase)
    (pending : phase.pendingCommit = some (change, after)) :
    next.table = state.table.write change := by
  cases hstep with
  | commit _ _ _ _ _ held' pending' =>
      cases held.symm.trans held'
      cases pending.symm.trans pending'
      rfl

def WorkersOwned (policy : DeliveryRetryPolicy) (state : Engine) : Prop :=
  ∀ worker message phase, state.Runs worker message phase →
    phase.Owned policy message.notificationId

theorem workersOwned_start (policy : DeliveryRetryPolicy) (table : Table)
    (queued : List Message) : WorkersOwned policy (start table queued) := by
  intro worker message phase runs
  cases runs

theorem workersOwned_step {policy : DeliveryRetryPolicy} {state next : Engine} {action : Action}
    (owned : WorkersOwned policy state) (hstep : Step policy state action next) :
    WorkersOwned policy next := by
  intro worker message phase runs
  rcases runs_step hstep runs with ⟨-, old⟩ | enters
  · exact owned worker message phase old
  · cases enters with
    | deliver => exact .load
    | load => exact DispatchPhase.owned_ofLoad _ _ _
    | commit before _ change held pending => exact (owned _ _ _ held).commit pending
    | commitRaised => exact .raised
    | send outcome now row held => exact (owned _ _ _ held).send_next now outcome

/-! ## How a dispatch settles and returns -/

variable {policy : DeliveryRetryPolicy} {state next : Engine} {action : Action} {worker : Nat}
  {message : Message} {result : DispatchResult}

/-- An outcome that waits for its commit has waited before, or the provider call was made now. -/
theorem settle_step (hstep : Step policy state action next) {change : Change}
    (runs : next.Runs worker message (.settle change result)) :
    state.Runs worker message (.settle change result) ∨
      ∃ outcome now row, action = .send worker outcome now ∧
        state.Runs worker message (.send row) := by
  rcases runs_step hstep runs with ⟨-, old⟩ | enters
  · exact .inl old
  · generalize at_settle : DispatchPhase.settle change result = phase at enters
    cases enters with
    | send outcome now row held => exact .inr ⟨outcome, now, row, rfl, held⟩
    | deliver => cases at_settle
    | load held =>
        obtain ⟨loaded, same, -⟩ :=
          afterLoad_loads (state.table.getById message.notificationId)
        rw [same] at at_settle
        cases loaded <;> cases at_settle
    | commit before _ change' held pending =>
        rcases DispatchPhase.pendingCommit_cases pending with ⟨-, rfl⟩ | ⟨_, -, rfl⟩
        · cases at_settle
        · cases at_settle
    | commitRaised => cases at_settle

/-- How a dispatch comes to return: at its load, or by the commit of a provider's outcome. -/
inductive Returns (policy : DeliveryRetryPolicy) (state : Engine) (worker : Nat)
    (message : Message) : Action → DispatchResult → Prop where
  | missing (absent : state.table.getById message.notificationId = none)
      (held : state.Runs worker message .load) :
      Returns policy state worker message (.load worker) { action := .missing }
  | skipped (row : Notification) (found : state.table.getById message.notificationId = some row)
      (terminal : row.status.isTerminal = true) (held : state.Runs worker message .load) :
      Returns policy state worker message (.load worker) { action := .skipped }
  | settled (change : Change) (result : DispatchResult) (outcome : ProviderOutcome)
      (held : state.Runs worker message (.settle change result))
      (settles : Settles policy change.base outcome change.assigned result) :
      Returns policy state worker message (.commit worker true) result

theorem returned_step (owned : WorkersOwned policy state) (hstep : Step policy state action next)
    (runs : next.Runs worker message (.returned result)) :
    action.worker ≠ some worker ∧ state.Runs worker message (.returned result) ∨
      Returns policy state worker message action result := by
  rcases runs_step hstep runs with old | enters
  · exact .inl old
  · refine .inr ?_
    generalize ended : DispatchPhase.returned result = phase at enters
    cases enters with
    | deliver => cases ended
    | load held =>
        obtain ⟨loaded, same, loads⟩ :=
          afterLoad_loads (state.table.getById message.notificationId)
        rw [same] at ended
        generalize found : state.table.getById message.notificationId = answer at loads
        cases loads with
        | missing =>
            cases ended
            exact .missing found held
        | skipped row terminal =>
            cases ended
            exact .skipped row found terminal held
        | claim => cases ended
        | resume => cases ended
    | commit before _ change held pending =>
        obtain ⟨-, ⟨-, rfl, -⟩ | ⟨_, outcome, rfl, rfl, -, settles⟩⟩ :=
          (owned _ _ _ held).pendingCommit pending
        · cases ended
        · cases ended
          exact .settled change result outcome held settles
    | commitRaised => cases ended
    | send outcome now row held =>
        obtain ⟨change, result, same, -⟩ := (owned _ _ _ held).afterSend now outcome
        rw [same] at ended
        cases ended

end Engine

end NotificationsEngine
