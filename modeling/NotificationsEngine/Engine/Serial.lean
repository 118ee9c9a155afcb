import NotificationsEngine.Engine.History

/-!
# One dispatch of an id at a time

When an id is loaded only while no other worker is between its own load and
its last commit, at most one worker works on the row, and its snapshot is the
stored row.  Deliveries that run one after another are such a run.
-/

namespace NotificationsEngine.Engine

open StepMachine

variable {policy : DeliveryRetryPolicy} {state next : Engine} {action : Action} {id : UUID}

/-- The worker is between its load of `id` and its last commit, with this snapshot. -/
def Engaged (state : Engine) (id : UUID) (worker : Nat) (row : Notification) : Prop :=
  ∃ message phase, state.Runs worker message phase ∧ message.notificationId = id ∧
    phase.snapshot = some row

/-- A worker loads `id` only while no other worker is engaged with it. -/
def LoadsAlone (id : UUID) (state : Engine) (action : Action) (_ : Engine) : Prop :=
  ∀ worker message, action = .load worker → state.Runs worker message .load →
    message.notificationId = id → ∀ other row, ¬ state.Engaged id other row

/-- A message of `id` is handed out only while no other delivery of `id` is unacknowledged. -/
def DeliversAlone (id : UUID) (state : Engine) (action : Action) (_ : Engine) : Prop :=
  ∀ worker message, action = .deliver worker message → message.notificationId = id →
    ∀ other delivery, state.workers other = some delivery →
      delivery.message.notificationId ≠ id

/-- At most one worker is engaged with `id`, and its snapshot is the stored row. -/
structure Exclusive (id : UUID) (state : Engine) : Prop where
  unique : ∀ worker row other row', state.Engaged id worker row → state.Engaged id other row' →
    worker = other
  current : ∀ worker row, state.Engaged id worker row → state.table.getById id = some row

theorem exclusive_start (id : UUID) (table : Table) (queued : List Message) :
    Exclusive id (start table queued) where
  unique := by rintro _ _ _ _ ⟨_, _, ⟨⟩, _⟩
  current := by rintro _ _ ⟨_, _, ⟨⟩, _⟩

/-- A pending change starts from the snapshot. -/
theorem snapshot_of_pendingCommit {phase after : DispatchPhase} {change : Change}
    (pending : phase.pendingCommit = some (change, after)) :
    phase.snapshot = some change.base := by
  rcases DispatchPhase.pendingCommit_cases pending with ⟨rfl, -⟩ | ⟨result, rfl, -⟩
  · rfl
  · rfl

/-- Of a load, only a found row becomes the snapshot. -/
theorem snapshot_ofLoad {found : Option Notification} {row : Notification}
    (snapshot : (DispatchPhase.ofLoad (afterLoad found)).snapshot = some row) :
    found = some row := by
  obtain ⟨loaded, same, loads⟩ := afterLoad_loads found
  rw [same] at snapshot
  cases loads with
  | missing => cases snapshot
  | skipped => cases snapshot
  | claim => cases snapshot; rfl
  | resume => cases snapshot; rfl

inductive Engages (state : Engine) (id : UUID) (worker : Nat) : Action → Notification → Prop where
  | load (message : Message) (row : Notification) (held : state.Runs worker message .load)
      (own : message.notificationId = id) (found : state.table.getById id = some row) :
      Engages state id worker (.load worker) row
  | claimed (message : Message) (change : Change)
      (held : state.Runs worker message (.claim change)) (own : message.notificationId = id) :
      Engages state id worker (.commit worker true) change.row
  | sent (message : Message) (row : Notification) (outcome : ProviderOutcome) (now : Instant)
      (held : state.Runs worker message (.send row)) (own : message.notificationId = id) :
      Engages state id worker (.send worker outcome now) row

theorem engaged_step (owned : WorkersOwned policy state) (hstep : Step policy state action next)
    {worker : Nat} {row : Notification} (engaged : next.Engaged id worker row) :
    action.worker ≠ some worker ∧ state.Engaged id worker row ∨
      Engages state id worker action row := by
  obtain ⟨message, phase, runs, own, snapshot⟩ := engaged
  rcases runs_step hstep runs with ⟨others, old⟩ | enters
  · exact .inl ⟨others, message, phase, old, own, snapshot⟩
  · cases enters with
    | deliver => cases snapshot
    | load held =>
        have found := snapshot_ofLoad snapshot
        rw [own] at found
        exact .inr (.load message row held own found)
    | commit before _ change held pending =>
        obtain ⟨-, ⟨rfl, rfl, -⟩ | ⟨result, outcome, rfl, rfl, -⟩⟩ :=
          (owned _ _ _ held).pendingCommit pending
        · cases snapshot
          exact .inr (.claimed message change held own)
        · cases snapshot
    | commitRaised => cases snapshot
    | send outcome now sending held =>
        obtain ⟨change, result, same, base, -⟩ := (owned _ _ _ held).afterSend now outcome
        rw [same] at snapshot
        cases snapshot
        rw [base]
        exact .inr (.sent message sending outcome now held own)

/-- Whoever commits a change of the row is engaged with it. -/
theorem engaged_of_pendingCommit (owned : WorkersOwned policy state) {worker : Nat}
    {message : Message} {phase after : DispatchPhase} {change : Change}
    (held : state.Runs worker message phase)
    (pending : phase.pendingCommit = some (change, after)) :
    state.Engaged change.base.id worker change.base :=
  ⟨message, phase, held, ((owned _ _ _ held).pendingCommit pending).1.symm,
    snapshot_of_pendingCommit pending⟩

/-- Only a commit of the engaged worker changes the stored row, and it installs its copy. -/
theorem Exclusive.stored_step (exclusive : Exclusive id state) (owned : WorkersOwned policy state)
    {row : Notification} (found : state.table.getById id = some row)
    (hstep : Step policy state action next) :
    next.table.getById id = some row ∨
      ∃ worker message phase change after, action = .commit worker true ∧
        state.Runs worker message phase ∧ phase.pendingCommit = some (change, after) ∧
        message.notificationId = id ∧ change.base = row ∧
        next.table.getById id = some change.row := by
  rcases Engine.stored_step hstep found with
    same | ⟨worker, message, phase, change, after, rfl, held, pending, rfl, written⟩
  · exact .inl same
  · have current := exclusive.current _ _ (engaged_of_pendingCommit owned held pending)
    have base : change.base = row := Option.some.inj (current.symm.trans found)
    refine .inr ⟨worker, message, phase, change, after, rfl, held, pending,
      ((owned _ _ _ held).pendingCommit pending).1.symm, base, ?_⟩
    rw [written, ← base, DeliveryColumns.write_current]
    rfl

/-- The commit of an engaged worker installs its copy. -/
theorem Exclusive.commit_installs (exclusive : Exclusive id state) {worker : Nat}
    {message : Message} {phase after : DispatchPhase} {change : Change}
    (held : state.Runs worker message phase)
    (pending : phase.pendingCommit = some (change, after)) (own : message.notificationId = id) :
    (state.table.write change).getById id = some change.row :=
  Table.getById_write (exclusive.current _ _
    ⟨message, phase, held, own, snapshot_of_pendingCommit pending⟩)

/-- A worker that engages with the row now was the only one engaged, if any was. -/
theorem Exclusive.engages_unique (exclusive : Exclusive id state)
    (alone : LoadsAlone id state action next) {worker other : Nat} {row row' : Notification}
    (engages : Engages state id worker action row) (old : state.Engaged id other row') :
    worker = other := by
  cases engages with
  | load message _ held own => exact absurd old (alone _ _ rfl held own _ _)
  | claimed message change held own =>
      exact exclusive.unique _ _ _ _ ⟨message, _, held, own, rfl⟩ old
  | sent message _ outcome now held own =>
      exact exclusive.unique _ _ _ _ ⟨message, _, held, own, rfl⟩ old

theorem exclusive_step (exclusive : Exclusive id state) (owned : WorkersOwned policy state)
    (alone : LoadsAlone id state action next) (hstep : Step policy state action next) :
    Exclusive id next where
  unique := by
    intro worker row other row' first second
    rcases engaged_step owned hstep first with ⟨idle, old⟩ | engages
    · rcases engaged_step owned hstep second with ⟨idle', old'⟩ | engages'
      · exact exclusive.unique _ _ _ _ old old'
      · exact (exclusive.engages_unique alone engages' old).symm
    · rcases engaged_step owned hstep second with ⟨idle', old'⟩ | engages'
      · exact exclusive.engages_unique alone engages old'
      · cases engages <;> cases engages' <;> rfl
  current := by
    intro worker row engaged
    rcases engaged_step owned hstep engaged with ⟨idle, old⟩ | engages
    · have found := exclusive.current worker row old
      rcases exclusive.stored_step owned found hstep with
        same | ⟨other, message, phase, change, after, rfl, held, pending, own, -⟩
      · exact same
      · have engaged' : state.Engaged id other change.base :=
          ⟨message, phase, held, own, snapshot_of_pendingCommit pending⟩
        exact absurd (congrArg some (exclusive.unique _ _ _ _ engaged' old)) idle
    · cases engages with
      | load message _ held own found =>
          rcases exclusive.stored_step owned found hstep with
            same | ⟨_, _, _, _, _, ⟨⟩, -⟩
          exact same
      | claimed message change held own =>
          rw [commit_table hstep held rfl]
          exact exclusive.commit_installs held rfl own
      | sent message _ outcome now held own =>
          have found := exclusive.current worker row ⟨message, _, held, own, rfl⟩
          rcases exclusive.stored_step owned found hstep with
            same | ⟨_, _, _, _, _, ⟨⟩, -⟩
          exact same

structure SerialSound (policy : DeliveryRetryPolicy) (id : UUID) (state : Engine) : Prop where
  owned : WorkersOwned policy state
  exclusive : Exclusive id state

theorem serialSound_start (policy : DeliveryRetryPolicy) (id : UUID) (table : Table)
    (queued : List Message) : SerialSound policy id (start table queued) where
  owned := workersOwned_start policy table queued
  exclusive := exclusive_start id table queued

theorem serialSound_step (sound : SerialSound policy id state)
    (alone : LoadsAlone id state action next) (hstep : Step policy state action next) :
    SerialSound policy id next where
  owned := workersOwned_step sound.owned hstep
  exclusive := exclusive_step sound.exclusive sound.owned alone hstep

/-- What one step makes of a stored row. -/
inductive RowStep (policy : DeliveryRetryPolicy) (row : Notification) : Notification → Prop where
  | same : RowStep policy row row
  | claimed (pending : row.status = .pending) :
      RowStep policy row (row.withColumns { row.toDeliveryColumns with status := .processing })
  | settled (outcome : ProviderOutcome) (columns : DeliveryColumns) (result : DispatchResult)
      (processing : row.status = .processing)
      (settles : Settles policy row outcome columns result) :
      RowStep policy row (row.withColumns columns)

theorem SerialSound.row_step (serial : SerialSound policy id state) {row : Notification}
    (found : state.table.getById id = some row) (hstep : Step policy state action next) :
    ∃ row', next.table.getById id = some row' ∧ RowStep policy row row' := by
  rcases serial.exclusive.stored_step serial.owned found hstep with
    same | ⟨worker, message, phase, change, after, -, held, pending, -, rfl, written⟩
  · exact ⟨row, same, .same⟩
  · refine ⟨change.row, written, ?_⟩
    obtain ⟨-, ⟨-, -, status, assigned⟩ | ⟨result, outcome, -, -, processing, settles⟩⟩ :=
      (serial.owned _ _ _ held).pendingCommit pending
    · rw [Change.row, assigned]
      exact .claimed status
    · exact .settled outcome change.assigned result processing settles

/-- A committed SENT or FAILED stays while one delivery runs at a time. -/
theorem terminal_stays (serial : SerialSound policy id state) {row : Notification}
    (found : state.table.getById id = some row) (final : row.status.isTerminal = true)
    (hstep : Step policy state action next) : next.table.getById id = some row := by
  obtain ⟨row', found', changes⟩ := serial.row_step found hstep
  cases changes with
  | same => exact found'
  | claimed pending => rw [pending] at final; cases final
  | settled _ _ _ processing => rw [processing] at final; cases final

/-! ## Deliveries one after another -/

/-- A worker's message is the one it had, or has just been handed to it. -/
theorem held_step (hstep : Step policy state action next) {worker : Nat} {delivery : Delivery}
    (held : next.workers worker = some delivery) :
    (∃ phase, state.workers worker = some ⟨delivery.message, phase⟩) ∨
      action = .deliver worker delivery.message := by
  have kept : ∀ {actor message before after}, state.workers actor = some ⟨message, before⟩ →
      Function.update state.workers actor (some ⟨message, after⟩) worker = some delivery →
      ∃ phase, state.workers worker = some ⟨delivery.message, phase⟩ :=
    fun before updated => by
      rcases update_eq_some_iff.mp updated with ⟨rfl, same⟩ | ⟨-, old⟩
      · cases same
        exact ⟨_, before⟩
      · exact ⟨_, old⟩
  have dropped : ∀ {actor}, Function.update state.workers actor none worker = some delivery →
      ∃ phase, state.workers worker = some ⟨delivery.message, phase⟩ := fun updated => by
    rcases update_eq_some_iff.mp updated with ⟨-, ⟨⟩⟩ | ⟨-, old⟩
    exact ⟨_, old⟩
  cases hstep with
  | deliver actor message =>
      rcases update_eq_some_iff.mp held with ⟨rfl, same⟩ | ⟨-, old⟩
      · cases same
        exact .inr rfl
      · exact .inl ⟨_, old⟩
  | load actor message before => exact .inl (kept before held)
  | commit actor message phase after change before => exact .inl (kept before held)
  | commitRaised actor message phase after change before => exact .inl (kept before held)
  | send actor outcome now message row before => exact .inl (kept before held)
  | apply actor published message result before =>
      rw [applied_workers] at held
      exact .inl (kept before held)
  | raise actor published message error before => exact .inl (kept before held)
  | acknowledge actor message before => exact .inl (dropped held)
  | crash actor lost before => exact .inl (dropped held)
  | _ => exact .inl ⟨_, held⟩

/-- At most one worker has an unacknowledged message of `id`. -/
def OneDelivery (id : UUID) (state : Engine) : Prop :=
  ∀ worker delivery other delivery', state.workers worker = some delivery →
    delivery.message.notificationId = id → state.workers other = some delivery' →
      delivery'.message.notificationId = id → worker = other

theorem oneDelivery_step (one : OneDelivery id state) (alone : DeliversAlone id state action next)
    (hstep : Step policy state action next) : OneDelivery id next := by
  intro worker delivery other delivery' held own held' own'
  rcases held_step hstep held with ⟨phase, old⟩ | rfl
  · rcases held_step hstep held' with ⟨phase', old'⟩ | rfl
    · exact one _ _ _ _ old own old' own'
    · exact absurd own (alone _ _ rfl own' worker ⟨_, phase⟩ old)
  · rcases held_step hstep held' with ⟨phase', old'⟩ | same
    · exact absurd own' (alone _ _ rfl own other ⟨_, phase'⟩ old')
    · exact (Action.deliver.inj same).1

theorem OneDelivery.loadsAlone (one : OneDelivery id state) : LoadsAlone id state action next := by
  rintro worker message - held own other row ⟨message', phase, runs, own', snapshot⟩
  obtain rfl := one _ _ _ _ held own runs own'
  cases held.symm.trans runs
  cases snapshot

/-- Deliveries that run one after another load one after another. -/
theorem loadsAlone_of_deliversAlone {table : Table} {queued : List Message}
    {actions : List Action}
    (alone : Along (step policy) (DeliversAlone id) (start table queued) actions) :
    Along (step policy) (LoadsAlone id) (start table queued) actions :=
  alone.of_invariant (I := OneDelivery id)
    (fun _ _ _ one guard (hstep : step policy _ _ = some _) =>
      oneDelivery_step one guard (step_sound hstep))
    (fun _ _ _ one _ _ => one.loadsAlone)
    (by rintro _ _ _ _ ⟨⟩)

/-- A run in which one worker alone is handed messages. -/
theorem deliversAlone_of_worker {table : Table} {queued : List Message} (worker : Nat)
    {actions : List Action}
    (single : ∀ action ∈ actions, ∀ other message, action = .deliver other message →
      other = worker) :
    Along (step policy) (DeliversAlone id) (start table queued) actions := by
  have delivers : Along (step policy)
      (fun _ action _ => ∀ other message, action = .deliver other message → other = worker)
      (start table queued) actions :=
    .of_labels (fun action member _ _ => single action member) _
  refine delivers.of_invariant
    (I := fun state => ∀ other delivery, state.workers other = some delivery → other = worker)
    ?_ ?_ (by rintro _ _ ⟨⟩)
  · intro state action next idle guard hstep other delivery held
    rcases held_step (step_sound hstep) held with ⟨phase, old⟩ | delivered
    · exact idle other _ old
    · exact guard other _ delivered
  · rintro state _ next idle guard hstep actor message rfl - other delivery held
    obtain rfl := guard actor message rfl
    obtain rfl := idle other delivery held
    cases step_sound hstep with
    | deliver _ _ free =>
        rw [free] at held
        cases held

end NotificationsEngine.Engine
