import NotificationsEngine.Engine.Calls

/-!
# Terminal statuses have a reason

Every stored row and every copy that a worker holds is the row of some
`accept` call with other delivery columns, and those columns are backed by
provider calls that have been made: the count by failed calls, SENT by a call
that returned, FAILED by a permanent failure or an exhausted budget.  Each
column has its reason on its own, so a commit that mixes a stale copy into the
stored row keeps all of them.
-/

namespace NotificationsEngine

open StepMachine

/-- The delivery columns of the row `id` are backed by the provider calls in the log. -/
structure Justified (policy : DeliveryRetryPolicy) (log : List Event) (id : UUID)
    (columns : DeliveryColumns) : Prop where
  counted : columns.retryCount ≤ raisedSends id log
  sent : columns.status = .sent → ∃ message, Event.provider id message .returned ∈ log
  failed : columns.status = .failed →
    (∃ message error, Event.provider id message (.raised error) ∈ log ∧ error.permanent = true) ∨
      policy.maxAttempts ≤ raisedSends id log

namespace Justified

variable {policy : DeliveryRetryPolicy} {older newer log : List Event} {id : UUID}
  {base assigned stored columns : DeliveryColumns}

theorem mono (justified : Justified policy older id columns) (grown : older <:+ newer) :
    Justified policy newer id columns where
  counted := justified.counted.trans (raisedSends_mono id grown)
  sent status := by
    obtain ⟨message, member⟩ := justified.sent status
    exact ⟨message, grown.subset member⟩
  failed status := by
    rcases justified.failed status with ⟨message, error, member, permanent⟩ | exhausted
    · exact .inl ⟨message, error, grown.subset member, permanent⟩
    · exact .inr (exhausted.trans (by exact_mod_cast raisedSends_mono id grown))

/-- A commit mixes two values of each column, and each of them has its reason. -/
theorem write (old : Justified policy log id stored) (new : Justified policy log id assigned) :
    Justified policy log id (.write base assigned stored) where
  counted := ColumnWrite.writeColumn_induction (P := fun count => count ≤ raisedSends id log)
    base.retryCount old.counted new.counted
  sent := ColumnWrite.writeColumn_induction (P := fun status => status = .sent → _)
    base.status old.sent new.sent
  failed := ColumnWrite.writeColumn_induction (P := fun status => status = .failed → _)
    base.status old.failed new.failed

/-- A status that is not terminal needs no reason. -/
theorem of_live (justified : Justified policy log id columns) {status : NotificationStatus}
    (live : status.isTerminal = false) : Justified policy log id { columns with status } where
  counted := justified.counted
  sent := by
    rintro rfl
    cases live
  failed := by
    rintro rfl
    cases live

/-- The outcome of a provider call backs the columns that the worker assigns after it. -/
theorem settles {row : Notification} {outcome : ProviderOutcome} {result : DispatchResult}
    (justified : Justified policy log id row.toDeliveryColumns)
    (settles : Settles policy row outcome assigned result) (message : OutboundMessage) :
    Justified policy (.provider id message outcome :: log) id assigned := by
  have grown : raisedSends id log ≤ raisedSends id (.provider id message outcome :: log) :=
    raisedSends_mono id (List.suffix_cons _ _)
  have counted := justified.counted
  cases settles with
  | sent now =>
      exact ⟨counted.trans grown, fun _ => ⟨message, List.mem_cons_self⟩, by rintro ⟨⟩⟩
  | retry error countdown transient budget scheduled =>
      refine ⟨?_, by rintro ⟨⟩, by rintro ⟨⟩⟩
      rw [raisedSends_cons]
      simpa [Event.isRaised, countFailure] using counted
  | failed error exhausted =>
      have burned : row.retryCount + 1 ≤
          raisedSends id (.provider id message (.raised error) :: log) := by
        rw [raisedSends_cons]
        simpa [Event.isRaised] using counted
      refine ⟨burned, by rintro ⟨⟩, fun _ => ?_⟩
      rcases exhausted with permanent | budget
      · exact .inl ⟨message, error, List.mem_cons_self, permanent⟩
      · exact .inr (budget.trans (by exact_mod_cast burned))

end Justified

/-- The row is one that an `accept` call has created, but for its justified delivery columns. -/
structure Founded (policy : DeliveryRetryPolicy) (log : List Event) (id : UUID)
    (row : Notification) : Prop where
  created : ∃ call clientId request, Event.inserted call (create clientId request id) ∈ log ∧
    row = (create clientId request id).withColumns row.toDeliveryColumns
  justified : Justified policy log id row.toDeliveryColumns

namespace Founded

variable {policy : DeliveryRetryPolicy} {older newer log : List Event} {id : UUID}
  {row : Notification}

theorem mono (founded : Founded policy older id row) (grown : older <:+ newer) :
    Founded policy newer id row where
  created := by
    obtain ⟨call, clientId, request, member, same⟩ := founded.created
    exact ⟨call, clientId, request, grown.subset member, same⟩
  justified := founded.justified.mono grown

/-- The same row with other delivery columns, when these are justified too. -/
theorem withColumns (founded : Founded policy log id row) {columns : DeliveryColumns}
    (justified : Justified policy log id columns) :
    Founded policy log id (row.withColumns columns) where
  created := by
    obtain ⟨call, clientId, request, member, same⟩ := founded.created
    exact ⟨call, clientId, request, member, by rw [same]; rfl⟩
  justified := justified

/-- A row is founded as soon as it is created. -/
theorem inserted (policy : DeliveryRetryPolicy) (call : Nat) (clientId : UUID)
    (request : SendNotificationRequest) (id : UUID) (log : List Event) :
    Founded policy (.inserted call (create clientId request id) :: log) id
      (create clientId request id) where
  created := ⟨call, clientId, request, List.mem_cons_self, rfl⟩
  justified := ⟨Nat.zero_le _, by rintro ⟨⟩, by rintro ⟨⟩⟩

/-- What the provider is given for a founded row is the request that created it. -/
theorem outbound (founded : Founded policy log id row) :
    ∃ call clientId request, Event.inserted call (create clientId request id) ∈ log ∧
      row.outbound = ⟨request.channel, request.recipient, request.template, request.payload⟩ := by
  obtain ⟨call, clientId, request, member, same⟩ := founded.created
  exact ⟨call, clientId, request, member, by rw [same]; rfl⟩

end Founded

namespace Engine

variable {policy : DeliveryRetryPolicy} {state next : Engine} {action : Action}

def StoredFounded (policy : DeliveryRetryPolicy) (state : Engine) : Prop :=
  ∀ id row, state.table.getById id = some row → Founded policy state.log id row

def WorkingFounded (policy : DeliveryRetryPolicy) (state : Engine) : Prop :=
  ∀ worker message phase row, state.Runs worker message phase → phase.object = some row →
    Founded policy state.log message.notificationId row

/-- The object of a change is what its commit writes. -/
theorem object_of_pendingCommit {phase after : DispatchPhase} {change : Change}
    (pending : phase.pendingCommit = some (change, after)) : phase.object = some change.row := by
  rcases DispatchPhase.pendingCommit_cases pending with ⟨rfl, -⟩ | ⟨result, rfl, -⟩
  · rfl
  · rfl

theorem storedFounded_step (stored : StoredFounded policy state)
    (working : WorkingFounded policy state) (owned : WorkersOwned policy state)
    (hstep : Step policy state action next) : StoredFounded policy next := by
  intro id row found
  cases old : state.table.getById id with
  | none =>
      obtain ⟨call, clientId, request, -, rfl, -, logged⟩ := stored_new hstep old found
      rw [logged]
      exact .inserted policy call clientId request id state.log
  | some before =>
      rcases stored_step hstep old with
        same | ⟨worker, message, phase, change, after, rfl, held, pending, rfl, written⟩
      · cases same.symm.trans found
        exact (stored id row old).mono (log_grows hstep)
      · cases written.symm.trans found
        have own := ((owned _ _ _ held).pendingCommit pending).1
        have assigned := working _ _ _ _ held (object_of_pendingCommit pending)
        rw [← own] at assigned
        have before := stored _ _ old
        exact (before.withColumns (before.justified.write assigned.justified)).mono
          (log_grows hstep)

/-- What a load hands to the worker is a stored row, at most moved to PROCESSING. -/
theorem founded_ofLoad {log : List Event} {id : UUID} {found : Option Notification}
    {row : Notification} (stored : ∀ row, found = some row → Founded policy log id row)
    (object : (DispatchPhase.ofLoad (afterLoad found)).object = some row) :
    Founded policy log id row := by
  obtain ⟨loaded, same, loads⟩ := afterLoad_loads found
  rw [same] at object
  cases loads with
  | missing => cases object
  | skipped => cases object
  | claim row pending legal =>
      cases object
      have founded := stored row rfl
      exact founded.withColumns (founded.justified.of_live rfl)
  | resume row processing =>
      cases object
      exact stored row rfl

theorem workingFounded_step (stored : StoredFounded policy state)
    (working : WorkingFounded policy state) (owned : WorkersOwned policy state)
    (hstep : Step policy state action next) : WorkingFounded policy next := by
  have grown := log_grows hstep
  intro worker message phase row runs object
  rcases runs_step hstep runs with ⟨-, old⟩ | enters
  · exact (working worker message phase row old object).mono grown
  · cases enters with
    | deliver => cases object
    | load => exact (founded_ofLoad (fun row found => stored _ row found) object).mono grown
    | commit before _ change held pending =>
        obtain ⟨-, ⟨rfl, rfl, -⟩ | ⟨result, outcome, rfl, rfl, -⟩⟩ :=
          (owned _ _ _ held).pendingCommit pending
        · exact (working _ _ _ _ held object).mono grown
        · cases object
    | commitRaised => cases object
    | send outcome now sending held =>
        obtain ⟨change, result, same, base, -, -, settles⟩ :=
          (owned _ _ _ held).afterSend now outcome
        rw [same] at object
        cases object
        have founded := working _ _ _ _ held rfl
        rw [Change.row, base]
        refine (founded.mono grown).withColumns ?_
        cases hstep with
        | send _ _ _ _ _ held' =>
            cases held.symm.trans held'
            exact founded.justified.settles settles _

/-! ## No message without a row -/

def MessagesStored (state : Engine) : Prop :=
  ∀ message, state.Outstanding message →
    ∃ row, state.table.getById message.notificationId = some row

theorem messagesStored_step (messages : MessagesStored state) (calls : CallsSound state)
    (hstep : Step policy state action next) : MessagesStored next := by
  intro message outstanding
  have persists : ∀ {id row}, state.table.getById id = some row →
      ∃ row', next.table.getById id = some row' := fun found => by
    obtain ⟨columns, found'⟩ := stored_persists hstep found
    exact ⟨_, found'⟩
  rcases outstanding_step hstep outstanding with
    old | ⟨call, clientId, request, row, -, at_enqueue, rfl⟩ |
      ⟨worker, held, result, -, runs, -, followUp⟩
  · obtain ⟨row, found⟩ := messages message old
    exact persists found
  · obtain ⟨stored, found⟩ := calls.stored_of_enqueue at_enqueue
    exact persists found
  · obtain ⟨row, found⟩ := messages held (outstanding_of_held runs)
    obtain ⟨-, rfl⟩ := Message.retry_eq_some.mp followUp
    exact persists found

/-- No call of `dispatch` has returned MISSING. -/
def NoneMissing (state : Engine) : Prop :=
  ∀ worker message result, state.Runs worker message (.returned result) →
    result.action ≠ .missing

theorem settles_ne_missing {row : Notification} {outcome : ProviderOutcome}
    {assigned : DeliveryColumns} {result : DispatchResult}
    (settles : Settles policy row outcome assigned result) : result.action ≠ .missing := by
  cases settles with
  | sent => rintro ⟨⟩
  | retry => rintro ⟨⟩
  | failed => rintro ⟨⟩

theorem noneMissing_step (noneMissing : NoneMissing state) (messages : MessagesStored state)
    (owned : WorkersOwned policy state) (hstep : Step policy state action next) :
    NoneMissing next := by
  intro worker message result runs
  rcases returned_step owned hstep runs with ⟨-, old⟩ | returns
  · exact noneMissing worker message result old
  · cases returns with
    | missing absent held =>
        obtain ⟨row, found⟩ := messages message (outstanding_of_held held)
        cases absent.symm.trans found
    | skipped => rintro ⟨⟩
    | settled change _ outcome held settles => exact settles_ne_missing settles

/-! ## What the provider was given -/

/-- Every message that the provider was given is that of the request which created the row. -/
def MessagesFounded (state : Engine) : Prop :=
  ∀ id message outcome, .provider id message outcome ∈ state.log →
    ∃ call clientId request, .inserted call (create clientId request id) ∈ state.log ∧
      message = ⟨request.channel, request.recipient, request.template, request.payload⟩

theorem messagesFounded_step (messages : MessagesFounded state)
    (working : WorkingFounded policy state) (hstep : Step policy state action next) :
    MessagesFounded next := by
  have grown := (log_grows hstep).subset
  intro id message outcome called
  rcases event_step hstep called with old | new
  · obtain ⟨call, clientId, request, member, same⟩ := messages id message outcome old
    exact ⟨call, clientId, request, grown member, same⟩
  · cases new with
    | send worker _ now held row runs =>
        obtain ⟨call, clientId, request, member, same⟩ := (working _ _ _ _ runs rfl).outbound
        exact ⟨call, clientId, request, grown member, same⟩

/-! ## Whole runs -/

structure SystemSound (policy : DeliveryRetryPolicy) (state : Engine) : Prop where
  owned : WorkersOwned policy state
  calls : CallsSound state
  stored : StoredFounded policy state
  working : WorkingFounded policy state
  messages : MessagesStored state
  noneMissing : NoneMissing state
  provided : MessagesFounded state

theorem systemSound_start (policy : DeliveryRetryPolicy) :
    SystemSound policy (start .empty []) where
  owned := workersOwned_start policy .empty []
  calls := callsSound_start .empty []
  stored := by rintro _ _ ⟨⟩
  working := by rintro _ _ _ _ ⟨⟩
  messages := by
    rintro message (waiting | ⟨_, _, ⟨⟩, _⟩)
    exact absurd waiting List.not_mem_nil
  noneMissing := by rintro _ _ _ ⟨⟩
  provided := by rintro _ _ _ ⟨⟩

theorem systemSound_step (sound : SystemSound policy state)
    (hstep : Step policy state action next) : SystemSound policy next where
  owned := workersOwned_step sound.owned hstep
  calls := callsSound_step sound.calls hstep
  stored := storedFounded_step sound.stored sound.working sound.owned hstep
  working := workingFounded_step sound.stored sound.working sound.owned hstep
  messages := messagesStored_step sound.messages sound.calls hstep
  noneMissing := noneMissing_step sound.noneMissing sound.messages sound.owned hstep
  provided := messagesFounded_step sound.provided sound.working hstep

theorem systemSound_run {final : Engine} {actions : List Action}
    (reached : run (step policy) (start .empty []) actions = some final) :
    SystemSound policy final :=
  run_invariant (fun _ _ _ sound hstep => systemSound_step sound (step_sound hstep))
    (systemSound_start policy) reached

/-- What a stored terminal status, a provider call and a finished dispatch tell about the past. -/
structure WellFounded (policy : DeliveryRetryPolicy) (state : Engine) : Prop where
  noneMissing : ∀ worker message result, state.Runs worker message (.returned result) →
    result.action ≠ .missing
  provided : ∀ id message outcome, .provider id message outcome ∈ state.log →
    (∃ call row, .inserted call row ∈ state.log ∧ row.id = id) ∧
      ∀ call row, .inserted call row ∈ state.log → row.id = id →
        ∃ clientId request phase, state.calls call = some ⟨clientId, request, phase⟩ ∧
          row = create clientId request id ∧
          message = ⟨request.channel, request.recipient, request.template, request.payload⟩
  sent : ∀ id row, state.table.getById id = some row → row.status = .sent →
    ∃ message, .provider id message .returned ∈ state.log
  failed : ∀ id row, state.table.getById id = some row → row.status = .failed →
    (∃ message error, .provider id message (.raised error) ∈ state.log ∧
        error.permanent = true) ∨
      policy.maxAttempts ≤ raisedSends id state.log

theorem SystemSound.wellFounded (sound : SystemSound policy state) : WellFounded policy state where
  noneMissing := sound.noneMissing
  provided := by
    intro id message outcome called
    obtain ⟨creator, clientId, request, created, same⟩ := sound.provided id message outcome called
    refine ⟨⟨creator, _, created, rfl⟩, ?_⟩
    rintro call row inserted rfl
    obtain ⟨rfl, own⟩ := sound.calls.insertion_unique (mem_insertions.mpr inserted)
      (mem_insertions.mpr created) rfl
    obtain ⟨clientId', request', phase, at_call, created'⟩ :=
      sound.calls.request_of_inserted (mem_insertions.mpr inserted)
    refine ⟨clientId', request', phase, at_call, created', ?_⟩
    have outbound : row.outbound = message := by
      rw [own, same]
      rfl
    rw [← outbound, created']
    rfl
  sent id row found := (sound.stored id row found).justified.sent
  failed id row found := (sound.stored id row found).justified.failed

/--
In every run of the whole system, with crashes, duplicates and any
interleaving: no dispatch returns MISSING, the provider gets the request's
fields, SENT rows have been sent, and FAILED rows have failed for good or used
up their attempts.
-/
theorem terminal_statuses_founded (policy : DeliveryRetryPolicy) (actions : List Action)
    (state : Engine)
    (reached : run (step policy) (start .empty []) actions = some state) :
    WellFounded policy state :=
  (systemSound_run reached).wellFounded

def acceptAndSend : List Action :=
  [.accept 0 7 (.welcome none), .insert 0 1, .enqueue 0 .published, .deliver 0 ⟨1, 0⟩, .load 0,
    .commit 0 true, .send 0 .returned 0, .commit 0 true]

theorem terminal_statuses_founded_acceptAndSend :
    ∃ state, run (step .default) (start .empty []) acceptAndSend = some state ∧
      WellFounded .default state ∧ (state.table.getById 1).map (·.status) = some .sent :=
  ⟨_, rfl, terminal_statuses_founded .default acceptAndSend _ rfl, rfl⟩

end Engine

end NotificationsEngine
