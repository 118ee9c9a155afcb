import NotificationsEngine.Engine.Provenance
import NotificationsEngine.Providers.Simulated

/-!
# A deterministic provider under any interleaving

When the answer of the provider depends on its message alone, what a row can
become is decided by its request, whatever workers, copies, crashes and failing
commits do to it: each column that a stale copy may write back was itself
assigned after an answer to the same message.
-/

namespace NotificationsEngine

open StepMachine

/-- A message on a row is the truncated text of the exception that the answer is. -/
def ProviderOutcome.Explains (outcome : ProviderOutcome) (message : Option Str) : Prop :=
  ∀ text, message = some text →
    ∃ error, outcome = .raised error ∧ text = error.text.take errorMessageMax

/-- What the columns of a row can hold when every call for it is answered so. -/
structure ColumnsFated (outcome : ProviderOutcome) (columns : DeliveryColumns) : Prop where
  sent : columns.status = .sent → outcome = .returned
  failed : columns.status = .failed → outcome ≠ .returned
  counted : 0 < columns.retryCount → outcome ≠ .returned
  sentAt : columns.sentAt ≠ none → outcome = .returned
  message : outcome.Explains columns.errorMessage

/-- What `dispatch` can return when every call for the row is answered so. -/
structure ResultFated (outcome : ProviderOutcome) (result : DispatchResult) : Prop where
  deadLetter : result.deadLetter = true → outcome ≠ .returned
  retry : result.action = .retry → ∃ error, outcome = .raised error ∧ error.permanent = false

namespace ColumnsFated

variable {policy : DeliveryRetryPolicy} {outcome : ProviderOutcome}
  {base assigned stored columns : DeliveryColumns}

theorem created (outcome : ProviderOutcome) (clientId : UUID)
    (request : SendNotificationRequest) (id : UUID) :
    ColumnsFated outcome (create clientId request id).toDeliveryColumns where
  sent := by rintro ⟨⟩
  failed := by rintro ⟨⟩
  counted := by rintro ⟨⟩
  sentAt := fun assigned => absurd rfl assigned
  message := by rintro _ ⟨⟩

/-- A commit mixes two values of each column, both with this fate. -/
theorem write (old : ColumnsFated outcome stored) (new : ColumnsFated outcome assigned) :
    ColumnsFated outcome (.write base assigned stored) where
  sent := ColumnWrite.writeColumn_induction (P := fun status => status = .sent → _)
    base.status old.sent new.sent
  failed := ColumnWrite.writeColumn_induction (P := fun status => status = .failed → _)
    base.status old.failed new.failed
  counted := ColumnWrite.writeColumn_induction (P := fun count => 0 < count → _)
    base.retryCount old.counted new.counted
  sentAt := ColumnWrite.writeColumn_induction (P := fun time => time ≠ none → _)
    base.sentAt old.sentAt new.sentAt
  message := ColumnWrite.writeColumn_induction (P := outcome.Explains)
    base.errorMessage old.message new.message

theorem of_live (fated : ColumnsFated outcome columns) {status : NotificationStatus}
    (live : status.isTerminal = false) : ColumnsFated outcome { columns with status } where
  sent := by
    rintro rfl
    cases live
  failed := by
    rintro rfl
    cases live
  counted := fated.counted
  sentAt := fated.sentAt
  message := fated.message

/-- The answer itself decides what is assigned after it and what is returned. -/
theorem settles {row : Notification} {result : DispatchResult}
    (fated : ColumnsFated outcome row.toDeliveryColumns)
    (settles : Settles policy row outcome assigned result) :
    ColumnsFated outcome assigned ∧ ResultFated outcome result := by
  cases settles with
  | sent now =>
      exact ⟨⟨fun _ => rfl, by rintro ⟨⟩, fated.counted, fun _ => rfl, by rintro _ ⟨⟩⟩,
        ⟨by rintro ⟨⟩, by rintro ⟨⟩⟩⟩
  | retry error countdown transient budget scheduled =>
      refine ⟨⟨by rintro ⟨⟩, by rintro ⟨⟩, by rintro _ ⟨⟩, fated.sentAt, ?_⟩,
        ⟨by rintro ⟨⟩, fun _ => ⟨error, rfl, transient⟩⟩⟩
      rintro _ ⟨⟩
      exact ⟨error, rfl, rfl⟩
  | failed error exhausted =>
      refine ⟨⟨by rintro ⟨⟩, by rintro _ ⟨⟩, by rintro _ ⟨⟩, fated.sentAt, ?_⟩,
        ⟨by rintro _ ⟨⟩, by rintro ⟨⟩⟩⟩
      rintro _ ⟨⟩
      exact ⟨error, rfl, rfl⟩

/-- A row whose provider raises is not SENT and carries the text of the exception or none. -/
theorem unsent {error : ProviderException} (fated : ColumnsFated outcome columns)
    (raised : outcome = .raised error) (short : error.text.take errorMessageMax = error.text) :
    columns.status ≠ .sent ∧ columns.sentAt = none ∧
      (columns.errorMessage = none ∨ columns.errorMessage = some error.text) := by
  have failing : outcome ≠ .returned := by
    rw [raised]
    rintro ⟨⟩
  refine ⟨fun status => failing (fated.sent status), ?_, ?_⟩
  · by_contra sent
    exact failing (fated.sentAt sent)
  · cases text : columns.errorMessage with
    | none => exact .inl rfl
    | some text =>
        obtain ⟨error', raised', same⟩ := fated.message _ text
        cases raised.symm.trans raised'
        exact .inr (by rw [same, short])

end ColumnsFated

/-- Where a call of `dispatch` can stand when every call for its row is answered so. -/
inductive DispatchPhase.Fated (outcome : ProviderOutcome) : DispatchPhase → Prop where
  | load : Fated outcome .load
  | claim (change : Change) (columns : ColumnsFated outcome change.assigned) :
      Fated outcome (.claim change)
  | send (row : Notification) (columns : ColumnsFated outcome row.toDeliveryColumns) :
      Fated outcome (.send row)
  | settle (change : Change) (result : DispatchResult)
      (columns : ColumnsFated outcome change.assigned) (verdict : ResultFated outcome result) :
      Fated outcome (.settle change result)
  | returned (result : DispatchResult) (verdict : ResultFated outcome result) :
      Fated outcome (.returned result)
  | raised (error : DispatchError) : Fated outcome (.raised error)

namespace DispatchPhase.Fated

variable {outcome : ProviderOutcome} {phase after : DispatchPhase} {change : Change}

theorem commit (fated : phase.Fated outcome)
    (pending : phase.pendingCommit = some (change, after)) :
    ColumnsFated outcome change.assigned ∧ after.Fated outcome := by
  rcases pendingCommit_cases pending with ⟨rfl, rfl⟩ | ⟨result, rfl, rfl⟩
  · cases fated with
    | claim _ columns => exact ⟨columns, .send _ columns⟩
  · cases fated with
    | settle _ _ columns verdict => exact ⟨columns, .returned _ verdict⟩

theorem of_load {found : Option Notification}
    (stored : ∀ row, found = some row → ColumnsFated outcome row.toDeliveryColumns) :
    (DispatchPhase.ofLoad (afterLoad found)).Fated outcome := by
  obtain ⟨loaded, same, loads⟩ := afterLoad_loads found
  rw [same]
  cases loads with
  | missing => exact .returned _ ⟨by rintro ⟨⟩, by rintro ⟨⟩⟩
  | skipped => exact .returned _ ⟨by rintro ⟨⟩, by rintro ⟨⟩⟩
  | claim row pending legal => exact .claim _ ((stored row rfl).of_live rfl)
  | resume row processing => exact .send _ (stored row rfl)

end DispatchPhase.Fated

def Event.answeredBy (provider : OutboundMessage → ProviderOutcome) : Event → Bool
  | .provider _ message outcome => outcome = provider message
  | _ => true

/-- What the request of the row `id` gives to the provider. -/
def Requested (log : List Event) (id : UUID) (message : OutboundMessage) : Prop :=
  ∃ call clientId request, Event.inserted call (create clientId request id) ∈ log ∧
    message = (create clientId request id).outbound

theorem Requested.mono {older newer : List Event} {id : UUID} {message : OutboundMessage}
    (requested : Requested older id message) (grown : older <:+ newer) :
    Requested newer id message := by
  obtain ⟨call, clientId, request, member, same⟩ := requested
  exact ⟨call, clientId, request, grown.subset member, same⟩

theorem Founded.requested {policy : DeliveryRetryPolicy} {log : List Event} {id : UUID}
    {row : Notification} (founded : Founded policy log id row) :
    Requested log id row.outbound := founded.outbound

namespace Engine

variable {policy : DeliveryRetryPolicy} {provider : OutboundMessage → ProviderOutcome}
  {state next : Engine} {action : Action}

/-- A row has one request. -/
theorem CallsSound.requested_unique (sound : CallsSound state) {id : UUID}
    {first second : OutboundMessage} (hfirst : Requested state.log id first)
    (hsecond : Requested state.log id second) : first = second := by
  obtain ⟨_, _, _, member, rfl⟩ := hfirst
  obtain ⟨_, _, _, member', rfl⟩ := hsecond
  obtain ⟨-, same⟩ := sound.insertion_unique (mem_insertions.mpr member)
    (mem_insertions.mpr member') rfl
  rw [same]

def AnsweredBy (provider : OutboundMessage → ProviderOutcome) (log : List Event) : Prop :=
  ∀ id message outcome, .provider id message outcome ∈ log → outcome = provider message

theorem answeredBy_iff {log : List Event} :
    AnsweredBy provider log ↔ log.all (Event.answeredBy provider) = true := by
  rw [List.all_eq_true]
  constructor
  · intro answered event member
    cases event with
    | provider id message outcome => exact decide_eq_true (answered id message outcome member)
    | inserted => rfl
    | enqueue => rfl
    | deadLettered => rfl
    | faulted => rfl
  · exact fun all id message outcome member => of_decide_eq_true (all _ member)

theorem AnsweredBy.of_suffix {older newer : List Event} (answered : AnsweredBy provider newer)
    (grown : older <:+ newer) : AnsweredBy provider older :=
  fun id message outcome called => answered id message outcome (grown.subset called)

/-- Rows, calls of `dispatch`, retries and dead letters are those of the provider's answer. -/
structure ProviderSound (provider : OutboundMessage → ProviderOutcome) (state : Engine) :
    Prop where
  stored : ∀ id row, state.table.getById id = some row →
    ColumnsFated (provider row.outbound) row.toDeliveryColumns
  working : ∀ worker message phase, state.Runs worker message phase →
    ∃ outbound, Requested state.log message.notificationId outbound ∧
      phase.Fated (provider outbound)
  retried : ∀ message, state.Outstanding message → 0 < message.retries →
    ∃ outbound error, Requested state.log message.notificationId outbound ∧
      provider outbound = .raised error ∧ error.permanent = false
  deadLettered : ∀ id, .deadLettered id ∈ state.log →
    ∃ outbound, Requested state.log id outbound ∧ provider outbound ≠ .returned

theorem providerSound_start (provider : OutboundMessage → ProviderOutcome) :
    ProviderSound provider (start .empty []) where
  stored := by rintro _ _ ⟨⟩
  working := by rintro _ _ _ ⟨⟩
  retried := by
    rintro message (waiting | ⟨_, _, ⟨⟩, _⟩)
    exact absurd waiting List.not_mem_nil
  deadLettered := by rintro _ ⟨⟩

namespace ProviderSound

/-- What a worker is about to commit has the fate of the stored row. -/
theorem assigned (fated : ProviderSound provider state) (sound : SystemSound policy state)
    {worker : Nat} {message : Message} {phase after : DispatchPhase} {change : Change}
    {row : Notification} (held : state.Runs worker message phase)
    (pending : phase.pendingCommit = some (change, after))
    (found : state.table.getById change.base.id = some row) :
    ColumnsFated (provider row.outbound) change.assigned := by
  obtain ⟨outbound, requested, standing⟩ := fated.working _ _ _ held
  have own := ((sound.owned _ _ _ held).pendingCommit pending).1
  rw [own] at found
  rw [sound.calls.requested_unique (sound.stored _ _ found).requested requested]
  exact (standing.commit pending).1

theorem stored_step (fated : ProviderSound provider state) (sound : SystemSound policy state)
    (hstep : Step policy state action next) {id : UUID} {row : Notification}
    (found : next.table.getById id = some row) :
    ColumnsFated (provider row.outbound) row.toDeliveryColumns := by
  cases old : state.table.getById id with
  | none =>
      obtain ⟨call, clientId, request, -, rfl, -, -⟩ := stored_new hstep old found
      exact .created _ _ _ _
  | some before =>
      rcases Engine.stored_step hstep old with
        same | ⟨worker, message, phase, change, after, rfl, held, pending, rfl, written⟩
      · cases same.symm.trans found
        exact fated.stored id row old
      · cases written.symm.trans found
        exact (fated.stored _ _ old).write (fated.assigned sound held pending old)

theorem working_step (fated : ProviderSound provider state) (sound : SystemSound policy state)
    (hstep : Step policy state action next) (answered : AnsweredBy provider next.log)
    {worker : Nat} {message : Message} {phase : DispatchPhase}
    (runs : next.Runs worker message phase) :
    ∃ outbound, Requested next.log message.notificationId outbound ∧
      phase.Fated (provider outbound) := by
  have grown := log_grows hstep
  rcases runs_step hstep runs with ⟨-, old⟩ | enters
  · obtain ⟨outbound, requested, standing⟩ := fated.working _ _ _ old
    exact ⟨outbound, requested.mono grown, standing⟩
  · cases enters with
    | deliver idle waiting =>
        obtain ⟨row, found⟩ := sound.messages message (.inl waiting)
        exact ⟨_, (sound.stored _ _ found).requested.mono grown, .load⟩
    | load held =>
        obtain ⟨outbound, requested, -⟩ := fated.working _ _ _ held
        refine ⟨outbound, requested.mono grown, .of_load fun row found => ?_⟩
        rw [sound.calls.requested_unique requested (sound.stored _ _ found).requested]
        exact fated.stored _ _ found
    | commit before _ change held pending =>
        obtain ⟨outbound, requested, standing⟩ := fated.working _ _ _ held
        exact ⟨outbound, requested.mono grown, (standing.commit pending).2⟩
    | commitRaised before _ change held pending =>
        obtain ⟨outbound, requested, -⟩ := fated.working _ _ _ held
        exact ⟨outbound, requested.mono grown, .raised _⟩
    | send outcome now row held =>
        obtain ⟨outbound, requested, standing⟩ := fated.working _ _ _ held
        obtain ⟨change, result, same, base, -, -, settles⟩ :=
          (sound.owned _ _ _ held).afterSend now outcome
        have own := (sound.working _ _ _ _ held rfl).requested
        have answer : outcome = provider row.outbound := by
          cases hstep with
          | send _ _ _ _ _ held' =>
              cases held.symm.trans held'
              exact answered _ _ _ List.mem_cons_self
        rw [sound.calls.requested_unique own requested] at answer
        refine ⟨outbound, requested.mono grown, ?_⟩
        rw [same, ← answer]
        rw [← answer] at standing
        cases standing with
        | send _ columns =>
            obtain ⟨assigned, verdict⟩ := columns.settles settles
            exact .settle change result assigned verdict

theorem step (fated : ProviderSound provider state) (sound : SystemSound policy state)
    (hstep : Step policy state action next) (answered : AnsweredBy provider next.log) :
    ProviderSound provider next where
  stored _ _ found := fated.stored_step sound hstep found
  working _ _ _ runs := fated.working_step sound hstep answered runs
  retried := by
    intro message outstanding counted
    have grown := log_grows hstep
    rcases outstanding_step hstep outstanding with
      old | ⟨call, clientId, request, row, -, -, rfl⟩ |
        ⟨worker, held, result, -, runs, again, followUp⟩
    · obtain ⟨outbound, error, requested, rest⟩ := fated.retried message old counted
      exact ⟨outbound, error, requested.mono grown, rest⟩
    · cases counted
    · obtain ⟨-, rfl⟩ := Message.retry_eq_some.mp followUp
      obtain ⟨outbound, requested, standing⟩ := fated.working _ _ _ runs
      cases standing with
      | returned _ verdict =>
          obtain ⟨error, raised, transient⟩ := verdict.retry again
          exact ⟨outbound, error, requested.mono grown, raised, transient⟩
  deadLettered := by
    intro id logged
    have grown := log_grows hstep
    rcases event_step hstep logged with old | new
    · obtain ⟨outbound, requested, failing⟩ := fated.deadLettered id old
      exact ⟨outbound, requested.mono grown, failing⟩
    · cases new with
      | deadLettered worker message result held dead =>
          obtain ⟨outbound, requested, standing⟩ := fated.working _ _ _ held
          cases standing with
          | returned _ verdict =>
              exact ⟨outbound, requested.mono grown, verdict.deadLetter dead⟩

end ProviderSound

/-- A transient failure alone leads to FAILED only when the budget is used up. -/
theorem SystemSound.exhausted (sound : SystemSound policy state)
    (answered : AnsweredBy provider state.log)
    {id : UUID} {row : Notification} {error : ProviderException}
    (found : state.table.getById id = some row) (failed : row.status = .failed)
    (answer : provider row.outbound = .raised error) (transient : error.permanent = false) :
    policy.maxAttempts ≤ raisedSends id state.log := by
  rcases (sound.stored id row found).justified.failed failed with
    ⟨message, error', called, permanent⟩ | exhausted
  · obtain ⟨call, clientId, request, member, same⟩ := sound.provided _ _ _ called
    have requested : Requested state.log id message := ⟨call, clientId, request, member, same⟩
    rw [sound.calls.requested_unique (sound.stored id row found).requested requested,
      ← answered _ _ _ called] at answer
    cases answer
    rw [transient] at permanent
    cases permanent
  · exact exhausted

theorem providerSound_run {final : Engine} {actions : List Action}
    (reached : run (step policy) (start .empty []) actions = some final)
    (answered : AnsweredBy provider final.log) :
    SystemSound policy final ∧ ProviderSound provider final := by
  have invariant : SystemSound policy final ∧
      (AnsweredBy provider final.log → ProviderSound provider final) := by
    refine run_invariant
      (I := fun state => SystemSound policy state ∧
        (AnsweredBy provider state.log → ProviderSound provider state))
      ?_ ⟨systemSound_start policy, fun _ => providerSound_start provider⟩ reached
    rintro state action next ⟨sound, fated⟩ hstep
    have listed := step_sound hstep
    exact ⟨systemSound_step sound listed, fun answered =>
      (fated (answered.of_suffix (log_grows listed))).step sound listed answered⟩
  exact ⟨invariant.1, invariant.2 answered⟩

/-! ## The simulated adapter -/

open SimulatedNotificationProvider

/-- What a stored row can be, and what waits for it, by the template of its request. -/
structure SimulatedFate (policy : DeliveryRetryPolicy) (state : Engine) (id : UUID)
    (row : Notification) : Prop where
  plain : row.template ≠ permanentFailTemplate → row.template ≠ transientFailTemplate →
    row.status ≠ .failed ∧ row.retryCount = 0 ∧ row.errorMessage = none ∧
      id ∉ deadLettered state.log ∧
      ∀ message, state.Outstanding message → message.notificationId = id → message.retries = 0
  permanent : row.template = permanentFailTemplate →
    row.status ≠ .sent ∧ row.sentAt = none ∧
      (row.errorMessage = none ∨
        row.errorMessage = some (.ofString "simulated permanent failure")) ∧
      ∀ message, state.Outstanding message → message.notificationId = id → message.retries = 0
  transient : row.template = transientFailTemplate →
    row.status ≠ .sent ∧ row.sentAt = none ∧
      (row.errorMessage = none ∨
        row.errorMessage = some (.ofString "simulated transient failure")) ∧
      (row.status = .failed → policy.maxAttempts ≤ raisedSends id state.log)

theorem mem_deadLettered {id : UUID} {log : List Event} :
    id ∈ deadLettered log ↔ .deadLettered id ∈ log := by
  rw [deadLettered, List.mem_filterMap]
  constructor
  · rintro ⟨event, member, same⟩
    cases event <;> cases same
    exact member
  · exact fun member => ⟨_, member, rfl⟩

variable {id : UUID} {row : Notification}

/-- Retries wait only for rows whose provider raises a transient failure. -/
theorem ProviderSound.first_only (fated : ProviderSound provider state)
    (sound : SystemSound policy state) (found : state.table.getById id = some row)
    (final : ∀ error, provider row.outbound = .raised error → error.permanent = true) :
    ∀ message, state.Outstanding message → message.notificationId = id → message.retries = 0 := by
  rintro message outstanding rfl
  by_contra counted
  obtain ⟨outbound, error, requested, raised, transient⟩ :=
    fated.retried message outstanding (Nat.pos_of_ne_zero counted)
  rw [sound.calls.requested_unique requested (sound.stored _ _ found).requested] at raised
  have permanent := final error raised
  rw [transient] at permanent
  cases permanent

/--
In every run of the whole system with the simulated adapter, with crashes,
duplicates, failing commits and any interleaving: the template of the request
decides what its row can become and what can wait for it.
-/
theorem simulated_fate (policy : DeliveryRetryPolicy) (actions : List Action) (state : Engine)
    (reached : run (step policy) (start .empty []) actions = some state)
    (answered : AnsweredBy SimulatedNotificationProvider.send state.log) (id : UUID)
    (row : Notification) (found : state.table.getById id = some row) :
    SimulatedFate policy state id row := by
  obtain ⟨sound, fated⟩ := providerSound_run reached answered
  have columns := fated.stored id row found
  constructor
  case plain =>
    intro notPermanent notTransient
    have returned : send row.outbound = .returned :=
      send_eq_returned_iff.mpr ⟨notPermanent, notTransient⟩
    refine ⟨fun failed => columns.failed failed returned, ?_, ?_, ?_, ?_⟩
    · by_contra counted
      exact columns.counted (Nat.pos_of_ne_zero counted) returned
    · cases text : row.errorMessage with
      | none => rfl
      | some text =>
          obtain ⟨error, raised, -⟩ := columns.message _ text
          cases returned.symm.trans raised
    · intro dead
      obtain ⟨outbound, requested, failing⟩ := fated.deadLettered id (mem_deadLettered.mp dead)
      rw [sound.calls.requested_unique requested (sound.stored id row found).requested] at failing
      exact failing returned
    · refine fated.first_only sound found fun error raised => ?_
      cases returned.symm.trans raised
  case permanent =>
    intro switch
    have raised : send row.outbound = .raised permanentFailure := send_of_permanent switch
    obtain ⟨unsent, noTime, text⟩ := columns.unsent raised (by decide)
    refine ⟨unsent, noTime, text, fated.first_only sound found fun error other => ?_⟩
    cases raised.symm.trans other
    rfl
  case transient =>
    intro switch
    have raised : send row.outbound = .raised transientFailure := send_of_transient switch
    obtain ⟨unsent, noTime, text⟩ := columns.unsent raised (by decide)
    exact ⟨unsent, noTime, text, fun failed => sound.exhausted answered found failed raised rfl⟩

/-- A request with the permanent switch, delivered twice by two workers at a time. -/
def failsTwice : List Action :=
  [.accept 0 7 { SendNotificationRequest.welcome none with template := permanentFailTemplate },
    .insert 0 1, .enqueue 0 .published, .duplicate ⟨1, 0⟩, .deliver 0 ⟨1, 0⟩, .deliver 1 ⟨1, 0⟩,
    .load 0, .load 1, .commit 0 true, .commit 1 true, .send 0 (.raised permanentFailure) 0,
    .send 1 (.raised permanentFailure) 0, .commit 0 true, .commit 1 true, .apply 0 true]

theorem simulated_fate_failsTwice :
    ∃ state row, run (step .default) (start .empty []) failsTwice = some state ∧
      state.table.getById 1 = some row ∧ row.status = .failed ∧
      SimulatedFate .default state 1 row := by
  exact ⟨_, _, rfl, rfl, rfl,
    simulated_fate .default failsTwice _ rfl (answeredBy_iff.mpr rfl) 1 _ rfl⟩

end Engine

end NotificationsEngine
