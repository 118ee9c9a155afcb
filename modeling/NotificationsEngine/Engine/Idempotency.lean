import NotificationsEngine.Engine.Calls

/-!
# Idempotent accept under any interleaving

From any committed table, with any number of `accept` calls cut at their
statements and workers running in between: one row for each client and key,
one enqueue for each row, and no `IntegrityError` for the caller.
-/

namespace NotificationsEngine.Engine

open StepMachine

/-- A statement of the call has refused a value; it has committed no row and enqueued no id. -/
structure RaisesData (state : Engine) (call : Nat) (phase : AcceptPhase) : Prop where
  phase : phase = .raised .data
  inserted : insertedBy call state.log = []
  enqueued : enqueuedBy call state.log = []

/-- What clients of `accept` and the queue can rely on at any moment. -/
structure AcceptsOnce (state : Engine) : Prop where
  oneRow : ∀ first ∈ state.table.rows, ∀ second ∈ state.table.rows, ∀ key,
    first.clientId = second.clientId → first.idempotencyKey = some key →
      second.idempotencyKey = some key → first = second
  answered : ∀ call clientId request response key,
    state.calls call = some ⟨clientId, request, .returned response⟩ →
      request.idempotencyKey = some key →
        ∃ row ∈ state.table.rows, row.clientId = clientId ∧ row.idempotencyKey = some key ∧
          response.notificationId = row.id
  raised : ∀ call clientId request error,
    state.calls call = some ⟨clientId, request, .raised error⟩ →
      error = .queueUnavailable ∨ request.fits = false ∧ RaisesData state call (.raised error)
  enqueuedOnce : ((enqueues state.log).map (·.2)).Nodup
  enqueuedAfter : ∀ newer call id outcome older,
    state.log = newer ++ .enqueue call id outcome :: older →
      ∃ row, .inserted call row ∈ older ∧ row.id = id
  /-- a call without a key that has ended has committed one row, and no other call that row -/
  unkeyed : ∀ call clientId request phase,
    state.calls call = some ⟨clientId, request, phase⟩ → request.idempotencyKey = none →
      ((∃ response, phase = .returned response) ∨ ∃ error, phase = .raised error) →
        request.fits = true →
          ∃ id, insertedBy call state.log = [create clientId request id] ∧
            (∃ columns, state.table.getById id =
              some ((create clientId request id).withColumns columns)) ∧
            ∀ other row, .inserted other row ∈ state.log → row.id = id → other = call
  /-- without a key, a request with a value that its column refuses ends by raising it -/
  misfit : ∀ call clientId request phase,
    state.calls call = some ⟨clientId, request, phase⟩ → request.idempotencyKey = none →
      ((∃ response, phase = .returned response) ∨ ∃ error, phase = .raised error) →
        request.fits = false → RaisesData state call phase

namespace CallsSound

variable {state : Engine}

theorem answered (sound : CallsSound state) {call : Nat} {clientId : UUID}
    {request : SendNotificationRequest} {response : SendAcceptedResponse}
    (returned : state.calls call = some ⟨clientId, request, .returned response⟩) :
    ∃ row ∈ state.table.rows, row.clientId = clientId ∧
      row.idempotencyKey = request.idempotencyKey ∧ response.notificationId = row.id := by
  have own := sound.accounted call
  rw [returned] at own
  generalize committed : insertedBy call state.log = inserted at own
  generalize enqueuedBy call state.log = enqueued at own
  cases own with
  | accepted _ _ id =>
      have member : create clientId request id ∈ insertedBy call state.log := by
        rw [committed]
        exact List.mem_singleton_self _
      obtain ⟨columns, found⟩ := sound.stored call _ (mem_insertedBy.mp member)
      exact ⟨_, Table.getById_mem found, rfl, rfl, rfl⟩
  | replayed _ _ _ _ row answers same =>
      exact ⟨row, answers.1, answers.2.1, answers.2.2, same⟩

theorem raised (sound : CallsSound state) {call : Nat} {clientId : UUID}
    {request : SendNotificationRequest} {error : AcceptError}
    (ended : state.calls call = some ⟨clientId, request, .raised error⟩) :
    error = .queueUnavailable ∨ request.fits = false ∧ RaisesData state call (.raised error) := by
  have own := sound.accounted call
  rw [ended] at own
  generalize committed : insertedBy call state.log = inserted at own
  generalize given : enqueuedBy call state.log = enqueued at own
  cases own with
  | unavailable => exact .inl rfl
  | refused _ _ misfit => exact .inr ⟨misfit, rfl, committed, given⟩

/-- Without a key a call cannot end by a replay: it has committed its row, or it has raised. -/
theorem unkeyed_ended (sound : CallsSound state) {call : Nat} {clientId : UUID}
    {request : SendNotificationRequest} {phase : AcceptPhase}
    (ended : state.calls call = some ⟨clientId, request, phase⟩)
    (noKey : request.idempotencyKey = none)
    (done : (∃ response, phase = .returned response) ∨ ∃ error, phase = .raised error) :
    (request.fits = true ∧ ∃ id, insertedBy call state.log = [create clientId request id]) ∨
      request.fits = false ∧ RaisesData state call phase := by
  have own := sound.accounted call
  rw [ended] at own
  generalize committed : insertedBy call state.log = inserted at own
  generalize given : enqueuedBy call state.log = enqueued at own
  rcases done with ⟨response, rfl⟩ | ⟨error, rfl⟩
  · cases own with
    | accepted _ _ id fits => exact .inl ⟨fits, id, rfl⟩
    | replayed _ _ _ keyed => exact absurd noKey keyed
  · cases own with
    | unavailable _ _ id fits => exact .inl ⟨fits, id, rfl⟩
    | refused _ _ misfit => exact .inr ⟨misfit, rfl, committed, given⟩

theorem acceptsOnce (sound : CallsSound state) : AcceptsOnce state where
  oneRow := by
    intro first hfirst second hsecond key client keyFirst keySecond
    refine Table.eq_of_sameKey hfirst hsecond ⟨?_, client, keyFirst.trans keySecond.symm⟩
    rw [keyFirst]
    rintro ⟨⟩
  answered := by
    intro call clientId request response key returned hkey
    obtain ⟨row, member, client, same, answer⟩ := sound.answered returned
    exact ⟨row, member, client, same.trans hkey, answer⟩
  raised _ _ _ _ ended := sound.raised ended
  enqueuedOnce := sound.enqueuedOnce
  enqueuedAfter := by
    intro newer call id outcome older split
    have caused := sound.caused
    rw [split] at caused
    exact caused.at_event call id outcome rfl
  unkeyed := by
    intro call clientId request phase ended noKey done fits
    rcases sound.unkeyed_ended ended noKey done with ⟨-, id, inserted⟩ | ⟨misfit, -⟩
    · have committed : (call, create clientId request id) ∈ insertions state.log := by
        rw [← mem_insertedBy, inserted]
        exact List.mem_singleton_self _
      refine ⟨id, inserted, sound.stored call _ committed, fun other row member same => ?_⟩
      exact (sound.insertion_unique (mem_insertions.mpr member) committed same).1
    · cases fits.symm.trans misfit
  misfit := by
    intro call clientId request phase ended noKey done misfit
    rcases sound.unkeyed_ended ended noKey done with ⟨fits, -⟩ | ⟨-, raises⟩
    · cases fits.symm.trans misfit
    · exact raises

end CallsSound

theorem callsSound_run {policy : DeliveryRetryPolicy} {state final : Engine}
    {actions : List Action} (sound : CallsSound state)
    (reached : run (step policy) state actions = some final) : CallsSound final :=
  run_invariant (I := CallsSound)
    (fun _ _ _ sound hstep => callsSound_step sound (step_sound hstep)) sound reached

/--
At every moment of every run, from any committed table: one row for each
client and key, every answer names it, no caller sees `IntegrityError`, ids
are enqueued at most once by the call that committed them, and calls without a
key commit one row each if its columns take their values, and raise the error of
their INSERT if not.
-/
theorem accept_once_interleaved (policy : DeliveryRetryPolicy) (table : Table)
    (queued : List Message) (actions : List Action) (state : Engine)
    (reached : run (step policy) (start table queued) actions = some state) :
    AcceptsOnce state :=
  (callsSound_run (callsSound_start table queued) reached).acceptsOnce

/-- Two calls with one key both miss in their first lookup; the second INSERT conflicts. -/
def racingAccepts : List Action :=
  [.accept 0 7 (.welcome (some (.ofString "k"))), .accept 1 7 (.welcome (some (.ofString "k"))),
    .lookup 0, .lookup 1, .insert 0 1, .insert 1 2, .recover 1, .enqueue 0 .published]

theorem accept_once_racingAccepts :
    ∃ state, run (step .default) (start .empty []) racingAccepts = some state ∧
      AcceptsOnce state ∧
      (state.calls 1).map (·.phase) = some (.returned ⟨1, .pending⟩) :=
  ⟨_, rfl, accept_once_interleaved .default .empty [] racingAccepts _ rfl, rfl⟩

/-- A call without a key whose recipient no column takes: it has ended and inserted nothing. -/
theorem not_inserted_nulRecipient :
    ∃ state, run (step .default) (start .empty []) [.accept 0 7 nulRecipient, .insert 0 1] =
        some state ∧
      nulRecipient.idempotencyKey = none ∧
      state.calls 0 = some ⟨7, nulRecipient, .raised .data⟩ ∧
      insertedBy 0 state.log = [] ∧ state.table.rows = [] ∧
      ¬ ∃ id, insertedBy 0 state.log = [create 7 nulRecipient id] := by
  refine ⟨_, rfl, rfl, rfl, rfl, rfl, ?_⟩
  rintro ⟨id, inserted⟩
  cases inserted

end NotificationsEngine.Engine
