import NotificationsEngine.Engine.Serial

/-!
# What a stored row looks like at any moment

With one delivery of an id at a time, whatever crashes and whichever commit
raises, the columns of a stored row agree with each other and with the policy,
its count never falls, and its other columns never change.
-/

namespace NotificationsEngine

/-- How the delivery columns of a row agree with each other and with the policy. -/
structure DeliveryColumns.Agree (policy : DeliveryRetryPolicy) (columns : DeliveryColumns) :
    Prop where
  sentAt : columns.sentAt.isSome = true ↔ columns.status = .sent
  sent : columns.status = .sent → columns.errorMessage = none
  live : columns.status = .pending ∨ columns.status = .processing →
    (columns.retryCount : Int) < policy.maxAttempts
  failed : columns.status = .failed →
    1 ≤ columns.retryCount ∧ (columns.retryCount : Int) ≤ policy.maxAttempts
  error : columns.status ≠ .sent → (columns.errorMessage.isSome = true ↔ 1 ≤ columns.retryCount)
  length : ∀ text, columns.errorMessage = some text → text.length ≤ errorMessageMax

namespace DeliveryColumns.Agree

variable {policy : DeliveryRetryPolicy} {columns assigned : DeliveryColumns}

theorem created (policy : DeliveryRetryPolicy) (clientId id : UUID)
    (request : SendNotificationRequest) :
    Agree policy (create clientId request id).toDeliveryColumns where
  sentAt := by simp [create]
  sent := by rintro ⟨⟩
  live _ := by
    have positive := policy.maxAttempts_pos
    simp only [create]
    omega
  failed := by rintro ⟨⟩
  error _ := by simp [create]
  length := by rintro _ ⟨⟩

/-- Claiming a PENDING row changes its status alone. -/
theorem claim (agree : Agree policy columns) (pending : columns.status = .pending) :
    Agree policy { columns with status := .processing } where
  sentAt := by simpa [pending] using agree.sentAt
  sent := by rintro ⟨⟩
  live _ := agree.live (.inl pending)
  failed := by rintro ⟨⟩
  error _ := agree.error (by rw [pending]; rintro ⟨⟩)
  length := agree.length

theorem countFailure (agree : Agree policy columns) (processing : columns.status = .processing)
    (exception : ProviderException) {status : NotificationStatus} (unsent : status ≠ .sent)
    (budget : status = .pending ∨ status = .processing →
      (columns.retryCount : Int) + 1 < policy.maxAttempts) :
    Agree policy { NotificationsEngine.countFailure columns exception with status } where
  sentAt := by simpa [NotificationsEngine.countFailure, processing, unsent] using agree.sentAt
  sent same := absurd same unsent
  live status := by
    have below := budget status
    simp only [NotificationsEngine.countFailure]
    omega
  failed _ := by
    have below := agree.live (.inr processing)
    simp only [NotificationsEngine.countFailure]
    omega
  error _ := by simp [NotificationsEngine.countFailure]
  length := by
    rintro _ ⟨⟩
    exact List.length_take_le _ _

/-- Whatever the provider does, the columns assigned after it agree again. -/
theorem settles {row : Notification} {outcome : ProviderOutcome} {result : DispatchResult}
    (agree : Agree policy row.toDeliveryColumns) (processing : row.status = .processing)
    (settles : Settles policy row outcome assigned result) : Agree policy assigned := by
  cases settles with
  | sent now =>
      exact
        { sentAt := by simp [countSuccess]
          sent := fun _ => rfl
          live := by rintro (⟨⟨⟩⟩ | ⟨⟨⟩⟩)
          failed := by rintro ⟨⟩
          error := fun unsent => absurd rfl unsent
          length := by rintro _ ⟨⟩ }
  | retry exception countdown transient budget scheduled =>
      exact agree.countFailure processing exception (by rintro ⟨⟩) fun _ => budget
  | failed exception exhausted =>
      exact agree.countFailure processing exception (by rintro ⟨⟩) (by rintro (⟨⟨⟩⟩ | ⟨⟨⟩⟩))

end DeliveryColumns.Agree

namespace Engine

open StepMachine

variable {policy : DeliveryRetryPolicy} {state next : Engine} {action : Action} {id : UUID}

/-- The second row is the first one later: its count has not fallen, other columns are the same. -/
structure Follows (row row' : Notification) : Prop where
  counted : row.retryCount ≤ row'.retryCount
  same : row' = row.withColumns row'.toDeliveryColumns

theorem Follows.refl (row : Notification) : Follows row row := ⟨Nat.le_refl _, rfl⟩

theorem Follows.trans {first second third : Notification} (before : Follows first second)
    (after : Follows second third) : Follows first third where
  counted := before.counted.trans after.counted
  same := by
    rw [after.same, before.same]
    rfl

/-- One step of the system takes a stored row in agreement to one that follows it. -/
theorem agree_step (serial : SerialSound policy id state) {row : Notification}
    (found : state.table.getById id = some row) (agree : row.Agree policy)
    (hstep : Step policy state action next) :
    ∃ row', next.table.getById id = some row' ∧ row'.Agree policy ∧ Follows row row' := by
  obtain ⟨row', found', changes⟩ := serial.row_step found hstep
  refine ⟨row', found', ?_⟩
  cases changes with
  | same => exact ⟨agree, .refl row⟩
  | claimed pending => exact ⟨agree.claim pending, Nat.le_refl _, rfl⟩
  | settled outcome columns result processing settles =>
      exact ⟨agree.settles processing settles, settles_retryCount_le settles, rfl⟩

/-- The row `row` of an earlier moment, as it is stored now. -/
def RowKept (policy : DeliveryRetryPolicy) (row : Notification) (state : Engine) : Prop :=
  SerialSound policy row.id state ∧
    ∃ row', state.table.getById row.id = some row' ∧ row'.Agree policy ∧ Follows row row'

theorem rowKept_run {row : Notification} {actions : List Action} {final : Engine}
    (kept : RowKept policy row state)
    (alone : Along (step policy) (LoadsAlone row.id) state actions)
    (reached : run (step policy) state actions = some final) : RowKept policy row final :=
  run_guarded_invariant (I := RowKept policy row)
    (fun _ _ _ ⟨serial, _, found, agree, follows⟩ guard (hstep : step policy _ _ = some _) => by
      obtain ⟨row', found', agree', follows'⟩ := agree_step serial found agree (step_sound hstep)
      exact ⟨serialSound_step serial guard (step_sound hstep), row', found', agree',
        follows.trans follows'⟩)
    kept alone reached

/-- What holds of the stored row of `id` at two moments of a run, the second one not earlier. -/
structure RowHistory (policy : DeliveryRetryPolicy) (id : UUID) (earlier later : Engine) :
    Prop where
  stored : ∃ row row', earlier.table.getById id = some row ∧
    later.table.getById id = some row' ∧ row'.Agree policy ∧ Follows row row'
  legal : ∀ worker message error, later.Runs worker message (.raised error) →
    ∀ transition, error ≠ .invalidStatusTransition transition

/--
For every row that `accept` has created and every run with one delivery of it
at a time, with any outcomes, crashes and raising commits: at every moment the
stored columns agree, since any earlier moment the count has not fallen and no
other column has changed, and no dispatch has raised `InvalidStatusTransition`.
-/
theorem stored_row_history (policy : DeliveryRetryPolicy) (table : Table)
    (queued : List Message) (id clientId : UUID) (request : SendNotificationRequest)
    (created : table.getById id = some (create clientId request id))
    (before after : List Action)
    (alone : Along (step policy) (DeliversAlone id) (start table queued) (before ++ after))
    (earlier later : Engine)
    (reached : run (step policy) (start table queued) before = some earlier)
    (reached' : run (step policy) earlier after = some later) :
    RowHistory policy id earlier later := by
  have alone := loadsAlone_of_deliversAlone alone
  have initial : RowKept policy (create clientId request id) (start table queued) :=
    ⟨serialSound_start policy id table queued, _, created,
      .created policy clientId id request, .refl _⟩
  obtain ⟨serial, row, found, agree, -⟩ := rowKept_run initial alone.take reached
  obtain rfl : id = row.id := (Table.getById_id found).symm
  have kept : RowKept policy row earlier := ⟨serial, row, found, agree, .refl row⟩
  obtain ⟨serial', row', found', agree', follows⟩ :=
    rowKept_run kept (alone.of_append reached) reached'
  refine ⟨⟨row, row', found, found', agree', follows⟩, ?_⟩
  rintro worker message error runs transition rfl
  cases serial'.owned _ _ _ runs

/-- A delivery whose attempt fails; its worker crashes before it publishes the retry. -/
def failedThenCrashed : List Action :=
  [.deliver 0 ⟨1, 0⟩, .load 0, .commit 0 true, .send 0 (.raised ⟨false, []⟩) 0, .commit 0 true,
    .crash 0]

def sentAfterCrash : List Action :=
  [.deliver 0 ⟨1, 0⟩, .load 0, .commit 0 true, .send 0 .returned 9, .commit 0 true]

theorem stored_row_history_sentAfterCrash :
    ∃ earlier later,
      run (step .default) (start (.single (create 7 (.welcome none) 1)) [⟨1, 0⟩])
        failedThenCrashed = some earlier ∧
      run (step .default) earlier sentAfterCrash = some later ∧
      RowHistory .default 1 earlier later ∧
      (later.table.getById 1).map (·.status) = some .sent :=
  ⟨_, _, rfl, rfl, stored_row_history .default (.single (create 7 (.welcome none) 1)) [⟨1, 0⟩] 1 7
    (.welcome none) rfl failedThenCrashed sentAfterCrash
    (deliversAlone_of_worker 0 (by simp [failedThenCrashed, sentAfterCrash])) _ _ rfl rfl, rfl⟩

end Engine

end NotificationsEngine
