import NotificationsEngine.Engine.History
import Mathlib.Data.List.Nodup

/-!
# What every accept call has done so far

At each point of an `accept` call it is fixed which rows it has committed and
which ids it has given to the queue, whatever the other parties do in between.
Over all calls, no id is committed twice or given to the queue twice.
-/

namespace NotificationsEngine

open EventLog

namespace Event

def insertion : Event → Option (Nat × Notification)
  | inserted call row => some (call, row)
  | _ => none

/-- The call and the id of a call of `queue.enqueue`. -/
def enqueued : Event → Option (Nat × UUID)
  | enqueue call id _ => some (call, id)
  | _ => none

end Event

/-- The rows that `accept` calls have committed, newest first. -/
def insertions (log : List Event) : List (Nat × Notification) := log.filterMap Event.insertion

def enqueues (log : List Event) : List (Nat × UUID) := log.filterMap Event.enqueued

def insertedBy (call : Nat) (log : List Event) : List Notification :=
  ((insertions log).filter (·.1 = call)).map (·.2)

def enqueuedBy (call : Nat) (log : List Event) : List UUID :=
  ((enqueues log).filter (·.1 = call)).map (·.2)

section Logs

variable (call other : Nat) (row : Notification) (id : UUID) (outcome : EnqueueOutcome)
  (log : List Event)

@[simp] theorem insertions_inserted :
    insertions (.inserted call row :: log) = (call, row) :: insertions log := rfl

@[simp] theorem insertions_enqueue :
    insertions (.enqueue call id outcome :: log) = insertions log := rfl

@[simp] theorem enqueues_inserted :
    enqueues (.inserted call row :: log) = enqueues log := rfl

@[simp] theorem enqueues_enqueue :
    enqueues (.enqueue call id outcome :: log) = (call, id) :: enqueues log := rfl

theorem mem_insertions {call : Nat} {row : Notification} {log : List Event} :
    (call, row) ∈ insertions log ↔ .inserted call row ∈ log := by
  rw [insertions, List.mem_filterMap]
  constructor
  · rintro ⟨event, member, same⟩
    cases event <;> cases same
    exact member
  · exact fun member => ⟨_, member, rfl⟩

theorem mem_enqueues {call : Nat} {id : UUID} {log : List Event} :
    (call, id) ∈ enqueues log ↔ ∃ outcome, .enqueue call id outcome ∈ log := by
  rw [enqueues, List.mem_filterMap]
  constructor
  · rintro ⟨event, member, same⟩
    cases event <;> cases same
    exact ⟨_, member⟩
  · rintro ⟨outcome, member⟩
    exact ⟨_, member, rfl⟩

theorem mem_insertedBy {call : Nat} {row : Notification} {log : List Event} :
    row ∈ insertedBy call log ↔ (call, row) ∈ insertions log := by
  simp [insertedBy]

theorem mem_enqueuedBy {call : Nat} {id : UUID} {log : List Event} :
    id ∈ enqueuedBy call log ↔ (call, id) ∈ enqueues log := by
  simp [enqueuedBy]

@[simp] theorem insertedBy_inserted :
    insertedBy call (.inserted call row :: log) = row :: insertedBy call log := by
  simp [insertedBy]

@[simp] theorem insertedBy_enqueue :
    insertedBy other (.enqueue call id outcome :: log) = insertedBy other log := rfl

@[simp] theorem enqueuedBy_inserted :
    enqueuedBy other (.inserted call row :: log) = enqueuedBy other log := rfl

@[simp] theorem enqueuedBy_enqueue :
    enqueuedBy call (.enqueue call id outcome :: log) = id :: enqueuedBy call log := by
  simp [enqueuedBy]

theorem insertedBy_of_ne {call other : Nat} (different : other ≠ call) :
    insertedBy other (.inserted call row :: log) = insertedBy other log := by
  simp [insertedBy, Ne.symm different]

theorem enqueuedBy_of_ne {call other : Nat} (different : other ≠ call) :
    enqueuedBy other (.enqueue call id outcome :: log) = enqueuedBy other log := by
  simp [enqueuedBy, Ne.symm different]

end Logs

def Table.Answers (table : Table) (clientId : UUID) (request : SendNotificationRequest)
    (row : Notification) : Prop :=
  row ∈ table.rows ∧ row.clientId = clientId ∧ row.idempotencyKey = request.idempotencyKey

/-- Where a call stands, with the rows it has committed and the ids it has enqueued. -/
inductive CallAccounted (table : Table) :
    Option AcceptCall → List Notification → List UUID → Prop where
  | idle : CallAccounted table none [] []
  | lookup (clientId : UUID) (request : SendNotificationRequest)
      (keyed : request.idempotencyKey ≠ none) :
      CallAccounted table (some ⟨clientId, request, .lookup⟩) [] []
  | create (clientId : UUID) (request : SendNotificationRequest) :
      CallAccounted table (some ⟨clientId, request, .create⟩) [] []
  | recover (clientId : UUID) (request : SendNotificationRequest) (error : IntegrityError)
      (keyed : request.idempotencyKey ≠ none) (row : Notification)
      (answers : table.Answers clientId request row) (fits : request.fits = true) :
      CallAccounted table (some ⟨clientId, request, .recover error⟩) [] []
  | enqueue (clientId : UUID) (request : SendNotificationRequest) (id : UUID)
      (fits : request.fits = true) :
      CallAccounted table
        (some ⟨clientId, request, .enqueue (NotificationsEngine.create clientId request id)⟩)
        [NotificationsEngine.create clientId request id] []
  | accepted (clientId : UUID) (request : SendNotificationRequest) (id : UUID)
      (fits : request.fits = true) :
      CallAccounted table
        (some ⟨clientId, request,
          .returned (toAccepted (NotificationsEngine.create clientId request id))⟩)
        [NotificationsEngine.create clientId request id] [id]
  | replayed (clientId : UUID) (request : SendNotificationRequest)
      (response : SendAcceptedResponse) (keyed : request.idempotencyKey ≠ none)
      (row : Notification) (answers : table.Answers clientId request row)
      (same : response.notificationId = row.id) :
      CallAccounted table (some ⟨clientId, request, .returned response⟩) [] []
  | unavailable (clientId : UUID) (request : SendNotificationRequest) (id : UUID)
      (fits : request.fits = true) :
      CallAccounted table (some ⟨clientId, request, .raised .queueUnavailable⟩)
        [NotificationsEngine.create clientId request id] [id]
  | refused (clientId : UUID) (request : SendNotificationRequest) (misfit : request.fits = false) :
      CallAccounted table (some ⟨clientId, request, .raised .data⟩) [] []

/-- Every row of the first table is one of the second, but for its delivery columns. -/
def Table.Keeps (table table' : Table) : Prop :=
  ∀ row ∈ table.rows, ∃ columns, row.withColumns columns ∈ table'.rows

theorem Table.Keeps.answers {table table' : Table} {clientId : UUID}
    {request : SendNotificationRequest} {row : Notification} (kept : table.Keeps table')
    (answers : table.Answers clientId request row) :
    ∃ columns, table'.Answers clientId request (row.withColumns columns) := by
  obtain ⟨columns, member⟩ := kept row answers.1
  exact ⟨columns, member, answers.2⟩

namespace CallAccounted

variable {table table' : Table} {call : Option AcceptCall} {clientId : UUID}
  {request : SendNotificationRequest} {inserted : List Notification} {enqueued : List UUID}

theorem mono (accounted : CallAccounted table call inserted enqueued)
    (kept : table.Keeps table') : CallAccounted table' call inserted enqueued := by
  cases accounted with
  | idle => exact .idle
  | lookup clientId request keyed => exact .lookup _ _ keyed
  | create clientId request => exact .create _ _
  | recover clientId request error keyed row answers fits =>
      obtain ⟨columns, answers⟩ := kept.answers answers
      exact .recover _ _ _ keyed _ answers fits
  | enqueue clientId request id fits => exact .enqueue _ _ _ fits
  | accepted clientId request id fits => exact .accepted _ _ _ fits
  | replayed clientId request response keyed row answers same =>
      obtain ⟨columns, answers⟩ := kept.answers answers
      exact .replayed _ _ _ keyed _ answers same
  | unavailable clientId request id fits => exact .unavailable _ _ _ fits
  | refused clientId request misfit => exact .refused _ _ misfit

/-- A call starts with its lookup when it has a key, else with its INSERT. -/
theorem start (table : Table) (clientId : UUID) (request : SendNotificationRequest) :
    CallAccounted table (some ⟨clientId, request, .start request⟩) [] [] := by
  unfold AcceptPhase.start
  split
  · exact .create _ _
  · next key keyed => exact .lookup _ _ (by rw [keyed]; rintro ⟨⟩)

theorem after_lookup (accounted : CallAccounted table (some ⟨clientId, request, .lookup⟩)
      inserted enqueued) :
    CallAccounted table
      (some ⟨clientId, request, .ofLookup (lookupExisting table clientId request)⟩)
      inserted enqueued := by
  cases accounted with
  | lookup _ _ keyed =>
      cases textual : request.keyTextual with
      | false =>
          rw [lookupExisting_of_untextual textual]
          refine .refused _ _ (Bool.eq_false_iff.mpr fun fits => ?_)
          rw [keyTextual_of_fits fits] at textual
          cases textual
      | true =>
          rw [lookupExisting_of_textual textual]
          cases found : findExisting table clientId request with
          | none => exact .create _ _
          | some row =>
              obtain ⟨member, client, same, -⟩ := findExisting_some found
              exact .replayed _ _ _ keyed row ⟨member, client, same⟩ rfl

theorem after_insert (accounted : CallAccounted table (some ⟨clientId, request, .create⟩)
      inserted enqueued) (table' : Table) (id : UUID) (fits : request.fits = true) :
    CallAccounted table'
      (some ⟨clientId, request, .enqueue (NotificationsEngine.create clientId request id)⟩)
      (NotificationsEngine.create clientId request id :: inserted) enqueued := by
  cases accounted with
  | create => exact .enqueue _ _ _ fits

/-- A conflict of a fresh id is one of client and key, so the winner is stored. -/
theorem after_conflict {id : UUID} {error : IntegrityError}
    (accounted : CallAccounted table (some ⟨clientId, request, .create⟩) inserted enqueued)
    (fresh : table.getById id = none)
    (failed : table.insert (NotificationsEngine.create clientId request id) = .error error)
    (fits : request.fits = true) :
    CallAccounted table (some ⟨clientId, request, .recover error⟩) inserted enqueued := by
  obtain ⟨row, member, client, same, keyed⟩ := insert_create_error fresh failed
  cases accounted with
  | create => exact .recover _ _ _ keyed row ⟨member, client, same⟩ fits

theorem after_misfit
    (accounted : CallAccounted table (some ⟨clientId, request, .create⟩) inserted enqueued)
    (misfit : request.fits = false) :
    CallAccounted table (some ⟨clientId, request, .raised .data⟩) inserted enqueued := by
  cases accounted with
  | create => exact .refused _ _ misfit

theorem after_recover {error : IntegrityError}
    (accounted : CallAccounted table (some ⟨clientId, request, .recover error⟩)
      inserted enqueued) :
    CallAccounted table
      (some ⟨clientId, request,
        .ofResult (NotificationsEngine.recover table clientId request error)⟩)
      inserted enqueued := by
  cases accounted with
  | recover _ _ _ keyed row answers fits =>
      obtain ⟨winner, found⟩ := findExisting_of_conflict answers.1 answers.2.1 keyed answers.2.2
      obtain ⟨member, client, same, -⟩ := findExisting_some found
      rw [recover_of_found (keyTextual_of_fits fits) found]
      exact .replayed _ _ _ keyed winner ⟨member, client, same⟩ rfl

/-- A call about to enqueue has committed the row it enqueues, and has enqueued nothing yet. -/
theorem at_enqueue {row : Notification}
    (accounted : CallAccounted table (some ⟨clientId, request, .enqueue row⟩)
      inserted enqueued) :
    row = NotificationsEngine.create clientId request row.id ∧ inserted = [row] ∧
      enqueued = [] ∧ request.fits = true := by
  cases accounted with
  | enqueue _ _ _ fits => exact ⟨rfl, rfl, rfl, fits⟩

end CallAccounted

def EnqueuedAfterInsert (event : Event) (older : List Event) : Prop :=
  ∀ call id outcome, event = .enqueue call id outcome →
    ∃ row, .inserted call row ∈ older ∧ row.id = id

namespace Engine

structure CallsSound (state : Engine) : Prop where
  accounted : ∀ call, CallAccounted state.table (state.calls call)
    (insertedBy call state.log) (enqueuedBy call state.log)
  stored : ∀ call row, (call, row) ∈ insertions state.log →
    ∃ columns, state.table.getById row.id = some (row.withColumns columns)
  insertedOnce : ((insertions state.log).map (·.2.id)).Nodup
  enqueuedOnce : ((enqueues state.log).map (·.2)).Nodup
  caused : Caused EnqueuedAfterInsert state.log

theorem callsSound_start (table : Table) (queued : List Message) :
    CallsSound (start table queued) where
  accounted _ := .idle
  stored := by rintro _ _ ⟨⟩
  insertedOnce := List.nodup_nil
  enqueuedOnce := List.nodup_nil
  caused := True.intro

variable {policy : DeliveryRetryPolicy} {state next : Engine} {action : Action}

theorem keeps_step (hstep : Step policy state action next) : state.table.Keeps next.table := by
  intro row member
  obtain ⟨columns, found⟩ := stored_persists hstep (Table.getById_eq_some_iff.mpr ⟨member, rfl⟩)
  exact ⟨columns, Table.getById_mem found⟩

/-- An id that two calls have committed is one row of one call. -/
theorem CallsSound.insertion_unique (sound : CallsSound state) {first second : Nat}
    {row row' : Notification} (hfirst : (first, row) ∈ insertions state.log)
    (hsecond : (second, row') ∈ insertions state.log) (same : row.id = row'.id) :
    first = second ∧ row = row' :=
  Prod.mk.inj (List.inj_on_of_nodup_map sound.insertedOnce hfirst hsecond same)

/-- A committed row is that of its call's request. -/
theorem CallsSound.request_of_inserted (sound : CallsSound state) {call : Nat}
    {row : Notification} (member : (call, row) ∈ insertions state.log) :
    ∃ clientId request phase, state.calls call = some ⟨clientId, request, phase⟩ ∧
      row = create clientId request row.id := by
  have own := sound.accounted call
  have member : row ∈ insertedBy call state.log := mem_insertedBy.mpr member
  generalize state.calls call = value at own ⊢
  generalize insertedBy call state.log = inserted at own member
  generalize enqueuedBy call state.log = enqueued at own
  cases own with
  | enqueue clientId request id =>
      cases List.mem_singleton.mp member
      exact ⟨clientId, request, _, rfl, rfl⟩
  | accepted clientId request id =>
      cases List.mem_singleton.mp member
      exact ⟨clientId, request, _, rfl, rfl⟩
  | unavailable clientId request id =>
      cases List.mem_singleton.mp member
      exact ⟨clientId, request, _, rfl, rfl⟩
  | idle => cases member
  | lookup => cases member
  | create => cases member
  | recover => cases member
  | replayed => cases member
  | refused => cases member

/-- The row that a call is about to enqueue is stored. -/
theorem CallsSound.stored_of_enqueue (sound : CallsSound state) {call : Nat} {clientId : UUID}
    {request : SendNotificationRequest} {row : Notification}
    (at_enqueue : state.calls call = some ⟨clientId, request, .enqueue row⟩) :
    ∃ stored, state.table.getById row.id = some stored := by
  have own := sound.accounted call
  rw [at_enqueue] at own
  have member : row ∈ insertedBy call state.log := by
    rw [own.at_enqueue.2.1]
    exact List.mem_singleton_self row
  obtain ⟨columns, found⟩ := sound.stored call row (mem_insertedBy.mp member)
  exact ⟨_, found⟩

/-- An id in the queue's calls was committed by the call that gave it. -/
theorem CallsSound.inserted_of_enqueued (sound : CallsSound state) {call : Nat} {id : UUID}
    (member : (call, id) ∈ enqueues state.log) :
    ∃ row, (call, row) ∈ insertions state.log ∧ row.id = id := by
  obtain ⟨outcome, member⟩ := mem_enqueues.mp member
  obtain ⟨newer, older, split⟩ := List.append_of_mem member
  have caused := sound.caused
  rw [split] at caused
  obtain ⟨row, member, same⟩ := caused.at_event call id outcome rfl
  refine ⟨row, mem_insertions.mpr ?_, same⟩
  rw [split]
  exact List.mem_append_right _ (List.mem_cons_of_mem _ member)

/-- A step of no call keeps the bookkeeping when it logs no INSERT and no enqueue. -/
theorem CallsSound.of_quiet (sound : CallsSound state) (kept : state.table.Keeps next.table)
    (persists : ∀ id row, state.table.getById id = some row →
      ∃ columns, next.table.getById id = some (row.withColumns columns))
    (calls : next.calls = state.calls)
    (logged : next.log = state.log ∨ ∃ event, next.log = event :: state.log ∧
      event.insertion = none ∧ event.enqueued = none) : CallsSound next := by
  obtain ⟨inserted, enqueued, caused⟩ : insertions next.log = insertions state.log ∧
      enqueues next.log = enqueues state.log ∧ Caused EnqueuedAfterInsert next.log := by
    rcases logged with same | ⟨event, same, noInsert, noEnqueue⟩
    · rw [same]
      exact ⟨rfl, rfl, sound.caused⟩
    · rw [same]
      refine ⟨List.filterMap_cons_none noInsert, List.filterMap_cons_none noEnqueue, ?_,
        sound.caused⟩
      rintro call id outcome rfl
      cases noEnqueue
  refine ⟨fun call => ?_, ?_, by rw [inserted]; exact sound.insertedOnce,
    by rw [enqueued]; exact sound.enqueuedOnce, caused⟩
  · rw [calls, insertedBy, enqueuedBy, inserted, enqueued]
    exact (sound.accounted call).mono kept
  · intro call row member
    rw [inserted] at member
    obtain ⟨columns, found⟩ := sound.stored call row member
    obtain ⟨columns', found'⟩ := persists _ _ found
    exact ⟨columns', found'⟩

/-- A step of one call that changes neither the table nor the log. -/
theorem CallsSound.of_call (sound : CallsSound state) {call : Nat} {value : AcceptCall}
    (self : CallAccounted state.table (some value) (insertedBy call state.log)
      (enqueuedBy call state.log)) : CallsSound (state.setCall call value) where
  accounted other := by
    by_cases same : other = call
    · subst same
      simpa using self
    · simpa [same] using sound.accounted other
  stored := sound.stored
  insertedOnce := sound.insertedOnce
  enqueuedOnce := sound.enqueuedOnce
  caused := sound.caused

theorem CallsSound.insert (sound : CallsSound state) {call : Nat} {clientId id : UUID}
    {request : SendNotificationRequest} {table : Table}
    (at_create : state.calls call = some ⟨clientId, request, .create⟩)
    (fresh : state.table.getById id = none)
    (inserted : state.table.insert (create clientId request id) = .ok table)
    (fits : request.fits = true) (kept : state.table.Keeps table) :
    CallsSound (((state.setTable table).setCall call
      ⟨clientId, request, .enqueue (create clientId request id)⟩).record
        (.inserted call (create clientId request id))) where
  accounted other := by
    have before := sound.accounted other
    by_cases same : other = call
    · subst same
      rw [at_create] at before
      simpa using before.after_insert table id fits
    · simpa [same, insertedBy_of_ne _ _ same] using before.mono kept
  stored := by
    intro other row member
    rw [record_log, insertions_inserted] at member
    rcases List.mem_cons.mp member with same | member
    · cases same
      refine ⟨(create clientId request id).toDeliveryColumns, ?_⟩
      exact (Table.getById_insert inserted _).trans (if_pos rfl)
    · obtain ⟨columns, found⟩ := sound.stored other row member
      exact ⟨columns, Table.getById_insert_of_some inserted found⟩
  insertedOnce := by
    refine List.nodup_cons.mpr ⟨fun member => ?_, sound.insertedOnce⟩
    obtain ⟨⟨other, row⟩, member, same⟩ := List.mem_map.mp member
    obtain ⟨columns, found⟩ := sound.stored other row member
    have same : row.id = id := same
    rw [same, fresh] at found
    cases found
  enqueuedOnce := sound.enqueuedOnce
  caused := ⟨by rintro _ _ _ ⟨⟩, sound.caused⟩

/-- The call that enqueues an id has committed its row, and no other call has given it away. -/
theorem CallsSound.enqueue (sound : CallsSound state) {call : Nat} {clientId : UUID}
    {request : SendNotificationRequest} {row : Notification} {phase : AcceptPhase}
    (outcome : EnqueueOutcome)
    (at_enqueue : state.calls call = some ⟨clientId, request, .enqueue row⟩)
    (self : CallAccounted state.table (some ⟨clientId, request, phase⟩) [row] [row.id]) :
    CallsSound ((state.setCall call ⟨clientId, request, phase⟩).record
      (.enqueue call row.id outcome)) := by
  have own := sound.accounted call
  rw [at_enqueue] at own
  obtain ⟨-, committed, none_yet, -⟩ := own.at_enqueue
  have committed_row : (call, row) ∈ insertions state.log := by
    rw [← mem_insertedBy, committed]
    exact List.mem_singleton_self row
  refine ⟨fun other => ?_, sound.stored, sound.insertedOnce, ?_, ?_, sound.caused⟩
  · by_cases same : other = call
    · subst same
      simpa [committed, none_yet] using self
    · simpa [same, enqueuedBy_of_ne _ _ _ same] using sound.accounted other
  · refine List.nodup_cons.mpr ⟨fun member => ?_, sound.enqueuedOnce⟩
    obtain ⟨⟨other, id⟩, given, same⟩ := List.mem_map.mp member
    have same : id = row.id := same
    subst same
    obtain ⟨first, committed', same⟩ := sound.inserted_of_enqueued given
    obtain ⟨rfl, -⟩ := sound.insertion_unique committed' committed_row same
    have given : row.id ∈ enqueuedBy other state.log := mem_enqueuedBy.mpr given
    rw [none_yet] at given
    cases given
  · rintro _ _ _ ⟨⟩
    exact ⟨row, mem_insertions.mp committed_row, rfl⟩

theorem callsSound_step (sound : CallsSound state) (hstep : Step policy state action next) :
    CallsSound next := by
  have kept := keeps_step hstep
  have persists : ∀ id row, state.table.getById id = some row →
      ∃ columns, next.table.getById id = some (row.withColumns columns) :=
    fun _ _ found => stored_persists hstep found
  cases hstep with
  | accept call clientId request idle =>
      refine sound.of_call ?_
      have own := sound.accounted call
      rw [idle] at own
      generalize insertedBy call state.log = inserted at own ⊢
      generalize enqueuedBy call state.log = enqueued at own ⊢
      cases own with
      | idle => exact .start _ _ _
  | lookup call clientId request at_lookup =>
      exact sound.of_call (at_lookup ▸ sound.accounted call).after_lookup
  | insert call id clientId request table at_create fresh inserted fits =>
      exact sound.insert at_create fresh inserted fits kept
  | conflict call id clientId request error at_create fresh failed fits =>
      exact sound.of_call ((at_create ▸ sound.accounted call).after_conflict fresh failed fits)
  | misfit call id clientId request at_create fresh refused =>
      exact sound.of_call ((at_create ▸ sound.accounted call).after_misfit refused)
  | recover call clientId request error at_recover =>
      exact sound.of_call (at_recover ▸ sound.accounted call).after_recover
  | enqueue call clientId request row at_enqueue =>
      obtain ⟨created, -, -, fits⟩ := (at_enqueue ▸ sound.accounted call).at_enqueue
      have answered : CallsSound ((state.setCall call
          ⟨clientId, request, .returned (toAccepted row)⟩).record
            (.enqueue call row.id .published)) :=
        sound.enqueue .published at_enqueue (created ▸ .accepted clientId request row.id fits)
      exact answered.of_quiet kept persists rfl (.inl rfl)
  | enqueueRaised call outcome clientId request row at_enqueue raised =>
      obtain ⟨created, -, -, fits⟩ := (at_enqueue ▸ sound.accounted call).at_enqueue
      exact sound.enqueue outcome at_enqueue (created ▸ .unavailable clientId request row.id fits)
  | commitRaised => exact sound.of_quiet kept persists rfl (.inr ⟨_, rfl, rfl, rfl⟩)
  | send => exact sound.of_quiet kept persists rfl (.inr ⟨_, rfl, rfl, rfl⟩)
  | apply worker published message result held =>
      refine sound.of_quiet kept persists (applied_calls _ _ _ _ _) ?_
      generalize applyDeliveryResult result message policy.maxRetries = effect
      cases effect <;> cases published
      case retry.false => exact .inr ⟨_, rfl, rfl, rfl⟩
      case deadLetter.true => exact .inr ⟨_, rfl, rfl, rfl⟩
      all_goals exact .inl rfl
  | _ => exact sound.of_quiet kept persists rfl (.inl rfl)

end Engine

end NotificationsEngine
