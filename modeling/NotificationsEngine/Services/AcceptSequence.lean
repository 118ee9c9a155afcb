import NotificationsEngine.Services.Accept
import NotificationsEngine.Library.EventLog

/-!
# Calls of accept, one after another

Every 202 goes back to one call that has inserted the row and given its id to
the queue.  Replays skip the enqueue, so after a failed enqueue, which the
inserting caller has seen as 503, a retry with the same key is answered 202 for
a row that no worker is given.
-/

namespace NotificationsEngine

open EventLog

structure SendCall where
  clientId : UUID
  request : SendNotificationRequest
  id : UUID
  outcome : EnqueueOutcome

/-- The store and the calls served so far, newest first. -/
structure AcceptHistory where
  table : Table
  runs : List AcceptRun

namespace AcceptHistory

def empty : AcceptHistory := ⟨.empty, []⟩

def serve (history : AcceptHistory) (call : SendCall) : AcceptHistory :=
  let run := accept history.table call.clientId call.request call.id call.outcome
  ⟨run.table, run :: history.runs⟩

def serveAll (history : AcceptHistory) (calls : List SendCall) : AcceptHistory :=
  calls.foldl serve history

end AcceptHistory

/-- The call has inserted the row `id` and has given it to the queue, or was answered 503. -/
def AcceptRun.HandedOver (run : AcceptRun) (id : UUID) : Prop :=
  ∃ row outcome, run.inserted = some row ∧ row.id = id ∧ run.enqueued = some (id, outcome) ∧
    (outcome = .published ∨ run.result = .error .queueUnavailable)

/-- A 202 goes back to this or an earlier call that has handed the id over. -/
def AnsweredAfterHandover (run : AcceptRun) (older : List AcceptRun) : Prop :=
  ∀ response, run.result = .ok response →
    ∃ first ∈ run :: older, first.HandedOver response.notificationId

/-- The ids given to `queue.enqueue`, newest first. -/
def AcceptHistory.enqueued (history : AcceptHistory) : List UUID :=
  history.runs.filterMap fun run => run.enqueued.map (·.1)

/-- Every stored row was handed over by one call, and every answer is about a stored row. -/
structure AcceptHistory.Sound (history : AcceptHistory) : Prop where
  handedOver : ∀ row ∈ history.table.rows, ∃ run ∈ history.runs, run.HandedOver row.id
  stored : ∀ id ∈ history.enqueued, ∃ row ∈ history.table.rows, row.id = id
  answered : Caused AnsweredAfterHandover history.runs
  enqueuedOnce : history.enqueued.Nodup

namespace AcceptHistory

theorem sound_empty : Sound empty where
  handedOver := by rintro _ ⟨⟩
  stored := by rintro _ ⟨⟩
  answered := True.intro
  enqueuedOnce := List.nodup_nil

theorem handedOver_inserted (clientId id : UUID) (request : SendNotificationRequest)
    (outcome : EnqueueOutcome) (table : Table) :
    AcceptRun.HandedOver ⟨table, some (create clientId request id), some (id, outcome),
      afterEnqueue (create clientId request id) outcome⟩ id := by
  refine ⟨_, outcome, rfl, rfl, rfl, ?_⟩
  cases outcome with
  | published => exact .inl rfl
  | unavailable => exact .inr rfl
  | failed => exact .inr rfl

/-- A call that stores nothing and enqueues nothing. -/
theorem Sound.of_unchanged {history : AcceptHistory} (sound : history.Sound)
    {result : Except AcceptError SendAcceptedResponse}
    (answers : ∀ response, result = .ok response →
      ∃ row ∈ history.table.rows, response = toAccepted row) :
    Sound ⟨history.table, ⟨history.table, none, none, result⟩ :: history.runs⟩ where
  handedOver row member := by
    obtain ⟨run, served, handed⟩ := sound.handedOver row member
    exact ⟨run, List.mem_cons_of_mem _ served, handed⟩
  stored := sound.stored
  answered := by
    refine ⟨fun response answer => ?_, sound.answered⟩
    obtain ⟨row, member, rfl⟩ := answers response answer
    obtain ⟨run, served, handed⟩ := sound.handedOver row member
    exact ⟨run, List.mem_cons_of_mem _ served, handed⟩
  enqueuedOnce := sound.enqueuedOnce

theorem sound_serve {history : AcceptHistory} (sound : history.Sound) (call : SendCall) :
    (history.serve call).Sound := by
  have accepts := accept_accepts history.table call.clientId call.request call.id call.outcome
  unfold serve
  generalize accept history.table call.clientId call.request call.id call.outcome = run at accepts
  cases accepts with
  | replayed row member _ =>
      refine sound.of_unchanged fun response answer => ?_
      cases answer
      exact ⟨row, member, rfl⟩
  | refused error => exact sound.of_unchanged (by rintro _ ⟨⟩)
  | inserted table stored =>
      have rows := Table.insert_rows stored
      have handed := handedOver_inserted call.clientId call.id call.request call.outcome table
      constructor
      case handedOver =>
        intro row member
        rw [rows] at member
        rcases List.mem_cons.mp member with rfl | old
        · exact ⟨_, List.mem_cons_self, handed⟩
        · obtain ⟨run, served, handed⟩ := sound.handedOver row old
          exact ⟨run, List.mem_cons_of_mem _ served, handed⟩
      case stored =>
        intro id member
        rw [rows]
        rcases List.mem_cons.mp member with rfl | old
        · exact ⟨_, List.mem_cons_self, rfl⟩
        · obtain ⟨row, member, same⟩ := sound.stored id old
          exact ⟨row, List.mem_cons_of_mem _ member, same⟩
      case answered =>
        refine ⟨fun response answer => ⟨_, List.mem_cons_self, ?_⟩, sound.answered⟩
        cases outcome : call.outcome <;> rw [outcome] at answer handed <;> cases answer
        exact handed
      case enqueuedOnce =>
        refine List.nodup_cons.mpr ⟨fun member => ?_, sound.enqueuedOnce⟩
        obtain ⟨row, member, same⟩ := sound.stored call.id member
        have fresh := Table.getById_eq_none_iff.mp (Table.insert_fresh stored)
        rw [create_id, ← same] at fresh
        exact fresh (List.mem_map_of_mem member)

theorem sound_serveAll {history : AcceptHistory} (sound : history.Sound)
    (calls : List SendCall) : (history.serveAll calls).Sound := by
  induction calls generalizing history with
  | nil => exact sound
  | cons call rest ih => exact ih (sound_serve sound call)

/--
For every sequence of calls from an empty store and every pattern of enqueue
failures: a call that returns 202 for an id comes after, or is, the one call
that has inserted the row and given the id to the queue, and that enqueue has
succeeded unless the inserting call itself was answered 503; no id is given to
the queue twice.
-/
theorem accepted_after_handover (calls : List SendCall) :
    Caused AnsweredAfterHandover (empty.serveAll calls).runs ∧
      (empty.serveAll calls).enqueued.Nodup :=
  ⟨(sound_serveAll sound_empty calls).answered, (sound_serveAll sound_empty calls).enqueuedOnce⟩

/-- The broker is down for the first call; the client tries again with the same key. -/
def retriedAfterRefusal : List SendCall :=
  [⟨7, .welcome (some (.ofString "k")), 1, .unavailable⟩,
    ⟨7, .welcome (some (.ofString "k")), 2, .published⟩]

/-- The second call is answered 202 for a PENDING row whose only enqueue has failed. -/
theorem accepted_without_enqueue :
    ∃ replay first, (empty.serveAll retriedAfterRefusal).runs = [replay, first] ∧
      replay.result = .ok ⟨1, .pending⟩ ∧ first.result = .error .queueUnavailable ∧
      (empty.serveAll retriedAfterRefusal).table.rows.map (·.status) = [.pending] ∧
      ∀ run ∈ [replay, first], run.enqueued ≠ some (1, .published) :=
  ⟨_, _, rfl, rfl, rfl, rfl, by decide⟩

end AcceptHistory

end NotificationsEngine
