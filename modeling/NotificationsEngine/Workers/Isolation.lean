import NotificationsEngine.Engine.Uninterrupted
import NotificationsEngine.Services.Isolation

/-!
# What a client has in the store and in the queue

Calls of `accept` and deliveries over the rows and the waiting messages.  Those
of other clients change neither the rows of a client nor the messages about
them, and its own do the same whatever the others have there.
-/

namespace NotificationsEngine

open KeyedList
open Engine (enqueuedMessages)

/-! ## Messages about rows -/

def Table.ownIds (table : Table) (clientId : UUID) : List UUID :=
  (table.ofClient clientId).map (·.id)

theorem Table.mem_ownIds {table : Table} {clientId id : UUID} :
    id ∈ table.ownIds clientId ↔
      ∃ row, table.getById id = some row ∧ row.clientId = clientId := by
  rw [ownIds, List.mem_map]
  constructor
  · rintro ⟨row, member, rfl⟩
    obtain ⟨stored, own⟩ := Table.mem_ofClient.mp member
    exact ⟨row, Table.getById_eq_some_iff.mpr ⟨stored, rfl⟩, own⟩
  · rintro ⟨row, found, own⟩
    exact ⟨row, Table.mem_ofClient.mpr ⟨Table.getById_mem found, own⟩, Table.getById_id found⟩

def Table.owns (table : Table) (clientId id : UUID) : Bool :=
  (table.ofClient clientId).any fun row => row.id = id

theorem Table.owns_iff {table : Table} {clientId id : UUID} :
    table.owns clientId id = true ↔ id ∈ table.ownIds clientId := by
  simp only [owns, ownIds, List.any_eq_true, List.mem_map, decide_eq_true_eq]

theorem Table.owns_eq_false_iff {table : Table} {clientId id : UUID} :
    table.owns clientId id = false ↔ id ∉ table.ownIds clientId := by
  rw [← owns_iff, Bool.not_eq_true]

/-- An operation that creates no row leaves a client with the ids that it had. -/
theorem Performs.ownIds_eq {policy : DeliveryRetryPolicy} {table table' : Table} {op : ServiceOp}
    {dispatched : Option (Notification × DispatchResult)}
    (performs : Performs policy table op table' none dispatched) (clientId : UUID) :
    table'.ownIds clientId = table.ownIds clientId := by
  cases performs with
  | unchanged => rfl
  | settled row provider now columns messages result found dispatches table' rows =>
      rw [Table.ownIds, ofClient_of_replace found rows, map_key_replace, Table.ownIds]

def AboutStored (table : Table) (messages : List Message) : Prop :=
  ∀ message ∈ messages, table.getById message.notificationId ≠ none

theorem AboutStored.mono {table table' : Table} {messages : List Message}
    (stored : AboutStored table messages)
    (kept : ∀ id, table'.getById id = none → table.getById id = none) :
    AboutStored table' messages :=
  fun message member missing => stored message member (kept _ missing)

/-- No message is about a fresh id. -/
theorem AboutStored.count_eq_zero {table : Table} {messages : List Message}
    (stored : AboutStored table messages) {message : Message}
    (fresh : table.getById message.notificationId = none) : messages.count message = 0 :=
  List.count_eq_zero.mpr fun member => stored message member fresh

/-! ### What an enqueue adds -/

section Enqueued

variable {messages messages' : List Message} {message : Message} {id : UUID}
  {outcome : EnqueueOutcome}

theorem mem_enqueuedMessages
    (member : message ∈ enqueuedMessages messages (some (id, outcome))) :
    message.notificationId = id ∨ message ∈ messages := by
  cases outcome with
  | published =>
      rcases List.mem_cons.mp member with rfl | old
      · exact .inl rfl
      · exact .inr old
  | unavailable => exact .inr member
  | failed => exact .inr member

theorem count_enqueuedMessages (other : message.notificationId ≠ id) :
    (enqueuedMessages messages (some (id, outcome))).count message = messages.count message := by
  cases outcome with
  | published =>
      refine List.count_cons_of_ne ?_
      rintro rfl
      exact other rfl
  | unavailable => rfl
  | failed => rfl

theorem count_enqueuedMessages_congr (same : messages'.count message = messages.count message) :
    (enqueuedMessages messages' (some (id, outcome))).count message =
      (enqueuedMessages messages (some (id, outcome))).count message := by
  cases outcome with
  | published => simp only [enqueuedMessages, List.count_cons, same]
  | unavailable => exact same
  | failed => exact same

theorem AboutStored.enqueued {table table' : Table} {row : Notification}
    (stored : AboutStored table messages) (inserted : table.insert row = .ok table') :
    AboutStored table' (enqueuedMessages messages (some (row.id, outcome))) := by
  intro message member
  rw [Table.getById_insert inserted]
  rcases mem_enqueuedMessages member with same | old
  · rw [if_pos same.symm]
    exact nofun
  · split
    · exact nofun
    · exact stored message old

end Enqueued

/-! ### What a delivery adds -/

def DeliveryEffect.followUps : DeliveryEffect → List Message
  | .retry _ followUp => [followUp]
  | _ => []

theorem Drain.publish_messages (state : Drain) (effect : DeliveryEffect) :
    (state.publish effect).messages = effect.followUps ++ state.messages := by
  cases effect <;> rfl

/-- A follow-up message is about the row of the message before it. -/
theorem followUps_notificationId {policy : DeliveryRetryPolicy} {message followUp : Message}
    {ended : Except DispatchError DispatchResult}
    (member : followUp ∈ (endedEffect policy message ended).followUps) :
    followUp.notificationId = message.notificationId := by
  cases effect : endedEffect policy message ended with
  | retry countdown other =>
      rw [effect] at member
      obtain rfl := List.mem_singleton.mp member
      cases ended with
      | error error => cases effect
      | ok result =>
          obtain ⟨-, again⟩ := applyDeliveryResult_eq_retry effect
          obtain ⟨-, rfl⟩ := Message.retry_eq_some.mp again
          rfl
  | nothing =>
      rw [effect] at member
      cases member
  | retryRefused =>
      rw [effect] at member
      cases member
  | deadLetter =>
      rw [effect] at member
      cases member

/-- Follow-ups of a message that was waiting are about the row that it was about. -/
theorem AboutStored.delivered {table : Table} {messages : List Message}
    (stored : AboutStored table messages) {message : Message} (waiting : message ∈ messages)
    (policy : DeliveryRetryPolicy) (ended : Except DispatchError DispatchResult) :
    AboutStored table
      ((endedEffect policy message ended).followUps ++ messages.erase message) := by
  intro other member
  rcases List.mem_append.mp member with followUp | old
  · rw [followUps_notificationId followUp]
    exact stored message waiting
  · exact stored other (List.mem_of_mem_erase old)

namespace Drain

def deliver (policy : DeliveryRetryPolicy) (state : Drain) (label : Turn) : Drain :=
  (turn policy state label).getD state

def accepted (state : Drain) (run : AcceptRun) : Drain where
  table := run.table
  messages := enqueuedMessages state.messages run.enqueued
  deadLetters := state.deadLetters

variable {policy : DeliveryRetryPolicy} {state : Drain} {label : Turn}

theorem deliver_of_idle (idle : label.message ∉ state.messages) :
    deliver policy state label = state := by
  rw [deliver, turn, if_neg idle]
  rfl

theorem deliver_table (policy : DeliveryRetryPolicy)
    (waiting : label.message ∈ state.messages) :
    (deliver policy state label).table =
      (dispatch policy (fun _ => label.outcome) label.now state.table
        label.message.notificationId).table := by
  rw [deliver, turn, if_pos waiting]
  exact publish_table _ _

/-- A delivery stores no row and takes none away. -/
theorem getById_deliver (policy : DeliveryRetryPolicy) (state : Drain) (label : Turn) (id : UUID) :
    (deliver policy state label).table.getById id = none ↔ state.table.getById id = none := by
  by_cases waiting : label.message ∈ state.messages
  · rw [deliver_table policy waiting]
    have performs := perform_performs policy state.table
      (.dispatch label.message.notificationId (fun _ => label.outcome) label.now)
    exact (performs.getById_eq_none_iff id).trans (and_iff_left nofun)
  · rw [deliver_of_idle waiting]

theorem ownIds_deliver (policy : DeliveryRetryPolicy) (state : Drain) (label : Turn)
    (clientId : UUID) :
    (deliver policy state label).table.ownIds clientId = state.table.ownIds clientId := by
  by_cases waiting : label.message ∈ state.messages
  · rw [deliver_table policy waiting]
    have performs := perform_performs policy state.table
      (.dispatch label.message.notificationId (fun _ => label.outcome) label.now)
    exact performs.ownIds_eq clientId
  · rw [deliver_of_idle waiting]

/-- The messages after a delivery, by the row that it loads. -/
theorem deliver_messages (policy : DeliveryRetryPolicy) (label : Turn) {row : Notification}
    (about : row.id = label.message.notificationId) :
    ∃ ended, ∀ state : Drain, state.table.getById row.id = some row →
      label.message ∈ state.messages →
        (deliver policy state label).messages =
          (endedEffect policy label.message ended).followUps ++
            state.messages.erase label.message := by
  obtain ⟨_, _, ended, -, rest⟩ := dispatch_row policy (fun _ => label.outcome) label.now row
  refine ⟨ended, fun state found waiting => ?_⟩
  obtain ⟨-, -, returned⟩ := rest state.table found
  rw [about] at returned
  rw [deliver, turn, if_pos waiting, Option.getD_some, publish_messages]
  simp only [deliverNotification, returned]

end Drain

/-! ## Two stores that look the same -/

structure SameDrain (clientId : UUID) (state image : Drain) : Prop where
  rows : SameFor clientId state.table image.table
  messages : ∀ message, message.notificationId ∈ state.table.ownIds clientId →
    image.messages.count message = state.messages.count message
  stored : AboutStored state.table state.messages
  stored' : AboutStored state.table image.messages

namespace SameDrain

variable {policy : DeliveryRetryPolicy} {clientId : UUID} {state image next : Drain}

theorem refl (stored : AboutStored state.table state.messages) :
    SameDrain clientId state state where
  rows := .refl clientId state.table
  messages _ _ := rfl
  stored := stored
  stored' := stored

theorem mem_messages_iff (same : SameDrain clientId state image) {message : Message}
    (own : message.notificationId ∈ state.table.ownIds clientId) :
    message ∈ image.messages ↔ message ∈ state.messages := by
  rw [← List.count_pos_iff, ← List.count_pos_iff, same.messages message own]

/-- The image stays as it is while the other store gets rows and messages of other clients. -/
theorem hidden (same : SameDrain clientId state image)
    (rows : next.table.ofClient clientId = state.table.ofClient clientId)
    (kept : ∀ id, next.table.getById id = none → state.table.getById id = none)
    (messages : ∀ message, message.notificationId ∈ state.table.ownIds clientId →
      next.messages.count message = state.messages.count message)
    (stored : AboutStored next.table next.messages) : SameDrain clientId next image where
  rows := ⟨same.rows.rows.trans rows.symm, fun id missing => same.rows.unused id (kept id missing)⟩
  messages message own := by
    rw [Table.ownIds, rows] at own
    rw [same.messages message own, messages message own]
  stored := stored
  stored' := same.stored'.mono kept

/-! ### A call of accept -/

section Accept

variable {request : SendNotificationRequest} {id : UUID} {outcome : EnqueueOutcome}

/-- A call of another client changes nothing that the client sees. -/
theorem accept_hidden (same : SameDrain clientId state image) {caller : UUID}
    (other : caller ≠ clientId) (fresh : state.table.getById id = none) :
    SameDrain clientId (state.accepted (accept state.table caller request id outcome)) image := by
  have performs := perform_performs .default state.table (.accept caller request id outcome)
  have invisible : ServiceOp.visibleTo clientId state.table (.accept caller request id outcome) =
      false := by simpa [ServiceOp.visibleTo, ServiceOp.caller] using other
  have rows := performs.ofClient_eq invisible
  have kept : ∀ missing, (accept state.table caller request id outcome).table.getById missing =
      none → state.table.getById missing = none := fun missing absent =>
    ((performs.getById_eq_none_iff missing).mp absent).1
  have accepts := accept_accepts state.table caller request id outcome
  simp only [ServiceOp.perform] at rows
  generalize accept state.table caller request id outcome = run at accepts rows kept
  cases accepts with
  | replayed => exact same
  | refused => exact same
  | inserted table' inserted =>
      refine same.hidden rows kept (fun message own => count_enqueuedMessages ?_)
        (same.stored.enqueued inserted)
      obtain ⟨row, found, -⟩ := Table.mem_ownIds.mp own
      rintro rfl
      cases fresh.symm.trans found

/-- A call of the client itself does the same in both stores. -/
theorem accept_visible (same : SameDrain clientId state image)
    (request : SendNotificationRequest) (outcome : EnqueueOutcome)
    (fresh : state.table.getById id = none) :
    SameDrain clientId (state.accepted (accept state.table clientId request id outcome))
        (image.accepted (accept image.table clientId request id outcome)) ∧
      (accept image.table clientId request id outcome).result =
        (accept state.table clientId request id outcome).result := by
  obtain ⟨rows, result⟩ := same.rows.accept request fresh outcome
  refine ⟨?_, result⟩
  have alike := accept_alike (same.rows.findExisting_eq request) fresh (same.rows.unused id fresh)
    outcome
  generalize accept state.table clientId request id outcome = run at alike rows ⊢
  generalize accept image.table clientId request id outcome = run' at alike rows ⊢
  cases alike with
  | kept => exact same
  | inserted table' image' inserted =>
      refine ⟨rows, fun message own => count_enqueuedMessages_congr ?_,
        same.stored.enqueued inserted, same.stored'.enqueued inserted⟩
      obtain ⟨row, found', client⟩ := Table.mem_ownIds.mp own
      rw [Drain.accepted, Table.getById_insert inserted] at found'
      by_cases new : id = message.notificationId
      · rw [new] at fresh
        rw [same.stored.count_eq_zero fresh, same.stored'.count_eq_zero fresh]
      · rw [create_id, if_neg new] at found'
        exact same.messages message (Table.mem_ownIds.mpr ⟨row, found', client⟩)

end Accept

/-! ### A delivery -/

section Deliver

variable {label : Turn}

/-- A delivery of a row of another client changes nothing that the client sees. -/
theorem deliver_hidden (same : SameDrain clientId state image)
    (foreign : label.message.notificationId ∉ state.table.ownIds clientId) :
    SameDrain clientId (state.deliver policy label) image := by
  by_cases waiting : label.message ∈ state.messages
  · obtain ⟨row, found⟩ := Option.ne_none_iff_exists'.mp (same.stored _ waiting)
    have about : row.id = label.message.notificationId := Table.getById_id found
    have performs := perform_performs policy state.table
      (.dispatch label.message.notificationId (fun _ => label.outcome) label.now)
    have invisible : ServiceOp.visibleTo clientId state.table
        (.dispatch label.message.notificationId (fun _ => label.outcome) label.now) = false := by
      simp only [ServiceOp.visibleTo, found, decide_eq_false_iff_not]
      exact fun own => foreign (Table.mem_ownIds.mpr ⟨row, found, own⟩)
    have rows := performs.ofClient_eq invisible
    rw [ServiceOp.perform, ← Drain.deliver_table policy waiting] at rows
    have kept : ∀ id, (state.deliver policy label).table.getById id = none →
        state.table.getById id = none := fun id => (Drain.getById_deliver policy state label id).mp
    obtain ⟨ended, messages⟩ := Drain.deliver_messages policy label about
    rw [← about] at found
    refine same.hidden rows kept (fun message own => ?_) ?_
    · have unlike : message.notificationId ≠ label.message.notificationId := by
        intro alike
        exact foreign (alike ▸ own)
      have noFollowUp : message ∉ (endedEffect policy label.message ended).followUps :=
        fun member => unlike (followUps_notificationId member)
      rw [messages state found waiting, List.count_append, List.count_eq_zero.mpr noFollowUp,
        Nat.zero_add, List.count_erase_of_ne (by rintro rfl; exact unlike rfl)]
    · rw [messages state found waiting]
      exact (same.stored.delivered waiting policy ended).mono kept
  · rw [Drain.deliver_of_idle waiting]
    exact same

/-- A delivery of a row of the client does the same in both stores. -/
theorem deliver_visible (same : SameDrain clientId state image)
    (own : label.message.notificationId ∈ state.table.ownIds clientId) :
    SameDrain clientId (state.deliver policy label) (image.deliver policy label) := by
  by_cases waiting : label.message ∈ state.messages
  · have waiting' := (same.mem_messages_iff own).mpr waiting
    obtain ⟨row, found, client⟩ := Table.mem_ownIds.mp own
    have about : row.id = label.message.notificationId := Table.getById_id found
    obtain ⟨ended, messages⟩ := Drain.deliver_messages policy label about
    rw [← about] at found
    have found' := same.rows.getById found client
    have kept : ∀ id, (state.deliver policy label).table.getById id = none →
        state.table.getById id = none := fun id => (Drain.getById_deliver policy state label id).mp
    constructor
    case rows =>
      rw [Drain.deliver_table policy waiting, Drain.deliver_table policy waiting', ← about]
      exact same.rows.dispatch (fun _ => label.outcome) label.now found client
    case messages =>
      intro message still
      rw [Drain.ownIds_deliver] at still
      rw [messages state found waiting, messages image found' waiting', List.count_append,
        List.count_append, List.count_erase, List.count_erase, same.messages message still]
    case stored =>
      rw [messages state found waiting]
      exact (same.stored.delivered waiting policy ended).mono kept
    case stored' =>
      rw [messages image found' waiting']
      exact (same.stored'.delivered waiting' policy ended).mono kept
  · rw [Drain.deliver_of_idle waiting,
      Drain.deliver_of_idle fun member => waiting ((same.mem_messages_iff own).mp member)]
    exact same

end Deliver

/-! ### A copy of a message -/

/-- The broker has a message once more. -/
theorem duplicate_hidden (same : SameDrain clientId state image) {message : Message}
    (waiting : message ∈ state.messages)
    (foreign : message.notificationId ∉ state.table.ownIds clientId) :
    SameDrain clientId { state with messages := message :: state.messages } image := by
  refine same.hidden rfl (fun _ => id) (fun other own => List.count_cons_of_ne ?_) ?_
  · rintro rfl
    exact foreign own
  · exact List.forall_mem_cons.mpr ⟨same.stored message waiting, same.stored⟩

theorem duplicate_visible (same : SameDrain clientId state image) {message : Message}
    (waiting : message ∈ state.messages) :
    SameDrain clientId { state with messages := message :: state.messages }
      { image with messages := message :: image.messages } where
  rows := same.rows
  messages other own := by rw [List.count_cons, List.count_cons, same.messages other own]
  stored := List.forall_mem_cons.mpr ⟨same.stored message waiting, same.stored⟩
  stored' := List.forall_mem_cons.mpr ⟨same.stored message waiting, same.stored'⟩

end SameDrain

end NotificationsEngine
