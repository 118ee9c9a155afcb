import NotificationsEngine.Workers.Isolation

/-!
# One row in a shared queue

The queue as it looks to somebody who follows one id.  Deliveries of that id
are the deliveries of a queue of its own, and the others are not noticed, so
what was proved of the queue of one row holds beside any other traffic.
-/

namespace NotificationsEngine

open KeyedList

def DeliveryEffect.subject : DeliveryEffect → Option UUID
  | .nothing => none
  | .retry _ followUp => some followUp.notificationId
  | .retryRefused => none
  | .deadLetter id => some id

/-- Whatever is published is about the row of the message. -/
theorem endedEffect_subject {policy : DeliveryRetryPolicy} {message : Message}
    {ended : Except DispatchError DispatchResult} {id : UUID}
    (about : (endedEffect policy message ended).subject = some id) :
    id = message.notificationId := by
  cases effect : endedEffect policy message ended with
  | nothing => rw [effect] at about; cases about
  | retryRefused => rw [effect] at about; cases about
  | retry countdown followUp =>
      have member : followUp ∈ (endedEffect policy message ended).followUps := by
        rw [effect]
        exact List.mem_singleton.mpr rfl
      rw [effect] at about
      cases about
      exact followUps_notificationId member
  | deadLetter dead =>
      rw [effect] at about
      cases about
      cases ended with
      | error error => cases effect
      | ok result => exact (applyDeliveryResult_eq_deadLetter effect).2

theorem deliverNotification_subject {policy : DeliveryRetryPolicy}
    {provider : OutboundMessage → ProviderOutcome} {now : Instant} {table : Table}
    {message : Message} {id : UUID}
    (about : (deliverNotification policy provider now table message).effect.subject = some id) :
    id = message.notificationId := endedEffect_subject about

namespace Drain

def about (id : UUID) (state : Drain) : Drain where
  table := state.table
  messages := state.messages.filter fun message => message.notificationId = id
  deadLetters := state.deadLetters.filter fun dead => dead = id

variable {policy : DeliveryRetryPolicy} {id : UUID} {state next : Drain} {label : Turn}
  {row : Notification}

theorem about_publish_own {effect : DeliveryEffect}
    (own : ∀ other, effect.subject = some other → other = id) :
    (state.publish effect).about id = (state.about id).publish effect := by
  cases effect with
  | nothing => rfl
  | retryRefused => rfl
  | retry countdown followUp =>
      have same : followUp.notificationId = id := own _ rfl
      simp [about, publish, same]
  | deadLetter dead =>
      have same : dead = id := own _ rfl
      simp [about, publish, same]

theorem about_publish_other {effect : DeliveryEffect}
    (other : ∀ subject, effect.subject = some subject → subject ≠ id) :
    (state.publish effect).about id = state.about id := by
  cases effect with
  | nothing => rfl
  | retryRefused => rfl
  | retry countdown followUp =>
      have unlike : followUp.notificationId ≠ id := other _ rfl
      simp [about, publish, unlike]
  | deadLetter dead =>
      have unlike : dead ≠ id := other _ rfl
      simp [about, publish, unlike]

/-- A delivery of the id is a delivery of the queue of its own. -/
theorem about_turn_own (hturn : turn policy state label = some next)
    (own : label.message.notificationId = id) :
    turn policy (state.about id) label = some (next.about id) := by
  unfold turn at hturn ⊢
  split at hturn
  · next member =>
      cases hturn
      have waiting : label.message ∈ (state.about id).messages :=
        List.mem_filter.mpr ⟨member, decide_eq_true own⟩
      rw [if_pos waiting, about_publish_own fun other subject =>
        (deliverNotification_subject subject).trans own]
      simp only [about, List.erase_filter]
  · cases hturn

structure Unnoticed (id : UUID) (state next : Drain) : Prop where
  found : next.table.getById id = state.table.getById id
  messages : (next.about id).messages = (state.about id).messages
  dead : (next.about id).deadLetters = (state.about id).deadLetters

/-- A delivery of another id is not noticed. -/
theorem unnoticed_turn (hturn : turn policy state label = some next)
    (other : label.message.notificationId ≠ id) : Unnoticed id state next := by
  unfold turn at hturn
  split at hturn
  · next member =>
      cases hturn
      have unlike : ∀ subject, (deliverNotification policy (fun _ => label.outcome) label.now
          state.table label.message).effect.subject = some subject → subject ≠ id :=
        fun _ same => (deliverNotification_subject same).trans_ne other
      constructor
      case found =>
        rw [publish_table]
        exact getById_dispatch_ne policy (fun _ => label.outcome) label.now state.table other
      case messages =>
        rw [about_publish_other unlike]
        simp only [about, ← List.erase_filter]
        exact List.erase_of_not_mem fun taken => other (by simpa using (List.mem_filter.mp taken).2)
      case dead =>
        rw [about_publish_other unlike]
        rfl
  · cases hturn

/-- A call of `accept` that meets the row of the id is not noticed. -/
theorem unnoticed_accepted (caller newId : UUID) (request : SendNotificationRequest)
    (outcome : EnqueueOutcome) (found : state.table.getById id = some row) :
    Unnoticed id state (state.accepted (accept state.table caller request newId outcome)) := by
  have accepts := accept_accepts state.table caller request newId outcome
  generalize accept state.table caller request newId outcome = run at accepts
  cases accepts with
  | replayed => exact ⟨rfl, rfl, rfl⟩
  | refused => exact ⟨rfl, rfl, rfl⟩
  | inserted table' inserted =>
      have other : newId ≠ id := by
        rintro rfl
        have fresh := Table.insert_fresh inserted
        rw [create_id] at fresh
        cases found.symm.trans fresh
      refine ⟨?_, ?_, rfl⟩
      · exact (Table.getById_insert_of_some inserted found).trans found.symm
      · cases outcome with
        | published => simp [about, accepted, Engine.enqueuedMessages, other]
        | unavailable => rfl
        | failed => rfl

/-- A copy of a message about another id is not noticed. -/
theorem unnoticed_copied {message : Message} (other : message.notificationId ≠ id) :
    Unnoticed id state { state with messages := message :: state.messages } :=
  ⟨rfl, by simp [about, other], rfl⟩

theorem Sound.unnoticed (sound : Sound policy id row (state.about id))
    (unnoticed : Unnoticed id state next) : Sound policy id row (next.about id) where
  found := unnoticed.found.trans sound.found
  own := unnoticed.messages ▸ sound.own
  budget := sound.budget
  dead := unnoticed.dead.trans sound.dead

theorem Attended.unnoticed (attended : Attended row (state.about id))
    (unnoticed : Unnoticed id state next) : Attended row (next.about id) := by
  intro live
  rw [unnoticed.messages]
  exact attended live

/-- The broker has a message about the id once more. -/
theorem Sound.copied (sound : Sound policy id row (state.about id)) {message : Message}
    (waiting : message ∈ state.messages) (own : message.notificationId = id) :
    Sound policy id row (about id { state with messages := message :: state.messages }) ∧
      (about id { state with messages := message :: state.messages }).messages.length =
        (state.about id).messages.length + 1 := by
  have member : message ∈ (state.about id).messages :=
    List.mem_filter.mpr ⟨waiting, decide_eq_true own⟩
  have once_more : about id { state with messages := message :: state.messages } =
      { state.about id with messages := message :: (state.about id).messages } := by
    simp [about, own]
  rw [once_more]
  exact ⟨⟨sound.found, List.forall_mem_cons.mpr ⟨sound.own message member, sound.own⟩,
    sound.budget, sound.dead⟩, rfl⟩

end Drain

end NotificationsEngine
