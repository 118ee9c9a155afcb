import NotificationsEngine.Http.Polling
import NotificationsEngine.Http.TenantView
import NotificationsEngine.Workers.Focus

/-!
# What becomes of an announced notification

A 202 response to a new notification is kept: whatever else the application
does, the row is delivered until it is SENT or FAILED, with a bounded number of
deliveries, and it is in the dead-letter queue exactly if it is FAILED.  Only an
outcome that the database cannot record ends its deliveries before.
-/

namespace NotificationsEngine

open Observation
open Engine (enqueuedMessages)

namespace App

variable {config : AppConfig} {app : App} {id : UUID} {recorded : Prop}

def handled (id : UUID) (app : App) : AppOp → Option Bool
  | .request .. => none
  | .deliver turn =>
      if turn.message ∈ app.messages ∧ turn.message.notificationId = id then some true else none
  | .duplicate message =>
      if message ∈ app.messages ∧ message.notificationId = id then some false else none

def handledAlong (config : AppConfig) (id : UUID) (app : App) (ops : List AppOp) : List Bool :=
  observe (perform config) (handled id) app ops

def Follows (config : AppConfig) (id : UUID) (app : App) : Prop :=
  ∃ row, Drain.Sound config.policy id row (app.toDrain.about id)

def Attends (id : UUID) (app : App) : Prop :=
  ∀ row, app.table.getById id = some row → Drain.Attended row (app.toDrain.about id)

/-- If the operation delivers the id, its outcome can be recorded at every attempt. -/
def Recorded (config : AppConfig) (id : UUID) : AppOp → Prop
  | .deliver turn => turn.message.notificationId = id →
      turn.outcome.recordable config.policy.maxAttempts.toNat = true
  | _ => True

/-- The messages about the id and the retries that its row can still ask for. -/
def capacity (config : AppConfig) (id : UUID) (app : App) : ℕ :=
  (app.toDrain.about id).capacity config.policy id

/-- One operation uses a message or an attempt up if it delivers the id, and adds its copy. -/
structure Advances (config : AppConfig) (id : UUID) (app next : App) (handled : Option Bool)
    (recorded : Prop) : Prop where
  follows : Follows config id next
  attends : recorded → Attends id app → Attends id next
  capacity : next.capacity config id + handled.toList.count true ≤
    app.capacity config id + handled.toList.count false

/-- An operation that the id does not notice. -/
theorem Follows.unnoticed {next : App} (follows : Follows config id app)
    (unnoticed : Drain.Unnoticed id app.toDrain next.toDrain) :
    Advances config id app next none recorded := by
  obtain ⟨row, sound⟩ := follows
  have sound' := sound.unnoticed unnoticed
  refine ⟨⟨row, sound'⟩, fun _ attends other found => ?_, ?_⟩
  · exact (attends other (unnoticed.found ▸ found)).unnoticed unnoticed
  rw [capacity, capacity, sound.capacity_eq, sound'.capacity_eq, unnoticed.messages]
  exact Nat.le_refl _

theorem Follows.unchanged {next : App} (follows : Follows config id app)
    (same : next.toDrain = app.toDrain) : Advances config id app next none recorded :=
  follows.unnoticed (same ▸ ⟨rfl, rfl, rfl⟩)

theorem Follows.request (follows : Follows config id app) (scope : Scope) (body : Body)
    (surroundings : Surroundings) :
    Advances config id app (app.perform config (.request scope body surroundings)) none
      recorded := by
  have handles : Handles config app surroundings scope body _ := handle_handles
  rw [perform]
  generalize app.handle config surroundings scope body = run at handles
  cases handles with
  | kept => exact follows.unchanged spent_toDrain
  | accepted client request =>
      obtain ⟨row, sound⟩ := follows
      refine Follows.unnoticed ⟨row, sound⟩ ?_
      rw [spent_accepted_toDrain]
      exact Drain.unnoticed_accepted client.id surroundings.newId request
        (celeryEnqueue surroundings.applyAsync) sound.found

theorem Follows.deliver (follows : Follows config id app) (turn : Turn) :
    Advances config id app (app.perform config (.deliver turn)) (handled id app (.deliver turn))
      (Recorded config id (.deliver turn)) := by
  rw [perform_deliver]
  by_cases waiting : turn.message ∈ app.messages
  · have taken : Drain.turn config.policy app.toDrain turn =
        some (app.toDrain.deliver config.policy turn) := by
      rw [Drain.deliver, Drain.turn, if_pos waiting, Option.getD_some]
    by_cases own : turn.message.notificationId = id
    · obtain ⟨row, sound⟩ := follows
      obtain ⟨row', turned, attended⟩ := sound.turn (Drain.about_turn_own taken own)
      refine ⟨⟨row', turned.sound⟩, fun recorded _ other found => ?_, ?_⟩
      · cases found.symm.trans turned.sound.found
        exact attended (sound.records own (recorded own))
      · rw [handled, if_pos ⟨waiting, own⟩, capacity, capacity, sound.capacity_eq,
          turned.sound.capacity_eq]
        exact turned.shorter
    · rw [handled, if_neg fun both => own both.2]
      exact follows.unnoticed (Drain.unnoticed_turn taken own)
  · rw [handled, if_neg fun both => waiting both.1]
    exact follows.unchanged (Drain.deliver_of_idle waiting)

theorem Follows.duplicate (follows : Follows config id app) (message : Message) :
    Advances config id app (app.perform config (.duplicate message))
      (handled id app (.duplicate message)) recorded := by
  rw [perform]
  by_cases waiting : message ∈ app.messages
  · rw [if_pos waiting]
    by_cases own : message.notificationId = id
    · obtain ⟨row, sound⟩ := follows
      obtain ⟨sound', longer⟩ := sound.copied waiting own
      refine ⟨⟨row, sound'⟩, fun _ _ _ _ _ empty => ?_, ?_⟩
      · rw [List.length_eq_zero_iff.mpr empty] at longer
        cases longer
      · rw [handled, if_pos ⟨waiting, own⟩, capacity, capacity, sound.capacity_eq,
          sound'.capacity_eq, longer]
        change _ + 0 ≤ _ + 1
        omega
    · rw [handled, if_neg fun both => own both.2]
      exact follows.unnoticed (Drain.unnoticed_copied own)
  · rw [if_neg waiting, handled, if_neg fun both => waiting both.1]
    exact follows.unchanged rfl

theorem Follows.perform (follows : Follows config id app) (op : AppOp) :
    Advances config id app (app.perform config op) (handled id app op) (Recorded config id op) := by
  cases op with
  | request scope body surroundings => exact follows.request scope body surroundings
  | deliver turn => exact follows.deliver turn
  | duplicate message => exact follows.duplicate message

/-- A run uses up capacity with every delivery, gets some with every copy, and follows the id. -/
theorem Follows.performAll (follows : Follows config id app) (ops : List AppOp) :
    Follows config id (app.performAll config ops) ∧
      (app.performAll config ops).capacity config id +
          (app.handledAlong config id ops).count true ≤
        app.capacity config id + (app.handledAlong config id ops).count false := by
  induction ops generalizing app with
  | nil => exact ⟨follows, Nat.le_refl _⟩
  | cons op rest ih =>
      have first := follows.perform op
      obtain ⟨follows', later⟩ := ih first.follows
      refine ⟨follows', ?_⟩
      have along : app.handledAlong config id (op :: rest) =
          (handled id app op).toList ++ (app.perform config op).handledAlong config id rest := rfl
      have spent := first.capacity
      rw [along, List.count_append, List.count_append]
      change ((app.perform config op).performAll config rest).capacity config id + _ ≤ _
      omega

/-- A run in which every delivery of the id is recorded does not leave a live row alone. -/
theorem Attends.performAll (attends : Attends id app) (follows : Follows config id app)
    {ops : List AppOp} (recorded : ∀ op ∈ ops, Recorded config id op) :
    Attends id (app.performAll config ops) := by
  induction ops generalizing app with
  | nil => exact attends
  | cons op rest ih =>
      have first := follows.perform op
      exact ih (first.attends (recorded op List.mem_cons_self) attends) first.follows
        fun later member => recorded later (List.mem_cons_of_mem op member)

/-! ## From the response on -/

end App

end NotificationsEngine
