import NotificationsEngine.Services.Accept
import NotificationsEngine.Workers.Delivery
import NotificationsEngine.Library.StepMachine

/-!
# Draining the queue of one row

Deliveries that run one after another, each to its end: any waiting message
may be next and the provider may do anything.  Every delivery uses up a message
or an attempt, so the messages run out.  As long as every outcome can be
recorded they run out only on a terminal row; a delivery whose last commit
raises leaves a PROCESSING row behind.
-/

namespace NotificationsEngine

open StepMachine

structure Drain where
  table : Table
  messages : List Message
  deadLetters : List UUID

/-- The message that is taken next, and the outcome of its provider call, if there is one. -/
structure Turn where
  message : Message
  outcome : ProviderOutcome
  now : Instant

namespace Drain

def publish (state : Drain) : DeliveryEffect → Drain
  | .nothing => state
  | .retryRefused => state
  | .retry _ followUp => { state with messages := followUp :: state.messages }
  | .deadLetter id => { state with deadLetters := id :: state.deadLetters }

@[simp] theorem publish_table (state : Drain) (effect : DeliveryEffect) :
    (state.publish effect).table = state.table := by
  cases effect <;> rfl

def turn (policy : DeliveryRetryPolicy) (state : Drain) (label : Turn) : Option Drain :=
  if label.message ∈ state.messages then
    let run := deliverNotification policy (fun _ => label.outcome) label.now state.table
      label.message
    some (publish
      { state with table := run.table, messages := state.messages.erase label.message }
      run.effect)
  else none

/-- The attempts that the row can still ask a retry for. -/
def remaining (policy : DeliveryRetryPolicy) (row : Notification) : Nat :=
  if row.status.isTerminal then 0 else (policy.maxAttempts - 1 - row.retryCount).toNat

/-- The messages are about the stored row and count no more than it does. -/
structure Sound (policy : DeliveryRetryPolicy) (id : UUID) (row : Notification)
    (state : Drain) : Prop where
  found : state.table.getById id = some row
  own : ∀ message ∈ state.messages, message.notificationId = id ∧
    message.retries ≤ row.retryCount
  budget : row.status.isTerminal = false → (row.retryCount : Int) + 1 ≤ policy.maxAttempts
  dead : state.deadLetters = if row.status = .failed then [id] else []

def Attended (row : Notification) (state : Drain) : Prop :=
  row.status.isTerminal = false → state.messages ≠ []

/-- If the delivery asks the provider, the database can record the outcome. -/
def Records (state : Drain) (label : Turn) (_ : Drain) : Prop :=
  ∀ row, state.table.getById label.message.notificationId = some row →
    row.status.isTerminal = false → label.outcome.recordable (row.retryCount + 1) = true

variable {policy : DeliveryRetryPolicy} {id : UUID} {row : Notification} {state next : Drain}

/-- A status that is not terminal is not FAILED. -/
theorem Sound.dead_of_live (sound : Sound policy id row state)
    (live : row.status.isTerminal = false) : state.deadLetters = [] := by
  rw [sound.dead, if_neg]
  intro failed
  rw [failed] at live
  cases live

/-- One delivery has kept the messages sound, and has used up a message or an attempt. -/
structure Turned (policy : DeliveryRetryPolicy) (id : UUID) (row : Notification) (state : Drain)
    (row' : Notification) (next : Drain) : Prop where
  sound : Sound policy id row' next
  shorter : next.messages.length + remaining policy row' + 1 ≤
    state.messages.length + remaining policy row

/-- The delivery ends on a terminal row, which it has left as it was or made so. -/
theorem Sound.finish (sound : Sound policy id row state) {message : Message}
    (member : message ∈ state.messages) {table : Table} {row' : Notification}
    {deadLetters : List UUID} (found : table.getById id = some row')
    (counted : row.retryCount ≤ row'.retryCount) (terminal : row'.status.isTerminal = true)
    (dead : deadLetters = if row'.status = .failed then [id] else []) :
    Turned policy id row state row' ⟨table, state.messages.erase message, deadLetters⟩ := by
  refine ⟨⟨found, fun other kept => ?_, fun live => ?_, dead⟩, ?_⟩
  · obtain ⟨own, below⟩ := sound.own other (List.mem_of_mem_erase kept)
    exact ⟨own, below.trans counted⟩
  · rw [terminal] at live
    cases live
  · have shorter := List.length_erase_of_mem member
    have positive := List.length_pos_of_mem member
    have none_left : remaining policy row' = 0 := if_pos terminal
    dsimp only
    omega

/-- The delivery asks for a retry, which uses up an attempt and is accepted. -/
theorem Sound.again (sound : Sound policy id row state) {message : Message}
    (member : message ∈ state.messages) (live : row.status.isTerminal = false)
    {table : Table} {row' : Notification} (found : table.getById id = some row')
    (counted : row'.retryCount = row.retryCount + 1) (pending : row'.status = .pending)
    (budget : (row.retryCount : Int) + 1 < policy.maxAttempts) :
    ∃ followUp, message.retry policy.maxRetries = some followUp ∧
      Turned policy id row state row'
        ⟨table, followUp :: state.messages.erase message, state.deadLetters⟩ := by
  obtain ⟨own, below⟩ := sound.own message member
  have room : (message.retries : Int) + 2 ≤ policy.maxAttempts := by omega
  refine ⟨_, Message.retry_of_budget room, ⟨found, fun other kept => ?_, fun _ => ?_, ?_⟩, ?_⟩
  · rw [counted]
    rcases List.mem_cons.mp kept with rfl | old
    · exact ⟨own, Nat.succ_le_succ below⟩
    · obtain ⟨own, below⟩ := sound.own other (List.mem_of_mem_erase old)
      exact ⟨own, by omega⟩
  · omega
  · rw [pending]
    exact sound.dead_of_live live
  · have shorter := List.length_erase_of_mem member
    have positive := List.length_pos_of_mem member
    have terminal : row'.status.isTerminal = false := by
      rw [pending]
      rfl
    simp only [remaining, live, terminal, Bool.false_eq_true, if_false, counted,
      List.length_cons]
    omega

/-- The delivery raises at its last commit: the message is gone and the row is PROCESSING. -/
theorem Sound.abandon (sound : Sound policy id row state) {message : Message}
    (member : message ∈ state.messages) (live : row.status.isTerminal = false) {table : Table}
    (found : table.getById id = some (row.withColumns row.claimed)) :
    Turned policy id row state (row.withColumns row.claimed)
      ⟨table, state.messages.erase message, state.deadLetters⟩ := by
  refine ⟨⟨found, fun other kept => sound.own other (List.mem_of_mem_erase kept),
    fun _ => sound.budget live, sound.dead_of_live live⟩, ?_⟩
  have shorter := List.length_erase_of_mem member
  have positive := List.length_pos_of_mem member
  have same : remaining policy (row.withColumns row.claimed) = remaining policy row := by
    rw [remaining, remaining, live]
    rfl
  dsimp only
  omega

/-- One delivery keeps the messages sound and uses up a message or an attempt, and a row whose
outcome is recorded is not left without a message. -/
theorem Sound.turn (sound : Sound policy id row state) {label : Turn}
    (hturn : Drain.turn policy state label = some next) :
    ∃ row', Turned policy id row state row' next ∧
      (Records state label next → Attended row' next) := by
  obtain ⟨message, outcome, now⟩ := label
  unfold Drain.turn at hturn
  split at hturn
  · next member =>
      cases hturn
      obtain ⟨columns, messages, result, dispatches, found, -, ended⟩ :=
        dispatch_dispatches policy (fun _ => outcome) now sound.found
      have own := (sound.own message member).1
      have attended : ∀ {row' : Notification} {state' : Drain}, row'.status.isTerminal = true →
          Attended row' state' := by
        intro row' state' terminal live
        rw [terminal] at live
        cases live
      simp only [deliverNotification, own, ended]
      cases dispatches with
      | skipped terminal =>
          exact ⟨row, sound.finish member found (Nat.le_refl _) terminal sound.dead,
            fun _ => attended terminal⟩
      | unrecorded live _ _ settles misfit =>
          refine ⟨_, sound.abandon member live found, fun records => ?_⟩
          have recorded := records row (own ▸ sound.found) live
          rw [fitsUpdate_of_recordable settles recorded] at misfit
          cases misfit
      | settled live _ _ settles =>
          cases settles with
          | sent =>
              exact ⟨_, sound.finish member found (Nat.le_refl _) rfl (sound.dead_of_live live),
                fun _ => attended rfl⟩
          | failed error exhausted =>
              refine ⟨_, sound.finish member found (Nat.le_succ _) rfl ?_, fun _ => attended rfl⟩
              rw [sound.dead_of_live live, own]
              rfl
          | retry error countdown transient budget scheduled =>
              obtain ⟨followUp, accepted, turned⟩ := sound.again member live found rfl rfl budget
              dsimp only [endedEffect]
              rw [applyDeliveryResult_retry _ _ rfl, accepted]
              exact ⟨_, turned, fun _ _ => List.cons_ne_nil _ _⟩
  · cases hturn

/-- Only a waiting message is taken. -/
theorem mem_of_turn {label : Turn} (hturn : turn policy state label = some next) :
    label.message ∈ state.messages := by
  by_contra absent
  rw [turn, if_neg absent] at hturn
  cases hturn

/-- The attempts of a live row are within the budget. -/
theorem Sound.records (sound : Sound policy id row state) {label : Turn}
    (own : label.message.notificationId = id)
    (recorded : label.outcome.recordable policy.maxAttempts.toNat = true) :
    Records state label next := by
  intro other found live
  cases (own ▸ found).symm.trans sound.found
  have budget := sound.budget live
  exact ProviderOutcome.recordable_mono recorded (by omega)

/-! ## Whole runs -/

/-- The messages that wait and the retries that the stored row can still ask for. -/
def capacity (policy : DeliveryRetryPolicy) (id : UUID) (state : Drain) : Nat :=
  state.messages.length + ((state.table.getById id).map (remaining policy)).getD 0

theorem Sound.capacity_eq (sound : Sound policy id row state) :
    state.capacity policy id = state.messages.length + remaining policy row := by
  rw [capacity, sound.found]
  rfl

/-- `copies` first messages of a stored row, and nothing in the dead-letter queue. -/
def start (table : Table) (id : UUID) (copies : Nat) : Drain :=
  ⟨table, List.replicate copies ⟨id, 0⟩, []⟩

theorem remaining_create (policy : DeliveryRetryPolicy) (clientId id : UUID)
    (request : SendNotificationRequest) :
    remaining policy (create clientId request id) = (policy.maxAttempts - 1).toNat := by
  simp [remaining, create, NotificationStatus.isTerminal]

theorem sound_start {table : Table} {clientId : UUID} {request : SendNotificationRequest}
    {copies : Nat} (created : table.getById id = some (create clientId request id)) :
    Sound policy id (create clientId request id) (start table id copies) where
  found := created
  own := by
    intro message waiting
    rw [List.eq_of_mem_replicate waiting]
    exact ⟨rfl, Nat.le_refl _⟩
  budget _ := by simpa [create] using policy.maxAttempts_pos
  dead := rfl

theorem attended_start {table : Table} {row : Notification} {copies : Nat}
    (some_copy : 1 ≤ copies) : Attended row (start table id copies) := by
  intro _ empty
  have none_left : copies = 0 := by simpa [start] using empty
  omega

/-- A run uses up capacity with every delivery and stays sound. -/
theorem Sound.run {turns : List Turn} {final : Drain} (sound : Sound policy id row state)
    (reached : StepMachine.run (Drain.turn policy) state turns = some final) :
    (∃ row', Sound policy id row' final) ∧
      turns.length + final.capacity policy id ≤ state.capacity policy id := by
  have preserved : ∀ before label after, (∃ row, Sound policy id row before) →
      Drain.turn policy before label = some after → ∃ row, Sound policy id row after := by
    rintro before label after ⟨row, sound⟩ hturn
    obtain ⟨row', turned, -⟩ := sound.turn hturn
    exact ⟨row', turned.sound⟩
  refine ⟨run_invariant preserved ⟨row, sound⟩ reached,
    run_length_le (I := fun state => ∃ row, Sound policy id row state) preserved ?_ ⟨row, sound⟩
      reached⟩
  rintro before label after ⟨row, sound⟩ hturn
  obtain ⟨row', turned, -⟩ := sound.turn hturn
  rw [sound.capacity_eq, turned.sound.capacity_eq]
  exact turned.shorter

/-- A run whose outcomes are all recorded leaves no live row without a message. -/
theorem Sound.run_attended {turns : List Turn} {final : Drain}
    (sound : Sound policy id row state) (attended : Attended row state)
    (records : Along (Drain.turn policy) Records state turns)
    (reached : StepMachine.run (Drain.turn policy) state turns = some final) :
    ∃ row', Sound policy id row' final ∧ Attended row' final := by
  refine run_guarded_invariant (I := fun state => ∃ row, Sound policy id row state ∧
    Attended row state) ?_ ⟨row, sound, attended⟩ records reached
  rintro before label after ⟨row, sound, -⟩ records hturn
  obtain ⟨row', turned, attended⟩ := sound.turn hturn
  exact ⟨row', turned.sound, attended records⟩

/-- Nothing waits only when the row is terminal, and `FAILED` rows alone are dead-lettered. -/
theorem Sound.drained (sound : Sound policy id row state) (attended : Attended row state)
    (empty : state.messages = []) :
    row.status = .sent ∧ state.deadLetters = [] ∨
      row.status = .failed ∧ state.deadLetters = [id] := by
  have dead := sound.dead
  cases status : row.status with
  | pending => exact absurd empty (attended (by rw [status]; rfl))
  | processing => exact absurd empty (attended (by rw [status]; rfl))
  | sent => exact .inl ⟨rfl, by rw [dead, status]; rfl⟩
  | failed => exact .inr ⟨rfl, by rw [dead, status]; rfl⟩

structure Drains (policy : DeliveryRetryPolicy) (id : UUID) (copies : Nat) (turns : List Turn)
    (final : Drain) : Prop where
  bounded : ((turns.length + final.messages.length : Nat) : Int) ≤
    copies + policy.maxAttempts - 1
  progress : ∀ message ∈ final.messages, ∀ outcome now,
    ∃ next, Drain.turn policy final ⟨message, outcome, now⟩ = some next
  drained : final.messages = [] → ∃ row, final.table.getById id = some row ∧
    (row.status = .sent ∧ final.deadLetters = [] ∨
      row.status = .failed ∧ final.deadLetters = [id])

/--
For every policy, every number of copies, every order of taking messages and
every sequence of outcomes that can be recorded: after at most
`copies + max_attempts - 1` deliveries no message is left, the row is SENT or
FAILED, and the id was dead-lettered once if it is FAILED and never if it is
SENT.
-/
theorem recorded_deliveries_drain (policy : DeliveryRetryPolicy) (table : Table)
    (id clientId : UUID) (request : SendNotificationRequest)
    (created : table.getById id = some (create clientId request id)) (copies : Nat)
    (some_copy : 1 ≤ copies) (turns : List Turn) (final : Drain)
    (reached : run (turn policy) (start table id copies) turns = some final)
    (records : Along (turn policy) Records (start table id copies) turns) :
    Drains policy id copies turns final := by
  have initial : Sound policy id (create clientId request id) (start table id copies) :=
    sound_start created
  obtain ⟨row, sound, attended⟩ :=
    initial.run_attended (attended_start some_copy) records reached
  have bound := (initial.run reached).2
  have positive := policy.maxAttempts_pos
  refine ⟨?_, fun message waiting outcome now => ⟨_, if_pos waiting⟩,
    fun empty => ⟨row, sound.found, sound.drained attended empty⟩⟩
  rw [sound.capacity_eq, initial.capacity_eq, remaining_create] at bound
  have waiting : (start table id copies).messages.length = copies := List.length_replicate
  omega

/-- Two copies, one failing attempt and a successful one: three deliveries, then nothing. -/
def twoCopies : List Turn :=
  [⟨⟨1, 0⟩, .raised ⟨false, []⟩, 0⟩, ⟨⟨1, 1⟩, .returned, 0⟩, ⟨⟨1, 0⟩, .returned, 0⟩]

theorem recorded_deliveries_drain_twoCopies :
    ∃ final, run (turn .default) (start (.single (create 7 (.welcome none) 1)) 1 2) twoCopies =
        some final ∧
      Drains .default 1 2 twoCopies final ∧ final.messages = [] := by
  have records : Along (turn .default) Records
      (start (.single (create 7 (.welcome none) 1)) 1 2) twoCopies := by
    rintro _ ⟨⟩
    refine ⟨?_, ?_⟩
    · rintro row ⟨⟩ _
      rfl
    · refine Along.of_labels (List.forall_mem_cons.mpr ⟨?_, List.forall_mem_cons.mpr ⟨?_, nofun⟩⟩) _
      · exact fun _ _ _ _ _ => rfl
      · exact fun _ _ _ _ _ => rfl
  exact ⟨_, rfl, recorded_deliveries_drain .default (.single (create 7 (.welcome none) 1)) 1 7
    (.welcome none) rfl 2 (by decide) twoCopies _ rfl records, rfl⟩

def brokenTurns : List Turn := [⟨⟨1, 0⟩, .raised brokenReply, 0⟩]

/-- The last commit raises: no message is left, the row is PROCESSING and not dead-lettered. -/
theorem not_drains_brokenTurns :
    ∃ final, run (turn .default) (start (.single (create 7 (.welcome none) 1)) 1 1) brokenTurns =
        some final ∧
      final.messages = [] ∧ (final.table.getById 1).map (·.status) = some .processing ∧
      final.deadLetters = [] ∧ ¬ Drains .default 1 1 brokenTurns final := by
  refine ⟨_, rfl, rfl, rfl, rfl, fun drains => ?_⟩
  obtain ⟨row, found, ⟨sent, -⟩ | ⟨-, dead⟩⟩ := drains.drained rfl
  · cases found
    cases sent
  · cases dead

end Drain

end NotificationsEngine
