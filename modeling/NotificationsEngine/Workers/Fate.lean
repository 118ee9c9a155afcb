import NotificationsEngine.Workers.Drain
import NotificationsEngine.Services.DispatchSequence
import NotificationsEngine.Providers.Simulated

/-!
# What a deterministic provider makes of a row

When the provider gives one and the same answer to every call for a row, as the
simulated adapter does, the drained queue no longer depends on the number of
copies, on the order in which they are taken, or on the clock: the row, the
provider calls and the dead letters are those of the answer and the policy.
-/

namespace NotificationsEngine

open StepMachine

/-- How often a row is handed to a provider that always answers so. -/
def ProviderOutcome.attempts (policy : DeliveryRetryPolicy) : ProviderOutcome → Nat
  | .returned => 1
  | .raised error => if error.permanent then 1 else policy.maxAttempts.toNat

theorem ProviderOutcome.attempts_pos (policy : DeliveryRetryPolicy) (outcome : ProviderOutcome) :
    1 ≤ outcome.attempts policy := by
  have positive := policy.maxAttempts_pos
  unfold attempts
  split
  · exact Nat.le_refl 1
  · split
    · exact Nat.le_refl 1
    · omega

namespace Drain

def handed (policy : DeliveryRetryPolicy) (state : Drain) (label : Turn) : List OutboundMessage :=
  (deliverNotification policy (fun _ => label.outcome) label.now state.table
    label.message).messages

def handedAlong (policy : DeliveryRetryPolicy) : Drain → List Turn → List OutboundMessage
  | _, [] => []
  | state, label :: rest =>
      handed policy state label ++
        match turn policy state label with
        | none => []
        | some next => handedAlong policy next rest

/-- What the row of this request is after so many calls of a provider that always answers so. -/
inductive Fated (policy : DeliveryRetryPolicy) (outcome : ProviderOutcome)
    (created : Notification) : Nat → Notification → Prop where
  | fresh : Fated policy outcome created 0 created
  | retried (calls : Nat) (error : ProviderException) (same : outcome = .raised error)
      (transient : error.permanent = false) (budget : (calls : Int) < policy.maxAttempts) :
      Fated policy outcome created calls (DispatchHistory.retried created calls error)
  | sent (now : Instant) (same : outcome = .returned) :
      Fated policy outcome created 1
        (created.withColumns (countSuccess created.toDeliveryColumns now))
  | failed (error : ProviderException) (same : outcome = .raised error) :
      Fated policy outcome created (outcome.attempts policy)
        (created.withColumns
          { status := .failed
            retryCount := outcome.attempts policy
            errorMessage := some (error.text.take errorMessageMax)
            sentAt := created.sentAt })

variable {policy : DeliveryRetryPolicy} {outcome : ProviderOutcome} {created row : Notification}
  {calls : Nat}

theorem Fated.outbound (fated : Fated policy outcome created calls row) :
    row.outbound = created.outbound := by
  cases fated <;> rfl

/-- Only the columns of the worker differ from the row as it was created. -/
theorem Fated.columns (fated : Fated policy outcome created calls row) :
    row = created.withColumns row.toDeliveryColumns := by
  cases fated <;> rfl

/-- Before the last call the answers so far were counted failures, and nothing else. -/
theorem Fated.of_live (fated : Fated policy outcome created calls row)
    (counted : created.retryCount = 0) (live : row.status.isTerminal = false) :
    row.retryCount = calls ∧ row.sentAt = created.sentAt ∧ calls + 1 ≤ outcome.attempts policy ∧
      (outcome = .returned → calls = 0 ∧ row = created) ∧
      ∀ error, outcome = .raised error → error.permanent = true → calls = 0 := by
  cases fated with
  | fresh =>
      exact ⟨counted, rfl, outcome.attempts_pos policy, fun _ => ⟨rfl, rfl⟩, fun _ _ _ => rfl⟩
  | retried _ error same transient budget =>
      subst same
      refine ⟨rfl, rfl, ?_, by rintro ⟨⟩, ?_⟩
      · simp only [ProviderOutcome.attempts, transient, Bool.false_eq_true, if_false]
        omega
      · rintro _ ⟨⟩ permanent
        rw [transient] at permanent
        cases permanent
  | sent => cases live
  | failed => cases live

/-- One more call of the provider, and whether a retry follows it. -/
theorem Fated.settles (fated : Fated policy outcome created calls row)
    (counted : created.retryCount = 0) (live : row.status.isTerminal = false)
    {columns : DeliveryColumns} {result : DispatchResult}
    (settles : Settles policy (row.withColumns row.claimed) outcome columns result) :
    Fated policy outcome created (calls + 1) (row.withColumns columns) ∧
      (if result.action = .retry then calls + 1 < outcome.attempts policy
        else calls + 1 = outcome.attempts policy) := by
  obtain ⟨count, unsent, below, returned, permanent⟩ := fated.of_live counted live
  have same_row := fated.columns
  cases settles with
  | sent now =>
      obtain ⟨rfl, rfl⟩ := returned rfl
      exact ⟨.sent now rfl, rfl⟩
  | retry error countdown transient budget scheduled =>
      have budget : ((calls + 1 : Nat) : Int) < policy.maxAttempts := by
        rw [← count]
        exact budget
      have written : row.withColumns
          { countFailure (row.withColumns row.claimed).toDeliveryColumns error with
            status := .pending } =
            DispatchHistory.retried created (calls + 1) error := by
        rw [same_row, ← count, DispatchHistory.retried, ← unsent]
        rfl
      rw [written]
      refine ⟨.retried _ error rfl transient budget, ?_⟩
      simp only [if_true, ProviderOutcome.attempts, transient, Bool.false_eq_true, if_false]
      omega
  | failed error exhausted =>
      have last : calls + 1 = (ProviderOutcome.raised error).attempts policy := by
        simp only [ProviderOutcome.attempts] at below ⊢
        split at below
        · next final => rw [permanent error rfl final, if_pos final]
        · next transient =>
            rw [if_neg transient]
            have exhausted := exhausted.resolve_left transient
            have exhausted : policy.maxAttempts ≤ (row.retryCount : Int) + 1 := exhausted
            rw [count] at exhausted
            omega
      have written : row.withColumns
          { countFailure (row.withColumns row.claimed).toDeliveryColumns error with
            status := .failed } =
            created.withColumns
              { status := .failed
                retryCount := calls + 1
                errorMessage := some (error.text.take errorMessageMax)
                sentAt := created.sentAt } := by
        rw [same_row, ← count, ← unsent]
        rfl
      rw [written, last]
      exact ⟨.failed error rfl, rfl⟩

def retriesAfter : Except DispatchError DispatchResult → Nat
  | .ok result => if result.action = .retry then 1 else 0
  | .error _ => 0

/-- One delivery takes a message, makes what `dispatch` makes of the row, and adds a message
again when the result is a retry. -/
theorem Sound.turn_dispatches {id : UUID} {state next : Drain}
    (sound : Sound policy id row state) {label : Turn}
    (hturn : Drain.turn policy state label = some next) :
    ∃ columns messages ended, Dispatches policy row label.outcome columns messages ended ∧
      handed policy state label = messages ∧ Sound policy id (row.withColumns columns) next ∧
      next.messages.length + 1 = state.messages.length + retriesAfter ended ∧
      ((row.status.isTerminal = false → label.outcome.recordable (row.retryCount + 1) = true) →
        Attended (row.withColumns columns) next) := by
  obtain ⟨row', turned, attended⟩ := sound.turn hturn
  obtain ⟨message, outcome, now⟩ := label
  unfold Drain.turn at hturn
  split at hturn
  · next member =>
      cases hturn
      obtain ⟨columns, messages, ended, dispatches, found, sent, returned⟩ :=
        dispatch_dispatches policy (fun _ => outcome) now sound.found
      obtain ⟨own, below⟩ := sound.own message member
      have shorter := List.length_erase_add_one member
      obtain rfl : row' = row.withColumns columns := by
        have stored := turned.sound.found
        rw [publish_table] at stored
        simp only [deliverNotification, own] at stored
        exact Option.some.inj (stored.symm.trans found)
      refine ⟨columns, messages, ended, dispatches, ?_, turned.sound, ?_, fun recorded => ?_⟩
      · rw [← sent, ← own]
        rfl
      · simp only [deliverNotification, own, returned]
        cases dispatches with
        | skipped terminal => exact shorter
        | unrecorded => exact shorter
        | settled live _ _ settles =>
            cases settles with
            | sent => exact shorter
            | failed error exhausted => exact shorter
            | retry error countdown transient budget scheduled =>
                have room : (message.retries : Int) + 2 ≤ policy.maxAttempts := by
                  have budget : (row.retryCount : Int) + 1 < policy.maxAttempts := budget
                  omega
                rw [endedEffect, applyDeliveryResult_retry _ _ rfl, Message.retry_of_budget room]
                exact congrArg (· + 1) shorter
      · refine attended fun other stored live => ?_
        cases (own ▸ stored).symm.trans sound.found
        exact recorded live
  · cases hturn

/-- The row and the messages after some deliveries of a provider that always answers so. -/
structure FatedRun (policy : DeliveryRetryPolicy) (outcome : ProviderOutcome)
    (created : Notification) (copies turns calls : Nat) (row : Notification)
    (state : Drain) : Prop where
  sound : Sound policy created.id row state
  attended : Attended row state
  fated : Fated policy outcome created calls row
  balance : turns + state.messages.length = copies + min calls (outcome.attempts policy - 1)

variable {copies turns : Nat} {state next : Drain}

theorem FatedRun.turn (fatedRun : FatedRun policy outcome created copies turns calls row state)
    (counted : created.retryCount = 0)
    (recorded : outcome.recordable (outcome.attempts policy) = true) {label : Turn}
    (answered : label.outcome = outcome)
    (hturn : Drain.turn policy state label = some next) :
    ∃ row' more, FatedRun policy outcome created copies (turns + 1) (calls + more) row' next ∧
      handed policy state label = List.replicate more created.outbound := by
  subst answered
  have records : row.status.isTerminal = false →
      label.outcome.recordable (row.retryCount + 1) = true := by
    intro live
    obtain ⟨count, -, below, -⟩ := fatedRun.fated.of_live counted live
    exact ProviderOutcome.recordable_mono recorded (count ▸ below)
  obtain ⟨columns, messages, ended, dispatches, sent, sound, messages_left, attended⟩ :=
    fatedRun.sound.turn_dispatches hturn
  have attended := attended records
  have balance := fatedRun.balance
  cases dispatches with
  | skipped terminal =>
      refine ⟨_, 0, ⟨sound, attended, fatedRun.fated, ?_⟩, sent⟩
      have messages_left : next.messages.length + 1 = state.messages.length := messages_left
      omega
  | unrecorded live _ _ settles misfit =>
      rw [fitsUpdate_of_recordable settles (records live)] at misfit
      cases misfit
  | settled live _ _ settles =>
      obtain ⟨fated, again⟩ := fatedRun.fated.settles counted live settles
      refine ⟨_, 1, ⟨sound, attended, fated, ?_⟩, ?_⟩
      · rw [retriesAfter] at messages_left
        split at again
        · next retried =>
            rw [if_pos retried] at messages_left
            omega
        · next final =>
            rw [if_neg final] at messages_left
            omega
      · rw [sent, fatedRun.fated.outbound]
        rfl

theorem FatedRun.run {labels : List Turn} {final : Drain}
    (fatedRun : FatedRun policy outcome created copies turns calls row state)
    (counted : created.retryCount = 0)
    (recorded : outcome.recordable (outcome.attempts policy) = true)
    (answered : ∀ label ∈ labels, label.outcome = outcome)
    (reached : StepMachine.run (Drain.turn policy) state labels = some final) :
    ∃ row' more, FatedRun policy outcome created copies (turns + labels.length) (calls + more)
        row' final ∧
      handedAlong policy state labels = List.replicate more created.outbound := by
  induction labels generalizing state row turns calls with
  | nil =>
      cases reached
      exact ⟨row, 0, fatedRun, rfl⟩
  | cons label rest ih =>
      obtain ⟨next, hturn, hrest⟩ := run_cons_eq_some.mp reached
      obtain ⟨middle, first, fatedRun', sent⟩ :=
        fatedRun.turn counted recorded (answered label List.mem_cons_self) hturn
      obtain ⟨row', more, fatedRun'', sent'⟩ :=
        ih fatedRun' (fun other member => answered other (List.mem_cons_of_mem _ member)) hrest
      refine ⟨row', first + more, ?_, ?_⟩
      · rw [List.length_cons, Nat.add_comm rest.length, ← Nat.add_assoc, ← Nat.add_assoc]
        exact fatedRun''
      · simp only [handedAlong, hturn, sent, sent', List.replicate_append_replicate]

/-! ## An answer that no column takes -/

/-- The row and the messages after some deliveries whose last commit raised every time. -/
structure AbandonedRun (policy : DeliveryRetryPolicy) (created : Notification)
    (copies turns : Nat) (row : Notification) (state : Drain) : Prop where
  sound : Sound policy created.id row state
  live : row.status.isTerminal = false
  claimed : row.withColumns row.claimed = created.withColumns created.claimed
  begun : 0 < turns → row = created.withColumns created.claimed
  balance : turns + state.messages.length = copies

theorem AbandonedRun.turn (abandoned : AbandonedRun policy created copies turns row state)
    (held : created.errorMessage.all isTextParameter = true)
    (broken : outcome.recordable 1 = false) {label : Turn} (answered : label.outcome = outcome)
    (hturn : Drain.turn policy state label = some next) :
    AbandonedRun policy created copies (turns + 1) (created.withColumns created.claimed) next ∧
      handed policy state label = [created.outbound] := by
  subst answered
  obtain ⟨columns, messages, ended, dispatches, sent, sound, messages_left, -⟩ :=
    abandoned.sound.turn_dispatches hturn
  have balance := abandoned.balance
  have same := abandoned.claimed
  cases dispatches with
  | skipped terminal =>
      rw [abandoned.live] at terminal
      cases terminal
  | settled live _ _ settles fits =>
      have held : (row.withColumns row.claimed).errorMessage.all isTextParameter = true := by
        rw [same]
        exact held
      have recorded := recordable_of_fitsUpdate settles held fits
      rw [ProviderOutcome.recordable_mono recorded (Nat.le_add_left 1 _)] at broken
      cases broken
  | unrecorded live =>
      have messages_left : next.messages.length + 1 = state.messages.length := messages_left
      have outbound : (row.withColumns row.claimed).outbound =
          (created.withColumns created.claimed).outbound := congrArg Notification.outbound same
      rw [same] at sound
      exact ⟨⟨sound, rfl, rfl, fun _ => rfl, by omega⟩,
        sent.trans (congrArg (fun message => [message]) outbound)⟩

theorem AbandonedRun.run {labels : List Turn} {final : Drain}
    (abandoned : AbandonedRun policy created copies turns row state)
    (held : created.errorMessage.all isTextParameter = true)
    (broken : outcome.recordable 1 = false) (answered : ∀ label ∈ labels, label.outcome = outcome)
    (reached : StepMachine.run (Drain.turn policy) state labels = some final) :
    (∃ row', AbandonedRun policy created copies (turns + labels.length) row' final) ∧
      handedAlong policy state labels = List.replicate labels.length created.outbound := by
  induction labels generalizing state row turns with
  | nil =>
      cases reached
      exact ⟨⟨row, abandoned⟩, rfl⟩
  | cons label rest ih =>
      obtain ⟨next, hturn, hrest⟩ := run_cons_eq_some.mp reached
      obtain ⟨abandoned', sent⟩ :=
        abandoned.turn held broken (answered label List.mem_cons_self) hturn
      obtain ⟨⟨row', abandoned''⟩, sent'⟩ :=
        ih abandoned' (fun other member => answered other (List.mem_cons_of_mem _ member)) hrest
      refine ⟨⟨row', ?_⟩, ?_⟩
      · rw [List.length_cons, Nat.add_comm rest.length, ← Nat.add_assoc]
        exact abandoned''
      · simp only [handedAlong, hturn, sent, sent']
        rfl

/-! ## Whole runs -/

/-- What is left when nothing waits: the row, the dead letters and the provider calls that this
answer leads to. -/
structure Settled (policy : DeliveryRetryPolicy) (outcome : ProviderOutcome)
    (created : Notification) (copies : Nat) (turns : List Turn) (initial final : Drain) : Prop where
  sent : outcome = .returned → ∃ now,
    final.table.getById created.id =
        some (created.withColumns (countSuccess created.toDeliveryColumns now)) ∧
      final.deadLetters = []
  failed : ∀ error, outcome = .raised error →
    final.table.getById created.id = some (created.withColumns
        { status := .failed
          retryCount := outcome.attempts policy
          errorMessage := some (error.text.take errorMessageMax)
          sentAt := created.sentAt }) ∧
      final.deadLetters = [created.id]
  calls : handedAlong policy initial turns =
    List.replicate (outcome.attempts policy) created.outbound
  turns : turns.length + 1 = copies + outcome.attempts policy

/-- An answer that is recorded up to its last attempt settles the row. -/
theorem FatedRun.settled {turns : List Turn} {initial final : Drain}
    (fatedRun : FatedRun policy outcome created copies 0 0 created initial)
    (counted : created.retryCount = 0) (live : created.status.isTerminal = false)
    (recorded : outcome.recordable (outcome.attempts policy) = true)
    (answered : ∀ label ∈ turns, label.outcome = outcome)
    (reached : StepMachine.run (Drain.turn policy) initial turns = some final)
    (drained : final.messages = []) :
    Settled policy outcome created copies turns initial final := by
  obtain ⟨row, calls, ⟨sound, attended, fated, balance⟩, sent⟩ :=
    fatedRun.run counted recorded answered reached
  rw [Nat.zero_add] at fated balance
  rw [drained, List.length_nil] at balance
  have positive := outcome.attempts_pos policy
  have found := sound.found
  cases fated with
  | fresh => exact absurd drained (attended live)
  | retried => exact absurd drained (attended rfl)
  | sent now same =>
      subst same
      exact
        { sent := fun _ => ⟨now, found, sound.dead⟩
          failed := by rintro _ ⟨⟩
          calls := sent
          turns := by
            simp only [ProviderOutcome.attempts] at balance ⊢
            omega }
  | failed error same =>
      subst same
      exact
        { sent := by rintro ⟨⟩
          failed := by
            rintro _ ⟨⟩
            exact ⟨found, sound.dead⟩
          calls := sent
          turns := by omega }

end Drain

end NotificationsEngine
