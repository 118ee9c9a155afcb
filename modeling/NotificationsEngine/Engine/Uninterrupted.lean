import NotificationsEngine.Engine.History
import NotificationsEngine.Workers.Drain

/-!
# Uninterrupted calls are runs of the system

`accept` and `deliverNotification` compose their effects in one piece.  Here
each is a run of the system in which one party takes all the steps, so a whole
drain of the queue is such a run too.
-/

namespace NotificationsEngine

open StepMachine

namespace Engine

variable {policy : DeliveryRetryPolicy} {state : Engine} {worker : Nat} {message : Message}

/-- What the system is to deliveries that run one after another. -/
def drain (state : Engine) : Drain := ⟨state.table, state.queued, deadLettered state.log⟩

/-! ## Deliveries -/

theorem drain_applied (effect : DeliveryEffect) :
    (state.applied worker message true effect).drain = state.drain.publish effect := by
  cases effect <;> rfl

/-- Where a call of `dispatch` stands when it is over. -/
def endedPhase : Except DispatchError DispatchResult → DispatchPhase
  | .ok result => .returned result
  | .error error => .raised error

/-- From the end of `dispatch` to the acknowledgement. -/
theorem finish_run (policy : DeliveryRetryPolicy)
    (ended : Except DispatchError DispatchResult)
    (held : state.workers worker = some ⟨message, .dispatching (endedPhase ended)⟩) :
    ∃ final, run (step policy) state [.apply worker true, .acknowledge worker] = some final ∧
      final.drain = state.drain.publish (endedEffect policy message ended) ∧
      final.workers worker = none := by
  obtain ⟨applied, first, same, at_end⟩ : ∃ applied,
      step policy state (.apply worker true) = some applied ∧
      applied.drain = state.drain.publish (endedEffect policy message ended) ∧
      applied.workers worker = some ⟨message, .finished⟩ := by
    cases ended with
    | ok result =>
        refine ⟨_, step_complete (.apply worker true message result held), drain_applied _, ?_⟩
        rw [applied_workers]
        exact Function.update_self _ _ _
    | error error =>
        exact ⟨_, step_complete (.raise worker true message error held), rfl,
          Function.update_self _ _ _⟩
  have second : step policy applied (.acknowledge worker) = some _ :=
    step_complete (.acknowledge worker message at_end)
  exact ⟨_, run_cons_eq_some.mpr ⟨_, first, run_cons_eq_some.mpr ⟨_, second, rfl⟩⟩, same,
    Function.update_self _ _ _⟩

/-- From the last commit to the acknowledgement: the commit raises where a column refuses. -/
theorem settle_run (policy : DeliveryRetryPolicy) {change : Change} {result : DispatchResult}
    (held : state.workers worker = some ⟨message, .dispatching (.settle change result)⟩) :
    ∃ actions final, run (step policy) state actions = some final ∧
      final.drain = (match state.table.commit change with
        | .ok table => Drain.publish { state.drain with table }
            (endedEffect policy message (.ok result))
        | .error _ => state.drain) ∧
      final.workers worker = none := by
  cases fits : change.fits with
  | true =>
      let settled := (state.setTable (state.table.write change)).setPhase worker message
        (.returned result)
      have first : step policy state (.commit worker true) = some settled :=
        step_complete (.commit worker message _ _ change held rfl fits)
      have at_settled : settled.workers worker =
          some ⟨message, .dispatching (endedPhase (.ok result))⟩ := Function.update_self _ _ _
      obtain ⟨final, rest, drained, idle⟩ := finish_run policy (.ok result) at_settled
      refine ⟨_, final, run_cons_eq_some.mpr ⟨settled, first, rest⟩, ?_, idle⟩
      rw [commit_of_fits fits, drained]
      rfl
  | false =>
      let raised := (state.setPhase worker message (.raised .database)).record
        (.faulted message.notificationId)
      have first : step policy state (.commit worker false) = some raised :=
        step_complete (.commitRaised worker message _ _ change held rfl)
      have at_raised : raised.workers worker =
          some ⟨message, .dispatching (endedPhase (.error .database))⟩ :=
        Function.update_self _ _ _
      obtain ⟨final, rest, drained, idle⟩ := finish_run policy (.error .database) at_raised
      refine ⟨_, final, run_cons_eq_some.mpr ⟨raised, first, rest⟩, ?_, idle⟩
      rw [commit_of_misfit fits, drained]
      rfl

def sentDrain (policy : DeliveryRetryPolicy) (before : Drain) (message : Message)
    (outcome : ProviderOutcome) (now : Instant) (row : Notification) : Drain :=
  let sent := sendAndSettle policy (fun _ => outcome) now before.table row
  Drain.publish { before with table := sent.table } (endedEffect policy message sent.result)

/-- From the provider call to the acknowledgement. -/
theorem send_run (policy : DeliveryRetryPolicy) {row : Notification}
    (processing : row.status = .processing)
    (held : state.workers worker = some ⟨message, .dispatching (.send row)⟩)
    (outcome : ProviderOutcome) (now : Instant) :
    ∃ actions final, run (step policy) state actions = some final ∧
      final.drain = sentDrain policy state.drain message outcome now row ∧
      final.workers worker = none := by
  obtain ⟨change, result, same, -⟩ := afterSend_settles policy now outcome processing
  let sent := (state.setPhase worker message (.settle change result)).record
    (.provider message.notificationId row.outbound outcome)
  have first : step policy state (.send worker outcome now) = some sent := by
    rw [step_complete (.send worker outcome now message row held), same]
    rfl
  have at_sent : sent.workers worker = some ⟨message, .dispatching (.settle change result)⟩ :=
    Function.update_self _ _ _
  obtain ⟨actions, final, rest, drained, idle⟩ := settle_run policy at_sent
  refine ⟨_, final, run_cons_eq_some.mpr ⟨sent, first, rest⟩, ?_, idle⟩
  have table : state.drain.table = state.table := rfl
  simp only [drained, sentDrain, sendAndSettle, same, table]
  change (match state.table.commit change with | .ok table => _ | .error _ => state.drain) = _
  cases committed : state.table.commit change <;> rfl

/-- From the commit of PROCESSING to the acknowledgement. -/
theorem claim_run (policy : DeliveryRetryPolicy) {change : Change}
    (processing : change.row.status = .processing) (fits : change.fits = true)
    (held : state.workers worker = some ⟨message, .dispatching (.claim change)⟩)
    (outcome : ProviderOutcome) (now : Instant) :
    ∃ actions final, run (step policy) state actions = some final ∧
      final.drain = sentDrain policy { state.drain with table := state.table.write change }
        message outcome now change.row ∧
      final.workers worker = none := by
  let claimed := (state.setTable (state.table.write change)).setPhase worker message
    (.send change.row)
  have at_claimed : claimed.workers worker = some ⟨message, .dispatching (.send change.row)⟩ :=
    Function.update_self _ _ _
  have first : step policy state (.commit worker true) = some claimed :=
    step_complete (.commit worker message _ _ change held rfl fits)
  obtain ⟨actions, final, rest, drained, idle⟩ :=
    send_run policy processing at_claimed outcome now
  exact ⟨_, final, run_cons_eq_some.mpr ⟨claimed, first, rest⟩, drained, idle⟩

/-- Taking a message and loading its row. -/
theorem begin_run (policy : DeliveryRetryPolicy) (idle : state.workers worker = none)
    (waiting : message ∈ state.queued) {loaded : Loaded}
    (same : afterLoad (state.table.getById message.notificationId) = .ok loaded) :
    ∃ started, run (step policy) state [.deliver worker message, .load worker] = some started ∧
      started.workers worker = some ⟨message, .dispatching (.ofLoad (.ok loaded))⟩ ∧
      started.drain = { state.drain with messages := state.queued.erase message } := by
  let taken := (state.setQueued (state.queued.erase message)).setPhase worker message .load
  have at_taken : taken.workers worker = some ⟨message, .dispatching .load⟩ :=
    Function.update_self _ _ _
  have first : step policy state (.deliver worker message) = some taken :=
    step_complete (.deliver worker message idle waiting)
  have second : step policy taken (.load worker) = some _ :=
    step_complete (.load worker message at_taken)
  refine ⟨_, run_cons_eq_some.mpr ⟨taken, first, run_cons_eq_some.mpr ⟨_, second, rfl⟩⟩, ?_, rfl⟩
  rw [setPhase_workers, Function.update_self]
  exact congrArg (fun answer => some (Delivery.mk message (.dispatching (.ofLoad answer)))) same

/-- From the answer of the load to the acknowledgement. -/
theorem loaded_run (policy : DeliveryRetryPolicy) {loaded : Loaded}
    (same : afterLoad (state.table.getById message.notificationId) = .ok loaded)
    (loads : Loads (state.table.getById message.notificationId) loaded)
    (held : state.workers worker = some ⟨message, .dispatching (.ofLoad (.ok loaded))⟩)
    (outcome : ProviderOutcome) (now : Instant) :
    ∃ actions final, run (step policy) state actions = some final ∧
      final.drain = Drain.publish
        { state.drain with
          table := (deliverNotification policy (fun _ => outcome) now state.table message).table }
        (deliverNotification policy (fun _ => outcome) now state.table message).effect ∧
      final.workers worker = none := by
  simp only [deliverNotification, dispatch, same]
  generalize state.table.getById message.notificationId = found at loads
  cases loads with
  | missing =>
      obtain ⟨final, rest, drained, free⟩ := finish_run policy (.ok _) held
      exact ⟨_, final, rest, drained, free⟩
  | skipped row terminal =>
      obtain ⟨final, rest, drained, free⟩ := finish_run policy (.ok _) held
      exact ⟨_, final, rest, drained, free⟩
  | resume row processing => exact send_run policy processing held outcome now
  | claim row pending legal =>
      let change : Change := ⟨row, { row.toDeliveryColumns with status := .processing }, legal⟩
      have fits : change.fits = true := fitsUpdate_status row .processing
      have committed : state.table.commit ⟨row, { row.toDeliveryColumns with
        status := .processing }, legal⟩ = .ok (state.table.write change) := commit_of_fits fits
      obtain ⟨actions, final, rest, drained, free⟩ :=
        claim_run policy rfl fits held outcome now
      refine ⟨actions, final, rest, ?_, free⟩
      simp only [drained, committed]
      rfl

/-- A delivery that nobody interrupts is a run of one worker. -/
theorem turn_run (policy : DeliveryRetryPolicy) {next : Drain} {outcome : ProviderOutcome}
    {now : Instant} (idle : state.workers worker = none)
    (hturn : Drain.turn policy state.drain ⟨message, outcome, now⟩ = some next) :
    ∃ actions final, run (step policy) state actions = some final ∧ final.drain = next ∧
      final.workers worker = none := by
  unfold Drain.turn at hturn
  split at hturn
  · next taken =>
      cases hturn
      have waiting : message ∈ state.queued := taken
      obtain ⟨loaded, same, loads⟩ := afterLoad_loads (state.table.getById message.notificationId)
      obtain ⟨started, hstart, at_started, kept⟩ := begin_run policy idle waiting same
      have table : started.table = state.table := congrArg Drain.table kept
      rw [← table] at same loads
      obtain ⟨actions, final, hrest, drained, free⟩ :=
        loaded_run policy same loads at_started outcome now
      refine ⟨_, final, run_append_eq_some hstart hrest, ?_, free⟩
      rw [drained, kept, table]
      rfl
  · cases hturn

/-- Deliveries that run one after another are a run of the system with one worker. -/
theorem drain_run (policy : DeliveryRetryPolicy) {turns : List Turn} {final : Drain}
    (idle : state.workers worker = none)
    (reached : run (Drain.turn policy) state.drain turns = some final) :
    ∃ actions image, run (step policy) state actions = some image ∧ image.drain = final := by
  obtain ⟨actions, image, hrun, same, -⟩ := run_simulates
    (R := fun (before : Drain) (image : Engine) =>
      image.drain = before ∧ image.workers worker = none)
    (by
      rintro before image ⟨message, outcome, now⟩ next ⟨rfl, free⟩ hturn
      obtain ⟨actions, image', hrun, same, free'⟩ := turn_run policy free hturn
      exact ⟨actions, image', hrun, same, free'⟩)
    ⟨rfl, idle⟩ reached
  exact ⟨actions, image, hrun, same⟩

/-! ## Accept calls -/

variable {call : Nat} {clientId id : UUID} {request : SendNotificationRequest}

/-- The broker's queue after a call of `queue.enqueue`. -/
def enqueuedMessages (queued : List Message) : Option (UUID × EnqueueOutcome) → List Message
  | some (id, .published) => ⟨id, 0⟩ :: queued
  | _ => queued

theorem step_enqueue (policy : DeliveryRetryPolicy) {row : Notification}
    (at_enqueue : state.calls call = some ⟨clientId, request, .enqueue row⟩)
    (outcome : EnqueueOutcome) :
    ∃ next, step policy state (.enqueue call outcome) = some next ∧
      next.calls call = some ⟨clientId, request, .ofResult (afterEnqueue row outcome)⟩ ∧
      next.drain = { state.drain with
        messages := enqueuedMessages state.queued (some (row.id, outcome)) } := by
  cases outcome with
  | published =>
      exact ⟨_, step_complete (.enqueue _ _ _ _ at_enqueue), Function.update_self _ _ _, rfl⟩
  | unavailable =>
      exact ⟨_, step_complete (.enqueueRaised _ _ _ _ _ at_enqueue (by decide)),
        Function.update_self _ _ _, rfl⟩
  | failed =>
      exact ⟨_, step_complete (.enqueueRaised _ _ _ _ _ at_enqueue (by decide)),
        Function.update_self _ _ _, rfl⟩

/-- From the call to the answer of its first lookup, which a call without a key skips. -/
theorem lookup_run (policy : DeliveryRetryPolicy) (idle : state.calls call = none)
    (clientId : UUID) (request : SendNotificationRequest) :
    ∃ actions looked, run (step policy) state actions = some looked ∧
      looked.calls call =
        some ⟨clientId, request, .ofLookup (lookupExisting state.table clientId request)⟩ ∧
      looked.drain = state.drain := by
  let started := state.setCall call ⟨clientId, request, .start request⟩
  have first : step policy state (.accept call clientId request) = some started :=
    step_complete (.accept call clientId request idle)
  cases hkey : request.idempotencyKey with
  | none =>
      refine ⟨[_], started, run_cons_eq_some.mpr ⟨_, first, rfl⟩, ?_, rfl⟩
      rw [setCall_calls, Function.update_self, lookupExisting, SendNotificationRequest.keyTextual,
        findExisting, AcceptPhase.start, hkey]
      rfl
  | some key =>
      have at_lookup : started.calls call = some ⟨clientId, request, .lookup⟩ := by
        rw [setCall_calls, Function.update_self, AcceptPhase.start, hkey]
      have second : step policy started (.lookup call) =
          some (started.setCall call
            ⟨clientId, request, .ofLookup (lookupExisting started.table clientId request)⟩) :=
        step_complete (.lookup call clientId request at_lookup)
      exact ⟨[_, _], _, run_cons_eq_some.mpr ⟨_, first, run_cons_eq_some.mpr ⟨_, second, rfl⟩⟩,
        Function.update_self _ _ _, rfl⟩

/-- From the INSERT to the end of a call whose lookup has found nothing. -/
theorem create_run (policy : DeliveryRetryPolicy)
    (at_create : state.calls call = some ⟨clientId, request, .create⟩)
    (missed : lookupExisting state.table clientId request = .ok none)
    (fresh : state.table.getById id = none) (outcome : EnqueueOutcome) :
    ∃ actions final, run (step policy) state actions = some final ∧
      final.calls call = some ⟨clientId, request,
        .ofResult (accept state.table clientId request id outcome).result⟩ ∧
      final.drain = { state.drain with
        table := (accept state.table clientId request id outcome).table
        messages := enqueuedMessages state.queued
          (accept state.table clientId request id outcome).enqueued } := by
  simp only [accept, missed]
  cases stored : state.table.insertValues (create clientId request id) with
  | ok table' =>
      obtain ⟨fits, inserts⟩ := insertValues_ok.mp stored
      let inserted := ((state.setTable table').setCall call
        ⟨clientId, request, .enqueue (create clientId request id)⟩).record
          (.inserted call (create clientId request id))
      have first : step policy state (.insert call id) = some inserted :=
        step_complete (.insert call id clientId request table' at_create fresh inserts
          (create_fits _ _ _ ▸ fits))
      have at_enqueue : inserted.calls call =
          some ⟨clientId, request, .enqueue (create clientId request id)⟩ :=
        Function.update_self _ _ _
      obtain ⟨final, second, answer, drained⟩ := step_enqueue policy at_enqueue outcome
      exact ⟨[_, _], final, run_cons_eq_some.mpr ⟨_, first, run_cons_eq_some.mpr ⟨_, second, rfl⟩⟩,
        answer, drained⟩
  | error error =>
      cases error with
      | data =>
          have misfit := (create_fits _ _ _).symm.trans (insertValues_data.mp stored)
          have first : step policy state (.insert call id) = some _ :=
            step_complete (.misfit call id clientId request at_create fresh misfit)
          exact ⟨[_], _, run_cons_eq_some.mpr ⟨_, first, rfl⟩, Function.update_self _ _ _, rfl⟩
      | integrity error =>
          obtain ⟨fits, failed⟩ := insertValues_integrity.mp stored
          let conflicted := state.setCall call ⟨clientId, request, .recover error⟩
          have first : step policy state (.insert call id) = some conflicted :=
            step_complete (.conflict call id clientId request error at_create fresh failed
              (create_fits _ _ _ ▸ fits))
          have at_recover : conflicted.calls call = some ⟨clientId, request, .recover error⟩ :=
            Function.update_self _ _ _
          have second : step policy conflicted (.recover call) = some _ :=
            step_complete (.recover call clientId request error at_recover)
          exact ⟨[_, _], _, run_cons_eq_some.mpr ⟨_, first, run_cons_eq_some.mpr ⟨_, second, rfl⟩⟩,
            Function.update_self _ _ _, rfl⟩

/-- An `accept` call that nobody interrupts is a run of the system. -/
theorem accept_run (policy : DeliveryRetryPolicy) (idle : state.calls call = none)
    (clientId : UUID) (request : SendNotificationRequest) {id : UUID}
    (fresh : state.table.getById id = none) (outcome : EnqueueOutcome) :
    ∃ actions final, run (step policy) state actions = some final ∧
      final.calls call = some ⟨clientId, request,
        .ofResult (accept state.table clientId request id outcome).result⟩ ∧
      final.drain = { state.drain with
        table := (accept state.table clientId request id outcome).table
        messages := enqueuedMessages state.queued
          (accept state.table clientId request id outcome).enqueued } := by
  obtain ⟨actions, looked, hlook, at_looked, kept⟩ := lookup_run policy idle clientId request
  have table : looked.table = state.table := congrArg Drain.table kept
  have queued : looked.queued = state.queued := congrArg Drain.messages kept
  cases answer : lookupExisting state.table clientId request with
  | error error =>
      rw [answer] at at_looked
      simp only [accept, answer]
      exact ⟨actions, looked, hlook, at_looked, kept⟩
  | ok found =>
    cases found with
    | some existing =>
        rw [answer] at at_looked
        simp only [accept, answer]
        exact ⟨actions, looked, hlook, at_looked, kept⟩
    | none =>
        rw [answer] at at_looked
        rw [← table] at answer fresh
        obtain ⟨more, final, hmore, answered, drained⟩ :=
          create_run policy at_looked answer fresh outcome
        rw [kept, table, queued] at drained
        rw [table] at answered
        exact ⟨actions ++ more, final, run_append_eq_some hlook hmore, answered, drained⟩

end Engine

end NotificationsEngine
