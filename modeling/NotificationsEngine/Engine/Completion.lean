import NotificationsEngine.Engine.Carriers
import NotificationsEngine.Engine.Room
import Mathlib.Algebra.BigOperators.Group.Finset.Basic
import Mathlib.Tactic.Linarith

/-!
# Enqueued rows come to an end

Workers that are left alone, with whatever they and the queue hold at that
moment, can take a bounded number of steps, and are not stuck before every
enqueued row is terminal, unless a commit of one of its deliveries raised.
-/

namespace NotificationsEngine

/-! ## Work left -/

/-- A step of a worker that is not interrupted and whose publications succeed. -/
def Action.works : Action → Bool
  | .deliver _ _ => true
  | .load _ => true
  | .commit _ _ => true
  | .send _ _ _ => true
  | .apply _ published => published
  | .acknowledge _ => true
  | _ => false

/-- How many times Celery will accept a retry of the message. -/
def Message.budget (policy : DeliveryRetryPolicy) (message : Message) : Nat :=
  (policy.maxRetries - message.retries).toNat

/-- Steps of a waiting message: seven for each delivery. -/
def Message.work (policy : DeliveryRetryPolicy) (message : Message) : Nat :=
  7 * message.budget policy + 7

/-- Steps of a delivery up to its acknowledgement, and one for the retry that it may publish. -/
def DispatchPhase.stepsLeft : DispatchPhase → Nat
  | .load => 6
  | .claim _ => 5
  | .send _ => 4
  | .settle _ _ => 3
  | .returned _ => 2
  | .raised _ => 2

def Delivery.work (policy : DeliveryRetryPolicy) (delivery : Delivery) : Nat :=
  match delivery.phase with
  | .dispatching phase => 7 * delivery.message.budget policy + phase.stepsLeft
  | .finished => 1

def workOf (policy : DeliveryRetryPolicy) (held : Option Delivery) : Nat :=
  held.elim 0 (Delivery.work policy)

namespace Engine

open StepMachine

variable {policy : DeliveryRetryPolicy} {state next : Engine} {action : Action} {id : UUID}

/-- Steps of the first `bound` workers and of the waiting messages. -/
def workLeft (policy : DeliveryRetryPolicy) (bound : Nat) (state : Engine) : Nat :=
  (∑ worker ∈ Finset.range bound, workOf policy (state.workers worker)) +
    (state.queued.map (Message.work policy)).sum

/-- A worker and the queue take less work than they had. -/
theorem workLeft_of_update {bound worker : Nat} (below : worker < bound) {held : Option Delivery}
    (workers : next.workers = Function.update state.workers worker held)
    (less : workOf policy held + (next.queued.map (Message.work policy)).sum + 1 ≤
      workOf policy (state.workers worker) + (state.queued.map (Message.work policy)).sum) :
    next.workLeft policy bound + 1 ≤ state.workLeft policy bound := by
  have member := Finset.mem_range.mpr below
  have before := Finset.add_sum_erase (Finset.range bound)
    (fun worker => workOf policy (state.workers worker)) member
  have after := Finset.add_sum_erase (Finset.range bound)
    (fun worker => workOf policy (next.workers worker)) member
  have others : ∑ other ∈ (Finset.range bound).erase worker, workOf policy (next.workers other) =
      ∑ other ∈ (Finset.range bound).erase worker, workOf policy (state.workers other) := by
    refine Finset.sum_congr rfl fun other apart => ?_
    rw [workers, Function.update_of_ne (Finset.ne_of_mem_erase apart)]
  have own : workOf policy (next.workers worker) = workOf policy held := by
    rw [workers, Function.update_self]
  unfold workLeft
  omega

/-- A worker that goes on in `dispatch` has fewer steps left. -/
theorem workLeft_of_phase {bound worker : Nat} (below : worker < bound) {message : Message}
    {phase after : DispatchPhase} (runs : state.Runs worker message phase)
    (workers : next.workers =
      Function.update state.workers worker (some ⟨message, .dispatching after⟩))
    (queued : next.queued = state.queued) (fewer : after.stepsLeft < phase.stepsLeft) :
    next.workLeft policy bound + 1 ≤ state.workLeft policy bound := by
  refine workLeft_of_update below workers ?_
  rw [runs, queued]
  change 7 * message.budget policy + after.stepsLeft + _ + 1 ≤
    7 * message.budget policy + phase.stepsLeft + _
  omega

theorem stepsLeft_ofLoad (answer : Except DispatchError Loaded) :
    (DispatchPhase.ofLoad answer).stepsLeft < DispatchPhase.load.stepsLeft := by
  rcases answer with error | ⟨result⟩ | ⟨change⟩ | ⟨row⟩ <;>
    simp [DispatchPhase.ofLoad, DispatchPhase.stepsLeft]

theorem stepsLeft_ofSend (row : Notification)
    (answer : Except DispatchError (Change × DispatchResult)) :
    (DispatchPhase.ofSend answer).stepsLeft < (DispatchPhase.send row).stepsLeft := by
  rcases answer with error | ⟨change, result⟩
  · exact (by decide : 2 < 4)
  · exact (by decide : 3 < 4)

theorem stepsLeft_of_pendingCommit {phase after : DispatchPhase} {change : Change}
    (pending : phase.pendingCommit = some (change, after)) :
    after.stepsLeft < phase.stepsLeft := by
  rcases DispatchPhase.pendingCommit_cases pending with ⟨rfl, rfl⟩ | ⟨result, rfl, rfl⟩
  · exact (by decide : 4 < 5)
  · exact (by decide : 2 < 3)

theorem stepsLeft_of_raised {phase after : DispatchPhase} {change : Change}
    (pending : phase.pendingCommit = some (change, after)) (error : DispatchError) :
    (DispatchPhase.raised error).stepsLeft < phase.stepsLeft := by
  rcases DispatchPhase.pendingCommit_cases pending with ⟨rfl, -⟩ | ⟨result, rfl, -⟩
  · exact (by decide : 2 < 5)
  · exact (by decide : 2 < 3)

/-- What the effect of a finished delivery adds to the queue is less than the delivery had. -/
theorem work_applied (message : Message) (result : DispatchResult) :
    1 + (((state.applied worker message true
        (applyDeliveryResult result message policy.maxRetries)).queued).map
          (Message.work policy)).sum + 1 ≤
      7 * message.budget policy + 2 + (state.queued.map (Message.work policy)).sum := by
  cases effect : applyDeliveryResult result message policy.maxRetries with
  | nothing =>
      change 1 + (state.queued.map _).sum + 1 ≤ _
      omega
  | retryRefused =>
      change 1 + (state.queued.map _).sum + 1 ≤ _
      omega
  | deadLetter =>
      change 1 + (state.queued.map _).sum + 1 ≤ _
      omega
  | retry countdown followUp =>
      obtain ⟨-, again⟩ := applyDeliveryResult_eq_retry effect
      obtain ⟨room, rfl⟩ := Message.retry_eq_some.mp again
      have less : Message.budget policy { message with retries := message.retries + 1 } + 1 =
          message.budget policy := by
        simp only [Message.budget]
        omega
      change 1 + ((_ :: state.queued).map _).sum + 1 ≤ _
      rw [List.map_cons, List.sum_cons, Message.work]
      omega

/-- Every step of a worker lowers the work that is left. -/
theorem workLeft_step (works : action.works = true) {bound worker : Nat}
    (acts : action.worker = some worker) (below : worker < bound)
    (hstep : Step policy state action next) :
    next.workLeft policy bound + 1 ≤ state.workLeft policy bound := by
  cases hstep with
  | deliver _ message idle waiting =>
      cases acts
      refine workLeft_of_update below rfl ?_
      have taken := List.sum_map_erase (Message.work policy) waiting
      rw [idle]
      change 7 * message.budget policy + 6 + ((state.queued.erase message).map _).sum + 1 ≤
        0 + (state.queued.map _).sum
      rw [Message.work] at taken
      omega
  | load _ message held =>
      cases acts
      exact workLeft_of_phase below held rfl rfl (stepsLeft_ofLoad _)
  | commit _ message phase after change held pending =>
      cases acts
      exact workLeft_of_phase below held rfl rfl (stepsLeft_of_pendingCommit pending)
  | commitRaised _ message phase after change held pending =>
      cases acts
      exact workLeft_of_phase below held rfl rfl (stepsLeft_of_raised pending _)
  | send _ outcome now message row held =>
      cases acts
      exact workLeft_of_phase below held rfl rfl (stepsLeft_ofSend row _)
  | apply _ published message result held =>
      cases acts
      cases works
      refine workLeft_of_update below (applied_workers _ _ _ _ _) ?_
      rw [held]
      exact work_applied message result
  | raise _ published message error held =>
      cases acts
      refine workLeft_of_update below rfl ?_
      rw [held]
      change 1 + (state.queued.map _).sum + 1 ≤ 7 * message.budget policy + 2 + _
      omega
  | acknowledge _ message held =>
      cases acts
      refine workLeft_of_update below rfl ?_
      rw [held]
      change 0 + (state.queued.map _).sum + 1 ≤ 1 + _
      omega
  | _ => cases works

/-! ## Until nothing is left -/

/-- No worker has a delivery, and no message is waiting. -/
structure Quiet (state : Engine) : Prop where
  idle : ∀ worker, state.workers worker = none
  drained : state.queued = []

def RaisesMisfits (state : Engine) (action : Action) (_ : Engine) : Prop :=
  ∀ worker, action = .commit worker false →
    ∃ change, state.pendingChange worker = some change ∧ change.fits = false

/-- Deliveries of `id` run one after another, and the database takes every value that fits. -/
def LeftAlone (id : UUID) (state : Engine) (action : Action) (next : Engine) : Prop :=
  DeliversAlone id state action next ∧ RaisesMisfits state action next

/-- A worker about to commit can do so, or raise where a column does not take its value. -/
theorem works_of_pending (policy : DeliveryRetryPolicy) (id : UUID) {worker : Nat}
    {message : Message} {phase after : DispatchPhase} {change : Change}
    (held : state.workers worker = some ⟨message, .dispatching phase⟩)
    (pending : phase.pendingCommit = some (change, after)) :
    ∃ action next, step policy state action = some next ∧ action.works = true ∧
      action.worker = some worker ∧ LeftAlone id state action next := by
  cases fits : change.fits with
  | true =>
      exact ⟨_, _, step_complete (.commit worker message _ _ change held pending fits), rfl, rfl,
        nofun, nofun⟩
  | false =>
      refine ⟨_, _, step_complete (.commitRaised worker message _ _ change held pending), rfl, rfl,
        nofun, ?_⟩
      rintro _ ⟨⟩
      exact ⟨change, pendingChange_of_held held pending, fits⟩

/-- A delivery that a worker holds can go on. -/
theorem works_of_held (policy : DeliveryRetryPolicy) (id : UUID) {worker : Nat}
    {delivery : Delivery} (held : state.workers worker = some delivery) :
    ∃ action next, step policy state action = some next ∧ action.works = true ∧
      action.worker = some worker ∧ LeftAlone id state action next := by
  obtain ⟨message, phase⟩ := delivery
  cases phase with
  | finished =>
      exact ⟨_, _, step_complete (.acknowledge worker message held), rfl, rfl, nofun, nofun⟩
  | dispatching phase =>
      cases phase with
      | load => exact ⟨_, _, step_complete (.load worker message held), rfl, rfl, nofun, nofun⟩
      | claim change => exact works_of_pending policy id held rfl
      | send row =>
          exact ⟨_, _, step_complete (.send worker .returned 0 message row held), rfl, rfl, nofun,
            nofun⟩
      | settle change result => exact works_of_pending policy id held rfl
      | returned result =>
          exact ⟨_, _, step_complete (.apply worker true message result held), rfl, rfl, nofun,
            nofun⟩
      | raised error =>
          exact ⟨_, _, step_complete (.raise worker true message error held), rfl, rfl, nofun,
            nofun⟩

/-- Where nothing is held and something is waiting, the first worker can take it. -/
theorem works_of_waiting (policy : DeliveryRetryPolicy) (id : UUID)
    (idle : ∀ worker, state.workers worker = none) {message : Message}
    (waiting : message ∈ state.queued) :
    ∃ action next, step policy state action = some next ∧ action.works = true ∧
      action.worker = some 0 ∧ LeftAlone id state action next := by
  refine ⟨.deliver 0 message, _, step_complete (.deliver 0 message (idle 0) waiting), rfl, rfl, ?_,
    nofun⟩
  rintro _ _ - - other delivery held
  cases (idle other).symm.trans held

/-- While the system is not quiet, some worker can take a step. -/
theorem works_of_not_quiet (policy : DeliveryRetryPolicy) (id : UUID) (busy : ¬ state.Quiet)
    {bound : Nat} (some_worker : 0 < bound)
    (unused : ∀ worker, bound ≤ worker → state.workers worker = none) :
    ∃ action next, step policy state action = some next ∧ action.works = true ∧
      (∃ worker < bound, action.worker = some worker) ∧ LeftAlone id state action next := by
  by_cases idle : ∀ worker, state.workers worker = none
  · obtain ⟨message, waiting⟩ : ∃ message, message ∈ state.queued :=
      List.exists_mem_of_ne_nil _ fun drained => busy ⟨idle, drained⟩
    obtain ⟨action, next, hstep, works, acts, alone⟩ := works_of_waiting policy id idle
      waiting
    exact ⟨action, next, hstep, works, ⟨0, some_worker, acts⟩, alone⟩
  · push Not at idle
    obtain ⟨worker, held⟩ := idle
    obtain ⟨delivery, held⟩ := Option.ne_none_iff_exists'.mp held
    obtain ⟨action, next, hstep, works, acts, alone⟩ := works_of_held policy id held
    have below : worker < bound := by
      by_contra above
      cases (unused worker (by omega)).symm.trans held
    exact ⟨action, next, hstep, works, ⟨worker, below, acts⟩, alone⟩

/-- Without a step that a worker could take the system is quiet. -/
theorem quiet_of_stuck
    (stuck : ∀ action : Action, action.works = true → step policy state action = none) :
    state.Quiet := by
  have idle : ∀ worker, state.workers worker = none := by
    intro worker
    by_contra held
    obtain ⟨delivery, held⟩ := Option.ne_none_iff_exists'.mp held
    obtain ⟨action, next, hstep, works, -⟩ := works_of_held policy 0 held
    cases (stuck action works).symm.trans hstep
  refine ⟨idle, List.eq_nil_iff_forall_not_mem.mpr fun message waiting => ?_⟩
  obtain ⟨action, next, hstep, works, -⟩ := works_of_waiting policy 0 idle waiting
  cases (stuck action works).symm.trans hstep

/-! ## How long it takes -/

theorem worker_of_works (works : action.works = true) : ∃ worker, action.worker = some worker := by
  cases action with
  | deliver worker => exact ⟨worker, rfl⟩
  | load worker => exact ⟨worker, rfl⟩
  | commit worker => exact ⟨worker, rfl⟩
  | send worker => exact ⟨worker, rfl⟩
  | apply worker => exact ⟨worker, rfl⟩
  | acknowledge worker => exact ⟨worker, rfl⟩
  | _ => cases works

/-- Finitely many steps are taken by the first few workers. -/
theorem exists_worker_bound (actions : List Action) :
    ∃ bound, ∀ action ∈ actions, ∀ worker, action.worker = some worker → worker < bound := by
  induction actions with
  | nil => exact ⟨0, nofun⟩
  | cons action rest ih =>
      obtain ⟨bound, below⟩ := ih
      refine ⟨max bound ((action.worker.getD 0) + 1), List.forall_mem_cons.mpr ⟨?_, ?_⟩⟩
      · intro worker acts
        rw [acts, Option.getD_some]
        omega
      · intro other member worker acts
        exact (below other member worker acts).trans_le (le_max_left _ _)

/-- Workers that are idle have no work left. -/
theorem workLeft_of_unused {bound larger : Nat} (grows : bound ≤ larger)
    (unused : ∀ worker, bound ≤ worker → state.workers worker = none) :
    state.workLeft policy larger = state.workLeft policy bound := by
  induction larger, grows using Nat.le_induction with
  | base => rfl
  | succ larger grows ih =>
      rw [← ih, workLeft, Finset.sum_range_succ, unused larger grows]
      rfl

/-- A run of workers alone is no longer than the work that is left. -/
theorem works_length_le {final : Engine} {bound : Nat} {more : List Action}
    (unused : ∀ worker, bound ≤ worker → state.workers worker = none)
    (works : ∀ action ∈ more, action.works = true)
    (reached : run (step policy) state more = some final) :
    more.length ≤ state.workLeft policy bound := by
  obtain ⟨larger, below⟩ := exists_worker_bound more
  have fewer := run_length_le_of_labels (workLeft policy (max bound larger))
    (P := fun action => action.works = true ∧ ∃ worker < max bound larger,
      action.worker = some worker)
    (fun _ _ _ ⟨works, _, small, acts⟩ hstep => workLeft_step works acts small (step_sound hstep))
    (fun action member => by
      obtain ⟨worker, acts⟩ := worker_of_works (works action member)
      exact ⟨works action member, worker,
        (below action member worker acts).trans_le (le_max_right _ _), acts⟩) reached
  rw [workLeft_of_unused (le_max_left _ _) unused] at fewer
  omega

/-! ## The end -/

structure DeliversSound (policy : DeliveryRetryPolicy) (id : UUID) (state : Engine) : Prop where
  one : OneDelivery id state
  counters : CountersSound policy id state
  carried : EnqueuedCarried id state

theorem deliversSound_start (policy : DeliveryRetryPolicy) (id : UUID) (table : Table) :
    DeliversSound policy id (start table []) where
  one := by rintro _ _ _ _ ⟨⟩
  counters := countersSound_start (by rintro _ ⟨⟩)
  carried := by rintro _ ⟨⟩

theorem deliversSound_run {final : Engine} {actions : List Action}
    (sound : DeliversSound policy id state)
    (alone : Along (step policy) (DeliversAlone id) state actions)
    (reached : run (step policy) state actions = some final) : DeliversSound policy id final :=
  run_guarded_invariant (I := DeliversSound policy id)
    (fun _ _ _ sound alone (hstep : step policy _ _ = some _) =>
      { one := oneDelivery_step sound.one alone (step_sound hstep)
        counters := countersSound_step sound.counters sound.one.loadsAlone (step_sound hstep)
        carried := enqueuedCarried_step sound.carried sound.counters (step_sound hstep) })
    sound alone reached

/-- In a quiet system an enqueued row is terminal, or a delivery of it has met a fault. -/
theorem DeliversSound.terminal (sound : DeliversSound policy id state) (quiet : state.Quiet)
    {call : Nat} (enqueued : .enqueue call id .published ∈ state.log) :
    (∃ row, state.table.getById id = some row ∧ row.status.isTerminal = true) ∨
      .faulted id ∈ state.log := by
  cases sound.carried call enqueued with
  | terminal row found final => exact .inl ⟨row, found, final⟩
  | faulted logged => exact .inr logged
  | carrier carrier =>
      obtain ⟨message, waiting | ⟨worker, delivery, held, -⟩, -⟩ := carrier.outstanding
      · rw [quiet.drained] at waiting
        cases waiting
      · cases (quiet.idle worker).symm.trans held

/-- Some run of workers alone makes the system quiet. -/
theorem exists_quiet (policy : DeliveryRetryPolicy) (id : UUID) {bound : Nat}
    (unused : ∀ worker, bound ≤ worker → state.workers worker = none) :
    ∃ more final, run (step policy) state more = some final ∧
      (∀ action ∈ more, action.works = true) ∧
      Along (step policy) (LeftAlone id) state more ∧ final.Quiet := by
  refine run_to_stuck (workLeft policy (bound + 1))
    (I := fun state => ∀ worker, bound + 1 ≤ worker → state.workers worker = none) ?_
    fun worker above => unused worker (by omega)
  intro state unused busy
  obtain ⟨action, next, hstep, works, ⟨worker, below, acts⟩, alone⟩ :=
    works_of_not_quiet policy id busy (Nat.succ_pos bound) unused
  refine ⟨action, next, hstep, works, alone, fun other above => ?_,
    workLeft_step works acts below (step_sound hstep)⟩
  have apart : action.worker ≠ some other := by
    rw [acts]
    rintro ⟨⟩
    omega
  rw [workers_idle (step_sound hstep) apart, unused other above]

structure Completes (policy : DeliveryRetryPolicy) (id : UUID) (state : Engine) : Prop where
  bounded : ∃ bound, ∀ more final, (∀ action ∈ more, action.works = true) →
    run (step policy) state more = some final → more.length ≤ bound
  possible : ∃ more final, run (step policy) state more = some final ∧
    (∀ action ∈ more, action.works = true) ∧
    Along (step policy) (LeftAlone id) state more ∧ final.Quiet
  ends : ∀ more final, (∀ action ∈ more, action.works = true) →
    Along (step policy) (DeliversAlone id) state more →
    run (step policy) state more = some final →
    (∀ action : Action, action.works = true → step policy final action = none) →
    ∀ call, .enqueue call id .published ∈ final.log → .faulted id ∉ final.log →
      ∃ row, final.table.getById id = some row ∧ row.status.isTerminal = true

/--
Completion.  From every state of every run in which deliveries of `id` run one
after another, with calls, crashes, copies, raising commits and any provider in
between: workers that are then left alone come to an end, and not before the
row is terminal, if it was enqueued and no delivery of it has met a fault.
-/
theorem deliveries_complete (policy : DeliveryRetryPolicy) (table : Table) (id : UUID)
    (actions : List Action)
    (alone : Along (step policy) (DeliversAlone id) (start table []) actions) (state : Engine)
    (reached : run (step policy) (start table []) actions = some state) :
    Completes policy id state := by
  obtain ⟨bound, unused⟩ := unused_run ⟨0, fun _ _ => ⟨rfl, rfl⟩⟩ reached
  have idle : ∀ worker, bound ≤ worker → state.workers worker = none :=
    fun worker above => (unused worker above).2
  have sound := deliversSound_run (deliversSound_start policy id table) alone reached
  constructor
  case bounded => exact ⟨_, fun _ _ works continued => works_length_le idle works continued⟩
  case possible => exact exists_quiet policy id idle
  case ends =>
    intro more final works alone' continued stuck call enqueued unfaulted
    have sound' := deliversSound_run sound alone' continued
    exact (sound'.terminal (quiet_of_stuck stuck) enqueued).resolve_right unfaulted

/-- A worker has crashed with PROCESSING committed, and the message waits again. -/
def crashedClaim : List Action :=
  acceptAndEnqueue ++ [.deliver 0 ⟨1, 0⟩, .load 0, .commit 0 true, .crash 0]

theorem deliveries_complete_crashedClaim :
    ∃ state, run (step .default) (start .empty []) crashedClaim = some state ∧
      Completes .default 1 state := by
  exact ⟨_, rfl, deliveries_complete .default .empty 1 crashedClaim
    (deliversAlone_of_worker 0 (by simp [crashedClaim, acceptAndEnqueue])) _ rfl⟩

end Engine

end NotificationsEngine
