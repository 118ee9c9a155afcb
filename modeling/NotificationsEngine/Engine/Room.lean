import NotificationsEngine.Engine.Effects

/-!
# Room for another party

Only finitely many calls and workers have been used at any moment, so another
one can always begin.  A call that has returned stays as it is.
-/

namespace NotificationsEngine

open StepMachine

namespace Engine

/-- Calls and workers from this number on have not been used yet. -/
def Unused (state : Engine) (bound : Nat) : Prop :=
  ∀ index, bound ≤ index → state.calls index = none ∧ state.workers index = none

theorem Unused.of_call {state next : Engine} {bound call : Nat} {value : Option AcceptCall}
    (unused : state.Unused bound) (calls : next.calls = Function.update state.calls call value)
    (workers : next.workers = state.workers) : next.Unused (max bound (call + 1)) := by
  intro index above
  obtain ⟨idle, free⟩ := unused index (by omega)
  rw [calls, workers, Function.update_of_ne (by omega)]
  exact ⟨idle, free⟩

theorem Unused.of_worker {state next : Engine} {bound worker : Nat} {value : Option Delivery}
    (unused : state.Unused bound) (calls : next.calls = state.calls)
    (workers : next.workers = Function.update state.workers worker value) :
    next.Unused (max bound (worker + 1)) := by
  intro index above
  obtain ⟨idle, free⟩ := unused index (by omega)
  rw [calls, workers, Function.update_of_ne (by omega)]
  exact ⟨idle, free⟩

variable {policy : DeliveryRetryPolicy} {state next : Engine} {action : Action}

theorem unused_step {bound : Nat} (unused : state.Unused bound)
    (hstep : Step policy state action next) : ∃ bound', next.Unused bound' := by
  cases hstep with
  | duplicate => exact ⟨bound, unused⟩
  | redeliver => exact ⟨bound, unused⟩
  | deliver => exact ⟨_, unused.of_worker rfl rfl⟩
  | load => exact ⟨_, unused.of_worker rfl rfl⟩
  | commit => exact ⟨_, unused.of_worker rfl rfl⟩
  | commitRaised => exact ⟨_, unused.of_worker rfl rfl⟩
  | send => exact ⟨_, unused.of_worker rfl rfl⟩
  | apply => exact ⟨_, unused.of_worker (applied_calls _ _ _ _ _) (applied_workers _ _ _ _ _)⟩
  | raise => exact ⟨_, unused.of_worker rfl rfl⟩
  | acknowledge => exact ⟨_, unused.of_worker rfl rfl⟩
  | crash => exact ⟨_, unused.of_worker rfl rfl⟩
  | _ => exact ⟨_, unused.of_call rfl rfl⟩

theorem unused_run {final : Engine} {actions : List Action} (unused : ∃ bound, state.Unused bound)
    (reached : run (step policy) state actions = some final) : ∃ bound, final.Unused bound :=
  run_invariant (I := fun state => ∃ bound, state.Unused bound)
    (fun _ _ _ ⟨_, unused⟩ hstep => unused_step unused (step_sound hstep)) unused reached

/-- A call that has returned stays as it is. -/
theorem answered_step {call : Nat} {clientId : UUID} {request : SendNotificationRequest}
    {response : SendAcceptedResponse}
    (answered : state.calls call = some ⟨clientId, request, .returned response⟩)
    (hstep : Step policy state action next) :
    next.calls call = some ⟨clientId, request, .returned response⟩ := by
  have other : ∀ {actor : Nat} {before after : Option AcceptCall},
      state.calls actor = before → before ≠ some ⟨clientId, request, .returned response⟩ →
        Function.update state.calls actor after call =
          some ⟨clientId, request, .returned response⟩ := by
    intro actor before after held different
    by_cases same : call = actor
    · subst same
      exact absurd (held.symm.trans answered) different
    · rw [Function.update_of_ne same, answered]
  cases hstep with
  | accept actor _ _ idle => exact other idle nofun
  | lookup actor _ _ at_lookup => exact other at_lookup nofun
  | insert actor _ _ _ _ at_create => exact other at_create nofun
  | conflict actor _ _ _ _ at_create => exact other at_create nofun
  | misfit actor _ _ _ at_create => exact other at_create nofun
  | recover actor _ _ _ at_recover => exact other at_recover nofun
  | enqueue actor _ _ _ at_enqueue => exact other at_enqueue nofun
  | enqueueRaised actor _ _ _ _ at_enqueue => exact other at_enqueue nofun
  | apply => rw [applied_calls, answered]
  | _ => exact answered

theorem answered_run {final : Engine} {actions : List Action} {call : Nat} {clientId : UUID}
    {request : SendNotificationRequest} {response : SendAcceptedResponse}
    (answered : state.calls call = some ⟨clientId, request, .returned response⟩)
    (reached : run (step policy) state actions = some final) :
    final.calls call = some ⟨clientId, request, .returned response⟩ :=
  run_invariant
    (I := fun state => state.calls call = some ⟨clientId, request, .returned response⟩)
    (fun _ _ _ answered hstep => answered_step answered (step_sound hstep)) answered reached

end Engine

end NotificationsEngine
