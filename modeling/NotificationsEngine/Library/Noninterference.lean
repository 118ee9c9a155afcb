import NotificationsEngine.Library.Observation

/-!
# Noninterference by unwinding

Purging removes from a run every operation that is hidden in the state in which
it is performed.  The unwinding conditions speak of one operation at a time: a
hidden one keeps the relation between the two runs, and a visible one keeps it
and has the same output in both.
-/

namespace Noninterference

open Observation

variable {σ α ω : Type*}

/-- The operations of a run that are visible where they are performed. -/
def purge (step : σ → α → σ) (visible : σ → α → Bool) : σ → List α → List α
  | _, [] => []
  | state, op :: rest =>
      if visible state op then op :: purge step visible (step state op) rest
      else purge step visible (step state op) rest

def masked (visible : σ → α → Bool) (output : σ → α → Option ω) (state : σ) (op : α) : Option ω :=
  if visible state op then output state op else none

/-- The conditions on single operations; `Admits` is what holds of the rest of the run. -/
structure Unwinding (step : σ → α → σ) (output : σ → α → Option ω) (visible : σ → α → Bool)
    (Admits : σ → List α → Prop) (R : σ → σ → Prop) : Prop where
  admits : ∀ {state op rest}, Admits state (op :: rest) → Admits (step state op) rest
  hidden : ∀ {state image op rest}, Admits state (op :: rest) → R state image →
    visible state op = false → R (step state op) image
  related : ∀ {state image op rest}, Admits state (op :: rest) → R state image →
    visible state op = true → R (step state op) (step image op)
  output : ∀ {state image op rest}, Admits state (op :: rest) → R state image →
    visible state op = true → output image op = output state op

variable {step : σ → α → σ} {output : σ → α → Option ω} {visible : σ → α → Bool}
  {Admits : σ → List α → Prop} {R : σ → σ → Prop}

/-- The purged run has the outputs that the visible operations have in the run itself. -/
theorem Unwinding.observe_purge (unwinding : Unwinding step output visible Admits R)
    {state image : σ} {ops : List α} (admits : Admits state ops) (related : R state image) :
    observe step output image (purge step visible state ops) =
      observe step (masked visible output) state ops := by
  induction ops generalizing state image with
  | nil => rfl
  | cons op rest ih =>
      have tail := unwinding.admits admits
      cases seen : visible state op with
      | true =>
          have same := ih tail (unwinding.related admits related seen)
          simp only [purge, masked, seen, if_true, observe]
          rw [unwinding.output admits related seen, same]
      | false =>
          have same := ih tail (unwinding.hidden admits related seen)
          simp only [purge, masked, seen, Bool.false_eq_true, if_false, observe]
          exact same

/-- Masking is no restriction where hidden operations have no output. -/
theorem masked_of_silent (silent : ∀ state op, visible state op = false → output state op = none) :
    masked visible output = output := by
  funext state op
  cases seen : visible state op with
  | true => exact if_pos seen
  | false => rw [masked, seen, silent state op seen]; rfl

end Noninterference
