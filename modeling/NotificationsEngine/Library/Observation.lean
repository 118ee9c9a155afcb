import Mathlib.Data.List.Basic

/-!
# Outputs of a run

A machine is a total function `step : σ → α → σ`, and some of its operations
have an output.  The outputs of a run come in the order of its operations.  The
rules below read a count or a list off the outputs of a run, and compare the
outputs of two machines.
-/

namespace Observation

variable {σ α ω : Type*} {step : σ → α → σ} {output : σ → α → Option ω}

def observe (step : σ → α → σ) (output : σ → α → Option ω) : σ → List α → List ω
  | _, [] => []
  | state, op :: rest => (output state op).toList ++ observe step output (step state op) rest

/-- A count that every operation raises by the outputs that it has and that are counted. -/
theorem count_run {measure : σ → Nat} {counted : ω → Bool}
    (gains : ∀ state op,
      measure (step state op) = measure state + (output state op).toList.countP counted)
    (state : σ) (ops : List α) :
    measure (ops.foldl step state) =
      measure state + (observe step output state ops).countP counted := by
  induction ops generalizing state with
  | nil => rfl
  | cons op rest ih =>
      rw [List.foldl_cons, ih, gains, observe, List.countP_append, Nat.add_assoc]

/-- A list that every operation extends by the values that its output carries. -/
theorem collect_run {β : Type*} (contents : σ → List β) {carried : ω → Option β}
    (gains : ∀ state op, contents (step state op) =
      ((output state op).toList.filterMap carried).reverse ++ contents state)
    (state : σ) (ops : List α) :
    contents (ops.foldl step state) =
      ((observe step output state ops).filterMap carried).reverse ++ contents state := by
  induction ops generalizing state with
  | nil => rfl
  | cons op rest ih =>
      rw [List.foldl_cons, ih, gains, observe, List.filterMap_append, List.reverse_append,
        List.append_assoc]

/-- Two machines that stay related have the same outputs; `R` may speak of the rest of the run. -/
theorem observe_eq_of_related {τ : Type*} {step' : τ → α → τ} {output' : τ → α → Option ω}
    {R : List α → σ → τ → Prop}
    (related : ∀ op rest state image, R (op :: rest) state image →
      R rest (step state op) (step' image op))
    (same : ∀ op rest state image, R (op :: rest) state image →
      output state op = output' image op)
    {ops : List α} {state : σ} {image : τ} (initial : R ops state image) :
    observe step output state ops = observe step' output' image ops := by
  induction ops generalizing state image with
  | nil => rfl
  | cons op rest ih =>
      rw [observe, observe, same op rest state image initial,
        ih (related op rest state image initial)]

end Observation
