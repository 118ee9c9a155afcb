import Mathlib.Data.List.Basic

/-!
# Partial step functions and their runs

A machine is a function `step : σ → α → Option σ`: the label carries every
choice that the environment makes, and `none` means that the label is not
enabled.  A run is a list of labels.  The rules below reduce a property of
all runs to one step: an invariant, an invariant under a guard that every
step of the run meets, a decreasing measure, and a forward simulation.
-/

namespace StepMachine

variable {σ τ α β ω : Type*} {step : σ → α → Option σ} {other : τ → β → Option τ}

/-- Perform the labels in order; `none` as soon as one is not enabled. -/
def run (step : σ → α → Option σ) : σ → List α → Option σ
  | state, [] => some state
  | state, label :: rest => (step state label).bind fun next => run step next rest

/-- Every step that the run performs satisfies `P before label after`. -/
def Along (step : σ → α → Option σ) (P : σ → α → σ → Prop) : σ → List α → Prop
  | _, [] => True
  | state, label :: rest =>
      ∀ next, step state label = some next → P state label next ∧ Along step P next rest

@[simp] theorem run_cons (state : σ) (label : α) (rest : List α) :
    run step state (label :: rest) =
      (step state label).bind fun next => run step next rest := rfl

theorem run_cons_eq_some {state final : σ} {label : α} {rest : List α} :
    run step state (label :: rest) = some final ↔
      ∃ next, step state label = some next ∧ run step next rest = some final := by
  simp [Option.bind_eq_some_iff]

theorem run_append (state : σ) (first second : List α) :
    run step state (first ++ second) =
      (run step state first).bind fun middle => run step middle second := by
  induction first generalizing state with
  | nil => rfl
  | cons label rest ih =>
      cases hstep : step state label with
      | none => simp [hstep]
      | some next => simpa [hstep] using ih next

theorem run_append_eq_some {state middle final : σ} {first second : List α}
    (hfirst : run step state first = some middle)
    (hsecond : run step middle second = some final) :
    run step state (first ++ second) = some final := by
  rw [run_append, hfirst]
  exact hsecond

/-- A property that each step preserves holds at the end of every run. -/
theorem run_invariant {I : σ → Prop}
    (preserved : ∀ state label next, I state → step state label = some next → I next)
    {state final : σ} {labels : List α}
    (initial : I state) (hrun : run step state labels = some final) : I final := by
  induction labels generalizing state with
  | nil =>
      cases hrun
      exact initial
  | cons label rest ih =>
      obtain ⟨next, hstep, hrest⟩ := run_cons_eq_some.mp hrun
      exact ih (preserved _ _ _ initial hstep) hrest

/-- The invariant rule for runs whose steps all meet the guard `G`. -/
theorem run_guarded_invariant {I : σ → Prop} {G : σ → α → σ → Prop}
    (preserved : ∀ state label next, I state → G state label next →
      step state label = some next → I next)
    {state final : σ} {labels : List α} (initial : I state)
    (guarded : Along step G state labels)
    (hrun : run step state labels = some final) : I final := by
  induction labels generalizing state with
  | nil =>
      cases hrun
      exact initial
  | cons label rest ih =>
      obtain ⟨next, hstep, hrest⟩ := run_cons_eq_some.mp hrun
      obtain ⟨hguard, htail⟩ := guarded next hstep
      exact ih (preserved _ _ _ initial hguard hstep) htail hrest

def outputs (step : σ → α → Option σ) (output : σ → α → Option ω) : σ → List α → List ω
  | _, [] => []
  | state, label :: rest =>
      ((step state label).elim [] fun next => outputs step output next rest) ++
        (output state label).toList

/-- The invariant rule for a state together with what the run has put out. -/
theorem run_outputs_invariant (output : σ → α → Option ω) {I : σ → List ω → Prop}
    (preserved : ∀ state seen label next, I state seen → step state label = some next →
      I next ((output state label).toList ++ seen))
    {state final : σ} {labels : List α} {seen : List ω} (initial : I state seen)
    (hrun : run step state labels = some final) :
    I final (outputs step output state labels ++ seen) := by
  induction labels generalizing state seen with
  | nil =>
      cases hrun
      exact initial
  | cons label rest ih =>
      obtain ⟨next, hstep, hrest⟩ := run_cons_eq_some.mp hrun
      rw [outputs, hstep, Option.elim_some, List.append_assoc]
      exact ih (preserved _ _ _ _ initial hstep) hrest

/-- An invariant kept under a guard turns the guard on every step of a run
into any conclusion that one guarded step from the invariant has. -/
theorem Along.of_invariant {I : σ → Prop} {G P : σ → α → σ → Prop}
    (preserved : ∀ state label next, I state → G state label next →
      step state label = some next → I next)
    (conclusion : ∀ state label next, I state → G state label next →
      step state label = some next → P state label next)
    {state : σ} {labels : List α} (initial : I state)
    (guarded : Along step G state labels) : Along step P state labels := by
  induction labels generalizing state with
  | nil => exact True.intro
  | cons label rest ih =>
      intro next hstep
      obtain ⟨hguard, htail⟩ := guarded next hstep
      exact ⟨conclusion _ _ _ initial hguard hstep,
        ih (preserved _ _ _ initial hguard hstep) htail⟩

/-- A property of the labels alone. -/
theorem Along.of_labels {P : σ → α → σ → Prop} {labels : List α}
    (all : ∀ label ∈ labels, ∀ state next, P state label next) (state : σ) :
    Along step P state labels := by
  induction labels generalizing state with
  | nil => exact True.intro
  | cons label rest ih =>
      intro next hstep
      exact ⟨all label List.mem_cons_self state next,
        ih (fun other member => all other (List.mem_cons_of_mem _ member)) next⟩

theorem Along.and {P Q : σ → α → σ → Prop} {state : σ} {labels : List α}
    (first : Along step P state labels) (second : Along step Q state labels) :
    Along step (fun state label next => P state label next ∧ Q state label next) state labels := by
  induction labels generalizing state with
  | nil => exact True.intro
  | cons label rest ih =>
      intro next hstep
      obtain ⟨hfirst, htail⟩ := first next hstep
      obtain ⟨hsecond, htail'⟩ := second next hstep
      exact ⟨⟨hfirst, hsecond⟩, ih htail htail'⟩

/-- The steps of a prefix. -/
theorem Along.take {P : σ → α → σ → Prop} {state : σ} {first second : List α}
    (along : Along step P state (first ++ second)) : Along step P state first := by
  induction first generalizing state with
  | nil => exact True.intro
  | cons label rest ih =>
      intro next hstep
      obtain ⟨now, later⟩ := along next hstep
      exact ⟨now, ih later⟩

/-- The part of a run after a prefix. -/
theorem Along.of_append {P : σ → α → σ → Prop} {state middle : σ} {first second : List α}
    (along : Along step P state (first ++ second))
    (hrun : run step state first = some middle) : Along step P middle second := by
  induction first generalizing state with
  | nil =>
      cases hrun
      exact along
  | cons head rest ih =>
      obtain ⟨next, hhead, hrest⟩ := run_cons_eq_some.mp hrun
      exact ih (along next hhead).2 hrest

/-- `Along` read at one step: the step that follows a prefix of the run. -/
theorem Along.at_step {P : σ → α → σ → Prop} {state before after : σ}
    {first second : List α} {label : α}
    (along : Along step P state (first ++ label :: second))
    (hrun : run step state first = some before)
    (hstep : step before label = some after) : P before label after :=
  ((along.of_append hrun) after hstep).1

/-- A measure that every step decreases bounds the length of every run. -/
theorem run_length_le {I : σ → Prop} {measure : σ → Nat}
    (preserved : ∀ state label next, I state → step state label = some next → I next)
    (decreases : ∀ state label next, I state → step state label = some next →
      measure next + 1 ≤ measure state)
    {state final : σ} {labels : List α} (initial : I state)
    (hrun : run step state labels = some final) :
    labels.length + measure final ≤ measure state := by
  induction labels generalizing state with
  | nil =>
      cases hrun
      simp
  | cons label rest ih =>
      obtain ⟨next, hstep, hrest⟩ := run_cons_eq_some.mp hrun
      have inner := ih (preserved _ _ _ initial hstep) hrest
      have outer := decreases _ _ _ initial hstep
      simp only [List.length_cons]
      omega

/-- A measure that the steps with some labels decrease bounds the runs of these labels. -/
theorem run_length_le_of_labels {P : α → Prop} (measure : σ → Nat)
    (decreases : ∀ state label next, P label → step state label = some next →
      measure next + 1 ≤ measure state)
    {state final : σ} {labels : List α} (all : ∀ label ∈ labels, P label)
    (hrun : run step state labels = some final) :
    labels.length + measure final ≤ measure state := by
  induction labels generalizing state with
  | nil =>
      cases hrun
      simp
  | cons label rest ih =>
      obtain ⟨next, hstep, hrest⟩ := run_cons_eq_some.mp hrun
      obtain ⟨first, others⟩ := List.forall_mem_cons.mp all
      have inner := ih others hrest
      have outer := decreases _ _ _ first hstep
      simp only [List.length_cons]
      omega

/-- Where every state that is not stuck has a step that decreases a measure, some run of such
steps gets stuck. -/
theorem run_to_stuck {I Stuck : σ → Prop} {P : α → Prop} {G : σ → α → σ → Prop}
    (measure : σ → Nat)
    (progress : ∀ state, I state → ¬ Stuck state → ∃ label next, step state label = some next ∧
      P label ∧ G state label next ∧ I next ∧ measure next + 1 ≤ measure state)
    {state : σ} (initial : I state) :
    ∃ labels final, run step state labels = some final ∧ (∀ label ∈ labels, P label) ∧
      Along step G state labels ∧ Stuck final := by
  induction hmeasure : measure state using Nat.strongRecOn generalizing state with
  | ind n ih =>
      by_cases stuck : Stuck state
      · exact ⟨[], state, rfl, nofun, True.intro, stuck⟩
      · obtain ⟨label, next, hstep, hlabel, guard, preserved, decreases⟩ :=
          progress state initial stuck
        obtain ⟨labels, final, hrun, all, along, hfinal⟩ :=
          ih (measure next) (by omega) preserved rfl
        refine ⟨label :: labels, final, run_cons_eq_some.mpr ⟨next, hstep, hrun⟩,
          List.forall_mem_cons.mpr ⟨hlabel, all⟩, ?_, hfinal⟩
        intro other hother
        cases hstep.symm.trans hother
        exact ⟨guard, along⟩

/-- When every step of the first machine is matched by a run of the second
one, so is every run. -/
theorem run_simulates {R : σ → τ → Prop}
    (matched : ∀ state image label next, R state image → step state label = some next →
      ∃ labels image', run other image labels = some image' ∧ R next image')
    {state final : σ} {image : τ} {labels : List α}
    (related : R state image) (hrun : run step state labels = some final) :
    ∃ images image', run other image images = some image' ∧ R final image' := by
  induction labels generalizing state image with
  | nil =>
      cases hrun
      exact ⟨[], image, rfl, related⟩
  | cons label rest ih =>
      obtain ⟨next, hstep, hrest⟩ := run_cons_eq_some.mp hrun
      obtain ⟨first, middle, hfirst, hmiddle⟩ := matched _ _ _ _ related hstep
      obtain ⟨second, image', hsecond, hfinal⟩ := ih hmiddle hrest
      exact ⟨first ++ second, image', run_append_eq_some hfirst hsecond, hfinal⟩

/-- When the translation of every label matches its step, the translation of a run matches the
run. -/
theorem run_translates {R : σ → τ → Prop} (translate : α → List β)
    (matched : ∀ state image label next, R state image → step state label = some next →
      ∃ image', run other image (translate label) = some image' ∧ R next image')
    {state final : σ} {image : τ} {labels : List α}
    (related : R state image) (hrun : run step state labels = some final) :
    ∃ image', run other image (labels.flatMap translate) = some image' ∧ R final image' := by
  induction labels generalizing state image with
  | nil =>
      cases hrun
      exact ⟨image, rfl, related⟩
  | cons label rest ih =>
      obtain ⟨next, hstep, hrest⟩ := run_cons_eq_some.mp hrun
      obtain ⟨middle, hfirst, hmiddle⟩ := matched _ _ _ _ related hstep
      obtain ⟨image', hsecond, hfinal⟩ := ih hmiddle hrest
      exact ⟨image', run_append_eq_some hfirst hsecond, hfinal⟩

end StepMachine
