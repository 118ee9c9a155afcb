import Mathlib.Data.List.Basic

/-!
# Attempt budget and backoff

`app/domain/retry_policy.py`.  The constructor's checks are the fields of the
structure, so that every `DeliveryRetryPolicy` has passed `__post_init__`.
-/

namespace NotificationsEngine

/-- The exceptions that the policy's Python code can raise. -/
inductive PolicyError where
  | valueError (message : String)
  | indexError
  deriving DecidableEq, Repr

structure DeliveryRetryPolicy where
  maxAttempts : Int
  countdownSeconds : List Int
  maxAttempts_pos : 1 ≤ maxAttempts
  countdown_ne_nil : countdownSeconds ≠ []
  countdown_pos : ∀ seconds ∈ countdownSeconds, 1 ≤ seconds

namespace DeliveryRetryPolicy

/-- The constructor with its `__post_init__`. -/
def new (maxAttempts : Int) (countdownSeconds : List Int) :
    Except PolicyError DeliveryRetryPolicy :=
  if attempts : maxAttempts < 1 then .error (.valueError "max_attempts must be >= 1")
  else if schedule : countdownSeconds = [] ∨ ∃ seconds ∈ countdownSeconds, seconds < 1 then
    .error (.valueError "countdown_seconds must be a non-empty tuple of ints >= 1")
  else .ok
    { maxAttempts
      countdownSeconds
      maxAttempts_pos := by omega
      countdown_ne_nil := fun empty => schedule (.inl empty)
      countdown_pos := fun seconds member => by
        by_contra below
        exact schedule (.inr ⟨seconds, member, by omega⟩) }

/-- The defaults of `Settings`: five attempts and waits of 5, 15 and 45 seconds. -/
def default : DeliveryRetryPolicy where
  maxAttempts := 5
  countdownSeconds := [5, 15, 45]
  maxAttempts_pos := by decide
  countdown_ne_nil := by decide
  countdown_pos := by decide

/-- `retryCount` is attempts already burned, including the failure just counted. -/
def shouldRetry (policy : DeliveryRetryPolicy) (retryCount : Nat) (retryable : Bool) : Bool :=
  retryable && decide ((retryCount : Int) < policy.maxAttempts)

/-- Seconds to wait after this failed attempt; extra attempts cap at the last slot. -/
def countdownFor (policy : DeliveryRetryPolicy) (retryCount : Nat) : Except PolicyError Int :=
  if retryCount < 1 then
    .error (.valueError "retry_count must be >= 1 when asking for a countdown")
  else
    let index := min (retryCount - 1) (policy.countdownSeconds.length - 1)
    match policy.countdownSeconds[index]? with
    | some seconds => .ok seconds
    | none => .error .indexError

theorem new_ok_fields {maxAttempts : Int} {countdownSeconds : List Int}
    {policy : DeliveryRetryPolicy} (accepted : new maxAttempts countdownSeconds = .ok policy) :
    policy.maxAttempts = maxAttempts ∧ policy.countdownSeconds = countdownSeconds := by
  unfold new at accepted
  split at accepted
  · cases accepted
  · split at accepted
    · cases accepted
    · cases accepted
      exact ⟨rfl, rfl⟩

/-- The constructor accepts exactly a positive budget and a non-empty schedule of positive waits. -/
theorem new_ok_iff (maxAttempts : Int) (countdownSeconds : List Int) :
    (∃ policy, new maxAttempts countdownSeconds = .ok policy) ↔
      1 ≤ maxAttempts ∧ countdownSeconds ≠ [] ∧ ∀ seconds ∈ countdownSeconds, 1 ≤ seconds := by
  constructor
  · rintro ⟨policy, accepted⟩
    obtain ⟨rfl, rfl⟩ := new_ok_fields accepted
    exact ⟨policy.maxAttempts_pos, policy.countdown_ne_nil, policy.countdown_pos⟩
  · rintro ⟨attempts, nonempty, positive⟩
    have noBad : ¬ (countdownSeconds = [] ∨ ∃ seconds ∈ countdownSeconds, seconds < 1) := by
      rintro (empty | ⟨seconds, member, below⟩)
      · exact nonempty empty
      · have := positive seconds member
        omega
    refine ⟨⟨maxAttempts, countdownSeconds, attempts, nonempty, positive⟩, ?_⟩
    rw [new, dif_neg (by omega), dif_neg noBad]

@[simp] theorem shouldRetry_eq_true {policy : DeliveryRetryPolicy} {retryCount : Nat}
    {retryable : Bool} :
    policy.shouldRetry retryCount retryable = true ↔
      retryable = true ∧ (retryCount : Int) < policy.maxAttempts := by
  simp [shouldRetry]

/-- A budget that is not used up yields a slot of the schedule for every counted failure. -/
theorem countdownFor_ok (policy : DeliveryRetryPolicy) {retryCount : Nat}
    (counted : 1 ≤ retryCount) :
    ∃ seconds ∈ policy.countdownSeconds, policy.countdownFor retryCount = .ok seconds := by
  have nonempty := List.length_pos_iff.mpr policy.countdown_ne_nil
  have bound : min (retryCount - 1) (policy.countdownSeconds.length - 1) <
      policy.countdownSeconds.length := by omega
  refine ⟨policy.countdownSeconds[min (retryCount - 1) (policy.countdownSeconds.length - 1)],
    List.getElem_mem bound, ?_⟩
  unfold countdownFor
  rw [if_neg (by omega)]
  simp only [List.getElem?_eq_getElem bound]

/-- The wait after a counted failure, as a slot of the schedule. -/
theorem countdownFor_eq_ok_iff {policy : DeliveryRetryPolicy} {retryCount : Nat} {seconds : Int}
    (counted : 1 ≤ retryCount) :
    policy.countdownFor retryCount = .ok seconds ↔
      policy.countdownSeconds[min retryCount policy.countdownSeconds.length - 1]? =
        some seconds := by
  have slot : min (retryCount - 1) (policy.countdownSeconds.length - 1) =
      min retryCount policy.countdownSeconds.length - 1 := by omega
  unfold countdownFor
  rw [if_neg (by omega), ← slot]
  dsimp only
  split
  · next value same => simp [same]
  · next same => simp [same]

end DeliveryRetryPolicy

end NotificationsEngine
