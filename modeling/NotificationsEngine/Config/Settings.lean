import NotificationsEngine.Domain.RetryPolicy
import NotificationsEngine.Python.Text

/-!
# The retry settings

`app/core/config.py` for `max_delivery_attempts` and `delivery_retry_countdowns`,
and the policy that `app/workers/tasks.py` makes of them.  What boot accepts,
the constructor of `DeliveryRetryPolicy` accepts in the worker.
-/

namespace NotificationsEngine

/-- What a validator of `Settings` raises. -/
inductive SettingsError where
  /-- `int` refuses the text -/
  | invalidLiteral (text : Str)
  | valueError (message : String)
  /-- Pydantic reads no integer from the text -/
  | intParsing (text : Str)
  | greaterThanEqual (bound : Int)
  deriving DecidableEq

structure FieldError where
  field : String
  error : SettingsError
  deriving DecidableEq

/-- The fields of `Settings` that the worker makes its policy of. -/
@[ext]
structure RetrySettings where
  maxDeliveryAttempts : Int := 5
  deliveryRetryCountdowns : List Int := [5, 15, 45]

structure RetryEnvironment where
  maxDeliveryAttempts : Option Str
  deliveryRetryCountdowns : Option Str

/-- A value for `delivery_retry_countdowns` before validation. -/
inductive CountdownsValue where
  | str (value : Str)
  | sequence (value : List Int)

def comma : CodePoint := ⟨44, by decide⟩

/-- `int(piece.strip())`. -/
def readPiece (piece : Str) : Except SettingsError Int :=
  match int (strip piece) with
  | some seconds => .ok seconds
  | none => .error (.invalidLiteral (strip piece))

/-- `parse_retry_countdowns`: CSV, or an already-parsed sequence. -/
def parseRetryCountdowns : CountdownsValue → Except SettingsError (List Int)
  | .str value => ((value.splitOn comma).filter fun piece => strip piece ≠ []).mapM readPiece
  | .sequence value => .ok value

def requirePositiveCountdowns (value : List Int) : Except SettingsError (List Int) :=
  if value = [] ∨ ∃ seconds ∈ value, seconds < 1 then
    .error (.valueError
      "DELIVERY_RETRY_COUNTDOWNS must be a comma-separated list of integers >= 1")
  else .ok value

namespace Settings

/-- `max_delivery_attempts: int = Field(default=5, ge=1)`, with Pydantic's reading of an `int`. -/
def maxDeliveryAttempts (readInt : Str → Option Int) : Option Str → Except SettingsError Int
  | none => .ok 5
  | some text =>
      match readInt text with
      | none => .error (.intParsing text)
      | some value => if 1 ≤ value then .ok value else .error (.greaterThanEqual 1)

/-- `delivery_retry_countdowns`, with its validators before and after. -/
def deliveryRetryCountdowns : Option Str → Except SettingsError (List Int)
  | none => .ok [5, 15, 45]
  | some text => do
      let value ← parseRetryCountdowns (.str text)
      requirePositiveCountdowns value

/-- `Settings()`, as far as these two fields go: the values, or the errors of all fields. -/
def load (readInt : Str → Option Int) (env : RetryEnvironment) :
    Except (List FieldError) RetrySettings :=
  match maxDeliveryAttempts readInt env.maxDeliveryAttempts,
      deliveryRetryCountdowns env.deliveryRetryCountdowns with
  | .ok attempts, .ok countdowns => .ok ⟨attempts, countdowns⟩
  | .error error, .ok _ => .error [⟨"max_delivery_attempts", error⟩]
  | .ok _, .error error => .error [⟨"delivery_retry_countdowns", error⟩]
  | .error first, .error second =>
      .error [⟨"max_delivery_attempts", first⟩, ⟨"delivery_retry_countdowns", second⟩]

end Settings

/-- The policy of `deliver_notification`. -/
def RetrySettings.policy (settings : RetrySettings) : Except PolicyError DeliveryRetryPolicy :=
  DeliveryRetryPolicy.new settings.maxDeliveryAttempts settings.deliveryRetryCountdowns

/-! ## Texts of countdowns -/

/-- The numbers in decimal, separated by commas, with spaces around them and blank pieces. -/
def WritesCountdowns (numbers : List Int) (text : Str) : Prop :=
  ∃ pieces, text = [comma].intercalate pieces ∧
    Tokens.Holds isSpace (numbers.map fun number => Str.ofString (toString number)) pieces

/-- No piece is a number, or one that is not blank is no integer or is below 1. -/
def Malformed (text : Str) : Prop :=
  (∀ piece ∈ text.splitOn comma, ∀ c ∈ piece, isSpace c = true) ∨
    ∃ piece ∈ text.splitOn comma, (¬ ∀ c ∈ piece, isSpace c = true) ∧
      ∀ number, int (strip piece) = some number → number < 1

theorem strip_eq_nil_iff {text : Str} : strip text = [] ↔ ∀ c ∈ text, isSpace c = true :=
  Tokens.trim_eq_nil_iff

theorem readPiece_eq_ok_iff {piece : Str} {seconds : Int} :
    readPiece piece = .ok seconds ↔ int (strip piece) = some seconds := by
  unfold readPiece
  cases int (strip piece) <;> simp

theorem mapM_readPiece_eq_ok_iff {pieces : List Str} {numbers : List Int} :
    pieces.mapM readPiece = .ok numbers ↔
      pieces.map (fun piece => int (strip piece)) = numbers.map some := by
  induction pieces generalizing numbers with
  | nil => cases numbers <;> simp [pure, Except.pure]
  | cons piece rest ih =>
      rw [List.mapM_cons, List.map_cons]
      cases read : readPiece piece with
      | error error =>
          have refused : ∀ seconds, int (strip piece) ≠ some seconds := fun seconds same => by
            rw [readPiece_eq_ok_iff.mpr same] at read
            cases read
          cases numbers <;> simp [bind, Except.bind, refused]
      | ok seconds =>
          rw [readPiece_eq_ok_iff.mp read]
          cases parsed : rest.mapM readPiece with
          | error error => cases numbers <;> simp [bind, Except.bind, ← ih, parsed]
          | ok values =>
              cases numbers <;> simp [bind, Except.bind, pure, Except.pure, ← ih, parsed]

/-- The parsed list has an integer for each piece that is not blank, in their order. -/
theorem parse_eq_ok_iff {text : Str} {numbers : List Int} :
    parseRetryCountdowns (.str text) = .ok numbers ↔
      ((text.splitOn comma).filter fun piece => strip piece ≠ []).map
        (fun piece => int (strip piece)) = numbers.map some :=
  mapM_readPiece_eq_ok_iff

/-- Every piece that is not blank is parsed to a member of the list. -/
theorem mem_of_parse {text piece : Str} {numbers : List Int}
    (parsed : parseRetryCountdowns (.str text) = .ok numbers) (member : piece ∈ text.splitOn comma)
    (solid : strip piece ≠ []) : ∃ number ∈ numbers, int (strip piece) = some number := by
  have kept : piece ∈ (text.splitOn comma).filter fun piece => strip piece ≠ [] :=
    List.mem_filter.mpr ⟨member, decide_eq_true solid⟩
  have read := List.mem_map_of_mem (f := fun piece => int (strip piece)) kept
  rw [parse_eq_ok_iff.mp parsed, List.mem_map] at read
  obtain ⟨number, listed, same⟩ := read
  exact ⟨number, listed, same.symm⟩

theorem requirePositive_eq_ok_iff {value accepted : List Int} :
    requirePositiveCountdowns value = .ok accepted ↔
      accepted = value ∧ value ≠ [] ∧ ∀ seconds ∈ value, 1 ≤ seconds := by
  unfold requirePositiveCountdowns
  split
  · next bad =>
      refine ⟨nofun, fun ⟨_, nonempty, positive⟩ => ?_⟩
      obtain ⟨seconds, member, below⟩ := bad.resolve_left nonempty
      have := positive seconds member
      omega
  · next good =>
      simp only [not_or, not_exists, not_and, Int.not_lt] at good
      simp only [Except.ok.injEq, eq_comm (a := value)]
      exact ⟨fun same => ⟨same, good⟩, And.left⟩

theorem toString_of_pos {number : Int} (positive : 1 ≤ number) :
    Str.ofString (toString number) = Decimal.numeral letter number.toNat := by
  obtain ⟨natural, rfl⟩ := Int.eq_ofNat_of_zero_le (by omega : 0 ≤ number)
  exact ofString_toString natural

theorem solid_toString {number : Int} (positive : 1 ≤ number) :
    Tokens.Solid isSpace (Str.ofString (toString number)) := by
  rw [toString_of_pos positive]
  exact solid_numeral number.toNat

/-- Written numbers are parsed to themselves. -/
theorem parse_of_writes {numbers : List Int} {text : Str} (some_number : numbers ≠ [])
    (positive : ∀ number ∈ numbers, 1 ≤ number) (writes : WritesCountdowns numbers text) :
    parseRetryCountdowns (.str text) = .ok numbers := by
  obtain ⟨pieces, rfl, holds⟩ := writes
  have numerals : (numbers.map fun number => Str.ofString (toString number)) =
      numbers.map fun number => Decimal.numeral letter number.toNat :=
    List.map_congr_left fun number member => toString_of_pos (positive number member)
  rw [numerals] at holds
  have free : ∀ token ∈ numbers.map fun number => Decimal.numeral letter number.toNat,
      comma ∉ token := by
    intro token member inside
    obtain ⟨number, -, rfl⟩ := List.mem_map.mp member
    exact (of_mem_numeral inside).2 (by decide)
  have split := Tokens.splitOn_join holds (by decide) free (by simpa using some_number)
  rw [parse_eq_ok_iff, split]
  have trimmed := Tokens.trimmed_of_holds holds
  calc (pieces.filter fun piece => strip piece ≠ []).map (fun piece => int (strip piece))
      = ((pieces.filter fun piece => strip piece ≠ []).map strip).map int := by
        rw [List.map_map, Function.comp_def]
    _ = (numbers.map fun number => Decimal.numeral letter number.toNat).map int :=
        congrArg (List.map int) trimmed
    _ = numbers.map some := by
        rw [List.map_map]
        refine List.map_congr_left fun number member => ?_
        have above := positive number member
        have natural := Int.toNat_of_nonneg (by omega : 0 ≤ number)
        rw [Function.comp_apply, int_numeral]
        exact congrArg some natural

/-- What the validators accept, and nothing else, is a non-empty parsed list of numbers from 1. -/
theorem deliveryRetryCountdowns_eq_ok_iff {text : Str} {numbers : List Int} :
    Settings.deliveryRetryCountdowns (some text) = .ok numbers ↔
      parseRetryCountdowns (.str text) = .ok numbers ∧ numbers ≠ [] ∧
        ∀ number ∈ numbers, 1 ≤ number := by
  simp only [Settings.deliveryRetryCountdowns]
  cases parsed : parseRetryCountdowns (.str text) with
  | error error => simp [bind, Except.bind]
  | ok value =>
      simp only [bind, Except.bind, requirePositive_eq_ok_iff, Except.ok.injEq]
      constructor
      · rintro ⟨rfl, checked⟩
        exact ⟨rfl, checked⟩
      · rintro ⟨rfl, checked⟩
        exact ⟨rfl, checked⟩

theorem not_accepted_of_malformed {text : Str} (malformed : Malformed text)
    (numbers : List Int) : Settings.deliveryRetryCountdowns (some text) ≠ .ok numbers := by
  intro accepted
  obtain ⟨parsed, nonempty, positive⟩ := deliveryRetryCountdowns_eq_ok_iff.mp accepted
  rcases malformed with blank | ⟨piece, member, solid, bad⟩
  · have skipped : (text.splitOn comma).filter (fun piece => strip piece ≠ []) = [] := by
      refine List.filter_eq_nil_iff.mpr fun piece member => ?_
      simp [strip_eq_nil_iff.mpr (blank piece member)]
    have read := parse_eq_ok_iff.mp parsed
    rw [skipped] at read
    exact nonempty (List.map_eq_nil_iff.mp read.symm)
  · have kept : strip piece ≠ [] := fun empty => solid (strip_eq_nil_iff.mp empty)
    obtain ⟨number, listed, same⟩ := mem_of_parse parsed member kept
    have below := bad number same
    have above := positive number listed
    omega

/-- A text that is not malformed is accepted. -/
theorem accepted_of_not_malformed {text : Str} (wellFormed : ¬ Malformed text) :
    ∃ numbers, Settings.deliveryRetryCountdowns (some text) = .ok numbers := by
  simp only [Malformed, not_or, not_exists, not_and] at wellFormed
  obtain ⟨not_blank, integers⟩ := wellFormed
  have read : ∀ piece ∈ (text.splitOn comma).filter fun piece => strip piece ≠ [],
      ∃ number, int (strip piece) = some number ∧ 1 ≤ number := by
    intro piece member
    obtain ⟨inside, kept⟩ := List.mem_filter.mp member
    have solid : ¬ ∀ c ∈ piece, isSpace c = true := fun blank =>
      of_decide_eq_true kept (strip_eq_nil_iff.mpr blank)
    have good := integers piece inside solid
    push Not at good
    exact good
  let numbers := ((text.splitOn comma).filter fun piece => strip piece ≠ []).map
    fun piece => (int (strip piece)).getD 0
  refine ⟨numbers, deliveryRetryCountdowns_eq_ok_iff.mpr ⟨?_, ?_, ?_⟩⟩
  · rw [parse_eq_ok_iff, List.map_map]
    refine List.map_congr_left fun piece member => ?_
    obtain ⟨number, same, -⟩ := read piece member
    simp [same]
  · intro empty
    refine not_blank fun piece member => strip_eq_nil_iff.mp ?_
    by_contra kept
    have listed : piece ∈ (text.splitOn comma).filter fun piece => strip piece ≠ [] :=
      List.mem_filter.mpr ⟨member, decide_eq_true kept⟩
    rw [List.map_eq_nil_iff.mp empty] at listed
    cases listed
  · intro number listed
    obtain ⟨piece, member, rfl⟩ := List.mem_map.mp listed
    obtain ⟨number, same, positive⟩ := read piece member
    simpa [same] using positive

/-- The texts that boot accepts. -/
theorem accepted_iff_not_malformed {text : Str} :
    (∃ numbers, Settings.deliveryRetryCountdowns (some text) = .ok numbers) ↔
      ¬ Malformed text := by
  constructor
  · rintro ⟨numbers, accepted⟩ malformed
    exact not_accepted_of_malformed malformed numbers accepted
  · exact accepted_of_not_malformed

/-! ## From boot to the worker -/

theorem load_eq_ok_iff {readInt : Str → Option Int} {env : RetryEnvironment}
    {settings : RetrySettings} :
    Settings.load readInt env = .ok settings ↔
      Settings.maxDeliveryAttempts readInt env.maxDeliveryAttempts =
          .ok settings.maxDeliveryAttempts ∧
        Settings.deliveryRetryCountdowns env.deliveryRetryCountdowns =
          .ok settings.deliveryRetryCountdowns := by
  unfold Settings.load
  cases Settings.maxDeliveryAttempts readInt env.maxDeliveryAttempts <;>
    cases Settings.deliveryRetryCountdowns env.deliveryRetryCountdowns <;>
    simp [RetrySettings.ext_iff]

theorem one_le_maxDeliveryAttempts {readInt : Str → Option Int} {text : Option Str}
    {attempts : Int} (accepted : Settings.maxDeliveryAttempts readInt text = .ok attempts) :
    1 ≤ attempts := by
  cases text with
  | none =>
      cases accepted
      decide
  | some text =>
      cases read : readInt text with
      | none => simp [Settings.maxDeliveryAttempts, read] at accepted
      | some value =>
          simp only [Settings.maxDeliveryAttempts, read] at accepted
          split at accepted
          · next above => exact Except.ok.inj accepted ▸ above
          · cases accepted

/-- The defaults pass the checks that they are not put through. -/
theorem countdowns_checked {text : Option Str} {numbers : List Int}
    (accepted : Settings.deliveryRetryCountdowns text = .ok numbers) :
    numbers ≠ [] ∧ ∀ number ∈ numbers, 1 ≤ number := by
  cases text with
  | none =>
      cases accepted
      exact ⟨by decide, by decide⟩
  | some text => exact (deliveryRetryCountdowns_eq_ok_iff.mp accepted).2

/-- The settings make a policy, which waits for the slots of the parsed list. -/
structure Serves (settings : RetrySettings) (policy : DeliveryRetryPolicy) : Prop where
  constructed : settings.policy = .ok policy
  countdown : ∀ retryCount, 1 ≤ retryCount → ∃ seconds,
    policy.countdownFor retryCount = .ok seconds ∧
      settings.deliveryRetryCountdowns[
        min retryCount settings.deliveryRetryCountdowns.length - 1]? = some seconds

theorem serves_of_load {readInt : Str → Option Int} {env : RetryEnvironment}
    {settings : RetrySettings} (accepted : Settings.load readInt env = .ok settings) :
    ∃ policy, Serves settings policy := by
  obtain ⟨attempts, countdowns⟩ := load_eq_ok_iff.mp accepted
  have checked := countdowns_checked countdowns
  obtain ⟨policy, constructed⟩ := (DeliveryRetryPolicy.new_ok_iff _ _).mpr
    ⟨one_le_maxDeliveryAttempts attempts, checked⟩
  have schedule := (DeliveryRetryPolicy.new_ok_fields constructed).2
  refine ⟨policy, constructed, fun retryCount counted => ?_⟩
  obtain ⟨seconds, -, waits⟩ := policy.countdownFor_ok counted
  exact ⟨seconds, waits, schedule ▸ (policy.countdownFor_eq_ok_iff counted).mp waits⟩

/-- The retry settings from their text to the worker, whatever Pydantic reads as an `int`. -/
structure RetryConfiguration (readInt : Str → Option Int) : Prop where
  parses : ∀ numbers text, numbers ≠ [] → (∀ number ∈ numbers, 1 ≤ number) →
    WritesCountdowns numbers text → parseRetryCountdowns (.str text) = .ok numbers
  accepts : ∀ numbers text, numbers ≠ [] → (∀ number ∈ numbers, 1 ≤ number) →
    WritesCountdowns numbers text → ∀ attempts settings,
      Settings.maxDeliveryAttempts readInt attempts = .ok settings.maxDeliveryAttempts →
      settings.deliveryRetryCountdowns = numbers →
        Settings.load readInt ⟨attempts, some text⟩ = .ok settings
  rejects : ∀ text, Malformed text → ∀ attempts settings,
    Settings.load readInt ⟨attempts, some text⟩ ≠ .ok settings
  serves : ∀ attempts text settings,
    Settings.load readInt ⟨attempts, some text⟩ = .ok settings →
      parseRetryCountdowns (.str text) = .ok settings.deliveryRetryCountdowns ∧
        ∃ policy, Serves settings policy

/--
For every text of countdowns and every number of attempts: numbers written in
any spacing are parsed to themselves and accepted, malformed texts are
rejected, and the worker makes its policy of all that is accepted.
-/
theorem retry_configuration (readInt : Str → Option Int) : RetryConfiguration readInt where
  parses _ _ some_number positive writes := parse_of_writes some_number positive writes
  accepts := by
    intro numbers text some_number positive writes attempts settings accepted same
    have parsed := parse_of_writes some_number positive writes
    refine load_eq_ok_iff.mpr ⟨accepted, deliveryRetryCountdowns_eq_ok_iff.mpr ?_⟩
    rw [same]
    exact ⟨parsed, some_number, positive⟩
  rejects := by
    intro text malformed attempts settings accepted
    exact not_accepted_of_malformed malformed _ (load_eq_ok_iff.mp accepted).2
  serves := by
    intro attempts text settings accepted
    have countdowns := (load_eq_ok_iff.mp accepted).2
    exact ⟨(deliveryRetryCountdowns_eq_ok_iff.mp countdowns).1, serves_of_load accepted⟩

theorem retry_configuration_spaced :
    parseRetryCountdowns (.str (.ofString " 5,, 15,45 ")) = .ok [5, 15, 45] := by
  have positive : ∀ number ∈ [5, 15, 45], (1 : Int) ≤ number := by decide
  have solid : ∀ number ∈ [5, 15, 45],
      Tokens.Solid isSpace (Str.ofString (toString (number : Int))) := by
    intro number member
    exact solid_toString (positive number member)
  have blank : ∀ c ∈ Str.ofString " ", isSpace c = true := List.all_eq_true.mp (by decide)
  have nothing : ∀ c ∈ Str.ofString "", isSpace c = true := nofun
  refine (retry_configuration int).parses _ _ (by decide) positive
    ⟨[Str.ofString " 5", Str.ofString "", Str.ofString " 15", Str.ofString "45 "], by decide, ?_⟩
  exact .token _ _ _ blank (solid 5 (by decide)) nothing
    (.blank _ nothing
      (.token _ _ _ blank (solid 15 (by decide)) nothing
        (.token _ _ _ nothing (solid 45 (by decide)) blank .nil)))

end NotificationsEngine
