import NotificationsEngine.Services.Accept
import NotificationsEngine.Services.Dispatch

/-!
# Calls of dispatch, one after another

`dispatch` is called on one fresh row again and again, and each call of the
provider takes the next outcome of an infinite sequence.  The outcomes alone
decide which call is the last one with an effect: the earlier ones are
retries, and the later ones are skipped.
-/

namespace NotificationsEngine

/-- A success or a `PermanentProviderError`: nothing is left to try again. -/
def ProviderOutcome.isFinal : ProviderOutcome → Bool
  | .returned => true
  | .raised error => error.permanent

/-- The position of the first final outcome if the budget reaches it, else the budget. -/
def lastAttempt (policy : DeliveryRetryPolicy) (outcomes : Nat → ProviderOutcome) : Nat :=
  let budget := policy.maxAttempts.toNat
  ((List.range' 1 budget).find? fun position => (outcomes position).isFinal).getD budget

/-- No attempt before the last one is final or exhausts the budget; the last one is or does. -/
structure LastAttempt (policy : DeliveryRetryPolicy) (outcomes : Nat → ProviderOutcome)
    (last : Nat) : Prop where
  positive : 1 ≤ last
  budget : (last : Int) ≤ policy.maxAttempts
  transient : ∀ position, 1 ≤ position → position < last → (outcomes position).isFinal = false
  final : (outcomes last).isFinal = true ∨ (last : Int) = policy.maxAttempts

theorem lastAttempt_spec (policy : DeliveryRetryPolicy) (outcomes : Nat → ProviderOutcome) :
    LastAttempt policy outcomes (lastAttempt policy outcomes) := by
  have positive := policy.maxAttempts_pos
  unfold lastAttempt
  cases found : (List.range' 1 policy.maxAttempts.toNat).find?
      fun position => (outcomes position).isFinal with
  | some first =>
      obtain ⟨final, within, before⟩ := List.find?_range'_eq_some.mp found
      have bounds := List.mem_range'_1.mp within
      simp only [found, Option.getD_some]
      exact
        { positive := bounds.1
          budget := by omega
          transient := fun position from_one below => by simpa using before position from_one below
          final := .inl final }
  | none =>
      have never := List.find?_eq_none.mp found
      simp only [found, Option.getD_none]
      exact
        { positive := by omega
          budget := by omega
          transient := fun position from_one below => by
            have within := List.mem_range'_1.mpr ⟨from_one, Nat.lt_add_left 1 below⟩
            simpa using never position within
          final := .inr (by omega) }

/-- Within the budget, a transient outcome schedules a retry. -/
theorem settles_transient {policy : DeliveryRetryPolicy} {row : Notification}
    {outcome : ProviderOutcome} {columns : DeliveryColumns} {result : DispatchResult}
    (settles : Settles policy row outcome columns result)
    (transient : outcome.isFinal = false)
    (budget : (row.retryCount : Int) + 1 < policy.maxAttempts) :
    ∃ exception countdown, outcome = .raised exception ∧
      columns = { countFailure row.toDeliveryColumns exception with status := .pending } ∧
      policy.countdownFor (row.retryCount + 1) = .ok countdown ∧
      result = { action := .retry, countdownSeconds := some countdown } := by
  cases settles with
  | sent => cases transient
  | retry exception countdown _ _ scheduled =>
      exact ⟨exception, countdown, rfl, rfl, scheduled, rfl⟩
  | failed exception exhausted =>
      rcases exhausted with permanent | exhausted
      · exact absurd permanent (by simpa [ProviderOutcome.isFinal] using transient)
      · omega

/-- A final outcome, or the last one of the budget, leaves the row SENT or FAILED. -/
theorem settles_last {policy : DeliveryRetryPolicy} {row : Notification}
    {outcome : ProviderOutcome} {columns : DeliveryColumns} {result : DispatchResult}
    (settles : Settles policy row outcome columns result)
    (last : outcome.isFinal = true ∨ (row.retryCount : Int) + 1 = policy.maxAttempts) :
    (outcome = .returned ∧ columns.status = .sent ∧ result = { action := .sent }) ∨
      (outcome ≠ .returned ∧ columns.status = .failed ∧
        columns.retryCount = row.retryCount + 1 ∧
        result = { action := .failed, deadLetter := true }) := by
  cases settles with
  | sent => exact .inl ⟨rfl, rfl, rfl⟩
  | failed exception => exact .inr ⟨by rintro ⟨⟩, rfl, rfl, rfl⟩
  | retry exception _ transient budget =>
      rcases last with final | exhausted
      · exact absurd final (by simp [ProviderOutcome.isFinal, transient])
      · omega

structure DispatchHistory where
  table : Table
  sends : Nat

namespace DispatchHistory

variable (policy : DeliveryRetryPolicy) (outcomes : Nat → ProviderOutcome) (id : UUID)

/-- One more call of `dispatch`; the provider gives the outcome of its next position. -/
def call (now : Instant) (history : DispatchHistory) : DispatchRun :=
  dispatch policy (fun _ => outcomes (history.sends + 1)) now history.table id

def serve (now : Instant) (history : DispatchHistory) : DispatchHistory :=
  let run := history.call policy outcomes id now
  ⟨run.table, history.sends + run.messages.length⟩

/-- After this number of calls; `clock` is when each of them is made. -/
def after (clock : Nat → Instant) (table : Table) : Nat → DispatchHistory
  | 0 => ⟨table, 0⟩
  | calls + 1 => (after clock table calls).serve policy outcomes id (clock calls)

def callAfter (clock : Nat → Instant) (table : Table) (calls : Nat) : DispatchRun :=
  (after policy outcomes id clock table calls).call policy outcomes id (clock calls)

variable {id} {history : DispatchHistory} {row : Notification}

/-- A call on a live row asks the provider once, and settles the row if it can record this. -/
theorem call_settles (now : Instant) (found : history.table.getById id = some row)
    (live : row.status.isTerminal = false)
    (recorded : (outcomes (history.sends + 1)).recordable (row.retryCount + 1) = true) :
    ∃ columns result,
      Settles policy (row.withColumns row.claimed) (outcomes (history.sends + 1)) columns result ∧
      (history.call policy outcomes id now).result = .ok result ∧
      (history.call policy outcomes id now).messages = [row.outbound] ∧
      (history.serve policy outcomes id now).table.getById id = some (row.withColumns columns) ∧
      (history.serve policy outcomes id now).sends = history.sends + 1 := by
  obtain ⟨columns, messages, ended, dispatches, stored, sent, returned⟩ :=
    dispatch_dispatches policy (fun _ => outcomes (history.sends + 1)) now found
  cases dispatches with
  | skipped terminal => rw [live] at terminal; cases terminal
  | settled _ _ result settles =>
      refine ⟨columns, result, settles, returned, sent, stored, ?_⟩
      simp only [serve, call, sent, List.length_singleton]
  | unrecorded _ _ _ settles misfit =>
      rw [fitsUpdate_of_recordable settles recorded] at misfit
      cases misfit

/-- A call on a live row that cannot record the outcome raises. -/
theorem call_unrecorded (now : Instant) (found : history.table.getById id = some row)
    (live : row.status.isTerminal = false) (held : row.errorMessage.all isTextParameter = true)
    (unrecorded : (outcomes (history.sends + 1)).recordable (row.retryCount + 1) = false) :
    (history.call policy outcomes id now).result = .error .database := by
  obtain ⟨columns, messages, ended, dispatches, -, -, returned⟩ :=
    dispatch_dispatches policy (fun _ => outcomes (history.sends + 1)) now found
  cases dispatches with
  | skipped terminal => rw [live] at terminal; cases terminal
  | settled _ _ _ settles fits =>
      have recorded := recordable_of_fitsUpdate settles held fits
      cases unrecorded.symm.trans recorded
  | unrecorded => exact returned

/-- The row as `calls` failed attempts leave it, the last one with this exception. -/
def retried (row : Notification) (calls : Nat) (exception : ProviderException) : Notification :=
  row.withColumns
    { status := .pending
      retryCount := calls
      errorMessage := some (exception.text.take errorMessageMax)
      sentAt := row.sentAt }

/-- These columns wait for the next attempt; every outcome so far was a counted failure. -/
structure Waits (row : Notification) (sends : Nat) (columns : DeliveryColumns) : Prop where
  status : columns.status = .pending
  retryCount : columns.retryCount = sends
  sentAt : columns.sentAt = row.sentAt
  errorMessage : columns.errorMessage.all isTextParameter = true

def Waiting (row : Notification) (id : UUID) (history : DispatchHistory) : Prop :=
  ∃ columns, history.table.getById id = some (row.withColumns columns) ∧
    Waits row history.sends columns

theorem Waits.live {sends : Nat} {columns : DeliveryColumns} (waits : Waits row sends columns) :
    (row.withColumns columns).status.isTerminal = false := by
  rw [Notification.withColumns_columns, waits.status]
  rfl

/-- A call that asks the provider once, gets a transient failure and schedules a retry. -/
structure Retries (policy : DeliveryRetryPolicy) (row : Notification) (id : UUID) (calls : Nat)
    (outcome : ProviderOutcome) (run : DispatchRun) : Prop where
  result : ∃ countdown,
    policy.countdownSeconds[min calls policy.countdownSeconds.length - 1]? = some countdown ∧
      run.result = .ok { action := .retry, countdownSeconds := some countdown, deadLetter := false }
  stored : ∃ exception, outcome = .raised exception ∧
    run.table.getById id = some (retried row calls exception)
  messages : run.messages = [row.outbound]

/-- A call that asks the provider once and leaves the row terminal. -/
structure Ends (row : Notification) (id : UUID) (calls : Nat) (outcome : ProviderOutcome)
    (run : DispatchRun) : Prop where
  returned : outcome = .returned → run.result = .ok { action := .sent }
  raised : outcome ≠ .returned → run.result = .ok { action := .failed, deadLetter := true }
  stored : ∃ columns, run.table.getById id = some (row.withColumns columns) ∧
    columns.status = (if outcome = .returned then .sent else .failed) ∧
    (outcome ≠ .returned → columns.retryCount = calls)
  messages : run.messages = [row.outbound]

theorem Waiting.retries (now : Instant) (waiting : Waiting row id history)
    (transient : (outcomes (history.sends + 1)).isFinal = false)
    (budget : (history.sends : Int) + 1 < policy.maxAttempts)
    (recorded : (outcomes (history.sends + 1)).recordable (history.sends + 1) = true) :
    Retries policy row id (history.sends + 1) (outcomes (history.sends + 1))
        (history.call policy outcomes id now) ∧
      Waiting row id (history.serve policy outcomes id now) ∧
      (history.serve policy outcomes id now).sends = history.sends + 1 := by
  obtain ⟨before, found, waits⟩ := waiting
  have counted := waits.retryCount
  have recordedHere : (outcomes (history.sends + 1)).recordable
      ((row.withColumns before).retryCount + 1) = true := by
    rw [Notification.withColumns_columns, counted]
    exact recorded
  obtain ⟨columns, result, settles, returned, sent, stored, sends⟩ :=
    call_settles policy outcomes now found waits.live recordedHere
  rw [← counted] at budget
  obtain ⟨exception, countdown, raised, rfl, scheduled, rfl⟩ :=
    settles_transient settles transient budget
  rw [raised] at recorded
  have clean := (recordable_raised.mp recorded).2
  have scheduled : policy.countdownFor (before.retryCount + 1) = .ok countdown := scheduled
  rw [DeliveryRetryPolicy.countdownFor_eq_ok_iff (Nat.le_add_left 1 _)] at scheduled
  refine ⟨⟨⟨countdown, counted ▸ scheduled, returned⟩, ⟨exception, raised, ?_⟩, sent⟩, ?_, sends⟩
  · rw [retried, ← counted, ← waits.sentAt]
    exact stored
  · refine ⟨_, stored, ?_⟩
    exact
      { status := rfl
        retryCount := by rw [sends, ← counted]; rfl
        sentAt := waits.sentAt
        errorMessage := clean }

theorem Waiting.ends (now : Instant) (waiting : Waiting row id history)
    (last : (outcomes (history.sends + 1)).isFinal = true ∨
      (history.sends : Int) + 1 = policy.maxAttempts)
    (recorded : (outcomes (history.sends + 1)).recordable (history.sends + 1) = true) :
    Ends row id (history.sends + 1) (outcomes (history.sends + 1))
        (history.call policy outcomes id now) ∧
      (history.serve policy outcomes id now).sends = history.sends + 1 := by
  obtain ⟨before, found, waits⟩ := waiting
  have counted := waits.retryCount
  have recordedHere : (outcomes (history.sends + 1)).recordable
      ((row.withColumns before).retryCount + 1) = true := by
    rw [Notification.withColumns_columns, counted]
    exact recorded
  obtain ⟨columns, result, settles, returned, sent, stored, sends⟩ :=
    call_settles policy outcomes now found waits.live recordedHere
  have last : (outcomes (history.sends + 1)).isFinal = true ∨
      (before.retryCount : Int) + 1 = policy.maxAttempts := by rwa [counted]
  refine ⟨?_, sends⟩
  rcases settles_last settles last with ⟨success, status, rfl⟩ | ⟨failure, status, count, rfl⟩
  · exact
      { returned := fun _ => returned
        raised := fun failure => absurd success failure
        stored := ⟨columns, stored, by rw [if_pos success, status], fun failure =>
          absurd success failure⟩
        messages := sent }
  · exact
      { returned := fun success => absurd success failure
        raised := fun _ => returned
        stored := ⟨columns, stored, by rw [if_neg failure, status], fun _ => count.trans
          (by rw [← counted]; rfl)⟩
        messages := sent }

/-- A call that cannot record its outcome is neither a retry nor the end. -/
theorem Waiting.unrecorded (now : Instant) (waiting : Waiting row id history)
    (unrecorded : (outcomes (history.sends + 1)).recordable (history.sends + 1) = false) :
    (history.call policy outcomes id now).result = .error .database := by
  obtain ⟨before, found, waits⟩ := waiting
  refine call_unrecorded policy outcomes now found waits.live waits.errorMessage ?_
  rw [Notification.withColumns_columns, waits.retryCount]
  exact unrecorded

theorem Ends.ok {calls : Nat} {outcome : ProviderOutcome} {run : DispatchRun}
    (ends : Ends row id calls outcome run) : ∃ result, run.result = .ok result := by
  by_cases success : outcome = .returned
  · exact ⟨_, ends.returned success⟩
  · exact ⟨_, ends.raised success⟩

/-- Once the row is terminal, a call has no effect. -/
theorem Ends.call_skips {calls : Nat} {outcome : ProviderOutcome} {run : DispatchRun}
    (ends : Ends row id calls outcome run) (stays : history.table = run.table) (now : Instant) :
    history.call policy outcomes id now =
      ⟨history.table, [], 0, .ok { action := .skipped }⟩ := by
  obtain ⟨columns, stored, status, -⟩ := ends.stored
  rw [← stays] at stored
  refine dispatch_of_terminal policy _ now stored ?_
  rw [Notification.withColumns_columns, status]
  split <;> rfl

variable {policy outcomes} in
theorem serve_of_skips {now : Instant}
    (skips : history.call policy outcomes id now =
      ⟨history.table, [], 0, .ok { action := .skipped }⟩) :
    history.serve policy outcomes id now = history := by
  simp only [serve, skips, List.length_nil, Nat.add_zero]

/-! ## Any number of calls -/

section Calls

variable (id row) (clock : Nat → Instant) (table : Table)

/-- What every call returns and leaves when this one is the last attempt. -/
structure WholeRun (last : Nat) : Prop where
  retries : ∀ calls, calls + 1 < last →
    Retries policy row id (calls + 1) (outcomes (calls + 1))
      (callAfter policy outcomes id clock table calls)
  ends : ∀ calls, calls + 1 = last →
    Ends row id (calls + 1) (outcomes (calls + 1))
      (callAfter policy outcomes id clock table calls)
  skips : ∀ calls, last ≤ calls →
    callAfter policy outcomes id clock table calls =
      ⟨(after policy outcomes id clock table calls).table, [], 0, .ok { action := .skipped }⟩
  sends : ∀ calls, (after policy outcomes id clock table calls).sends = min calls last

variable {policy outcomes id row table} {last : Nat}

def Recorded (outcomes : Nat → ProviderOutcome) (last : Nat) : Prop :=
  ∀ attempt, 1 ≤ attempt → attempt ≤ last → (outcomes attempt).recordable attempt = true

/-- Up to the last attempt, every call is a failed one that leaves the row waiting. -/
theorem waiting_after (attempt : LastAttempt policy outcomes last)
    (initial : Waiting row id ⟨table, 0⟩) {calls : Nat} (before : calls < last)
    (recorded : Recorded outcomes calls) :
    Waiting row id (after policy outcomes id clock table calls) ∧
      (after policy outcomes id clock table calls).sends = calls := by
  induction calls with
  | zero => exact ⟨initial, rfl⟩
  | succ calls ih =>
      obtain ⟨waiting, sends⟩ := ih (Nat.lt_of_succ_lt before)
        fun attempt from_one below => recorded attempt from_one (Nat.le_succ_of_le below)
      have transient := attempt.transient (calls + 1) (Nat.le_add_left 1 calls) before
      have budget := attempt.budget
      have recordedHere := recorded (calls + 1) (Nat.le_add_left 1 calls) (Nat.le_refl _)
      rw [← sends] at transient recordedHere
      obtain ⟨-, waiting', sends'⟩ :=
        waiting.retries policy outcomes (clock calls) transient (by omega) recordedHere
      exact ⟨waiting', by rw [after, sends', sends]⟩

theorem ends_after {calls : Nat} (attempt : LastAttempt policy outcomes (calls + 1))
    (initial : Waiting row id ⟨table, 0⟩) (recorded : Recorded outcomes (calls + 1)) :
    Ends row id (calls + 1) (outcomes (calls + 1))
        (callAfter policy outcomes id clock table calls) ∧
      (after policy outcomes id clock table (calls + 1)).sends = calls + 1 := by
  obtain ⟨waiting, sends⟩ :=
    waiting_after clock attempt initial (Nat.lt_succ_self calls)
      fun attempt from_one below => recorded attempt from_one (Nat.le_succ_of_le below)
  have last := attempt.final
  have recordedHere := recorded (calls + 1) (Nat.le_add_left 1 calls) (Nat.le_refl _)
  rw [← sends] at last recordedHere
  obtain ⟨ends, sends'⟩ :=
    waiting.ends policy outcomes (clock calls) (last.imp_right fun exhausted => by omega)
      recordedHere
  rw [sends] at ends sends'
  exact ⟨ends, sends'⟩

/-- From the last attempt on, no call changes anything. -/
theorem after_of_le {calls : Nat} {outcome : ProviderOutcome}
    (ends : Ends row id (calls + 1) outcome (callAfter policy outcomes id clock table calls))
    {later : Nat} (reached : calls + 1 ≤ later) :
    after policy outcomes id clock table later =
      after policy outcomes id clock table (calls + 1) := by
  induction later, reached using Nat.le_induction with
  | base => rfl
  | succ later reached ih =>
      have stays : (after policy outcomes id clock table later).table =
          (callAfter policy outcomes id clock table calls).table := congrArg (·.table) ih
      exact (serve_of_skips (ends.call_skips policy outcomes stays (clock later))).trans ih

/-- When every attempt can be recorded, the calls do what the outcomes ask for. -/
theorem wholeRun_of_recorded (attempt : LastAttempt policy outcomes last)
    (initial : Waiting row id ⟨table, 0⟩) (recorded : Recorded outcomes last) :
    WholeRun policy outcomes id row clock table last := by
  obtain ⟨calls, rfl⟩ := Nat.exists_eq_add_of_le' attempt.positive
  have earlier : ∀ number < calls + 1, Recorded outcomes number :=
    fun number before attempt from_one below => recorded attempt from_one (below.trans before.le)
  obtain ⟨ends, sends⟩ := ends_after clock attempt initial recorded
  constructor
  case retries =>
    intro number before
    have within := Nat.lt_of_succ_lt before
    obtain ⟨waiting, sends⟩ := waiting_after clock attempt initial within (earlier number within)
    have transient := attempt.transient (number + 1) (Nat.le_add_left 1 number) before
    have budget := attempt.budget
    have recordedHere := recorded (number + 1) (Nat.le_add_left 1 number) before.le
    rw [← sends] at transient recordedHere
    have retries :=
      (waiting.retries policy outcomes (clock number) transient (by omega) recordedHere).1
    rw [sends] at retries
    exact retries
  case ends =>
    rintro _ ⟨⟩
    exact ends
  case skips =>
    intro later reached
    have stays := congrArg (·.table) (after_of_le clock ends reached)
    exact ends.call_skips policy outcomes stays (clock later)
  case sends =>
    intro number
    rcases Nat.lt_or_ge number (calls + 1) with before | reached
    · rw [(waiting_after clock attempt initial before (earlier number before)).2,
        Nat.min_eq_left before.le]
    · rw [after_of_le clock ends reached, sends, Nat.min_eq_right reached]

/-- Every call up to the last attempt of a whole run returns. -/
theorem WholeRun.ok (whole : WholeRun policy outcomes id row clock table last) {calls : Nat}
    (within : calls + 1 ≤ last) :
    ∃ result, (callAfter policy outcomes id clock table calls).result = .ok result := by
  rcases Nat.lt_or_eq_of_le within with before | last
  · obtain ⟨countdown, -, returned⟩ := (whole.retries calls before).result
    exact ⟨_, returned⟩
  · exact (whole.ends calls last).ok

/-- Calls that do what the outcomes ask for have recorded every attempt. -/
theorem recorded_of_wholeRun (attempt : LastAttempt policy outcomes last)
    (initial : Waiting row id ⟨table, 0⟩)
    (whole : WholeRun policy outcomes id row clock table last) {calls : Nat}
    (within : calls ≤ last) : Recorded outcomes calls := by
  induction calls with
  | zero =>
      intro attempt from_one below
      omega
  | succ calls ih =>
      have earlier := ih (Nat.le_of_succ_le within)
      intro number from_one below
      rcases Nat.lt_or_eq_of_le below with before | rfl
      · exact earlier number from_one (Nat.le_of_lt_succ before)
      · obtain ⟨waiting, sends⟩ := waiting_after clock attempt initial within earlier
        obtain ⟨result, returned⟩ := whole.ok clock within
        cases recordedHere : (outcomes (calls + 1)).recordable (calls + 1) with
        | true => rfl
        | false =>
            rw [← sends] at recordedHere
            have raised := waiting.unrecorded policy outcomes (clock calls) recordedHere
            cases returned.symm.trans raised

/--
For every accepted policy, every fresh PENDING row and every infinite sequence
of provider outcomes: up to the last attempt each call is a retry with its
slot of the schedule, the last attempt returns SENT or FAILED, and every later
call is skipped without an effect, so that the provider is called once by each
attempt and never again.  This holds if and only if every attempt up to the
last can be recorded: the columns take its number and what is kept of its text.
-/
theorem dispatch_whole_run_iff (policy : DeliveryRetryPolicy) (outcomes : Nat → ProviderOutcome)
    (clock : Nat → Instant) (table : Table) (id : UUID) (row : Notification)
    (found : table.getById id = some row) (pending : row.status = .pending)
    (fresh : row.retryCount = 0) (held : row.errorMessage.all isTextParameter = true) :
    WholeRun policy outcomes id row clock table (lastAttempt policy outcomes) ↔
      Recorded outcomes (lastAttempt policy outcomes) := by
  have attempt := lastAttempt_spec policy outcomes
  have initial : Waiting row id ⟨table, 0⟩ :=
    ⟨row.toDeliveryColumns, found, pending, fresh, rfl, held⟩
  constructor
  · exact fun whole => recorded_of_wholeRun clock attempt initial whole (Nat.le_refl _)
  · exact wholeRun_of_recorded clock attempt initial

def twoFailures (position : Nat) : ProviderOutcome :=
  if position ≤ 2 then .raised ⟨false, .ofString "timeout"⟩ else .returned

theorem dispatch_whole_run_iff_twoFailures :
    lastAttempt .default twoFailures = 3 ∧
      (WholeRun .default twoFailures 1 (create 7 (.welcome none) 1) (fun _ => 0)
          (.single (create 7 (.welcome none) 1)) (lastAttempt .default twoFailures) ↔
        Recorded twoFailures (lastAttempt .default twoFailures)) ∧
      Recorded twoFailures 3 := by
  have recorded : ∀ attempt ≤ 3, (twoFailures attempt).recordable attempt = true := by decide
  exact ⟨by decide, dispatch_whole_run_iff .default twoFailures (fun _ => 0)
    (.single (create 7 (.welcome none) 1)) 1 (create 7 (.welcome none) 1) rfl rfl rfl rfl,
    fun attempt _ => recorded attempt⟩

/-- The first call raises at its last commit: the row stays PROCESSING and nothing is returned. -/
theorem not_wholeRun_brokenReply :
    let outcomes : Nat → ProviderOutcome := fun _ => .raised brokenReply
    let row := create 7 (.welcome none) 1
    let run := callAfter .default outcomes 1 (fun _ => 0) (.single row) 0
    run.result = .error .database ∧
      (run.table.getById 1).map (·.status) = some .processing ∧
      ¬ WholeRun .default outcomes 1 row (fun _ => 0) (.single row)
        (lastAttempt .default outcomes) := by
  refine ⟨rfl, rfl, fun whole => ?_⟩
  obtain ⟨result, returned⟩ := whole.ok (fun _ => 0) (Nat.le_refl 1)
  cases returned

end Calls

end DispatchHistory

end NotificationsEngine
