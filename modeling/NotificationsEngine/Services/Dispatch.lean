import NotificationsEngine.Domain.RetryPolicy
import NotificationsEngine.Library.KeyedList
import NotificationsEngine.Store.Columns

/-!
# Dispatching one notification

`app/services/dispatch.py`.  One call of `DispatchService.dispatch` is cut at
its effects: the load, the commit of PROCESSING, the provider call, and the
commit of the outcome.  `afterLoad` and `afterSend` are the straight-line code
between two effects; `dispatch` composes them into one uninterrupted call, and
`DispatchPhase` is where a call stands when other calls run in between.
-/

namespace NotificationsEngine

open KeyedList

inductive DispatchAction where
  | sent
  | skipped
  | missing
  | retry
  | failed
  deriving DecidableEq, Repr

structure DispatchResult where
  action : DispatchAction
  countdownSeconds : Option Int := none
  deadLetter : Bool := false
  deriving DecidableEq, Repr

inductive DispatchError where
  | invalidStatusTransition (error : InvalidStatusTransition)
  | policy (error : PolicyError)
  | database
  deriving DecidableEq, Repr

/-- `_ERROR_MESSAGE_MAX`. -/
def errorMessageMax : Nat := 512

/--
The unsaved work of a session: the row as it was loaded or last flushed, and
the columns that the code has assigned since.  It exists only after
`assert_transition` has passed for the new status.
-/
structure Change where
  base : Notification
  assigned : DeliveryColumns
  legal : canTransition base.status assigned.status = true

def Change.row (change : Change) : Notification := change.base.withColumns change.assigned

/-- `assert_transition(row.status, ...)`, then the assignments to the session's object. -/
def assign (row : Notification) (assigned : DeliveryColumns) : Except DispatchError Change :=
  match checked : assertTransition row.status assigned.status with
  | .ok () => .ok ⟨row, assigned, assertTransition_ok_iff.mp checked⟩
  | .error error => .error (.invalidStatusTransition error)

inductive Loaded where
  | finished (result : DispatchResult)
  | claim (change : Change)
  | resume (row : Notification)

/-- From the answer of `get_by_id` to the first commit or to the provider call. -/
def afterLoad : Option Notification → Except DispatchError Loaded
  | none => .ok (.finished { action := .missing })
  | some row =>
      if row.status.isTerminal then .ok (.finished { action := .skipped })
      else if row.status = .pending then do
        let change ← assign row { row.toDeliveryColumns with status := .processing }
        return .claim change
      else .ok (.resume row)

/-- `row.retry_count += 1` and `row.error_message = str(exc)[:_ERROR_MESSAGE_MAX]`. -/
def countFailure (columns : DeliveryColumns) (error : ProviderException) : DeliveryColumns :=
  { columns with
    retryCount := columns.retryCount + 1
    errorMessage := some (error.text.take errorMessageMax) }

/-- `_handle_send_failure`, up to its commit. -/
def handleSendFailure (policy : DeliveryRetryPolicy) (row : Notification)
    (error : ProviderException) : Except DispatchError (Change × DispatchResult) :=
  let retryable := !error.permanent
  let failed := countFailure row.toDeliveryColumns error
  if policy.shouldRetry failed.retryCount retryable then do
    let countdown ← (policy.countdownFor failed.retryCount).mapError .policy
    let change ← assign row { failed with status := .pending }
    return (change, { action := .retry, countdownSeconds := some countdown })
  else do
    let change ← assign row { failed with status := .failed }
    return (change, { action := .failed, deadLetter := true })

/-- `row.sent_at = now` and `row.error_message = None`, with the status SENT. -/
def countSuccess (columns : DeliveryColumns) (now : Instant) : DeliveryColumns :=
  { columns with status := .sent, sentAt := some now, errorMessage := none }

/-- From the outcome of the provider call to the last commit, with the result to return after it. -/
def afterSend (policy : DeliveryRetryPolicy) (row : Notification) (now : Instant) :
    ProviderOutcome → Except DispatchError (Change × DispatchResult)
  | .raised error => handleSendFailure policy row error
  | .returned => do
      let change ← assign row (countSuccess row.toDeliveryColumns now)
      return (change, { action := .sent })

def Table.write (table : Table) (change : Change) : Table :=
  table.update change.base.id change.base.toDeliveryColumns change.assigned

def Change.fits (change : Change) : Bool := change.base.fitsUpdate change.assigned

/-- `session.commit()` with one changed row; it raises if a column does not take its value. -/
def Table.commit (table : Table) (change : Change) : Except DispatchError Table :=
  if change.fits then .ok (table.write change) else .error .database

/-! ## One uninterrupted call -/

structure DispatchRun where
  table : Table
  messages : List OutboundMessage
  commits : Nat
  result : Except DispatchError DispatchResult

/-- The provider call and the rest of `dispatch`. -/
def sendAndSettle (policy : DeliveryRetryPolicy) (provider : OutboundMessage → ProviderOutcome)
    (now : Instant) (table : Table) (row : Notification) : DispatchRun :=
  match afterSend policy row now (provider row.outbound) with
  | .error error => ⟨table, [row.outbound], 0, .error error⟩
  | .ok (change, result) =>
      match table.commit change with
      | .error error => ⟨table, [row.outbound], 0, .error error⟩
      | .ok table' => ⟨table', [row.outbound], 1, .ok result⟩

/-- `DispatchService.dispatch` with no other session in between. -/
def dispatch (policy : DeliveryRetryPolicy) (provider : OutboundMessage → ProviderOutcome)
    (now : Instant) (table : Table) (notificationId : UUID) : DispatchRun :=
  match afterLoad (table.getById notificationId) with
  | .error error => ⟨table, [], 0, .error error⟩
  | .ok (.finished result) => ⟨table, [], 0, .ok result⟩
  | .ok (.resume row) => sendAndSettle policy provider now table row
  | .ok (.claim change) =>
      match table.commit change with
      | .error error => ⟨table, [], 0, .error error⟩
      | .ok table' =>
          let rest := sendAndSettle policy provider now table' change.row
          { rest with commits := rest.commits + 1 }

/-! ## A call among others -/

inductive DispatchPhase where
  | load
  | claim (change : Change)
  | send (row : Notification)
  | settle (change : Change) (result : DispatchResult)
  | returned (result : DispatchResult)
  | raised (error : DispatchError)

namespace DispatchPhase

def ofLoad : Except DispatchError Loaded → DispatchPhase
  | .error error => raised error
  | .ok (.finished result) => returned result
  | .ok (.claim change) => claim change
  | .ok (.resume row) => send row

def ofSend : Except DispatchError (Change × DispatchResult) → DispatchPhase
  | .error error => raised error
  | .ok (change, result) => settle change result

def pendingCommit : DispatchPhase → Option (Change × DispatchPhase)
  | claim change => some (change, send change.row)
  | settle change result => some (change, returned result)
  | _ => none

/-- The row that a call between its load and its last commit works on. -/
def snapshot : DispatchPhase → Option Notification
  | claim change => some change.base
  | send row => some row
  | settle change _ => some change.base
  | _ => none

def object : DispatchPhase → Option Notification
  | claim change => some change.row
  | send row => some row
  | settle change _ => some change.row
  | _ => none

end DispatchPhase

/-! ## What the code between two effects can do -/

/-- Only a claimed and a settled call wait for a commit. -/
theorem DispatchPhase.pendingCommit_cases {phase after : DispatchPhase} {change : Change}
    (pending : phase.pendingCommit = some (change, after)) :
    (phase = .claim change ∧ after = .send change.row) ∨
      ∃ result, phase = .settle change result ∧ after = .returned result := by
  cases phase with
  | claim =>
      cases pending
      exact .inl ⟨rfl, rfl⟩
  | settle _ result =>
      cases pending
      exact .inr ⟨result, rfl, rfl⟩
  | load => cases pending
  | send => cases pending
  | returned => cases pending
  | raised => cases pending

theorem assign_of_legal {row : Notification} {assigned : DeliveryColumns}
    (legal : canTransition row.status assigned.status = true) :
    assign row assigned = .ok ⟨row, assigned, legal⟩ := by
  unfold assign
  split
  · rfl
  · next error checked =>
      rw [assertTransition_ok_iff.mpr legal] at checked
      cases checked

inductive Loads : Option Notification → Loaded → Prop where
  | missing : Loads none (.finished { action := .missing })
  | skipped (row : Notification) (terminal : row.status.isTerminal = true) :
      Loads (some row) (.finished { action := .skipped })
  | claim (row : Notification) (pending : row.status = .pending)
      (legal : canTransition row.status .processing = true) :
      Loads (some row)
        (.claim ⟨row, { row.toDeliveryColumns with status := .processing }, legal⟩)
  | resume (row : Notification) (processing : row.status = .processing) :
      Loads (some row) (.resume row)

/-- The code after a load never raises. -/
theorem afterLoad_loads (found : Option Notification) :
    ∃ loaded, afterLoad found = .ok loaded ∧ Loads found loaded := by
  cases found with
  | none => exact ⟨_, rfl, .missing⟩
  | some row =>
      cases status : row.status with
      | pending =>
          have legal : canTransition row.status .processing = true := by
            rw [status]
            rfl
          have claimed : assign row { row.toDeliveryColumns with status := .processing } =
              .ok ⟨row, _, legal⟩ := assign_of_legal legal
          refine ⟨_, ?_, .claim row status legal⟩
          simp only [afterLoad, status, claimed]
          rfl
      | processing =>
          refine ⟨_, ?_, .resume row status⟩
          simp only [afterLoad, status]
          rfl
      | sent =>
          refine ⟨_, ?_, .skipped row (by rw [status]; rfl)⟩
          simp only [afterLoad, status]
          rfl
      | failed =>
          refine ⟨_, ?_, .skipped row (by rw [status]; rfl)⟩
          simp only [afterLoad, status]
          rfl

inductive Settles (policy : DeliveryRetryPolicy) (row : Notification) :
    ProviderOutcome → DeliveryColumns → DispatchResult → Prop where
  | sent (now : Instant) :
      Settles policy row .returned (countSuccess row.toDeliveryColumns now) { action := .sent }
  | retry (error : ProviderException) (countdown : Int)
      (transient : error.permanent = false)
      (budget : (row.retryCount : Int) + 1 < policy.maxAttempts)
      (scheduled : policy.countdownFor (row.retryCount + 1) = .ok countdown) :
      Settles policy row (.raised error)
        { countFailure row.toDeliveryColumns error with status := .pending }
        { action := .retry, countdownSeconds := some countdown }
  | failed (error : ProviderException)
      (exhausted : error.permanent = true ∨ policy.maxAttempts ≤ (row.retryCount : Int) + 1) :
      Settles policy row (.raised error)
        { countFailure row.toDeliveryColumns error with status := .failed }
        { action := .failed, deadLetter := true }

/-- A failed attempt raises the assigned count by one; nothing lowers it. -/
theorem settles_retryCount_le {policy : DeliveryRetryPolicy} {row : Notification}
    {outcome : ProviderOutcome} {assigned : DeliveryColumns} {result : DispatchResult}
    (settles : Settles policy row outcome assigned result) :
    row.retryCount ≤ assigned.retryCount := by
  cases settles with
  | sent => exact Nat.le_refl _
  | retry => exact Nat.le_succ _
  | failed => exact Nat.le_succ _

theorem handleSendFailure_of_retry {policy : DeliveryRetryPolicy} {row : Notification}
    {error : ProviderException} {countdown : Int}
    (legal : canTransition row.status .pending = true)
    (again : policy.shouldRetry (row.retryCount + 1) (!error.permanent) = true)
    (scheduled : policy.countdownFor (row.retryCount + 1) = .ok countdown) :
    handleSendFailure policy row error =
      .ok (⟨row, { countFailure row.toDeliveryColumns error with status := .pending }, legal⟩,
        { action := .retry, countdownSeconds := some countdown }) := by
  simp only [handleSendFailure, countFailure, again, if_true, scheduled]
  rw [assign_of_legal legal]
  rfl

theorem handleSendFailure_of_stop {policy : DeliveryRetryPolicy} {row : Notification}
    {error : ProviderException} (legal : canTransition row.status .failed = true)
    (stop : policy.shouldRetry (row.retryCount + 1) (!error.permanent) = false) :
    handleSendFailure policy row error =
      .ok (⟨row, { countFailure row.toDeliveryColumns error with status := .failed }, legal⟩,
        { action := .failed, deadLetter := true }) := by
  simp only [handleSendFailure, countFailure, stop, Bool.false_eq_true, if_false]
  rw [assign_of_legal legal]
  rfl

/-- On a PROCESSING row the code after the provider call never raises. -/
theorem afterSend_settles (policy : DeliveryRetryPolicy) {row : Notification} (now : Instant)
    (outcome : ProviderOutcome) (processing : row.status = .processing) :
    ∃ change result, afterSend policy row now outcome = .ok (change, result) ∧
      change.base = row ∧ Settles policy row outcome change.assigned result := by
  have legal : ∀ status ∈ NotificationStatus.processing.allowed,
      canTransition row.status status = true := by
    intro status member
    rw [processing]
    exact List.contains_iff_mem.mpr member
  cases outcome with
  | returned =>
      have sent : afterSend policy row now .returned =
          .ok (⟨row, countSuccess row.toDeliveryColumns now, legal .sent (by decide)⟩,
            { action := .sent }) := by
        rw [afterSend, assign_of_legal (legal .sent (by decide))]
        rfl
      exact ⟨_, _, sent, rfl, .sent now⟩
  | raised error =>
      by_cases again : policy.shouldRetry (row.retryCount + 1) (!error.permanent) = true
      · obtain ⟨retryable, budget⟩ := DeliveryRetryPolicy.shouldRetry_eq_true.mp again
        have counted : 1 ≤ row.retryCount + 1 := Nat.le_add_left 1 _
        obtain ⟨countdown, -, scheduled⟩ := policy.countdownFor_ok counted
        exact ⟨_, _, handleSendFailure_of_retry (legal .pending (by decide)) again scheduled, rfl,
          .retry error countdown (by simpa using retryable) (by exact_mod_cast budget) scheduled⟩
      · refine ⟨_, _, handleSendFailure_of_stop (legal .failed (by decide))
          (Bool.not_eq_true _ ▸ again), rfl, .failed error ?_⟩
        rw [DeliveryRetryPolicy.shouldRetry_eq_true, not_and] at again
        cases permanent : error.permanent with
        | true => exact .inl rfl
        | false => exact .inr (by have := again (by rw [permanent]; rfl); omega)

/-! ## What a commit can refuse -/

/-- The attempt with this number can be recorded: the count and the text fit their columns. -/
def ProviderOutcome.recordable (attempt : Nat) : ProviderOutcome → Bool
  | .returned => true
  | .raised error => attempt < 2 ^ 31 && isTextParameter (error.text.take errorMessageMax)

theorem recordable_raised {attempt : Nat} {error : ProviderException} :
    (ProviderOutcome.raised error).recordable attempt = true ↔
      attempt < 2 ^ 31 ∧ isTextParameter (error.text.take errorMessageMax) = true := by
  rw [ProviderOutcome.recordable, Bool.and_eq_true, decide_eq_true_eq]

/-- What can be recorded late can be recorded earlier. -/
theorem ProviderOutcome.recordable_mono {outcome : ProviderOutcome} {attempt earlier : Nat}
    (recorded : outcome.recordable attempt = true) (before : earlier ≤ attempt) :
    outcome.recordable earlier = true := by
  cases outcome with
  | returned => rfl
  | raised error =>
      obtain ⟨below, clean⟩ := recordable_raised.mp recorded
      exact recordable_raised.mpr ⟨before.trans_lt below, clean⟩

def brokenReply : ProviderException := ⟨true, Str.ofString "bad" ++ nul :: Str.ofString "reply"⟩

theorem commit_of_fits {table : Table} {change : Change} (fits : change.fits = true) :
    table.commit change = .ok (table.write change) := if_pos fits

theorem commit_of_misfit {table : Table} {change : Change} (misfit : change.fits = false) :
    table.commit change = .error .database := by
  rw [Table.commit, misfit]
  rfl

/-- An UPDATE of the status alone is never refused. -/
theorem fitsUpdate_status (row : Notification) (status : NotificationStatus) :
    row.fitsUpdate { row.toDeliveryColumns with status } = true :=
  fitsUpdate_iff.mpr ⟨.inl rfl, .inl rfl⟩

section Settled

variable {policy : DeliveryRetryPolicy} {row : Notification} {outcome : ProviderOutcome}
  {columns : DeliveryColumns} {result : DispatchResult}

theorem fitsUpdate_of_recordable (settles : Settles policy row outcome columns result)
    (recorded : outcome.recordable (row.retryCount + 1) = true) :
    row.fitsUpdate columns = true := by
  rw [fitsUpdate_iff]
  cases settles with
  | sent => exact ⟨.inl rfl, .inr rfl⟩
  | retry error =>
      obtain ⟨below, clean⟩ := recordable_raised.mp recorded
      exact ⟨.inr below, .inr clean⟩
  | failed error =>
      obtain ⟨below, clean⟩ := recordable_raised.mp recorded
      exact ⟨.inr below, .inr clean⟩

/-- The message that a column holds cannot be the one that it would refuse. -/
theorem recordable_of_fitsUpdate (settles : Settles policy row outcome columns result)
    (held : row.errorMessage.all isTextParameter = true)
    (fits : row.fitsUpdate columns = true) :
    outcome.recordable (row.retryCount + 1) = true := by
  obtain ⟨count, message⟩ := fitsUpdate_iff.mp fits
  have clean : columns.errorMessage.all isTextParameter = true := by
    rcases message with same | clean
    · rw [same, held]
    · exact clean
  cases settles with
  | sent => rfl
  | retry error => exact recordable_raised.mpr ⟨count.resolve_left (Nat.succ_ne_self _), clean⟩
  | failed error => exact recordable_raised.mpr ⟨count.resolve_left (Nat.succ_ne_self _), clean⟩

end Settled

/-! ## What one uninterrupted call does -/

def DeliveryColumns.claimed (columns : DeliveryColumns) : DeliveryColumns :=
  { columns with status := .processing }

/-- What a call of `dispatch` leaves of a stored row, with the provider calls and how it ends. -/
inductive Dispatches (policy : DeliveryRetryPolicy) (row : Notification)
    (outcome : ProviderOutcome) :
    DeliveryColumns → List OutboundMessage → Except DispatchError DispatchResult → Prop where
  | skipped (terminal : row.status.isTerminal = true) :
      Dispatches policy row outcome row.toDeliveryColumns [] (.ok { action := .skipped })
  | settled (live : row.status.isTerminal = false) (columns : DeliveryColumns)
      (result : DispatchResult)
      (settles : Settles policy (row.withColumns row.claimed) outcome columns result)
      (fits : (row.withColumns row.claimed).fitsUpdate columns = true) :
      Dispatches policy row outcome columns [row.outbound] (.ok result)
  | unrecorded (live : row.status.isTerminal = false) (columns : DeliveryColumns)
      (result : DispatchResult)
      (settles : Settles policy (row.withColumns row.claimed) outcome columns result)
      (misfit : (row.withColumns row.claimed).fitsUpdate columns = false) :
      Dispatches policy row outcome row.claimed [row.outbound] (.error .database)

/-- The UPDATE of a change whose snapshot is stored installs its copy. -/
theorem Table.write_rows {table : Table} {change : Change}
    (found : table.getById change.base.id = some change.base) :
    (table.write change).rows = replace (·.id) change.row table.rows := by
  refine List.map_congr_left fun other member => ?_
  by_cases same : other.id = change.base.id
  · have stored : other = change.base := eq_of_id_eq member (getById_mem found) same
    rw [stored, updateRow, if_pos rfl, DeliveryColumns.write_current]
    exact (if_pos rfl).symm
  · exact (if_neg same).trans (if_neg same).symm

/-- A table in which a stored row was replaced holds the new one under its id. -/
theorem Table.getById_of_replace {table table' : Table} {old row : Notification} {id : UUID}
    (found : table.getById id = some old) (same : row.id = id)
    (replaced : table'.rows = replace (·.id) row table.rows) : table'.getById id = some row := by
  refine getById_eq_some_iff.mpr ⟨?_, same⟩
  rw [replaced]
  exact mem_replace_self (getById_mem found) ((getById_id found).trans same.symm)

theorem Table.getById_write {table : Table} {change : Change} {id : UUID}
    (found : table.getById id = some change.base) :
    (table.write change).getById id = some change.row := by
  have same : change.base.id = id := getById_id found
  subst same
  exact getById_of_replace found rfl (write_rows found)

/-- A call on a terminal row has no effect. -/
theorem dispatch_of_terminal (policy : DeliveryRetryPolicy)
    (provider : OutboundMessage → ProviderOutcome) (now : Instant) {table : Table} {id : UUID}
    {row : Notification} (found : table.getById id = some row)
    (terminal : row.status.isTerminal = true) :
    dispatch policy provider now table id = ⟨table, [], 0, .ok { action := .skipped }⟩ := by
  simp only [dispatch, found, afterLoad, terminal, if_true]

/-- A call on an id that is not stored has no effect. -/
theorem dispatch_of_missing (policy : DeliveryRetryPolicy)
    (provider : OutboundMessage → ProviderOutcome) (now : Instant) {table : Table} {id : UUID}
    (missing : table.getById id = none) :
    dispatch policy provider now table id = ⟨table, [], 0, .ok { action := .missing }⟩ := by
  simp only [dispatch, missing, afterLoad]

/-- The provider call and its commit, on any table that holds the PROCESSING row. -/
theorem sendAndSettle_settles (policy : DeliveryRetryPolicy)
    (provider : OutboundMessage → ProviderOutcome) (now : Instant) {row : Notification}
    (processing : row.status = .processing) :
    ∃ columns result, Settles policy row (provider row.outbound) columns result ∧
      ∀ table : Table, table.getById row.id = some row →
        (row.fitsUpdate columns = true →
          (sendAndSettle policy provider now table row).table.rows =
            replace (·.id) (row.withColumns columns) table.rows ∧
          (sendAndSettle policy provider now table row).messages = [row.outbound] ∧
          (sendAndSettle policy provider now table row).result = .ok result) ∧
        (row.fitsUpdate columns = false → sendAndSettle policy provider now table row =
          ⟨table, [row.outbound], 0, .error .database⟩) := by
  obtain ⟨change, result, same, base, settles⟩ :=
    afterSend_settles policy now (provider row.outbound) processing
  subst base
  refine ⟨change.assigned, result, settles, fun table found => ⟨fun fits => ?_, fun misfit => ?_⟩⟩
  · have committed : sendAndSettle policy provider now table change.base =
        ⟨table.write change, [change.base.outbound], 1, .ok result⟩ := by
      simp only [sendAndSettle, same, commit_of_fits fits]
    rw [committed]
    exact ⟨Table.write_rows found, rfl, rfl⟩
  · simp only [sendAndSettle, same, commit_of_misfit misfit]

/--
A call on a live row commits PROCESSING, which its column takes, if it is not
stored already, and goes on to the provider.
-/
theorem dispatch_of_live (policy : DeliveryRetryPolicy)
    (provider : OutboundMessage → ProviderOutcome) (now : Instant) {table : Table}
    {row : Notification} (found : table.getById row.id = some row)
    (live : row.status.isTerminal = false) :
    let claimed := row.withColumns row.claimed
    ∃ table' : Table, table'.rows = replace (·.id) claimed table.rows ∧
      table'.getById row.id = some claimed ∧
      (dispatch policy provider now table row.id).table =
        (sendAndSettle policy provider now table' claimed).table ∧
      (dispatch policy provider now table row.id).messages =
        (sendAndSettle policy provider now table' claimed).messages ∧
      (dispatch policy provider now table row.id).result =
        (sendAndSettle policy provider now table' claimed).result := by
  intro claimed
  obtain ⟨loaded, same, loads⟩ := afterLoad_loads (some row)
  cases loads with
  | skipped _ terminal =>
      rw [live] at terminal
      cases terminal
  | resume _ processing =>
      have kept : claimed = row := by
        rw [show claimed = row.withColumns row.claimed from rfl, DeliveryColumns.claimed,
          ← processing]
        rfl
      have runs : dispatch policy provider now table row.id =
          sendAndSettle policy provider now table row := by
        simp only [dispatch, found, same]
      rw [kept, runs]
      exact ⟨table, (replace_self table.primaryKey (Table.getById_mem found)).symm, found,
        rfl, rfl, rfl⟩
  | claim _ _ legal =>
      let change : Change := ⟨row, row.claimed, legal⟩
      have committed : table.commit ⟨row, { row.toDeliveryColumns with status := .processing },
          legal⟩ = .ok (table.write change) :=
        commit_of_fits (fitsUpdate_status row .processing)
      refine ⟨table.write change, Table.write_rows found, Table.getById_write found, ?_⟩
      simp only [dispatch, found, same, committed]
      exact ⟨rfl, rfl, rfl⟩

/-- What a call makes of a stored row is decided by the row: nothing else in the table is read. -/
theorem dispatch_row (policy : DeliveryRetryPolicy)
    (provider : OutboundMessage → ProviderOutcome) (now : Instant) (row : Notification) :
    ∃ columns messages ended,
      Dispatches policy row (provider row.outbound) columns messages ended ∧
      ∀ table : Table, table.getById row.id = some row →
        (dispatch policy provider now table row.id).table.rows =
          replace (·.id) (row.withColumns columns) table.rows ∧
        (dispatch policy provider now table row.id).messages = messages ∧
        (dispatch policy provider now table row.id).result = ended := by
  cases live : row.status.isTerminal with
  | true =>
      refine ⟨_, _, _, .skipped live, fun table found => ?_⟩
      rw [dispatch_of_terminal policy provider now found live]
      exact ⟨(replace_self table.primaryKey (Table.getById_mem found)).symm, rfl, rfl⟩
  | false =>
      obtain ⟨columns, result, settles, rest⟩ := sendAndSettle_settles policy provider now
        (show (row.withColumns row.claimed).status = .processing from rfl)
      cases fits : (row.withColumns row.claimed).fitsUpdate columns with
      | true =>
          refine ⟨columns, _, _, .settled live columns result settles fits, fun table found => ?_⟩
          obtain ⟨table', claimed, stored, hrows, hmessages, hresult⟩ :=
            dispatch_of_live policy provider now found live
          obtain ⟨rows, sent, returned⟩ := (rest table' stored).1 fits
          have same_id : (row.withColumns row.claimed).id =
            ((row.withColumns row.claimed).withColumns columns).id := rfl
          rw [claimed, replace_replace (fun row : Notification => row.id) same_id] at rows
          rw [hrows, hmessages, hresult]
          exact ⟨rows, sent, returned⟩
      | false =>
          refine ⟨_, _, _, .unrecorded live columns result settles fits, fun table found => ?_⟩
          obtain ⟨table', claimed, stored, hrows, hmessages, hresult⟩ :=
            dispatch_of_live policy provider now found live
          rw [hrows, hmessages, hresult, (rest table' stored).2 fits]
          exact ⟨claimed, rfl, rfl⟩

theorem dispatch_dispatches (policy : DeliveryRetryPolicy)
    (provider : OutboundMessage → ProviderOutcome) (now : Instant) {table : Table} {id : UUID}
    {row : Notification} (found : table.getById id = some row) :
    ∃ columns messages ended,
      Dispatches policy row (provider row.outbound) columns messages ended ∧
      (dispatch policy provider now table id).table.getById id = some (row.withColumns columns) ∧
      (dispatch policy provider now table id).messages = messages ∧
      (dispatch policy provider now table id).result = ended := by
  obtain rfl : row.id = id := Table.getById_id found
  obtain ⟨columns, messages, ended, dispatches, rest⟩ := dispatch_row policy provider now row
  obtain ⟨rows, sent, returned⟩ := rest table found
  exact ⟨columns, messages, ended, dispatches, Table.getById_of_replace found rfl rows, sent,
    returned⟩

end NotificationsEngine
