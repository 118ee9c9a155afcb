import NotificationsEngine.Engine.Calls

/-!
# Concurrent accepts in one sequential order

Calls of `accept` run statement by statement among each other and among the
workers.  Their answers and effects are those of uninterrupted calls made one
after the other, with the commits that the workers have made in between: each
call takes place at its first lookup, at its INSERT or at its second lookup,
and so between its start and its end.
-/

namespace NotificationsEngine

open StepMachine

structure LinearEntry where
  call : Nat
  clientId : UUID
  request : SendNotificationRequest
  id : UUID
  before : Table

def LinearEntry.accept (entry : LinearEntry) (outcome : EnqueueOutcome) : AcceptRun :=
  NotificationsEngine.accept entry.before entry.clientId entry.request entry.id outcome

/-- A place in the order: a call, or the commit of a worker. -/
inductive LinearItem where
  | call (entry : LinearEntry)
  | commit (change : Change)

def LinearItem.entry : LinearItem → Option LinearEntry
  | call entry => some entry
  | commit _ => none

def LinearItem.change : LinearItem → Option Change
  | call _ => none
  | commit change => some change

def entries (history : List LinearItem) : List LinearEntry := history.filterMap LinearItem.entry

def changes (history : List LinearItem) : List Change := history.filterMap LinearItem.change

@[simp] theorem entries_call (entry : LinearEntry) (history : List LinearItem) :
    entries (.call entry :: history) = entry :: entries history := rfl

@[simp] theorem entries_commit (change : Change) (history : List LinearItem) :
    entries (.commit change :: history) = entries history := rfl

theorem changes_append (newer older : List LinearItem) :
    changes (newer ++ older) = changes newer ++ changes older := List.filterMap_append

/-- Uninterrupted calls and commits, newest first, that lead from `initial` to a table. -/
inductive Linearizes (initial : Table) : List LinearItem → Table → Prop where
  | nil : Linearizes initial [] initial
  | call {older : List LinearItem} (entry : LinearEntry)
      (rest : Linearizes initial older entry.before) :
      Linearizes initial (.call entry :: older) (entry.accept .published).table
  | commit {older : List LinearItem} {before after : Table} (change : Change)
      (rest : Linearizes initial older before) (committed : before.commit change = .ok after) :
      Linearizes initial (.commit change :: older) after

/-- The calls that have not taken place yet. -/
inductive AcceptCall.Pending : AcceptCall → Prop where
  | lookup (clientId : UUID) (request : SendNotificationRequest) :
      Pending ⟨clientId, request, .lookup⟩
  | create (clientId : UUID) (request : SendNotificationRequest) (fits : request.fits = true) :
      Pending ⟨clientId, request, .create⟩
  | recover (clientId : UUID) (request : SendNotificationRequest) (error : IntegrityError)
      (fits : request.fits = true) : Pending ⟨clientId, request, .recover error⟩

inductive AcceptPhase.Ended : AcceptPhase → Prop where
  | returned (response : SendAcceptedResponse) : Ended (.returned response)
  | raised (error : AcceptError) : Ended (.raised error)

theorem AcceptCall.Pending.not_ended {value : AcceptCall} (waits : value.Pending) :
    ¬ value.phase.Ended := by
  intro done
  cases waits <;> cases done

/-- Where a call stands, with the rows it has committed and the ids it has enqueued: not yet in the
history, or there once with the same answer and the same effects. -/
inductive Placed (history : List LinearEntry) (call : Nat) :
    Option AcceptCall → List Notification → List UUID → Prop where
  | unbegun (absent : call ∉ history.map (·.call)) : Placed history call none [] []
  | pending (value : AcceptCall) (waits : value.Pending)
      (absent : call ∉ history.map (·.call)) : Placed history call (some value) [] []
  -- nothing was found, so the call will raise whatever is stored until its INSERT
  | doomed (entry : LinearEntry) (member : entry ∈ history) (own : entry.call = call)
      (misfit : entry.request.fits = false)
      (same : ∀ outcome, entry.accept outcome = ⟨entry.before, none, none, .error .data⟩) :
      Placed history call (some ⟨entry.clientId, entry.request, .create⟩) [] []
  | enqueue (entry : LinearEntry) (row : Notification) (member : entry ∈ history)
      (own : entry.call = call)
      (same : ∀ outcome, ∃ table, entry.accept outcome =
        ⟨table, some row, some (row.id, outcome), afterEnqueue row outcome⟩) :
      Placed history call (some ⟨entry.clientId, entry.request, .enqueue row⟩) [row] []
  | ended (entry : LinearEntry) (outcome : EnqueueOutcome) (phase : AcceptPhase)
      (inserted : List Notification) (enqueued : List UUID) (member : entry ∈ history)
      (own : entry.call = call) (answer : phase = .ofResult (entry.accept outcome).result)
      (committed : inserted = (entry.accept outcome).inserted.toList)
      (given : enqueued = ((entry.accept outcome).enqueued.map (·.1)).toList) :
      Placed history call (some ⟨entry.clientId, entry.request, phase⟩) inserted enqueued

namespace Placed

variable {history : List LinearEntry} {call : Nat} {clientId : UUID}
  {request : SendNotificationRequest} {inserted : List Notification} {enqueued : List UUID}

/-- Another call takes place. -/
theorem cons {value : Option AcceptCall} (placed : Placed history call value inserted enqueued)
    {entry : LinearEntry} (other : call ≠ entry.call) :
    Placed (entry :: history) call value inserted enqueued := by
  have keeps : call ∉ history.map (·.call) → call ∉ (entry :: history).map (·.call) := by
    intro absent member
    rcases List.mem_cons.mp member with same | member
    · exact other same
    · exact absent member
  cases placed with
  | unbegun absent => exact .unbegun (keeps absent)
  | pending value waits absent => exact .pending value waits (keeps absent)
  | doomed earlier member own misfit same =>
      exact .doomed earlier (List.mem_cons_of_mem _ member) own misfit same
  | enqueue earlier row member own same =>
      exact .enqueue earlier row (List.mem_cons_of_mem _ member) own same
  | ended earlier outcome phase _ _ member own answer committed given =>
      exact .ended earlier outcome phase _ _ (List.mem_cons_of_mem _ member) own answer committed
        given

/-- A result is not one of the phases before the end. -/
theorem ofResult_ne {result : Except AcceptError SendAcceptedResponse} {phase : AcceptPhase}
    (open_phase : ¬ phase.Ended) : phase ≠ .ofResult result := by
  rintro rfl
  cases result with
  | ok response => exact open_phase (.returned response)
  | error error => exact open_phase (.raised error)

/-- A call that looks up or recovers is in no entry and has had no effect. -/
theorem of_lookup
    (placed : Placed history call (some ⟨clientId, request, .lookup⟩) inserted enqueued) :
    call ∉ history.map (·.call) ∧ inserted = [] ∧ enqueued = [] := by
  cases placed with
  | pending value waits absent => exact ⟨absent, rfl, rfl⟩
  | ended entry outcome _ _ _ _ _ answer => exact absurd answer (ofResult_ne nofun)

theorem of_recover {error : IntegrityError}
    (placed : Placed history call (some ⟨clientId, request, .recover error⟩) inserted enqueued) :
    call ∉ history.map (·.call) ∧ inserted = [] ∧ enqueued = [] ∧ request.fits = true := by
  cases placed with
  | pending value waits absent =>
      cases waits with
      | recover _ _ _ fits => exact ⟨absent, rfl, rfl, fits⟩
  | ended entry outcome _ _ _ _ _ answer => exact absurd answer (ofResult_ne nofun)

/-- So is a call before its INSERT, if its row fits. -/
theorem of_create (fits : request.fits = true)
    (placed : Placed history call (some ⟨clientId, request, .create⟩) inserted enqueued) :
    call ∉ history.map (·.call) ∧ inserted = [] ∧ enqueued = [] := by
  cases placed with
  | pending value waits absent => exact ⟨absent, rfl, rfl⟩
  | doomed entry member own misfit => cases fits.symm.trans misfit
  | ended entry outcome _ _ _ _ _ answer => exact absurd answer (ofResult_ne nofun)

/-- A call whose row does not fit has taken place before its INSERT raises. -/
theorem at_misfit (misfit : request.fits = false)
    (placed : Placed history call (some ⟨clientId, request, .create⟩) inserted enqueued) :
    Placed history call (some ⟨clientId, request, .raised .data⟩) inserted enqueued := by
  cases placed with
  | pending value waits absent =>
      cases waits with
      | create _ _ fits => cases fits.symm.trans misfit
  | doomed entry member own misfit same =>
      refine .ended entry .published _ _ _ member own ?_ ?_ ?_
      all_goals rw [same]; rfl
  | ended entry outcome _ _ _ _ _ answer => exact absurd answer (ofResult_ne nofun)

theorem at_enqueue {row : Notification}
    (placed : Placed history call (some ⟨clientId, request, .enqueue row⟩) inserted enqueued)
    (outcome : EnqueueOutcome) :
    Placed history call (some ⟨clientId, request, .ofResult (afterEnqueue row outcome)⟩)
      inserted (row.id :: enqueued) := by
  cases placed with
  | pending value waits => cases waits
  | enqueue entry _ member own same =>
      obtain ⟨table, same⟩ := same outcome
      refine .ended entry outcome _ _ _ member own ?_ ?_ ?_
      · rw [same]
      · rw [same]
        rfl
      · rw [same]
        rfl
  | ended entry other _ _ _ _ _ answer => exact absurd answer (ofResult_ne nofun)

end Placed

namespace Engine

def committed (state : Engine) : Action → Option Change
  | .commit worker true => state.pendingChange worker
  | _ => none

/-- The changes that the workers of a run commit, newest first. -/
def workerCommits (policy : DeliveryRetryPolicy) (state : Engine) (actions : List Action) :
    List Change :=
  outputs (step policy) committed state actions

/-- The history of the calls that have taken place so far, with the commits of the workers. -/
structure Linear (initial : Table) (state : Engine) (history : List LinearItem) : Prop where
  chain : Linearizes initial history state.table
  once : ((entries history).map (·.call)).Nodup
  placed : ∀ call, Placed (entries history) call (state.calls call)
    (insertedBy call state.log) (enqueuedBy call state.log)

variable {policy : DeliveryRetryPolicy} {initial : Table} {state next : Engine} {action : Action}
  {history : List LinearItem}

theorem linear_start (table : Table) (queued : List Message) :
    Linear table (start table queued) [] where
  chain := .nil
  once := List.nodup_nil
  placed _ := .unbegun List.not_mem_nil

/-- A step of no call keeps the calls of the history when it logs no INSERT and no enqueue. -/
theorem Linear.of_quiet (linear : Linear initial state history) {history' : List LinearItem}
    (chain : Linearizes initial history' next.table) (same : entries history' = entries history)
    (calls : next.calls = state.calls)
    (logged : insertions next.log = insertions state.log ∧
      enqueues next.log = enqueues state.log) : Linear initial next history' where
  chain := chain
  once := same ▸ linear.once
  placed call := by
    rw [same, calls, insertedBy, enqueuedBy, logged.1, logged.2]
    exact linear.placed call

/-- A step of one call that does not take place yet. -/
theorem Linear.of_pending (linear : Linear initial state history) {call : Nat}
    {value : AcceptCall}
    (self : Placed (entries history) call (some value) (insertedBy call state.log)
      (enqueuedBy call state.log)) : Linear initial (state.setCall call value) history where
  chain := linear.chain
  once := linear.once
  placed other := by
    by_cases same : other = call
    · subst same
      simpa using self
    · simpa [same] using linear.placed other

/-- A call takes place that leaves the table as it is. -/
theorem Linear.takes (linear : Linear initial state history) (entry : LinearEntry)
    (here : entry.before = state.table) {phase : AcceptPhase}
    (absent : entry.call ∉ (entries history).map (·.call))
    (kept : (entry.accept .published).table = state.table)
    (self : Placed (entry :: entries history) entry.call
      (some ⟨entry.clientId, entry.request, phase⟩) (insertedBy entry.call state.log)
      (enqueuedBy entry.call state.log)) :
    Linear initial (state.setCall entry.call ⟨entry.clientId, entry.request, phase⟩)
      (.call entry :: history) := by
  refine ⟨?_, List.nodup_cons.mpr ⟨absent, linear.once⟩, fun other => ?_⟩
  · have taken := Linearizes.call entry (here.symm ▸ linear.chain)
    rw [kept] at taken
    exact taken
  · by_cases same : other = entry.call
    · subst same
      simpa using self
    · simpa [same] using (linear.placed other).cons same

/-- A call that replays a stored row takes place at the lookup that finds it. -/
theorem Linear.replay (linear : Linear initial state history) {call : Nat} {clientId : UUID}
    {request : SendNotificationRequest} {row : Notification}
    (absent : call ∉ (entries history).map (·.call)) (inserted : insertedBy call state.log = [])
    (enqueued : enqueuedBy call state.log = []) (textual : request.keyTextual = true)
    (found : findExisting state.table clientId request = some row) :
    Linear initial (state.setCall call ⟨clientId, request, .returned (toAccepted row)⟩)
      (.call ⟨call, clientId, request, row.id, state.table⟩ :: history) := by
  have alone := accept_of_found textual found row.id
  refine linear.takes ⟨call, clientId, request, row.id, state.table⟩ rfl absent ?_ ?_
  · rw [LinearEntry.accept, alone]
  · rw [inserted, enqueued]
    refine .ended ⟨call, clientId, request, row.id, state.table⟩ .published _ _ _
      List.mem_cons_self rfl ?_ ?_ ?_
    all_goals rw [LinearEntry.accept, alone]; rfl

/-- A call whose key no statement takes takes place at its lookup. -/
theorem Linear.refuse (linear : Linear initial state history) {call : Nat} {clientId : UUID}
    {request : SendNotificationRequest} (absent : call ∉ (entries history).map (·.call))
    (inserted : insertedBy call state.log = []) (enqueued : enqueuedBy call state.log = [])
    (untextual : request.keyTextual = false) :
    Linear initial (state.setCall call ⟨clientId, request, .raised .data⟩)
      (.call ⟨call, clientId, request, 0, state.table⟩ :: history) := by
  have alone := accept_of_untextual untextual state.table clientId 0
  refine linear.takes ⟨call, clientId, request, 0, state.table⟩ rfl absent ?_ ?_
  · rw [LinearEntry.accept, alone]
  · rw [inserted, enqueued]
    refine .ended ⟨call, clientId, request, 0, state.table⟩ .published _ _ _
      List.mem_cons_self rfl ?_ ?_ ?_
    all_goals rw [LinearEntry.accept, alone]; rfl

/-- A call with nothing to replay and a row that does not fit takes place before its INSERT. -/
theorem Linear.doom (linear : Linear initial state history) {call : Nat} {clientId : UUID}
    {request : SendNotificationRequest} (absent : call ∉ (entries history).map (·.call))
    (inserted : insertedBy call state.log = []) (enqueued : enqueuedBy call state.log = [])
    (missing : findExisting state.table clientId request = none) (misfit : request.fits = false) :
    Linear initial (state.setCall call ⟨clientId, request, .create⟩)
      (.call ⟨call, clientId, request, 0, state.table⟩ :: history) := by
  have alone : ∀ outcome, accept state.table clientId request 0 outcome =
      ⟨state.table, none, none, .error .data⟩ := accept_of_misfit missing misfit
  refine linear.takes ⟨call, clientId, request, 0, state.table⟩ rfl absent ?_ ?_
  · rw [LinearEntry.accept, alone]
  · rw [inserted, enqueued]
    exact .doomed ⟨call, clientId, request, 0, state.table⟩ List.mem_cons_self rfl misfit alone

/-- A call that goes on to its INSERT is placed now, if it cannot succeed there. -/
theorem Linear.inserting (linear : Linear initial state history) {call : Nat} {clientId : UUID}
    {request : SendNotificationRequest} (absent : call ∉ (entries history).map (·.call))
    (inserted : insertedBy call state.log = []) (enqueued : enqueuedBy call state.log = [])
    (missing : findExisting state.table clientId request = none) :
    ∃ newer, changes newer = [] ∧
      Linear initial (state.setCall call ⟨clientId, request, .create⟩) (newer ++ history) := by
  cases fits : request.fits with
  | false => exact ⟨[_], rfl, linear.doom absent inserted enqueued missing fits⟩
  | true =>
      refine ⟨[], rfl, linear.of_pending ?_⟩
      rw [inserted, enqueued]
      exact .pending _ (.create _ _ fits) absent

/-- A call that commits a row takes place at its INSERT. -/
theorem Linear.insert (linear : Linear initial state history) {call : Nat} {clientId id : UUID}
    {request : SendNotificationRequest} {table : Table}
    (at_create : state.calls call = some ⟨clientId, request, .create⟩)
    (stored : state.table.insert (create clientId request id) = .ok table)
    (fits : request.fits = true) :
    Linear initial (((state.setTable table).setCall call
      ⟨clientId, request, .enqueue (create clientId request id)⟩).record
        (.inserted call (create clientId request id)))
      (.call ⟨call, clientId, request, id, state.table⟩ :: history) := by
  obtain ⟨absent, inserted, enqueued⟩ := (at_create ▸ linear.placed call).of_create fits
  have alone := accept_of_insert stored fits
  refine ⟨?_, List.nodup_cons.mpr ⟨absent, linear.once⟩, fun other => ?_⟩
  · have taken := Linearizes.call ⟨call, clientId, request, id, state.table⟩ linear.chain
    rw [LinearEntry.accept, alone] at taken
    exact taken
  · by_cases same : other = call
    · subst same
      simp only [record_calls, setCall_calls, Function.update_self, record_log, setCall_log,
        setTable_log, insertedBy_inserted, enqueuedBy_inserted, inserted, enqueued, entries_call]
      exact .enqueue ⟨other, clientId, request, id, state.table⟩ _ List.mem_cons_self rfl
        fun outcome => ⟨table, alone outcome⟩
    · simpa [same, insertedBy_of_ne _ _ same] using (linear.placed other).cons same

theorem Linear.enqueue (linear : Linear initial state history) {call : Nat} {clientId : UUID}
    {request : SendNotificationRequest} {row : Notification} (outcome : EnqueueOutcome)
    (at_enqueue : state.calls call = some ⟨clientId, request, .enqueue row⟩) :
    Linear initial ((state.setCall call
      ⟨clientId, request, .ofResult (afterEnqueue row outcome)⟩).record
        (.enqueue call row.id outcome)) history where
  chain := linear.chain
  once := linear.once
  placed other := by
    by_cases same : other = call
    · subst same
      simpa using (at_enqueue ▸ linear.placed other).at_enqueue outcome
    · simpa [same, enqueuedBy_of_ne _ _ _ same] using linear.placed other

/-- A step lets at most one call take place, or one worker commit, after all that have. -/
theorem linear_step (sound : CallsSound state) (linear : Linear initial state history)
    (hstep : Step policy state action next) :
    ∃ newer, changes newer = (committed state action).toList ∧
      Linear initial next (newer ++ history) := by
  cases hstep with
  | accept call clientId request idle =>
      have own := linear.placed call
      rw [idle] at own
      generalize committed : insertedBy call state.log = inserted at own
      generalize given : enqueuedBy call state.log = enqueued at own
      cases own with
      | unbegun absent =>
          cases hkey : request.idempotencyKey with
          | none =>
              have missing : findExisting state.table clientId request = none := by
                simp only [findExisting, hkey]
              simp only [AcceptPhase.start, hkey]
              exact linear.inserting absent committed given missing
          | some key =>
              refine ⟨[], rfl, linear.of_pending ?_⟩
              rw [committed, given]
              simp only [AcceptPhase.start, hkey]
              exact .pending _ (.lookup _ _) absent
  | lookup call clientId request at_lookup =>
      obtain ⟨absent, inserted, enqueued⟩ := (at_lookup ▸ linear.placed call).of_lookup
      cases textual : request.keyTextual with
      | false =>
          rw [lookupExisting_of_untextual textual]
          exact ⟨[_], rfl, linear.refuse absent inserted enqueued textual⟩
      | true =>
          rw [lookupExisting_of_textual textual]
          cases found : findExisting state.table clientId request with
          | some row => exact ⟨[_], rfl, linear.replay absent inserted enqueued textual found⟩
          | none => exact linear.inserting absent inserted enqueued found
  | insert call id clientId request table at_create fresh stored fits =>
      exact ⟨[_], rfl, linear.insert at_create stored fits⟩
  | conflict call id clientId request error at_create fresh failed fits =>
      obtain ⟨absent, inserted, enqueued⟩ := (at_create ▸ linear.placed call).of_create fits
      refine ⟨[], rfl, linear.of_pending ?_⟩
      rw [inserted, enqueued]
      exact .pending _ (.recover _ _ error fits) absent
  | misfit call id clientId request at_create fresh refused =>
      exact ⟨[], rfl, linear.of_pending ((at_create ▸ linear.placed call).at_misfit refused)⟩
  | recover call clientId request error at_recover =>
      -- the conflicting row is still there, so this call replays it
      obtain ⟨absent, inserted, enqueued, fits⟩ :=
        (at_recover ▸ linear.placed call).of_recover
      have textual := keyTextual_of_fits fits
      have own := sound.accounted call
      rw [at_recover, inserted, enqueued] at own
      cases own with
      | recover _ _ _ keyed row answers =>
          obtain ⟨winner, found⟩ :=
            findExisting_of_conflict answers.1 answers.2.1 keyed answers.2.2
          rw [recover_of_found textual found]
          exact ⟨[_], rfl, linear.replay absent inserted enqueued textual found⟩
  | enqueue call clientId request row at_enqueue =>
      exact ⟨[], rfl,
        (linear.enqueue .published at_enqueue).of_quiet linear.chain rfl rfl ⟨rfl, rfl⟩⟩
  | enqueueRaised call outcome clientId request row at_enqueue raised =>
      have ended := linear.enqueue outcome at_enqueue
      cases outcome with
      | published => exact absurd rfl raised
      | unavailable => exact ⟨[], rfl, ended⟩
      | failed => exact ⟨[], rfl, ended⟩
  | commit worker message phase after change held pending fits =>
      refine ⟨[.commit change], ?_, linear.of_quiet ?_ rfl rfl ⟨rfl, rfl⟩⟩
      · simp only [committed, pendingChange_of_held held pending]
        rfl
      · exact .commit change linear.chain (commit_of_fits fits)
  | apply worker published message result held =>
      refine ⟨[], rfl, linear.of_quiet (by rw [applied_table]; exact linear.chain) rfl
        (applied_calls _ _ _ _ _) ?_⟩
      generalize applyDeliveryResult result message policy.maxRetries = effect
      cases effect <;> cases published <;> exact ⟨rfl, rfl⟩
  | _ => exact ⟨[], rfl, linear.of_quiet linear.chain rfl rfl ⟨rfl, rfl⟩⟩

theorem linear_run {final : Engine} {actions : List Action} (sound : CallsSound state)
    (linear : Linear initial state history)
    (reached : run (step policy) state actions = some final) :
    CallsSound final ∧ ∃ newer, changes newer = workerCommits policy state actions ∧
      Linear initial final (newer ++ history) := by
  have begun : CallsSound state ∧ ∃ newer, changes newer = [] ∧
      Linear initial state (newer ++ history) := ⟨sound, [], rfl, linear⟩
  have ran := run_outputs_invariant committed
    (I := fun state seen => CallsSound state ∧ ∃ newer, changes newer = seen ∧
      Linear initial state (newer ++ history)) ?_ begun reached
  · rwa [List.append_nil] at ran
  · rintro state seen action next ⟨sound, newer, rfl, linear⟩ hstep
    obtain ⟨latest, same, linear⟩ := linear_step sound linear (step_sound hstep)
    refine ⟨callsSound_step sound (step_sound hstep), latest ++ newer, ?_, ?_⟩
    · rw [changes_append, same]
    · rwa [List.append_assoc]

/-- The call has ended as the uninterrupted call of this entry: its arguments, its answer, the
rows it has committed and the ids it has given to the queue. -/
def EndedAs (state : Engine) (entry : LinearEntry) : Prop :=
  ∃ outcome, state.calls entry.call =
      some ⟨entry.clientId, entry.request, .ofResult (entry.accept outcome).result⟩ ∧
    insertedBy entry.call state.log = (entry.accept outcome).inserted.toList ∧
    enqueuedBy entry.call state.log = ((entry.accept outcome).enqueued.map (·.1)).toList

theorem Linear.ended (linear : Linear initial state history) {call : Nat} {value : AcceptCall}
    (held : state.calls call = some value) (done : value.phase.Ended) :
    ∃ entry ∈ entries history, entry.call = call ∧ EndedAs state entry := by
  have own := linear.placed call
  rw [held] at own
  generalize committed : insertedBy call state.log = inserted at own
  generalize given : enqueuedBy call state.log = enqueued at own
  cases own with
  | pending value waits absent => exact (waits.not_ended done).elim
  | doomed entry member own misfit same => cases done
  | enqueue entry row member own same => cases done
  | ended entry outcome phase _ _ member own answer hinserted henqueued =>
      subst own
      exact ⟨entry, member, rfl, outcome, held.trans (by rw [answer]), committed.trans hinserted,
        given.trans henqueued⟩

/-- A call in the history has begun. -/
theorem Linear.begun (linear : Linear initial state history) {entry : LinearEntry}
    (member : entry ∈ entries history) : ∃ value, state.calls entry.call = some value := by
  have own := linear.placed entry.call
  cases held : state.calls entry.call with
  | some value => exact ⟨value, rfl⟩
  | none =>
      rw [held] at own
      generalize insertedBy entry.call state.log = inserted at own
      generalize enqueuedBy entry.call state.log = enqueued at own
      cases own with
      | unbegun absent => exact absurd (List.mem_map_of_mem member) absent

/-- An order of the calls so far: it leads to the table, its commits are those of the run, each
call is in it once, after its start, and has ended as there. -/
structure Orders (initial : Table) (commits : List Change) (state : Engine)
    (history : List LinearItem) : Prop where
  chain : Linearizes initial history state.table
  commits : changes history = commits
  once : ((entries history).map (·.call)).Nodup
  begun : ∀ entry ∈ entries history, ∃ value, state.calls entry.call = some value
  ended : ∀ call value, state.calls call = some value → value.phase.Ended →
    ∃ entry ∈ entries history, entry.call = call ∧ EndedAs state entry

theorem Linear.orders (linear : Linear initial state history) :
    Orders initial (changes history) state history where
  chain := linear.chain
  commits := rfl
  once := linear.once
  begun _ member := linear.begun member
  ended _ _ held done := linear.ended held done

/--
`accept` is linearizable.  At any moment of any run, from any committed table,
uninterrupted calls made one after the other, each at most once, and the very
commits that the run's workers have made, in their order, lead to the table
that is there, and every call that has ended has ended as the one with its
name.  Seen from a later moment the order has only grown at its new end, so a
call that ends before another begins also comes before it.
-/
theorem accept_linearizable (policy : DeliveryRetryPolicy) (table : Table)
    (queued : List Message) (earlier later : List Action) (middle final : Engine)
    (reached : run (step policy) (start table queued) earlier = some middle)
    (continued : run (step policy) middle later = some final) :
    ∃ older newer : List LinearItem,
      Orders table (workerCommits policy (start table queued) earlier) middle older ∧
      Orders table (workerCommits policy middle later ++
        workerCommits policy (start table queued) earlier) final (newer ++ older) := by
  obtain ⟨sound, older, same, linear⟩ :=
    linear_run (callsSound_start table queued) (linear_start table queued) reached
  rw [List.append_nil] at linear
  obtain ⟨-, newer, same', linear'⟩ := linear_run sound linear continued
  have orders := linear.orders
  have orders' := linear'.orders
  rw [changes_append, same, same'] at orders'
  rw [same] at orders
  exact ⟨older, newer, orders, orders'⟩

/-- Two calls with one key both miss in their first lookup; the second INSERT conflicts. -/
def racingCalls : List Action :=
  [.accept 0 7 (.welcome (some (.ofString "k"))), .accept 1 7 (.welcome (some (.ofString "k"))),
    .lookup 0, .lookup 1, .insert 1 1, .insert 0 2]

/-- The row is claimed by a worker before the other call replays it. -/
def claimedReplay : List Action :=
  [.enqueue 1 .published, .deliver 0 ⟨1, 0⟩, .load 0, .commit 0 true, .recover 0]

theorem accept_linearizable_racingCalls :
    ∃ middle final, run (step .default) (start .empty []) racingCalls = some middle ∧
      run (step .default) middle claimedReplay = some final ∧
      (final.calls 0).map (·.phase) = some (.returned ⟨1, .processing⟩) ∧
      (workerCommits .default middle claimedReplay).map (·.assigned.status) = [.processing] ∧
      ∃ older newer : List LinearItem,
        Orders .empty (workerCommits .default (start .empty []) racingCalls) middle older ∧
        Orders .empty (workerCommits .default middle claimedReplay ++
          workerCommits .default (start .empty []) racingCalls) final (newer ++ older) :=
  ⟨_, _, rfl, rfl, rfl, rfl, accept_linearizable .default .empty [] racingCalls claimedReplay _ _
    rfl rfl⟩

end Engine

end NotificationsEngine
