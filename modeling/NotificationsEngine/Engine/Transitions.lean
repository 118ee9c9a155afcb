import NotificationsEngine.Engine.Ownership

/-!
# Stored statuses and the transition table

`assert_transition` compares with the session's own copy, while the commit
writes to whatever the row holds by then.  Stored statuses follow the table in
every run whose commits find the status that their session had loaded; a
second worker with a stale copy takes a SENT row back to PROCESSING.
-/

namespace NotificationsEngine.Engine

open StepMachine

def ChangesAlongTable (state : Engine) (_ : Action) (next : Engine) : Prop :=
  ∀ id before after, state.table.getById id = some before →
    next.table.getById id = some after → before.status ≠ after.status →
    canTransition before.status after.status = true

/-- Every status change of the run is an edge, and a terminal status, once stored, stays. -/
def FollowsTable (policy : DeliveryRetryPolicy) (state : Engine) (actions : List Action) : Prop :=
  Along (step policy) ChangesAlongTable state actions ∧
    ∀ first second middle final, actions = first ++ second →
      run (step policy) state first = some middle →
      run (step policy) middle second = some final →
      ∀ id row, middle.table.getById id = some row → row.status.isTerminal = true →
        ∃ row', final.table.getById id = some row' ∧ row'.status = row.status

/-- A commit finds the stored status that its session's copy was loaded or last flushed with. -/
def SnapshotCurrent (state : Engine) (action : Action) (_ : Engine) : Prop :=
  match action with
  | .commit worker true =>
      ∀ message phase change after, state.Runs worker message phase →
        phase.pendingCommit = some (change, after) →
        ∀ stored, state.table.getById change.base.id = some stored →
          stored.status = change.base.status
  | _ => True

/-- The status that a commit leaves, by the status it finds. -/
theorem write_status (base assigned stored : DeliveryColumns) :
    (DeliveryColumns.write base assigned stored).status =
      ColumnWrite.writeColumn base.status assigned.status stored.status := rfl

/-- A commit on a current snapshot moves the stored status along the checked edge. -/
theorem changesAlongTable_of_current {policy : DeliveryRetryPolicy} {state next : Engine}
    {action : Action} (current : SnapshotCurrent state action next)
    (hstep : Step policy state action next) : ChangesAlongTable state action next := by
  intro id before after found found' changed
  rcases stored_step hstep found with
    same | ⟨worker, message, phase, change, rest, rfl, held, pending, rfl, written⟩
  · cases same.symm.trans found'
    exact absurd rfl changed
  · cases written.symm.trans found'
    have loaded : before.status = change.base.status :=
      current message phase change rest held pending before found
    rw [Notification.withColumns_columns, write_status, loaded, ColumnWrite.writeColumn_current]
    exact change.legal

/--
A stale commit never moves the stored status along an edge, since no two
statuses share a successor: it repeats the stored status or leaves the table.
-/
theorem stale_commit_off_table {change : Change} {stored : DeliveryColumns}
    (stale : stored.status ≠ change.base.status) :
    canTransition stored.status
      (DeliveryColumns.write change.base.toDeliveryColumns change.assigned stored).status =
        false := by
  have assigned : change.assigned.status ≠ change.base.status := by
    intro same
    have legal := change.legal
    rw [same, canTransition_irrefl] at legal
    cases legal
  rw [write_status, ColumnWrite.writeColumn_changed assigned]
  by_contra edge
  exact stale (canTransition_source_unique (Bool.not_eq_false _ ▸ edge) change.legal)

/-- Steps along the table keep a terminal status. -/
theorem terminal_step {policy : DeliveryRetryPolicy} {state next : Engine} {action : Action}
    {id : UUID} {status : NotificationStatus} (terminal : status.isTerminal = true)
    (along : ChangesAlongTable state action next) (hstep : Step policy state action next)
    (stored : ∃ row, state.table.getById id = some row ∧ row.status = status) :
    ∃ row, next.table.getById id = some row ∧ row.status = status := by
  obtain ⟨row, found, rfl⟩ := stored
  obtain ⟨columns, found'⟩ := stored_persists hstep found
  refine ⟨_, found', ?_⟩
  by_contra changed
  have edge := along id row _ found found' (Ne.symm changed)
  rw [canTransition_terminal terminal] at edge
  cases edge

theorem followsTable_of_along {policy : DeliveryRetryPolicy} {state : Engine}
    {actions : List Action} (along : Along (step policy) ChangesAlongTable state actions) :
    FollowsTable policy state actions := by
  refine ⟨along, ?_⟩
  rintro first second middle final rfl hfirst hsecond id row found terminal
  exact run_guarded_invariant
    (I := fun state => ∃ row', state.table.getById id = some row' ∧ row'.status = row.status)
    (fun _ _ _ stored edge (hstep : step policy _ _ = some _) =>
      terminal_step terminal edge (step_sound hstep) stored)
    ⟨row, found, rfl⟩ (along.of_append hfirst) hsecond

/--
In every run of any number of dispatch calls whose commits all find the status
that their session had loaded, every change of a stored status is an edge of
the table and a stored SENT or FAILED is final.
-/
theorem statuses_follow_table_of_current (policy : DeliveryRetryPolicy) (table : Table)
    (queued : List Message) (actions : List Action)
    (current : Along (step policy) SnapshotCurrent (start table queued) actions) :
    FollowsTable policy (start table queued) actions :=
  followsTable_of_along
    (current.of_invariant (I := fun _ => True) (fun _ _ _ _ _ _ => True.intro)
      (fun _ _ _ _ guard (hstep : step policy _ _ = some _) =>
        changesAlongTable_of_current guard (step_sound hstep))
      True.intro)

def twoDeliveries : Engine :=
  start (.single (create 7 (.welcome none) 1)) [⟨1, 0⟩, ⟨1, 0⟩]

/-- The first worker commits a failed attempt, and the second one loads the row after that. -/
def twoDispatches : List Action :=
  [.deliver 0 ⟨1, 0⟩, .load 0, .commit 0 true, .send 0 (.raised ⟨false, []⟩) 0,
    .deliver 1 ⟨1, 0⟩, .commit 0 true, .load 1, .commit 1 true, .send 1 .returned 0,
    .commit 1 true]

/-- The row goes twice through PROCESSING, back to PENDING and to SENT. -/
theorem statuses_follow_table_twoDispatches :
    (∃ state, run (step .default) twoDeliveries twoDispatches = some state ∧
      (state.table.getById 1).map (·.status) = some .sent) ∧
    FollowsTable .default twoDeliveries twoDispatches := by
  refine ⟨⟨_, rfl, rfl⟩, statuses_follow_table_of_current .default _ _ twoDispatches ?_⟩
  rintro _ ⟨⟩
  refine ⟨True.intro, ?_⟩
  rintro _ ⟨⟩
  refine ⟨True.intro, ?_⟩
  rintro _ ⟨⟩
  constructor
  · rintro _ _ _ _ ⟨⟩ ⟨⟩ _ ⟨⟩
    rfl
  rintro _ ⟨⟩
  refine ⟨True.intro, ?_⟩
  rintro _ ⟨⟩
  refine ⟨True.intro, ?_⟩
  rintro _ ⟨⟩
  constructor
  · rintro _ _ _ _ ⟨⟩ ⟨⟩ _ ⟨⟩
    rfl
  rintro _ ⟨⟩
  refine ⟨True.intro, ?_⟩
  rintro _ ⟨⟩
  constructor
  · rintro _ _ _ _ ⟨⟩ ⟨⟩ _ ⟨⟩
    rfl
  rintro _ ⟨⟩
  refine ⟨True.intro, ?_⟩
  rintro _ ⟨⟩
  refine ⟨?_, True.intro⟩
  rintro _ _ _ _ ⟨⟩ ⟨⟩ _ ⟨⟩
  rfl

/-- Both workers load the PENDING row; the second commits PROCESSING over the first one's SENT. -/
def staleClaim : List Action :=
  [.deliver 0 ⟨1, 0⟩, .deliver 1 ⟨1, 0⟩, .load 0, .load 1, .commit 0 true,
    .send 0 .returned 0, .commit 0 true, .commit 1 true]

theorem statuses_leave_table_staleClaim : ¬ FollowsTable .default twoDeliveries staleClaim := by
  rintro ⟨along, -⟩
  have along : Along (step .default) ChangesAlongTable twoDeliveries
      (staleClaim.take 7 ++ [.commit 1 true]) := along
  have edge := along.at_step rfl rfl 1 _ _ rfl rfl (by decide)
  exact absurd edge (by decide)

end NotificationsEngine.Engine
