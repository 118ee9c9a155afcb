import NotificationsEngine.Engine.Serial

/-!
# FAILED rows and the dead-letter queue

`dispatch` commits FAILED and the task publishes the id afterwards.  With one
delivery of an id at a time a worker that has made the commit owes the one
publication, and nobody else does: a redelivered message finds a terminal row
and is skipped.  A crash at that point loses the publication for good.
-/

namespace NotificationsEngine

/-- How often the id was published to `notifications.dlq`. -/
def deadLetters (id : UUID) (log : List Event) : Nat := (deadLettered log).count id

namespace Engine

open StepMachine

variable {policy : DeliveryRetryPolicy} {state next : Engine} {action : Action} {id : UUID}

/-- The worker has committed FAILED for the id and has not published it yet. -/
def Owing (state : Engine) (id : UUID) (worker : Nat) : Prop :=
  ∃ message result, state.Runs worker message (.returned result) ∧
    message.notificationId = id ∧ result.deadLetter = true

def StoredFailed (state : Engine) (id : UUID) : Prop :=
  ∃ row, state.table.getById id = some row ∧ row.status = .failed

/-! ## What one step does -/

/-- A dead letter is asked for exactly when the row is assigned FAILED. -/
theorem settles_deadLetter_iff {row : Notification} {outcome : ProviderOutcome}
    {assigned : DeliveryColumns} {result : DispatchResult}
    (settles : Settles policy row outcome assigned result) :
    result.deadLetter = true ↔ assigned.status = .failed := by
  cases settles with
  | sent => simp [countSuccess]
  | retry => simp
  | failed => simp

/-- A result that asks for a dead letter is no RETRY. -/
theorem settles_deadLetter_action {row : Notification} {outcome : ProviderOutcome}
    {assigned : DeliveryColumns} {result : DispatchResult}
    (settles : Settles policy row outcome assigned result) (dead : result.deadLetter = true) :
    result.action ≠ .retry := by
  cases settles with
  | sent => cases dead
  | retry => cases dead
  | failed => rintro ⟨⟩

/-- A worker comes to owe a publication by the commit of FAILED on a PROCESSING row. -/
theorem owing_step (serial : SerialSound policy id state) (hstep : Step policy state action next)
    {worker : Nat} (owing : next.Owing id worker) :
    action.worker ≠ some worker ∧ state.Owing id worker ∨
      action = .commit worker true ∧ next.StoredFailed id ∧
        ∃ row, state.table.getById id = some row ∧ row.status = .processing := by
  obtain ⟨message, result, runs, own, dead⟩ := owing
  rcases returned_step serial.owned hstep runs with ⟨others, old⟩ | returns
  · exact .inl ⟨others, message, result, old, own, dead⟩
  · cases returns with
    | missing => cases dead
    | skipped => cases dead
    | settled change _ outcome held settles =>
        have processing : change.base.status = .processing := by
          cases serial.owned _ _ _ held with
          | settle _ _ _ _ processing => exact processing
        have installed := serial.exclusive.commit_installs held rfl own
        rw [← commit_table hstep held rfl] at installed
        have failed := (settles_deadLetter_iff settles).mp dead
        have current := serial.exclusive.current worker _ ⟨message, _, held, own, rfl⟩
        exact .inr ⟨rfl, ⟨change.row, installed, failed⟩, change.base, current, processing⟩

theorem deadLetters_cons_of_ne {event : Event} (other : event ≠ .deadLettered id)
    (log : List Event) : deadLetters id (event :: log) = deadLetters id log := by
  cases event with
  | deadLettered target =>
      have different : target ≠ id := fun same => other (congrArg Event.deadLettered same)
      simp [deadLetters, deadLettered, different]
  | inserted => rfl
  | enqueue => rfl
  | provider => rfl
  | faulted => rfl

@[simp] theorem deadLetters_cons (log : List Event) :
    deadLetters id (.deadLettered id :: log) = deadLetters id log + 1 :=
  List.count_cons_self

/-- The count of publications rises by a publication of a worker that owes it. -/
theorem deadLetters_step (id : UUID) (hstep : Step policy state action next) :
    deadLetters id next.log = deadLetters id state.log ∨
      ∃ worker, action = .apply worker true ∧ state.Owing id worker ∧
        deadLetters id next.log = deadLetters id state.log + 1 := by
  rcases log_step hstep with same | ⟨event, same, logs⟩
  · exact .inl (by rw [same])
  · rw [same]
    cases logs with
    | deadLettered worker message result held dead =>
        by_cases own : message.notificationId = id
        · subst own
          exact .inr ⟨worker, rfl, ⟨message, result, held, rfl, dead⟩, deadLetters_cons _⟩
        · exact .inl (deadLetters_cons_of_ne (fun same => own (Event.deadLettered.inj same)) _)
    | _ => exact .inl (deadLetters_cons_of_ne (by rintro ⟨⟩) _)

/-- A row becomes FAILED by a commit after which the worker owes the publication. -/
theorem storedFailed_step (serial : SerialSound policy id state)
    (hstep : Step policy state action next) (failed : next.StoredFailed id) :
    state.StoredFailed id ∨ ∃ worker, next.Owing id worker := by
  obtain ⟨row', found', status⟩ := failed
  cases found : state.table.getById id with
  | none =>
      obtain ⟨_, _, _, -, rfl, -, -⟩ := stored_new hstep found found'
      cases status
  | some row =>
      rcases serial.exclusive.stored_step serial.owned found hstep with
        same | ⟨worker, message, phase, change, after, rfl, held, pending, own, -, written⟩
      · cases same.symm.trans found'
        exact .inl ⟨_, found, status⟩
      · cases written.symm.trans found'
        refine .inr ⟨worker, ?_⟩
        obtain ⟨-, ⟨-, -, -, assigned⟩ | ⟨result, outcome, -, rfl, -, settles⟩⟩ :=
          (serial.owned _ _ _ held).pendingCommit pending
        · rw [Change.row, assigned] at status
          cases status
        · refine ⟨message, result, ?_, own, (settles_deadLetter_iff settles).mpr status⟩
          cases hstep with
          | commit _ _ _ _ _ held' pending' =>
              cases held.symm.trans held'
              cases pending.symm.trans pending'
              exact Function.update_self _ _ _

/-! ## The account of publications -/

structure PublishedOnce (id : UUID) (state : Engine) : Prop where
  results : ∀ worker message result, state.Runs worker message (.returned result) →
    result.deadLetter = true → result.action ≠ .retry
  owing : ∀ worker, state.Owing id worker →
    state.StoredFailed id ∧ deadLetters id state.log = 0
  unique : ∀ worker other, state.Owing id worker → state.Owing id other → worker = other
  published : deadLetters id state.log = 0 ∨
    state.StoredFailed id ∧ deadLetters id state.log = 1

theorem publishedOnce_start (id : UUID) (table : Table) (queued : List Message) :
    PublishedOnce id (start table queued) where
  results := by rintro _ _ _ ⟨⟩
  owing := by rintro _ ⟨_, _, ⟨⟩, _⟩
  unique := by rintro _ _ ⟨_, _, ⟨⟩, _⟩
  published := .inl rfl

theorem results_step (owned : WorkersOwned policy state) (once : PublishedOnce id state)
    (hstep : Step policy state action next) {worker : Nat} {message : Message}
    {result : DispatchResult} (runs : next.Runs worker message (.returned result))
    (dead : result.deadLetter = true) : result.action ≠ .retry := by
  rcases returned_step owned hstep runs with ⟨-, old⟩ | returns
  · exact once.results worker message result old dead
  · cases returns with
    | missing => cases dead
    | skipped => cases dead
    | settled _ _ _ _ settles => exact settles_deadLetter_action settles dead

/-- A stored PROCESSING row is not FAILED. -/
theorem not_storedFailed_of_processing {row : Notification}
    (found : state.table.getById id = some row) (processing : row.status = .processing) :
    ¬ state.StoredFailed id := by
  rintro ⟨other, found', failed⟩
  cases found.symm.trans found'
  rw [processing] at failed
  cases failed

theorem StoredFailed.stays (serial : SerialSound policy id state) (failed : state.StoredFailed id)
    (hstep : Step policy state action next) : next.StoredFailed id := by
  obtain ⟨row, found, status⟩ := failed
  exact ⟨row, terminal_stays serial found (by rw [status]; rfl) hstep, status⟩

theorem publishedOnce_step (once : PublishedOnce id state) (serial : SerialSound policy id state)
    (hstep : Step policy state action next) : PublishedOnce id next where
  results _ _ _ runs dead := results_step serial.owned once hstep runs dead
  owing := by
    intro worker owing
    rcases owing_step serial hstep owing with ⟨others, old⟩ | ⟨rfl, failed, row, found, processing⟩
    · obtain ⟨failed, none_yet⟩ := once.owing worker old
      refine ⟨failed.stays serial hstep, ?_⟩
      rcases deadLetters_step id hstep with same | ⟨actor, rfl, actor_owing, -⟩
      · rw [same, none_yet]
      · exact absurd (congrArg some (once.unique actor worker actor_owing old)) others
    · refine ⟨failed, ?_⟩
      rcases once.published with none_yet | ⟨failed, -⟩
      · rcases deadLetters_step id hstep with same | ⟨actor, ⟨⟩, -⟩
        rw [same, none_yet]
      · exact absurd failed (not_storedFailed_of_processing found processing)
  unique := by
    intro worker other first second
    rcases owing_step serial hstep first with ⟨-, old⟩ | ⟨acts, -, row, found, processing⟩
    · rcases owing_step serial hstep second with ⟨-, old'⟩ | ⟨-, -, row, found, processing⟩
      · exact once.unique worker other old old'
      · exact absurd (once.owing worker old).1 (not_storedFailed_of_processing found processing)
    · rcases owing_step serial hstep second with ⟨-, old'⟩ | ⟨acts', -⟩
      · exact absurd (once.owing other old').1 (not_storedFailed_of_processing found processing)
      · exact (Action.commit.inj (acts.symm.trans acts')).1
  published := by
    rcases deadLetters_step id hstep with same | ⟨actor, rfl, owing, one_more⟩
    · rw [same]
      exact once.published.imp_right fun ⟨failed, one⟩ => ⟨failed.stays serial hstep, one⟩
    · obtain ⟨failed, none_yet⟩ := once.owing actor owing
      exact .inr ⟨failed.stays serial hstep, by rw [one_more, none_yet]⟩

/-! ## A debt that is lost -/

/-- The row is FAILED, its id is not published, and nobody owes the publication. -/
structure Lost (id : UUID) (state : Engine) : Prop where
  failed : state.StoredFailed id
  unpublished : deadLetters id state.log = 0
  unowed : ∀ worker, ¬ state.Owing id worker

theorem Lost.step (lost : Lost id state) (serial : SerialSound policy id state)
    (hstep : Step policy state action next) : Lost id next where
  failed := lost.failed.stays serial hstep
  unpublished := by
    rcases deadLetters_step id hstep with same | ⟨worker, -, owing, -⟩
    · exact same.trans lost.unpublished
    · exact absurd owing (lost.unowed worker)
  unowed := by
    intro worker owing
    rcases owing_step serial hstep owing with ⟨-, old⟩ | ⟨-, -, row, found, processing⟩
    · exact lost.unowed worker old
    · exact not_storedFailed_of_processing found processing lost.failed

/-- The crash of a worker that owes the publication loses it. -/
theorem lost_of_crash (once : PublishedOnce id state) (serial : SerialSound policy id state)
    {worker : Nat} (owing : state.Owing id worker)
    (hstep : Step policy state (.crash worker) next) : Lost id next where
  failed := (once.owing worker owing).1.stays serial hstep
  unpublished := by
    rcases deadLetters_step id hstep with same | ⟨_, ⟨⟩, -⟩
    rw [same, (once.owing worker owing).2]
  unowed := by
    intro other owing'
    rcases owing_step serial hstep owing' with ⟨others, old⟩ | ⟨⟨⟩, -⟩
    exact others (congrArg some (once.unique worker other owing old))

/-- What is lost stays lost, however often the message is delivered again. -/
theorem lost_run {actions : List Action} {final : Engine} (lost : Lost id state)
    (serial : SerialSound policy id state)
    (alone : Along (step policy) (LoadsAlone id) state actions)
    (reached : run (step policy) state actions = some final) : Lost id final :=
  (run_guarded_invariant (I := fun state => SerialSound policy id state ∧ Lost id state)
    (fun _ _ _ sound guard (hstep : step policy _ _ = some _) =>
      ⟨serialSound_step sound.1 guard (step_sound hstep),
        sound.2.step sound.1 (step_sound hstep)⟩)
    ⟨serial, lost⟩ alone reached).2

/-! ## Runs in which no debt is lost -/

def DeadLetterPublishes (id : UUID) (state : Engine) (action : Action) (_ : Engine) : Prop :=
  ∀ worker, action = .apply worker false → ¬ state.Owing id worker

/-- No worker crashes between its commit of FAILED for the id and the publication. -/
def PublishesBeforeCrash (id : UUID) (state : Engine) (action : Action) (_ : Engine) : Prop :=
  ∀ worker, action = .crash worker → ¬ state.Owing id worker

def FailedAccounted (state : Engine) (id : UUID) : Prop :=
  state.StoredFailed id → deadLetters id state.log = 1 ∨ ∃ worker, state.Owing id worker

/-- A worker that owes a publication makes it, or stays where it is while others act. -/
theorem Owing.step (once : PublishedOnce id state)
    (publishes : DeadLetterPublishes id state action next)
    (crashes : PublishesBeforeCrash id state action next) (hstep : Step policy state action next)
    {worker : Nat} (owing : state.Owing id worker) :
    next.Owing id worker ∨ deadLetters id next.log = 1 := by
  have none_yet := (once.owing worker owing).2
  obtain ⟨message, result, runs, own, dead⟩ := owing
  by_cases acts : action.worker = some worker
  · cases hstep with
    | deliver _ _ idle => cases acts; cases idle.symm.trans runs
    | load _ _ held => cases acts; cases held.symm.trans runs
    | commit _ _ _ _ _ held pending =>
        cases acts
        cases held.symm.trans runs
        cases pending
    | commitRaised _ _ _ _ _ held pending =>
        cases acts
        cases held.symm.trans runs
        cases pending
    | send _ _ _ _ _ held => cases acts; cases held.symm.trans runs
    | apply _ published _ _ held =>
        cases acts
        cases held.symm.trans runs
        cases published with
        | false => exact absurd ⟨message, result, runs, own, dead⟩ (publishes worker rfl)
        | true =>
            have final := once.results worker message result runs dead
            rw [applyDeliveryResult_of_ne_retry _ _ final, if_pos dead, own]
            exact .inr ((deadLetters_cons _).trans (by rw [setWorker_log, none_yet]))
    | raise _ _ _ _ held => cases acts; cases held.symm.trans runs
    | acknowledge _ _ held => cases acts; cases held.symm.trans runs
    | crash _ _ held =>
        cases acts
        exact absurd ⟨message, result, runs, own, dead⟩ (crashes worker rfl)
    | _ => cases acts
  · exact .inl ⟨message, result, (workers_idle hstep acts).trans runs, own, dead⟩

theorem failedAccounted_step (accounted : state.FailedAccounted id)
    (once : PublishedOnce id state) (serial : SerialSound policy id state)
    (publishes : DeadLetterPublishes id state action next)
    (crashes : PublishesBeforeCrash id state action next)
    (hstep : Step policy state action next) : next.FailedAccounted id := by
  intro failed
  rcases storedFailed_step serial hstep failed with before | owing
  · rcases accounted before with one | ⟨worker, owing⟩
    · rcases deadLetters_step id hstep with same | ⟨actor, -, owing, -⟩
      · exact .inl (same.trans one)
      · rw [(once.owing actor owing).2] at one
        cases one
    · exact (owing.step once publishes crashes hstep).symm.imp_right fun owing => ⟨worker, owing⟩
  · exact .inr owing

/-- A FAILED row without outstanding messages has been published exactly once. -/
def FailedPublished (state : Engine) (id : UUID) : Prop :=
  ∀ row, state.table.getById id = some row → row.status = .failed →
    (∀ message, state.Outstanding message → message.notificationId ≠ id) →
      deadLetters id state.log = 1

theorem FailedAccounted.failedPublished (accounted : state.FailedAccounted id) :
    state.FailedPublished id := by
  intro row found failed quiet
  rcases accounted ⟨row, found, failed⟩ with one | ⟨worker, message, result, runs, own, -⟩
  · exact one
  · exact absurd own (quiet message (outstanding_of_held runs))

/--
In every run with one delivery of `id` at a time in which dead-letter
publications do not raise and no worker crashes between its commit of FAILED
and the publication: a FAILED row of which no message is outstanding has been
published to `notifications.dlq` exactly once.
-/
theorem failed_published_of_publishesBeforeCrash (policy : DeliveryRetryPolicy) (table : Table)
    (queued : List Message) (id : UUID)
    (fresh : ∀ row, table.getById id = some row → row.status ≠ .failed)
    (actions : List Action)
    (alone : Along (step policy) (DeliversAlone id) (start table queued) actions)
    (publishes : Along (step policy) (DeadLetterPublishes id) (start table queued) actions)
    (crashes : Along (step policy) (PublishesBeforeCrash id) (start table queued) actions)
    (state : Engine) (reached : run (step policy) (start table queued) actions = some state) :
    state.FailedPublished id := by
  have sound := run_guarded_invariant
    (I := fun state => (SerialSound policy id state ∧ PublishedOnce id state) ∧
      state.FailedAccounted id)
    (fun _ _ _ sound guard (hstep : step policy _ _ = some _) =>
      ⟨⟨serialSound_step sound.1.1 guard.1 (step_sound hstep),
        publishedOnce_step sound.1.2 sound.1.1 (step_sound hstep)⟩,
        failedAccounted_step sound.2 sound.1.2 sound.1.1 guard.2.1 guard.2.2 (step_sound hstep)⟩)
    ⟨⟨serialSound_start policy id table queued, publishedOnce_start id table queued⟩,
      fun ⟨row, found, failed⟩ => absurd failed (fresh row found)⟩
    ((loadsAlone_of_deliversAlone alone).and (publishes.and crashes)) reached
  exact sound.2.failedPublished

/-- Whatever crashes, no id is published twice. -/
theorem deadLetters_le_one {table : Table} {queued : List Message} {actions : List Action}
    (alone : Along (step policy) (DeliversAlone id) (start table queued) actions)
    (reached : run (step policy) (start table queued) actions = some state) :
    deadLetters id state.log ≤ 1 := by
  have sound := run_guarded_invariant
    (I := fun state => SerialSound policy id state ∧ PublishedOnce id state)
    (fun _ _ _ sound guard (hstep : step policy _ _ = some _) =>
      ⟨serialSound_step sound.1 guard (step_sound hstep),
        publishedOnce_step sound.2 sound.1 (step_sound hstep)⟩)
    ⟨serialSound_start policy id table queued, publishedOnce_start id table queued⟩
    (loadsAlone_of_deliversAlone alone) reached
  rcases sound.2.published with none_yet | ⟨-, one⟩
  · exact none_yet.trans_le (Nat.zero_le 1)
  · exact one.le

/-- The worker crashes with the provider's refusal; the next one commits FAILED and publishes. -/
def crashBeforeFailed : List Action :=
  [.deliver 0 ⟨1, 0⟩, .load 0, .commit 0 true, .send 0 (.raised ⟨true, []⟩) 0, .crash 0,
    .deliver 0 ⟨1, 0⟩, .load 0, .send 0 (.raised ⟨true, []⟩) 0, .commit 0 true, .apply 0 true,
    .acknowledge 0]

theorem failed_published_crashBeforeFailed :
    ∃ state, run (step .default) (start (.single (create 7 (.welcome none) 1)) [⟨1, 0⟩])
        crashBeforeFailed = some state ∧ state.FailedPublished 1 ∧
      (state.table.getById 1).map (·.status) = some .failed ∧ deadLetters 1 state.log = 1 := by
  refine ⟨_, rfl, failed_published_of_publishesBeforeCrash .default
    (.single (create 7 (.welcome none) 1)) [⟨1, 0⟩] 1 ?_ crashBeforeFailed
    (deliversAlone_of_worker 0 (by simp [crashBeforeFailed])) (.of_labels ?_ _) ?_ _ rfl, rfl, rfl⟩
  · rintro _ ⟨⟩ ⟨⟩
  · simp [crashBeforeFailed, DeadLetterPublishes]
  · rintro _ ⟨⟩
    refine ⟨by rintro _ ⟨⟩, ?_⟩
    rintro _ ⟨⟩
    refine ⟨by rintro _ ⟨⟩, ?_⟩
    rintro _ ⟨⟩
    refine ⟨by rintro _ ⟨⟩, ?_⟩
    rintro _ ⟨⟩
    refine ⟨by rintro _ ⟨⟩, ?_⟩
    rintro _ ⟨⟩
    constructor
    · rintro _ ⟨⟩ ⟨message, result, runs, -⟩
      cases runs
    exact .of_labels (by simp [PublishesBeforeCrash]) _

/-- The worker crashes right after its commit of FAILED; the message is delivered again. -/
def crashAfterFailed : List Action :=
  [.deliver 0 ⟨1, 0⟩, .load 0, .commit 0 true, .send 0 (.raised ⟨true, []⟩) 0, .commit 0 true,
    .crash 0, .deliver 0 ⟨1, 0⟩, .load 0, .apply 0 true, .acknowledge 0]

/-- The second delivery skips the terminal row, so the id is never published. -/
theorem failed_unpublished_crashAfterFailed :
    ∃ state row, run (step .default) (start (.single (create 7 (.welcome none) 1)) [⟨1, 0⟩])
        crashAfterFailed = some state ∧
      Along (step .default) (DeliversAlone 1)
        (start (.single (create 7 (.welcome none) 1)) [⟨1, 0⟩]) crashAfterFailed ∧
      Along (step .default) (DeadLetterPublishes 1)
        (start (.single (create 7 (.welcome none) 1)) [⟨1, 0⟩]) crashAfterFailed ∧
      state.table.getById 1 = some row ∧ row.status = .failed ∧
      (∀ message, ¬ state.Outstanding message) ∧ deadLetters 1 state.log = 0 ∧
      ¬ state.FailedPublished 1 := by
  have quiet : ∀ state, run (step .default)
      (start (.single (create 7 (.welcome none) 1)) [⟨1, 0⟩]) crashAfterFailed = some state →
      ∀ message, ¬ state.Outstanding message := by
    rintro _ ⟨⟩ message (waiting | ⟨worker, delivery, held, -⟩)
    · exact absurd waiting List.not_mem_nil
    · cases worker <;> cases held
  refine ⟨_, _, rfl, deliversAlone_of_worker 0 (by simp [crashAfterFailed]), .of_labels ?_ _,
    rfl, rfl, quiet _ rfl, rfl, ?_⟩
  · simp [crashAfterFailed, DeadLetterPublishes]
  · intro published
    have one := published _ rfl rfl fun message outstanding =>
      absurd outstanding (quiet _ rfl message)
    exact absurd one (by decide)

end Engine

end NotificationsEngine
