import NotificationsEngine.Python.Uuid
import NotificationsEngine.Workers.Drain

/-!
# Messages as they travel

The queues hold texts: `enqueue` writes `str(notification_id)`, and the worker
calls `uuid.UUID` on whatever it receives.  On texts that denote ids a worker
does what it does on the ids; on the others it does nothing.
-/

namespace NotificationsEngine

open StepMachine

/-- The argument of a task in its queue, and the retries that Celery has counted. -/
structure WireMessage where
  notificationId : Str
  retries : ℕ
  deriving DecidableEq, Repr

namespace WireMessage

/-- `task.retry(max_retries=...)`, which publishes the same arguments again. -/
def retry (message : WireMessage) (maxRetries : Int) : Option WireMessage :=
  if (message.retries : Int) + 1 > maxRetries then none
  else some { message with retries := message.retries + 1 }

def read (message : WireMessage) : Option Message :=
  (Uuid.parse message.notificationId).map fun id => ⟨id, message.retries⟩

end WireMessage

/-- `publish(args=[str(notification_id)], ...)`. -/
def Message.write (message : Message) : WireMessage :=
  ⟨Uuid.str message.notificationId, message.retries⟩

inductive WireEffect where
  | nothing
  | malformed
  | retry (countdown : Int) (followUp : WireMessage)
  | retryRefused
  | deadLetter (notificationId : Str)

/-- `apply_delivery_result`. -/
def applyResultOnWire (result : DispatchResult) (message : WireMessage) (maxRetries : Int) :
    WireEffect :=
  if result.action = .retry then
    let countdown := result.countdownSeconds.getD 5
    match message.retry maxRetries with
    | some followUp => .retry countdown followUp
    | none => .retryRefused
  else if result.deadLetter then .deadLetter message.notificationId
  else .nothing

/-- `deliver_notification`: what is stored, sent and published. -/
def deliverFromWire (policy : DeliveryRetryPolicy) (provider : OutboundMessage → ProviderOutcome)
    (now : Instant) (table : Table) (message : WireMessage) :
    Table × List OutboundMessage × WireEffect :=
  match Uuid.parse message.notificationId with
  | none => (table, [], .malformed)
  | some id =>
      let run := dispatch policy provider now table id
      let effect := match run.result with
        | .error _ => .nothing
        | .ok result => applyResultOnWire result message policy.maxRetries
      (run.table, run.messages, effect)

structure Wire where
  table : Table
  messages : List WireMessage
  deadLetters : List Str

structure WireTurn where
  message : WireMessage
  outcome : ProviderOutcome
  now : Instant

def WireTurn.read (label : WireTurn) : List Turn :=
  (label.message.read.map fun message => ⟨message, label.outcome, label.now⟩).toList

namespace Wire

def publish (state : Wire) : WireEffect → Wire
  | .nothing => state
  | .malformed => state
  | .retryRefused => state
  | .retry _ followUp => { state with messages := followUp :: state.messages }
  | .deadLetter text => { state with deadLetters := text :: state.deadLetters }

/-- One delivery, from the queue to its acknowledgement, which a failing task gets as well. -/
def turn (policy : DeliveryRetryPolicy) (state : Wire) (label : WireTurn) : Option Wire :=
  if label.message ∈ state.messages then
    let run := deliverFromWire policy (fun _ => label.outcome) label.now state.table label.message
    some (publish { state with table := run.1, messages := state.messages.erase label.message }
      run.2.2)
  else none

theorem turn_of_mem (policy : DeliveryRetryPolicy) (state : Wire) {message : WireMessage}
    (member : message ∈ state.messages) (outcome : ProviderOutcome) (now : Instant) :
    turn policy state ⟨message, outcome, now⟩ = some (publish
      { state with
        table := (deliverFromWire policy (fun _ => outcome) now state.table message).1
        messages := state.messages.erase message }
      (deliverFromWire policy (fun _ => outcome) now state.table message).2.2) := if_pos member

def texts (state : Wire) : List Str :=
  state.messages.map WireMessage.notificationId ++ state.deadLetters

end Wire

/-! ## One delivery -/

/-- An effect about texts, and the same one about the ids they denote. -/
inductive WireEffect.Reads : WireEffect → DeliveryEffect → Prop where
  | nothing : Reads .nothing .nothing
  | retry {countdown : Int} {followUp : WireMessage} {again : Message}
      (read : followUp.read = some again) :
      Reads (.retry countdown followUp) (.retry countdown again)
  | retryRefused : Reads .retryRefused .retryRefused
  | deadLetter {text : Str} {id : UUID} (read : Uuid.parse text = some id) :
      Reads (.deadLetter text) (.deadLetter id)

/-- An effect that publishes nothing but this text. -/
inductive WireEffect.About (text : Str) : WireEffect → Prop where
  | nothing : About text .nothing
  | malformed : About text .malformed
  | retry (countdown : Int) {followUp : WireMessage} (same : followUp.notificationId = text) :
      About text (.retry countdown followUp)
  | retryRefused : About text .retryRefused
  | deadLetter : About text (.deadLetter text)

variable {policy : DeliveryRetryPolicy} {provider : OutboundMessage → ProviderOutcome}
  {now : Instant} {table : Table} {message : WireMessage} {plain : Message}

theorem WireMessage.read_eq_some (read : message.read = some plain) :
    Uuid.parse message.notificationId = some plain.notificationId ∧
      message.retries = plain.retries := by
  obtain ⟨id, parsed, same⟩ := Option.map_eq_some_iff.mp read
  rw [← same]
  exact ⟨parsed, rfl⟩

theorem WireTurn.read_of_malformed {label : WireTurn} (read : label.message.read = none) :
    label.read = [] := by
  rw [WireTurn.read, read]
  rfl

theorem WireTurn.read_of_read {label : WireTurn} (read : label.message.read = some plain) :
    label.read = [⟨plain, label.outcome, label.now⟩] := by
  rw [WireTurn.read, read]
  rfl

theorem Message.notificationId_write (plain : Message) :
    plain.write.notificationId = Uuid.str plain.notificationId := by
  rw [Message.write]

@[simp] theorem Message.read_write (plain : Message) : plain.write.read = some plain := by
  simp [WireMessage.read, Message.write]

theorem applyResultOnWire_reads (read : message.read = some plain) (result : DispatchResult)
    (maxRetries : Int) :
    (applyResultOnWire result message maxRetries).Reads
      (applyDeliveryResult result plain maxRetries) := by
  obtain ⟨parsed, counted⟩ := WireMessage.read_eq_some read
  unfold applyResultOnWire applyDeliveryResult
  by_cases again : result.action = .retry
  · rw [if_pos again, if_pos again]
    by_cases exceeded : (plain.retries : Int) + 1 > maxRetries
    · simp only [WireMessage.retry, Message.retry, counted, exceeded, if_true]
      exact .retryRefused
    · simp only [WireMessage.retry, Message.retry, counted, exceeded, if_false]
      exact .retry (by simp [WireMessage.read, parsed])
  · rw [if_neg again, if_neg again]
    split
    · exact .deadLetter parsed
    · exact .nothing

theorem applyResultOnWire_about (result : DispatchResult) (maxRetries : Int) :
    (applyResultOnWire result message maxRetries).About message.notificationId := by
  unfold applyResultOnWire WireMessage.retry
  by_cases again : result.action = .retry
  · rw [if_pos again]
    by_cases exceeded : (message.retries : Int) + 1 > maxRetries
    · simp only [exceeded, if_true]
      exact .retryRefused
    · simp only [exceeded, if_false]
      exact .retry _ rfl
  · rw [if_neg again]
    split
    · exact .deadLetter
    · exact .nothing

/-- On a text that denotes an id the worker does what it does on the id. -/
theorem deliverFromWire_reads (policy : DeliveryRetryPolicy)
    (provider : OutboundMessage → ProviderOutcome) (now : Instant) (table : Table)
    (read : message.read = some plain) :
    (deliverFromWire policy provider now table message).1 =
        (deliverNotification policy provider now table plain).table ∧
      (deliverFromWire policy provider now table message).2.1 =
        (deliverNotification policy provider now table plain).messages ∧
      (deliverFromWire policy provider now table message).2.2.Reads
        (deliverNotification policy provider now table plain).effect := by
  rw [deliverFromWire, (WireMessage.read_eq_some read).1]
  refine ⟨rfl, rfl, ?_⟩
  dsimp only [deliverNotification]
  cases (dispatch policy provider now table plain.notificationId).result with
  | error raised => exact .nothing
  | ok result => exact applyResultOnWire_reads read result policy.maxRetries

/-- On any other text the worker does nothing. -/
theorem deliverFromWire_malformed (read : message.read = none) :
    deliverFromWire policy provider now table message = (table, [], .malformed) := by
  rw [deliverFromWire, Option.map_eq_none_iff.mp read]

theorem deliverFromWire_about (policy : DeliveryRetryPolicy)
    (provider : OutboundMessage → ProviderOutcome) (now : Instant) (table : Table)
    (message : WireMessage) :
    (deliverFromWire policy provider now table message).2.2.About message.notificationId := by
  unfold deliverFromWire
  split
  · exact .malformed
  · next id parsed =>
      dsimp only
      cases (dispatch policy provider now table id).result with
      | error raised => exact .nothing
      | ok result => exact applyResultOnWire_about result policy.maxRetries

/-! ## Whole runs -/

namespace Wire

/-- Queues of texts, and the queues of the ids that the texts denote. -/
structure Reads (state : Wire) (image : Drain) : Prop where
  table : state.table = image.table
  messages : (state.messages.filterMap WireMessage.read).Perm image.messages
  deadLetters : state.deadLetters.map Uuid.parse = image.deadLetters.map some

variable {state next final : Wire} {image : Drain}

/-- The message that is taken leaves the queue of the ids, if it denotes one. -/
theorem perm_of_taken (member : message ∈ state.messages) :
    (state.messages.filterMap WireMessage.read).Perm
      (message.read.toList ++ (state.messages.erase message).filterMap WireMessage.read) := by
  have taken := (List.perm_cons_erase member).filterMap WireMessage.read
  cases read : message.read with
  | none => rwa [List.filterMap_cons_none read] at taken
  | some plain => rwa [List.filterMap_cons_some read] at taken

/-- Publishing about texts and publishing, as often, about the ids that they denote. -/
theorem Reads.publish {effect : WireEffect} {image' : DeliveryEffect} (reads : Reads state image)
    (same : effect.Reads image') :
    Reads (state.publish effect) (image.publish image') ∧
      (state.publish effect).messages.length + image.messages.length =
        state.messages.length + (image.publish image').messages.length := by
  cases same with
  | nothing => exact ⟨reads, rfl⟩
  | retryRefused => exact ⟨reads, rfl⟩
  | retry read =>
      refine ⟨⟨reads.table, ?_, reads.deadLetters⟩, ?_⟩
      · simpa [Wire.publish, Drain.publish, List.filterMap_cons_some read] using reads.messages
      · simp only [Wire.publish, Drain.publish, List.length_cons]
        omega
  | deadLetter read =>
      exact ⟨⟨reads.table, reads.messages, congrArg₂ List.cons read reads.deadLetters⟩, rfl⟩

/--
A delivery on texts is the delivery on the ids, or none where the text denotes
no id, and only then are there fewer messages that denote none.
-/
theorem Reads.turn {label : WireTurn} (reads : Reads state image)
    (hturn : Wire.turn policy state label = some next) :
    ∃ image', run (Drain.turn policy) image label.read = some image' ∧ Reads next image' ∧
      next.messages.length + image.messages.length + 1 =
        state.messages.length + image'.messages.length + label.read.length := by
  obtain ⟨message, outcome, now⟩ := label
  unfold Wire.turn at hturn
  split at hturn
  · next member =>
      cases hturn
      have shorter := List.length_erase_of_mem member
      have positive := List.length_pos_of_mem member
      have taken := (perm_of_taken member).symm.trans reads.messages
      cases read : message.read with
      | none =>
          rw [read] at taken
          have silent : WireTurn.read ⟨message, outcome, now⟩ = [] :=
            WireTurn.read_of_malformed read
          refine ⟨image, by rw [silent]; rfl, ?_⟩
          rw [deliverFromWire_malformed read, silent]
          refine ⟨⟨reads.table, taken, reads.deadLetters⟩, ?_⟩
          dsimp only [Wire.publish, List.length_nil] at shorter ⊢
          omega
      | some plain =>
          rw [read] at taken
          have visible : WireTurn.read ⟨message, outcome, now⟩ = [⟨plain, outcome, now⟩] :=
            WireTurn.read_of_read read
          have waiting : plain ∈ image.messages := taken.subset List.mem_cons_self
          have left := (List.cons_perm_iff_perm_erase.mp taken).2
          obtain ⟨stored, -, effect⟩ :=
            deliverFromWire_reads policy (fun _ => outcome) now state.table read
          have sameRun : deliverNotification policy (fun _ => outcome) now state.table plain =
              deliverNotification policy (fun _ => outcome) now image.table plain := by
            rw [reads.table]
          rw [sameRun] at stored effect
          have begun : Reads
              ⟨(deliverFromWire policy (fun _ => outcome) now state.table message).1,
                state.messages.erase message, state.deadLetters⟩
              ⟨(deliverNotification policy (fun _ => outcome) now image.table plain).table,
                image.messages.erase plain, image.deadLetters⟩ :=
            ⟨stored, left, reads.deadLetters⟩
          have shorter' := List.length_erase_of_mem waiting
          have positive' := List.length_pos_of_mem waiting
          obtain ⟨ended, published⟩ := begun.publish effect
          refine ⟨_, ?_, ended, ?_⟩
          · rw [visible]
            exact run_cons_eq_some.mpr ⟨_, if_pos waiting, rfl⟩
          · rw [visible]
            dsimp only [List.length_singleton] at shorter published ⊢
            omega
  · cases hturn

theorem texts_publish {effect : WireEffect} {text : Str} (about : effect.About text) :
    (state.publish effect).texts ⊆ text :: state.texts := by
  cases about with
  | nothing => exact List.subset_cons_self text _
  | malformed => exact List.subset_cons_self text _
  | retryRefused => exact List.subset_cons_self text _
  | retry countdown same => simp [texts, Wire.publish, same]
  | deadLetter =>
      intro other queued
      simp only [texts, Wire.publish, List.mem_append, List.mem_cons] at queued ⊢
      exact or_left_comm.mp queued

/-- Nothing is published but texts that were in a queue. -/
theorem texts_turn {label : WireTurn} (hturn : Wire.turn policy state label = some next) :
    next.texts ⊆ state.texts := by
  obtain ⟨message, outcome, now⟩ := label
  unfold Wire.turn at hturn
  split at hturn
  · next member =>
      cases hturn
      have own : message.notificationId ∈ state.texts :=
        List.mem_append_left _ (List.mem_map_of_mem member)
      have kept : texts ⟨(deliverFromWire policy (fun _ => outcome) now state.table message).1,
          state.messages.erase message, state.deadLetters⟩ ⊆ state.texts :=
        List.append_subset.mpr ⟨fun text waits => List.mem_append_left _
          (List.map_subset _ List.erase_subset waits), List.subset_append_right _ _⟩
      have about := deliverFromWire_about policy (fun _ => outcome) now state.table message
      exact List.Subset.trans (texts_publish about) (List.cons_subset.mpr ⟨own, kept⟩)
  · cases hturn

theorem texts_run {turns : List WireTurn}
    (ran : run (Wire.turn policy) state turns = some final) : final.texts ⊆ state.texts :=
  run_invariant (I := fun reached => reached.texts ⊆ state.texts)
    (fun _ _ _ before hturn => List.Subset.trans (texts_turn hturn) before)
    (List.Subset.refl _) ran

theorem Reads.run {turns : List WireTurn} (reads : Reads state image)
    (ran : run (Wire.turn policy) state turns = some final) :
    ∃ image', StepMachine.run (Drain.turn policy) image (turns.flatMap WireTurn.read) =
      some image' ∧ Reads final image' := by
  refine run_translates WireTurn.read ?_ reads ran
  intro before image label after reads hturn
  obtain ⟨image', hrun, reads', -⟩ := reads.turn hturn
  exact ⟨image', hrun, reads'⟩

/--
A run over texts is, for the database and the publications, a run over the ids
that the texts denote: a message that denotes no id does nothing, another
spelling of an id does what the id does, and every text that is queued was
queued at the start.
-/
theorem texts_stand_for_ids (policy : DeliveryRetryPolicy) {state final : Wire} {image : Drain}
    (reads : Reads state image) (turns : List WireTurn)
    (ran : run (Wire.turn policy) state turns = some final) :
    (∃ image', run (Drain.turn policy) image (turns.flatMap WireTurn.read) = some image' ∧
      Reads final image') ∧ final.texts ⊆ state.texts :=
  ⟨reads.run ran, texts_run ran⟩

/-- Another spelling of the id and a text that is no id: the row is SENT by the first message. -/
def otherSpellings : List WireMessage :=
  [⟨.ofString "malformed", 0⟩, ⟨.ofString "{00000000-0000-0000-0000-00000000000F}", 0⟩]

theorem reads_otherSpellings (table : Table) :
    Reads ⟨table, otherSpellings, []⟩ ⟨table, [⟨15, 0⟩], []⟩ := by
  have read : otherSpellings.filterMap WireMessage.read = [⟨15, 0⟩] := by decide +kernel
  exact ⟨rfl, List.Perm.of_eq read, rfl⟩

theorem texts_stand_for_ids_otherSpellings :
    ∃ final,
      (∃ image', run (Drain.turn .default) ⟨.single (create 7 (.welcome none) 15), [⟨15, 0⟩], []⟩
          ((otherSpellings.map fun message => ⟨message, .returned, 0⟩).flatMap WireTurn.read) =
            some image' ∧ Reads final image') ∧
        final.texts ⊆ texts ⟨.single (create 7 (.welcome none) 15), otherSpellings, []⟩ :=
  ⟨_, texts_stand_for_ids .default (reads_otherSpellings (.single (create 7 (.welcome none) 15)))
    _ rfl⟩

/-! ## What the application writes -/

end Wire

def Drain.write (image : Drain) : Wire :=
  ⟨image.table, image.messages.map Message.write, image.deadLetters.map Uuid.str⟩

def Turn.write (label : Turn) : WireTurn := ⟨label.message.write, label.outcome, label.now⟩

def DeliveryEffect.write : DeliveryEffect → WireEffect
  | .nothing => .nothing
  | .retry countdown followUp => .retry countdown followUp.write
  | .retryRefused => .retryRefused
  | .deadLetter id => .deadLetter (Uuid.str id)

theorem Message.write_injective : Function.Injective Message.write := by
  intro plain other same
  have read := congrArg WireMessage.read same
  rw [Message.read_write, Message.read_write] at read
  exact Option.some.inj read

/-- An effect that keeps the text of an id as the application writes it. -/
theorem WireEffect.Reads.eq_write {effect : WireEffect} {image : DeliveryEffect} {text : Str}
    {id : UUID} (reads : effect.Reads image) (about : effect.About text)
    (spelled : text = Uuid.str id) : effect = image.write := by
  cases about with
  | nothing => cases reads; rfl
  | malformed => cases reads
  | retryRefused => cases reads; rfl
  | retry countdown same =>
      cases reads with
      | retry read =>
          obtain ⟨parsed, counted⟩ := WireMessage.read_eq_some read
          rw [same, spelled, Uuid.parse_str, Option.some.injEq] at parsed
          rw [DeliveryEffect.write, Message.write, ← parsed, ← spelled, ← same, ← counted]
  | deadLetter =>
      cases reads with
      | deadLetter read =>
          rw [spelled, Uuid.parse_str, Option.some.injEq] at read
          rw [DeliveryEffect.write, spelled, read]

theorem Drain.write_publish (image : Drain) (effect : DeliveryEffect) :
    (image.publish effect).write = image.write.publish effect.write := by
  cases effect <;> rfl

/-- A delivery of an id is a delivery of its text. -/
theorem Drain.write_turn {image next : Drain} {label : Turn}
    (hturn : Drain.turn policy image label = some next) :
    Wire.turn policy image.write label.write = some next.write := by
  obtain ⟨plain, outcome, now⟩ := label
  unfold Drain.turn at hturn
  split at hturn
  · next member =>
      cases hturn
      obtain ⟨stored, -, reads⟩ := deliverFromWire_reads policy (fun _ => outcome) now image.table
        (Message.read_write plain)
      have about := deliverFromWire_about policy (fun _ => outcome) now image.table plain.write
      have effect := reads.eq_write about (Message.notificationId_write plain)
      have waits : plain.write ∈ image.messages.map Message.write := List.mem_map_of_mem member
      have left : (image.messages.map Message.write).erase plain.write =
          (image.messages.erase plain).map Message.write :=
        (List.map_erase Message.write_injective image.messages).symm
      have taken := Wire.turn_of_mem policy image.write waits outcome now
      dsimp only [Drain.write] at taken
      rw [stored, effect, left] at taken
      rw [Drain.write_publish]
      exact taken
  · cases hturn

/-- Every run over ids is a run over their texts: what the application queues is read back. -/
theorem Drain.write_run {image final : Drain} {turns : List Turn}
    (ran : run (Drain.turn policy) image turns = some final) :
    run (Wire.turn policy) image.write (turns.map Turn.write) = some final.write := by
  have matched : ∀ image state label next, state = Drain.write image →
      Drain.turn policy image label = some next →
      ∃ state', run (Wire.turn policy) state [label.write] = some state' ∧ state' = next.write := by
    rintro image _ label next rfl hturn
    exact ⟨_, run_cons_eq_some.mpr ⟨_, Drain.write_turn hturn, rfl⟩, rfl⟩
  obtain ⟨written, hrun, rfl⟩ := run_translates (fun label => [Turn.write label]) matched rfl ran
  rwa [← List.map_eq_flatMap] at hrun

def retriedTurns : List Turn :=
  [⟨⟨1, 0⟩, .raised ⟨false, []⟩, 0⟩, ⟨⟨1, 1⟩, .returned, 0⟩]

theorem Drain.write_run_retried :
    ∃ final, run (Drain.turn .default) (.start (.single (create 7 (.welcome none) 1)) 1 1)
        retriedTurns = some final ∧
      run (Wire.turn .default) (Drain.start (.single (create 7 (.welcome none) 1)) 1 1).write
        (retriedTurns.map Turn.write) = some final.write :=
  ⟨_, rfl, write_run rfl⟩

namespace Wire

variable {state next final : Wire} {image : Drain}

/-! ## One row, however its id is spelled -/

/-- The texts of the messages that denote an id denote this one, and its row is sound. -/
def Tracks (policy : DeliveryRetryPolicy) (id : UUID) (state : Wire) : Prop :=
  ∃ image row, Reads state image ∧ Drain.Sound policy id row image

def capacity (policy : DeliveryRetryPolicy) (id : UUID) (state : Wire) : ℕ :=
  state.messages.length + ((state.table.getById id).map (Drain.remaining policy)).getD 0

variable {id : UUID}

/-- If the text denotes an id, the outcome can be recorded at every attempt. -/
def Recorded (policy : DeliveryRetryPolicy) (label : WireTurn) : Prop :=
  label.message.read ≠ none → label.outcome.recordable policy.maxAttempts.toNat = true

/-- A delivery uses up a message or an attempt, whether or not its text denotes an id, and one
that is recorded leaves no live row without a message. -/
theorem Reads.turn_sound {row : Notification} {label : WireTurn} (reads : Reads state image)
    (sound : Drain.Sound policy id row image) (hturn : Wire.turn policy state label = some next) :
    ∃ image' row', Reads next image' ∧ Drain.Sound policy id row' image' ∧
      next.capacity policy id + 1 ≤ state.capacity policy id ∧
      (Recorded policy label → Drain.Attended row image → Drain.Attended row' image') := by
  obtain ⟨image', hrun, reads', length⟩ := reads.turn hturn
  have before : state.capacity policy id =
      state.messages.length + Drain.remaining policy row := by
    rw [capacity, reads.table, sound.found]
    rfl
  have after : ∀ row', Drain.Sound policy id row' image' → next.capacity policy id =
      next.messages.length + Drain.remaining policy row' := by
    intro row' sound'
    rw [capacity, reads'.table, sound'.found]
    rfl
  cases read : label.message.read with
  | none =>
      rw [WireTurn.read_of_malformed read] at hrun length
      cases hrun
      refine ⟨image, row, reads', sound, ?_, fun _ attended => attended⟩
      rw [before, after row sound]
      dsimp only [List.length_nil] at length
      omega
  | some plain =>
      rw [WireTurn.read_of_read read] at hrun length
      obtain ⟨middle, hstep, hrest⟩ := run_cons_eq_some.mp hrun
      cases hrest
      obtain ⟨row', ⟨sound', shorter⟩, attended⟩ := sound.turn hstep
      refine ⟨image', row', reads', sound', ?_, fun recorded _ => attended ?_⟩
      · rw [before, after row' sound']
        dsimp only [List.length_singleton] at length
        omega
      · have recordable := recorded (by rw [read]; rintro ⟨⟩)
        exact sound.records (sound.own plain (Drain.mem_of_turn hstep)).1 recordable

/-- A delivery uses up a message or an attempt, whether or not its text denotes an id. -/
theorem Tracks.turn {label : WireTurn} (tracks : Tracks policy id state)
    (hturn : Wire.turn policy state label = some next) :
    Tracks policy id next ∧ next.capacity policy id + 1 ≤ state.capacity policy id := by
  obtain ⟨image, row, reads, sound⟩ := tracks
  obtain ⟨image', row', reads', sound', shorter, -⟩ := reads.turn_sound sound hturn
  exact ⟨⟨image', row', reads', sound'⟩, shorter⟩

theorem Tracks.run {turns : List WireTurn} (tracks : Tracks policy id state)
    (ran : StepMachine.run (Wire.turn policy) state turns = some final) :
    Tracks policy id final ∧
      turns.length + final.capacity policy id ≤ state.capacity policy id :=
  ⟨run_invariant (fun _ _ _ tracks hturn => (tracks.turn hturn).1) tracks ran,
    run_length_le (fun _ _ _ tracks hturn => (tracks.turn hturn).1)
      (fun _ _ _ tracks hturn => (tracks.turn hturn).2) tracks ran⟩

def Attends (policy : DeliveryRetryPolicy) (id : UUID) (state : Wire) : Prop :=
  ∃ image row, Reads state image ∧ Drain.Sound policy id row image ∧ Drain.Attended row image

theorem Attends.tracks (attends : Attends policy id state) : Tracks policy id state := by
  obtain ⟨image, row, reads, sound, -⟩ := attends
  exact ⟨image, row, reads, sound⟩

theorem Attends.run {turns : List WireTurn} (attends : Attends policy id state)
    (recorded : ∀ label ∈ turns, Recorded policy label)
    (ran : StepMachine.run (Wire.turn policy) state turns = some final) :
    Attends policy id final := by
  refine run_guarded_invariant (G := fun _ label _ => Recorded policy label) ?_ attends
    (Along.of_labels (fun label member _ _ => recorded label member) _) ran
  rintro before label after ⟨image, row, reads, sound, attended⟩ recorded hturn
  obtain ⟨image', row', reads', sound', -, attended'⟩ := reads.turn_sound sound hturn
  exact ⟨image', row', reads', sound', attended' recorded attended⟩

/-- Nothing waits only when the row is terminal, and a `FAILED` row's id is dead-lettered once. -/
theorem Attends.drained (attends : Attends policy id state) (empty : state.messages = []) :
    ∃ row, state.table.getById id = some row ∧
      (row.status = .sent ∧ state.deadLetters = [] ∨
        row.status = .failed ∧ ∃ text, Uuid.parse text = some id ∧ state.deadLetters = [text]) := by
  obtain ⟨image, row, reads, sound, attended⟩ := attends
  have none_left : image.messages = [] := by
    have same := reads.messages
    rw [empty] at same
    exact same.nil_eq.symm
  refine ⟨row, by rw [reads.table, sound.found], ?_⟩
  have read := reads.deadLetters
  rcases sound.drained attended none_left with ⟨sent, dead⟩ | ⟨failed, dead⟩
  · rw [dead] at read
    exact .inl ⟨sent, List.map_eq_nil_iff.mp read⟩
  · rw [dead] at read
    obtain ⟨text, rest, all, parsed, ended⟩ := List.map_eq_cons_iff.mp read
    rw [List.map_eq_nil_iff.mp ended] at all
    exact .inr ⟨failed, text, parsed, all⟩

structure Drains (policy : DeliveryRetryPolicy) (id : UUID) (waiting : List WireMessage)
    (turns : List WireTurn) (final : Wire) : Prop where
  bounded : ((turns.length + final.messages.length : ℕ) : Int) ≤
    waiting.length + policy.maxAttempts - 1
  drained : (∀ label ∈ turns, Recorded policy label) → final.messages = [] →
    ∃ row, final.table.getById id = some row ∧
    (row.status = .sent ∧ final.deadLetters = [] ∨
      row.status = .failed ∧ ∃ message ∈ waiting,
        Uuid.parse message.notificationId = some id ∧
          final.deadLetters = [message.notificationId])

end Wire

end NotificationsEngine
