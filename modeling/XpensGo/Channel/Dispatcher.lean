import XpensGo.Channel.Execution
import XpensGo.Channel.Publication
import XpensGo.Concurrency.ForEach

/-!
# The dispatcher

`dispatchPendingOutbox` claims a batch of messages and publishes them in a loop
of at most five concurrent effects.  An effect asks the queue to take its job
and then records the answer of the queue in the store.  An answer that is no
acceptance is recorded like an acceptance, so only the store can make an effect
fail.  Other dispatchers, consumers and operators work on the same outbox at
any time.
-/

namespace XpensGo

open Postgres Relational Transition Concurrency ChannelDatabase

/-- What the dispatcher counts a publication as. -/
inductive DispatchOutcome where
  | published
  | deferred
  | failed
  deriving DecidableEq, Repr

/-- What `dispatchPendingOutbox` reports. -/
structure OutboxDispatchSummary where
  claimed : Nat
  published : Nat
  deferred : Nat
  failed : Nat
  deriving DecidableEq, Repr

/-- Where the effect of a message stands between its two calls. -/
inductive DispatchPhase where
  | publishing
  | recording (outcome : QueueOutcome)
  deriving DecidableEq, Repr

/-- A call of an effect with what its environment makes of it. -/
inductive DispatchCall where
  | publish (outcome : QueueOutcome)
  | record (fate : CallFate) (clock : DatabaseClock)

/-- The outbox with the requests that the batch has made to the queue and the
transitions that it has executed. -/
structure DispatchStore where
  publication : PublicationState
  requests : List (ClaimedOutboxPublication × QueueOutcome) := []
  transitions : List (ClaimedOutboxPublication × QueueOutcome) := []

/-- The loop over the claimed messages, on the tables of the outbox. -/
abbrev DispatchState :=
  LoopState ClaimedOutboxPublication DispatchPhase DispatchOutcome
    DispatchStore

/-- A step of the loop, or one of somebody else. -/
abbrev DispatchAction :=
  LoopAction ClaimedOutboxPublication DispatchCall PublicationAction

/-- So many messages are published at the same time. -/
def dispatchConcurrency : Nat := 5

namespace ClaimedOutboxPublication

/-- How the summary counts a message. -/
def dispatchOutcome (message : ClaimedOutboxPublication) :
    QueueOutcome → DispatchOutcome
  | .accepted => .published
  | .unavailable | .unknown _ =>
      if dispatchClaimInput.maximumAttempts ≤ message.attempt then .failed
      else .deferred

/-- The effect of a message.  No failure of the store is caught. -/
def dispatch (message : ClaimedOutboxPublication) :
    DispatchPhase → DispatchCall → DispatchStore →
      Option (DispatchStore × EffectStep DispatchPhase DispatchOutcome)
  | .publishing, .publish outcome, store =>
      some ({ store with requests := store.requests ++ [(message, outcome)] },
        .continues (.recording outcome))
  | .recording outcome, .record fate clock, store =>
      let settlement :=
        settle fate (message.report clock outcome) store.publication.database
      some
        ({ publication := { store.publication with
            database := settlement.database }
           requests := store.requests
           transitions := store.transitions ++ [(message, outcome)] },
          match settlement.seen with
          | some _ => .succeeds (message.dispatchOutcome outcome)
          | none => .fails)
  | _, _, _ => none

end ClaimedOutboxPublication

/-- The loop that publishes the claimed messages and records how it went. -/
def dispatchLoop (claimed : List ClaimedOutboxPublication) :
    ForEach ClaimedOutboxPublication DispatchPhase DispatchOutcome
      DispatchStore DispatchCall PublicationAction :=
  { elements := claimed
    bound := dispatchConcurrency
    enter := fun _ => .publishing
    effect := ClaimedOutboxPublication.dispatch
    others := fun action store =>
      (publicationSystem.next store.publication action).map
        (fun publication => { store with publication := publication }) }

/-- The dispatcher and all others from the transaction on that claimed the
batch. -/
def dispatchSystem (claimed : List ClaimedOutboxPublication)
    (publication : PublicationState) : System DispatchState DispatchAction :=
  (dispatchLoop claimed).system { publication := publication }

/-- What the dispatcher returns if no effect fails. -/
def dispatchSummary (claimed : List ClaimedOutboxPublication)
    (state : DispatchState) : Option OutboxDispatchSummary :=
  ((dispatchLoop claimed).results state).map (fun outcomes =>
    let published := outcomes.count .published
    let failed := outcomes.count .failed
    { claimed := claimed.length
      published := published
      deferred := outcomes.length - published - failed
      failed := failed })

section Outcomes

/-- How a store write that follows a publication ends for the dispatcher. -/
inductive WriteOutcome where
  | succeeds
  | conflicts
  | unavailable
  deriving DecidableEq, Repr

/-- What happens to one message of a batch. -/
structure PublicationOutcome where
  queue : QueueOutcome
  write : WriteOutcome
  deriving DecidableEq, Repr

namespace ClaimedOutboxPublication

variable (message : ClaimedOutboxPublication) (clock : DatabaseClock)
  (outcome : QueueOutcome)

/-- How the transaction that reports an answer of the queue ends. -/
def writeOutcome (fate : CallFate) (db : ChannelDatabase) : WriteOutcome :=
  match fate, message.report clock outcome db with
  | .answered, .ok _ => .succeeds
  | .answered, .error (.outboxPublicationStateConflict _ _) => .conflicts
  | _, _ => .unavailable

/-- What the transition of a message makes of a row: a row that is not held
under the claim of the message stays as it is. -/
def recordedRow (row : OutboxMessageRow) : OutboxMessageRow :=
  if row.status = .pending ∧ row.publishClaimId = some message.claimId then
    match outcome with
    | .accepted => row.publish clock
    | .unavailable =>
        row.failPublication clock (message.failure .queueUnavailable)
    | .unknown _ =>
        row.failPublication clock (message.failure .queueOutcomeUnknown)
  else
    row

end ClaimedOutboxPublication

/-- The queue and the store answer the messages of a batch as assigned. -/
def Realizes (outcomes : ClaimedOutboxPublication → PublicationOutcome)
    (state : DispatchState) : DispatchAction → Prop
  | .start | .others _ => True
  | .step message (.publish outcome) => outcome = (outcomes message).queue
  | .step message (.record fate clock) =>
      message.writeOutcome clock (outcomes message).queue fate
        state.store.publication.database = (outcomes message).write

instance (outcomes : ClaimedOutboxPublication → PublicationOutcome)
    (state : DispatchState) (action : DispatchAction) :
    Decidable (Realizes outcomes state action) :=
  match action with
  | .start | .others _ => inferInstanceAs (Decidable True)
  | .step message (.publish outcome) =>
      inferInstanceAs (Decidable (outcome = (outcomes message).queue))
  | .step message (.record fate clock) =>
      inferInstanceAs (Decidable (message.writeOutcome clock
        (outcomes message).queue fate state.store.publication.database =
          (outcomes message).write))

end Outcomes

section Summary

private theorem length_of_mapM {α β : Type} {f : α → Option β} {elements : List α}
    {results : List β} (mapped : elements.mapM f = some results) :
    results.length = elements.length := by
  induction elements generalizing results with
  | nil =>
      cases mapped
      rfl
  | cons element elements induction =>
      simp only [List.mapM_cons, Option.pure_def, Option.bind_eq_bind,
        Option.bind_eq_some_iff] at mapped
      obtain ⟨result, _, rest, later, same⟩ := mapped
      cases same
      rw [List.length_cons, List.length_cons, induction later]

private theorem count_outcomes (outcomes : List DispatchOutcome) :
    outcomes.length = outcomes.count .published + outcomes.count .deferred +
      outcomes.count .failed := by
  induction outcomes with
  | nil => rfl
  | cons outcome outcomes induction =>
      cases outcome with
      | published | deferred | failed =>
          simp only [List.length_cons, List.count_cons, induction, beq_iff_eq,
            reduceCtorEq, if_true, if_false]
          omega

/-- Every claimed message is counted once. -/
theorem dispatchSummary_complete {claimed : List ClaimedOutboxPublication}
    {state : DispatchState} {summary : OutboxDispatchSummary}
    (returned : dispatchSummary claimed state = some summary) :
    summary.published + summary.deferred + summary.failed =
      summary.claimed := by
  obtain ⟨outcomes, mapped, rfl⟩ := Option.map_eq_some_iff.mp returned
  have length : outcomes.length = claimed.length := length_of_mapM mapped
  have counted := count_outcomes outcomes
  simp only
  omega

end Summary

section Recording

variable {db : ChannelDatabase} {message : ClaimedOutboxPublication}
  {clock : DatabaseClock} {outcome : QueueOutcome} {fate : CallFate}

private theorem recordFailure_of_held {db' : ChannelDatabase}
    {errorCode : OutboxPublicationFailureCode}
    (held : db.publicationHeld message.mark = true)
    (updated : db.updateOutboxMessage message.outboxMessageId
      (OutboxMessageRow.failPublication clock (message.failure errorCode)) =
        some db') :
    recordOutboxPublicationFailure clock (message.failure errorCode) db =
      .ok ((), db') := by
  have guarded : db.publicationHeld
      (message.failure errorCode).toMarkOutboxPublishedInput = true := held
  unfold recordOutboxPublicationFailure
  rw [if_pos guarded]
  exact bind_eq_ok.mpr ⟨_, require_eq_ok.mpr updated, rfl⟩

theorem report_of_held (legal : db.LegalOutbox)
    (held : db.publicationHeld message.mark = true) :
    message.report clock outcome db = .ok ((), { db with
      outbox := db.outbox.modify message.outboxMessageId
        (message.recordedRow clock outcome) }) := by
  obtain ⟨row, found, pending, claim⟩ := publicationHeld_iff.mp held
  have checked := legal _ _ found
  have recorded : ∀ set : OutboxMessageRow → OutboxMessageRow,
      message.recordedRow clock outcome row = set row →
      (set row).check = true →
      db.updateOutboxMessage message.outboxMessageId set = some { db with
        outbox := db.outbox.modify message.outboxMessageId
          (message.recordedRow clock outcome) } := by
    intro set same written
    apply updateOutboxMessage_eq_some_iff.mpr
    constructor
    · intro other present
      obtain rfl := Option.some.inj (found.symm.trans present)
      exact written
    · congr 1
      apply Table.modify_congr
      intro other present
      obtain rfl := Option.some.inj (found.symm.trans present)
      exact same
  have guarded : row.status = .pending ∧
      row.publishClaimId = some message.claimId := ⟨pending, claim⟩
  cases outcome with
  | accepted =>
      have updated := recorded (OutboxMessageRow.publish clock)
        (if_pos guarded) (OutboxMessageRow.check_publish checked pending)
      change markOutboxPublished clock message.mark db = _
      unfold markOutboxPublished
      rw [if_pos held]
      exact bind_eq_ok.mpr ⟨_, require_eq_ok.mpr updated, rfl⟩
  | unavailable =>
      exact recordFailure_of_held held (recorded _ (if_pos guarded)
        (OutboxMessageRow.check_failPublication checked pending _))
  | unknown delivered =>
      exact recordFailure_of_held held (recorded _ (if_pos guarded)
        (OutboxMessageRow.check_failPublication checked pending _))

theorem report_of_not_held (clock : DatabaseClock) (outcome : QueueOutcome)
    (lost : db.publicationHeld message.mark = false) :
    ∃ operation, message.report clock outcome db =
      db.resolveClaimTransition operation message.outboxMessageId := by
  have unheld : ¬ db.publicationHeld message.mark = true := by simp [lost]
  cases outcome with
  | accepted => exact ⟨_, if_neg unheld⟩
  | unavailable | unknown delivered => exact ⟨_, if_neg unheld⟩

theorem writeOutcome_of_held (legal : db.LegalOutbox)
    (held : db.publicationHeld message.mark = true) :
    message.writeOutcome clock outcome .answered db = .succeeds := by
  simp only [ClaimedOutboxPublication.writeOutcome, report_of_held legal held]

/-- A message that the dispatcher no longer holds and nobody has published. -/
theorem writeOutcome_of_taken {row : OutboxMessageRow}
    (found : db.outbox.find? message.outboxMessageId = some row)
    (unpublished : row.status ≠ .published)
    (taken : row.status = .pending →
      row.publishClaimId ≠ some message.claimId) :
    message.writeOutcome clock outcome .answered db = .conflicts := by
  have unheld : db.publicationHeld message.mark = false := by
    apply Bool.eq_false_iff.mpr
    intro held
    obtain ⟨other, present, pending, claim⟩ := publicationHeld_iff.mp held
    obtain rfl := Option.some.inj (found.symm.trans present)
    exact taken pending claim
  obtain ⟨operation, resolved⟩ := report_of_not_held clock outcome unheld
  have conflict : message.report clock outcome db = .error
      (.outboxPublicationStateConflict operation
        message.outboxMessageId) := by
    simp [resolved, resolveClaimTransition, found, unpublished]
  simp only [ClaimedOutboxPublication.writeOutcome, conflict]

theorem writeOutcome_of_refused :
    message.writeOutcome clock outcome .refused db = .unavailable := by
  simp only [ClaimedOutboxPublication.writeOutcome]

private theorem settle_seen :
    (settle fate (message.report clock outcome) db).seen =
      if message.writeOutcome clock outcome fate db = .succeeds then some ()
      else none := by
  cases ran : message.report clock outcome db with
  | ok value =>
      cases fate with
      | answered | refused | lost =>
          simp [settle, withTransaction,
            ClaimedOutboxPublication.writeOutcome, ran]
  | error failure =>
      cases failure with
      | persistenceUnavailable operation
      | outboxPublicationStateConflict operation outboxMessageId =>
          cases fate with
          | answered | refused | lost =>
              simp [settle, withTransaction,
                ClaimedOutboxPublication.writeOutcome, ran]

/-- The effect of a message fails if and only if its write does. -/
theorem dispatch_recording {store : DispatchStore} :
    message.dispatch (.recording outcome) (.record fate clock) store = some
      ({ publication := { store.publication with
          database := (settle fate (message.report clock outcome)
            store.publication.database).database }
         requests := store.requests
         transitions := store.transitions ++ [(message, outcome)] },
        if message.writeOutcome clock outcome fate
            store.publication.database = .succeeds then
          .succeeds (message.dispatchOutcome outcome)
        else
          .fails) := by
  simp only [ClaimedOutboxPublication.dispatch, settle_seen]
  by_cases succeeds : message.writeOutcome clock outcome fate
      store.publication.database = .succeeds
  · simp only [succeeds, if_true]
  · simp only [succeeds, if_false]

/-- The two calls of an effect. -/
theorem dispatch_cases {store store' : DispatchStore} {phase : DispatchPhase}
    {call : DispatchCall} {result : EffectStep DispatchPhase DispatchOutcome}
    (ran : message.dispatch phase call store = some (store', result)) :
    (∃ outcome, phase = .publishing ∧ call = .publish outcome ∧
      store' = { store with
        requests := store.requests ++ [(message, outcome)] } ∧
      result = .continues (.recording outcome)) ∨
    ∃ outcome fate clock, phase = .recording outcome ∧
      call = .record fate clock ∧
      store' =
        { publication := { store.publication with
            database := (settle fate (message.report clock outcome)
              store.publication.database).database }
          requests := store.requests
          transitions := store.transitions ++ [(message, outcome)] } ∧
      result =
        if message.writeOutcome clock outcome fate
            store.publication.database = .succeeds then
          .succeeds (message.dispatchOutcome outcome)
        else
          .fails := by
  cases phase with
  | publishing =>
      cases call with
      | publish outcome =>
          cases ran
          exact .inl ⟨outcome, rfl, rfl, rfl, rfl⟩
      | record fate clock => cases ran
  | recording outcome =>
      cases call with
      | publish other => cases ran
      | record fate clock =>
          rw [dispatch_recording] at ran
          cases ran
          exact .inr ⟨outcome, fate, clock, rfl, rfl, rfl, rfl⟩

/-- What a call of a message leaves of the database. -/
theorem settle_report (message : ClaimedOutboxPublication) (fate : CallFate)
    (clock : DatabaseClock) (outcome : QueueOutcome)
    (legal : db.LegalOutbox) :
    (settle fate (message.report clock outcome) db).database = db ∧
        (fate = .refused ∨ db.publicationHeld message.mark = false) ∨
      fate ≠ .refused ∧
        (settle fate (message.report clock outcome) db).database = { db with
          outbox := db.outbox.modify message.outboxMessageId
            (message.recordedRow clock outcome) } := by
  by_cases refused : fate = .refused
  · subst refused
    exact .inl ⟨rfl, .inl rfl⟩
  · cases held : db.publicationHeld message.mark with
    | true =>
        exact .inr ⟨refused,
          settle_database refused (report_of_held legal held)⟩
    | false =>
        refine .inl ⟨?_, .inr rfl⟩
        obtain ⟨operation, resolved⟩ :=
          report_of_not_held clock outcome held
        rcases settle_cases fate (message.report clock outcome) db with
          unchanged | ⟨answer, database, seen, ran, _, settled⟩
        · rw [unchanged]
        · rw [settled]
          rw [resolved] at ran
          exact resolveClaimTransition_eq_ok ran

theorem settle_report_receipts (legal : db.LegalOutbox) :
    (settle fate (message.report clock outcome) db).database.receipts =
      db.receipts := by
  rcases settle_report message fate clock outcome legal with
    ⟨unchanged, _⟩ | ⟨_, written⟩
  · rw [unchanged]
  · rw [written]

/-- A call of a message writes the row of no other message. -/
theorem settle_report_find? (legal : db.LegalOutbox)
    {outboxMessageId : OutboxMessageId} {row : OutboxMessageRow}
    (found : db.outbox.find? outboxMessageId = some row) :
    (settle fate (message.report clock outcome) db).database.outbox.find?
        outboxMessageId = some
      (if outboxMessageId = message.outboxMessageId ∧ fate ≠ .refused then
        message.recordedRow clock outcome row
      else
        row) := by
  rcases settle_report message fate clock outcome legal with
    ⟨unchanged, reason⟩ | ⟨permitted, written⟩
  · rw [unchanged, found]
    rcases reason with rfl | unheld
    · simp
    · by_cases own : outboxMessageId = message.outboxMessageId ∧
          fate ≠ .refused
      · rw [if_pos own]
        have untouched : ¬ (row.status = .pending ∧
            row.publishClaimId = some message.claimId) := by
          rintro ⟨pending, claim⟩
          rw [own.1] at found
          have held : db.publicationHeld message.mark = true :=
            publicationHeld_iff.mpr ⟨row, found, pending, claim⟩
          rw [unheld] at held
          cases held
        exact congrArg some (if_neg untouched).symm
      · rw [if_neg own]
  · rw [written]
    by_cases own : outboxMessageId = message.outboxMessageId
    · subst own
      rw [if_pos ⟨rfl, permitted⟩, Table.find?_modify_self, found,
        Option.map_some]
    · rw [if_neg (fun both => own both.1), Table.find?_modify_of_ne _ _ own,
        found]

end Recording

section Refinement

variable {claimed : List ClaimedOutboxPublication}
  {start : PublicationState} {state state' : DispatchState}
  {action : DispatchAction}

/-- The transaction of a message among the transactions of the outbox. -/
def ClaimedOutboxPublication.recordAction (message : ClaimedOutboxPublication)
    (clock : DatabaseClock) : QueueOutcome → PublicationAction
  | .accepted => .markPublished clock message.mark
  | .unavailable =>
      .recordPublicationFailure clock (message.failure .queueUnavailable)
  | .unknown _ =>
      .recordPublicationFailure clock (message.failure .queueOutcomeUnknown)

private theorem next_run {publication : PublicationState} {fate : CallFate}
    {transaction : ChannelDatabase →
      Except ChannelStoreFailure (Unit × ChannelDatabase)}
    (permitted : fate ≠ .refused) :
    publication.run transaction (fun _ => []) =
      { publication with
        database :=
          (settle fate transaction publication.database).database } := by
  rcases withTransaction_cases transaction publication.database with
    ⟨failure, failed, rolledBack⟩ | ⟨outcome, database, ran, committed⟩
  · cases fate with
    | refused => exact absurd rfl permitted
    | answered | lost => simp [PublicationState.run, settle, rolledBack]
  · rw [settle_database permitted ran]
    simp [PublicationState.run, committed]

/-- A call of a message changes nothing or is a transaction of the outbox. -/
theorem settle_report_refines (publication : PublicationState)
    (message : ClaimedOutboxPublication) (fate : CallFate)
    (clock : DatabaseClock) (outcome : QueueOutcome) :
    (settle fate (message.report clock outcome)
        publication.database).database = publication.database ∨
      publicationSystem.next publication (message.recordAction clock outcome) =
        some { publication with
          database := (settle fate (message.report clock outcome)
            publication.database).database } := by
  by_cases refused : fate = .refused
  · subst refused
    exact .inl rfl
  · right
    cases outcome with
    | accepted | unavailable | unknown delivered =>
        exact congrArg some (next_run refused)

theorem reachable_publication (reached : publicationSystem.Reachable start)
    (dispatched : (dispatchSystem claimed start).Reachable state) :
    publicationSystem.Reachable state.store.publication := by
  refine System.Reachable.invariant (I := fun state =>
    publicationSystem.Reachable state.store.publication) ?_ ?_ dispatched
  · rintro state rfl
    exact reached
  · intro state action state' _ earlier taken
    cases ForEach.step_of_next taken with
    | start => exact earlier
    | @step message call phase store result running ran =>
        rcases dispatch_cases ran with
          ⟨outcome, _, _, rfl, _⟩ | ⟨outcome, fate, clock, _, _, rfl, _⟩
        · exact earlier
        · rcases settle_report_refines state.store.publication message fate
              clock outcome with unchanged | moved
          · rw [unchanged]
            exact earlier
          · exact earlier.step moved
    | others ran =>
        obtain ⟨publication, moved, rfl⟩ := Option.map_eq_some_iff.mp ran
        exact earlier.step moved

end Refinement

section History

/-- The effect has asked the queue to take its job. -/
def HasPublished : Progress DispatchPhase DispatchOutcome → Bool
  | .running (.recording _) | .interrupted (.recording _) | .succeeded _
  | .failed => true
  | .waiting | .running .publishing | .interrupted .publishing => false

/-- The effect has called the store. -/
def HasRecorded : Progress DispatchPhase DispatchOutcome → Bool
  | .succeeded _ | .failed => true
  | .waiting | .running _ | .interrupted _ => false

theorem hasPublished_interrupt
    (progress : Progress DispatchPhase DispatchOutcome) :
    HasPublished progress.interrupt = HasPublished progress := by
  cases progress with
  | running phase => cases phase <;> rfl
  | waiting | succeeded _ | failed | interrupted _ => rfl

private theorem hasRecorded_interrupt
    (progress : Progress DispatchPhase DispatchOutcome) :
    HasRecorded progress.interrupt = HasRecorded progress := by
  cases progress <;> rfl

/-- The calls that the history holds for a message. -/
def callsOf (message : ClaimedOutboxPublication)
    (calls : List (ClaimedOutboxPublication × QueueOutcome)) :
    List (ClaimedOutboxPublication × QueueOutcome) :=
  calls.filter (fun call => call.1 = message)

/-- The history holds one call of each kind for every effect that has made
it. -/
structure HistoryOf (outcomes : ClaimedOutboxPublication → PublicationOutcome)
    (state : DispatchState) : Prop where
  recording : ∀ message outcome,
    state.progress message = .running (.recording outcome) →
    outcome = (outcomes message).queue
  requests : ∀ message, callsOf message state.store.requests =
    if HasPublished (state.progress message) then
      [(message, (outcomes message).queue)]
    else
      []
  transitions : ∀ message, callsOf message state.store.transitions =
    if HasRecorded (state.progress message) then
      [(message, (outcomes message).queue)]
    else
      []

variable {claimed : List ClaimedOutboxPublication}
  {start : PublicationState} {state state' : DispatchState}
  {action : DispatchAction}
  {outcomes : ClaimedOutboxPublication → PublicationOutcome}

theorem callsOf_append_self (message : ClaimedOutboxPublication)
    (outcome : QueueOutcome)
    (calls : List (ClaimedOutboxPublication × QueueOutcome)) :
    callsOf message (calls ++ [(message, outcome)]) =
      callsOf message calls ++ [(message, outcome)] := by
  simp [callsOf]

theorem callsOf_append_of_ne {message other : ClaimedOutboxPublication}
    (different : message ≠ other) (outcome : QueueOutcome)
    (calls : List (ClaimedOutboxPublication × QueueOutcome)) :
    callsOf message (calls ++ [(other, outcome)]) = callsOf message calls := by
  simp [callsOf, Ne.symm different]

private theorem HistoryOf.enter (history : HistoryOf outcomes state)
    {chosen : ClaimedOutboxPublication}
    (waiting : state.progress chosen = .waiting) :
    HistoryOf outcomes
      { state with
        progress := Function.update state.progress chosen
          (.running .publishing) } := by
  refine ⟨?_, ?_, ?_⟩
  · intro message outcome recording
    by_cases same : message = chosen
    · subst same
      simp at recording
    · simp only [Function.update_of_ne same] at recording
      exact history.recording message outcome recording
  · intro message
    by_cases same : message = chosen
    · subst same
      simpa [waiting, HasPublished] using history.requests message
    · simpa only [Function.update_of_ne same] using history.requests message
  · intro message
    by_cases same : message = chosen
    · subst same
      simpa [waiting, HasRecorded] using history.transitions message
    · simpa only [Function.update_of_ne same] using
        history.transitions message

private theorem HistoryOf.publish (history : HistoryOf outcomes state)
    {chosen : ClaimedOutboxPublication}
    (running : state.progress chosen = .running .publishing) :
    HistoryOf outcomes
      { store := { state.store with
          requests := state.store.requests ++
            [(chosen, (outcomes chosen).queue)] }
        progress := Function.update state.progress chosen
          (.running (.recording (outcomes chosen).queue)) } := by
  refine ⟨?_, ?_, ?_⟩
  · intro message outcome recording
    by_cases same : message = chosen
    · subst same
      simp only [Function.update_self, Progress.running.injEq,
        DispatchPhase.recording.injEq] at recording
      exact recording.symm
    · simp only [Function.update_of_ne same] at recording
      exact history.recording message outcome recording
  · intro message
    have earlier := history.requests message
    by_cases same : message = chosen
    · subst same
      simp only [running, HasPublished] at earlier
      simp [callsOf_append_self, earlier, HasPublished]
    · simp only [Function.update_of_ne same, callsOf_append_of_ne same]
      exact earlier
  · intro message
    by_cases same : message = chosen
    · subst same
      simpa [running, HasRecorded] using history.transitions message
    · simpa only [Function.update_of_ne same] using
        history.transitions message

private theorem HistoryOf.record (history : HistoryOf outcomes state)
    {chosen : ClaimedOutboxPublication} {outcome : QueueOutcome}
    (running : state.progress chosen = .running (.recording outcome))
    (publication : PublicationState)
    {result : EffectStep DispatchPhase DispatchOutcome}
    (final : ∀ phase, result ≠ .continues phase) :
    HistoryOf outcomes
      { store :=
          { publication := publication
            requests := state.store.requests
            transitions := state.store.transitions ++ [(chosen, outcome)] }
        progress := result.advance state.progress chosen } := by
  have own := history.recording chosen outcome running
  have done : HasPublished (result.advance state.progress chosen chosen) =
        true ∧
      HasRecorded (result.advance state.progress chosen chosen) = true ∧
        (result.advance state.progress chosen chosen).isRunning = false := by
    cases result with
    | continues phase => exact absurd rfl (final phase)
    | succeeds value =>
        simp [EffectStep.advance, HasPublished, HasRecorded,
          Progress.isRunning]
    | fails =>
        simp [EffectStep.advance, HasPublished, HasRecorded,
          Progress.isRunning]
  refine ⟨?_, ?_, ?_⟩
  · intro message other recording
    by_cases same : message = chosen
    · subst same
      have idle := congrArg Progress.isRunning recording
      rw [show Progress.isRunning _ = false from done.2.2] at idle
      cases idle
    · exact history.recording message other
        (EffectStep.running_of_advance same recording)
  · intro message
    have earlier := history.requests message
    by_cases same : message = chosen
    · subst same
      simp only [running, HasPublished] at earlier
      simp only [done.1]
      exact earlier
    · simp only [EffectStep.advance_congr state.progress result
        hasPublished_interrupt same]
      exact earlier
  · intro message
    have earlier := history.transitions message
    by_cases same : message = chosen
    · subst same
      simp only [running, HasRecorded] at earlier
      simp [callsOf_append_self, earlier, done.2.1, own]
    · simp only [EffectStep.advance_congr state.progress result
        hasRecorded_interrupt same, callsOf_append_of_ne same]
      exact earlier

theorem HistoryOf.step (history : HistoryOf outcomes state)
    (realized : Realizes outcomes state action)
    (taken : (dispatchLoop claimed).Step state action state') :
    HistoryOf outcomes state' := by
  cases taken with
  | start _ waiting _ => exact history.enter waiting
  | @step chosen call phase store result running ran =>
      rcases dispatch_cases ran with
        ⟨outcome, rfl, rfl, rfl, rfl⟩ |
          ⟨outcome, fate, clock, rfl, rfl, rfl, rfl⟩
      · obtain rfl := realized
        exact history.publish running
      · apply history.record running
        intro phase
        split
        · simp
        · simp
  | others ran =>
      obtain ⟨publication, moved, rfl⟩ := Option.map_eq_some_iff.mp ran
      exact ⟨history.recording, history.requests, history.transitions⟩

theorem reachable_history
    (reached : (dispatchSystem claimed start).ReachableWhere
      (Realizes outcomes) state) : HistoryOf outcomes state := by
  refine System.ReachableWhere.invariant ?_ ?_ reached
  · rintro state rfl
    refine ⟨?_, ?_, ?_⟩
    · intro message outcome recording
      cases recording
    · intro message
      rfl
    · intro message
      rfl
  · intro state action state' _ history realized taken
    exact history.step realized (ForEach.step_of_next taken)

end History

end XpensGo
