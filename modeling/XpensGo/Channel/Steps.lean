import XpensGo.Channel.Execution

/-!
# What a step of the channel can do

One relation for all steps: the environment of the jobs changes the tables and
the queue, and each call of a job has its committed outcomes.  Every step is a
change of the channel tables, and every job announces an outbox message that
exists.
-/

namespace XpensGo

open EcmaScript Postgres Relational Transition ChannelDatabase

namespace ChannelState

/-- A published or publishable job or a running one refers to this message. -/
def Referenced (state : ChannelState) (outboxMessageId : OutboxMessageId) :
    Prop :=
  (∃ message ∈ state.queue, message.outboxMessageId = outboxMessageId) ∨
    (∃ claimId publication,
      state.publications.find? claimId = some publication ∧
        publication.message.outboxMessageId = outboxMessageId) ∨
    (∃ call recoveryId message,
      state.recoveryCalls.find? call =
          some ⟨recoveryId, .publishing message⟩ ∧
        message.outboxMessageId = outboxMessageId) ∨
    ∃ job current, state.jobs.find? job = some current ∧
      current.message.outboxMessageId = outboxMessageId

/-- The message exists, or something that already existed refers to it. -/
def ReferencesKept (state state' : ChannelState) : Prop :=
  ∀ outboxMessageId, state'.Referenced outboxMessageId →
    state.Referenced outboxMessageId ∨
      (state'.database.outbox.find? outboxMessageId).isSome = true ∨
        ∃ recoveryId row,
          state.database.recoveries.find? recoveryId = some row ∧
            row.outboxMessageId = outboxMessageId

end ChannelState

/-- The caller saw the outcome or nothing. -/
def Seen {α : Type} (seen : Option α) (outcome : α) : Prop :=
  seen = none ∨ seen = some outcome

/-- A change of the tables that no job makes: it writes no reply, touches no
attempt, records no consumption and marks no recovery. -/
structure EnvironmentChange (db db' : ChannelDatabase) : Prop where
  change : ChannelChange db db'
  replies : db.RepliesKept db'
  attempts : db'.attempts = db.attempts
  receipts : db'.receipts = db.receipts
  recoveries : ∀ recoveryId row, db.recoveries.find? recoveryId = some row →
    db'.recoveries.find? recoveryId = some row

theorem EnvironmentChange.unchanged {db : ChannelDatabase} :
    EnvironmentChange db db :=
  { change := .unchanged
    replies := fun _ => rfl
    attempts := rfl
    receipts := rfl
    recoveries := fun _ _ found => found }

/-- The steps of the channel, one constructor for each kind. -/
inductive ChannelStep (state : ChannelState) :
    ChannelAction → ChannelState → Prop where
  | environment {action : ChannelAction} {state' : ChannelState} :
      EnvironmentChange state.database state'.database →
      state'.jobs = state.jobs →
      state'.sent = state.sent →
      state.ReferencesKept state' →
      ChannelStep state action state'
  | recoveryMarked {call : RecoveryCallId} {fate : CallFate}
      {clock : DatabaseClock} {recoveryId : TelegramDeliveryRecoveryId}
      {row : DeliveryRecoveryRow} :
      state.recoveryCalls.find? call = some ⟨recoveryId, .marking⟩ →
      fate ≠ .refused →
      state.database.recoveries.find? recoveryId = some row →
      row.publicationStatus = .prepared →
      ChannelStep state (.markRecovery call fate clock)
        { state.setRecovery call .ended with
          database := state.database.publishRecovery clock recoveryId }
  | delivered {job : JobId} {message : OutboxQueueJob} :
      message ∈ state.queue →
      state.jobs.find? job = none →
      ChannelStep state (.deliver job message)
        { state with
          jobs := state.jobs.insertMissing job { message := message } }
  | stopped {job : JobId} {current : OutboxJob} {action : JobAction}
      {phase : JobPhase} :
      state.jobs.find? job = some current →
      (phase = .ended ∨ ∃ claim step, current.phase = .processing claim step ∧
        phase = .processing claim .releasing) →
      ChannelStep state (.job job action) (state.setJob job phase [])
  | eventClaimed {job : JobId} {current : OutboxJob} {fate : CallFate}
      {clock : DatabaseClock} {workerNow : Int}
      {claimId : TelegramProcessingClaimId}
      {outcome : ClaimTelegramEventOutcome} {database : ChannelDatabase}
      {seen : Option ClaimTelegramEventOutcome} :
      state.jobs.find? job = some current →
      current.phase = .claimingEvent →
      EventClaimEffect clock workerNow claimId
        defaultTelegramProcessingPolicy current.message.outboxMessageId
        state.database outcome database →
      Seen seen outcome →
      ChannelStep state (.job job (.claimEvent fate clock workerNow claimId))
        ({ state with database := database }.setJob job (.afterEventClaim seen)
          (ChannelState.eventClaimRecords outcome))
  | actorResolved {job : JobId} {current : OutboxJob} {fate : CallFate}
      {claim : TelegramEventClaimed} {purpose : ResolutionPurpose}
      {actor : Option ChannelActorContext}
      {seen : Option (Option ChannelActorContext)} :
      state.jobs.find? job = some current →
      current.phase = .processing claim (.resolving purpose) →
      actor = state.database.identity.resolveTelegramActor
        claim.event.externalAccountId current.message.correlationId →
      Seen seen actor →
      ChannelStep state (.job job (.resolveActor fate))
        (state.setJob job (.afterIdentityCall claim
          (fun actor => .afterResolution actor purpose) seen)
          [.resolved actor])
  | linkConsumed {job : JobId} {current : OutboxJob} {fate : CallFate}
      {now : EpochMillis} {generated : ChannelIdentityId}
      {claim : TelegramEventClaimed}
      {tokenDigest : ChannelLinkChallengeDigest}
      {outcome : ConsumeTelegramLinkChallengeStoreOutcome}
      {identity : IdentityDatabase}
      {seen : Option ConsumeTelegramLinkChallengeStoreOutcome} :
      state.jobs.find? job = some current →
      current.phase = .processing claim (.consumingLink tokenDigest) →
      IdentityDatabase.LinkEffect generated
        (consumeChallengeInput claim current.message.correlationId now
          tokenDigest) state.database.identity outcome identity →
      Seen seen outcome →
      ChannelStep state (.job job (.consumeLink fate now generated))
        ({ state with
          database := { state.database with identity := identity } }.setJob
            job (.afterIdentityCall claim .afterLink seen)
            [.linkPresented outcome])
  | unlinkConsumed {job : JobId} {current : OutboxJob} {fate : CallFate}
      {now : EpochMillis} {claim : TelegramEventClaimed}
      {tokenDigest : ChannelLinkChallengeDigest}
      {priorActor : Option ChannelActorContext}
      {outcome : ConsumeTelegramUnlinkChallengeStoreOutcome}
      {identity : IdentityDatabase}
      {seen : Option ConsumeTelegramUnlinkChallengeStoreOutcome} :
      state.jobs.find? job = some current →
      current.phase =
        .processing claim (.consumingUnlink tokenDigest priorActor) →
      IdentityDatabase.UnlinkEffect
        (consumeChallengeInput claim current.message.correlationId now
          tokenDigest) state.database.identity outcome identity →
      Seen seen outcome →
      ChannelStep state (.job job (.consumeUnlink fate now))
        ({ state with
          database := { state.database with identity := identity } }.setJob
            job (.afterIdentityCall claim (.afterUnlink priorActor) seen)
            [.unlinkPresented outcome])
  | limitEnforced {job : JobId} {current : OutboxJob} {fate : CallFate}
      {clock : DatabaseClock} {claim : TelegramEventClaimed}
      {actor : ChannelActorContext} {next : LimitedStep}
      {outcome : EnforceTelegramUserLimitOutcome}
      {database : ChannelDatabase}
      {seen : Option EnforceTelegramUserLimitOutcome} :
      state.jobs.find? job = some current →
      current.phase = .processing claim (.enforcing actor next) →
      EnforceEffect clock (enforceUserLimitInput claim actor) state.database
        outcome database →
      Seen seen outcome →
      ChannelStep state (.job job (.enforceLimit fate clock))
        ({ state with database := database }.setJob job
          (.afterUserLimit claim actor next seen) [])
  | eventCompleted {job : JobId} {current : OutboxJob} {fate : CallFate}
      {clock : DatabaseClock} {ids : CompletionIds}
      {claim : TelegramEventClaimed} {completion : TelegramEventCompletion}
      {database : ChannelDatabase}
      {seen : Option OutboundChannelMessageId} :
      state.jobs.find? job = some current →
      current.phase = .processing claim (.completing completion) →
      CompleteEventEffect clock ids (completeEventInput claim
        current.message.correlationId completion) state.database database →
      Seen seen ids.message →
      ChannelStep state (.job job (.completeEvent fate clock ids))
        ({ state with database := database }.setJob job
          (.afterCompletion seen) [.completed completion])
  | eventReleased {job : JobId} {current : OutboxJob} {fate : CallFate}
      {claim : TelegramEventClaimed} {database : ChannelDatabase} :
      state.jobs.find? job = some current →
      current.phase = .processing claim .releasing →
      ReleaseEffect (releaseEventInput claim) state.database database →
      ChannelStep state (.job job (.releaseEvent fate))
        ({ state with database := database }.setJob job .ended [])
  | replyClaimed {job : JobId} {current : OutboxJob} {fate : CallFate}
      {clock : DatabaseClock} {workerNow : Int}
      {attemptId : ChannelDeliveryAttemptId}
      {outcome : ClaimTelegramReplyOutcome} {database : ChannelDatabase}
      {seen : Option ClaimTelegramReplyOutcome} :
      state.jobs.find? job = some current →
      current.phase = .claimingReply →
      ReplyClaimEffect clock defaultTelegramDeliveryPolicy attemptId
        current.message.outboxMessageId state.database outcome database →
      Seen seen outcome →
      ChannelStep state (.job job (.claimReply fate clock workerNow attemptId))
        ({ state with database := database }.setJob job
          (.afterReplyClaim seen) [])
  | telegramSent {job : JobId} {current : OutboxJob}
      {claim : TelegramReplyClaimed}
      {outcome : TelegramProviderAttemptOutcome} :
      state.jobs.find? job = some current →
      current.phase = .sending claim →
      ChannelStep state (.job job (.send outcome))
        ((state.recordSend claim outcome).setJob job
          (.completingAttempt claim outcome) [])
  | attemptCompleted {job : JobId} {current : OutboxJob} {fate : CallFate}
      {clock : DatabaseClock} {claim : TelegramReplyClaimed}
      {outcome : TelegramProviderAttemptOutcome} {row : OutboundMessageRow}
      {seen : Option Unit} :
      state.jobs.find? job = some current →
      current.phase = .completingAttempt claim outcome →
      state.database.messages.find? claim.outboundMessageId = some row →
      row.status = .delivering →
      row.deliveryClaimId = some claim.attemptId →
      ChannelStep state (.job job (.completeAttempt fate clock))
        ({ state with
          database := (state.database.endAttempt claim.attemptId
            (fun row => row.outboundMessageId = claim.outboundMessageId)
            (DeliveryAttemptRow.complete clock outcome)).setMessage
              claim.outboundMessageId
              (OutboundMessageRow.complete clock outcome) }.setJob job
                (.afterAttempt outcome seen) [])
  | consumptionRecorded {job : JobId} {current : OutboxJob} {fate : CallFate}
      {clock : DatabaseClock} {database : ChannelDatabase} :
      state.jobs.find? job = some current →
      current.phase = .consuming →
      fate ≠ .refused →
      (database = state.database ∨
        (state.database.outbox.find? current.message.outboxMessageId).isSome =
            true ∧
          state.database.ConsumptionOnly current.message.outboxMessageId
            database) →
      ChannelStep state (.job job (.recordConsumption fate clock))
        ({ state with database := database }.setJob job .ended [])

section Inversion

variable {state state' : ChannelState}

/-- What holds after a call that did nothing and after one that committed
holds after every call. -/
theorem ChannelState.call_step {ε α : Type} {job : JobId} {fate : CallFate}
    {transaction : ChannelDatabase → Except ε (α × ChannelDatabase)}
    {records : α → List ProcessingRecord} {next : Option α → JobPhase}
    {P : ChannelState → Prop} (idle : P (state.setJob job (next none) []))
    (committed : ∀ outcome database seen,
      transaction state.database = .ok (outcome, database) →
      Seen seen outcome →
      P ({ state with database := database }.setJob job (next seen)
        (records outcome))) :
    P (state.call job fate transaction records next) := by
  unfold ChannelState.call
  rcases settle_cases fate transaction state.database with
    unsettled | ⟨outcome, database, seen, ran, saw, settled⟩
  · rw [unsettled]
    exact idle
  · rw [settled]
    exact committed outcome database seen ran saw

theorem ChannelState.execute_cases {ε α : Type} (state : ChannelState)
    (fate : CallFate)
    (transaction : ChannelDatabase → Except ε (α × ChannelDatabase)) :
    state.execute fate transaction = state ∨
      ∃ outcome database,
        transaction state.database = .ok (outcome, database) ∧
          state.execute fate transaction =
            { state with database := database } := by
  unfold ChannelState.execute
  rcases settle_cases fate transaction state.database with
    idle | ⟨outcome, database, seen, ran, _, settled⟩
  · rw [idle]
    exact .inl rfl
  · rw [settled]
    exact .inr ⟨outcome, database, ran, rfl⟩

section Identity

variable {db : ChannelDatabase} {identity : IdentityDatabase}

theorem linked_of_identityChange {before after : IdentityState}
    (change : IdentityChange before after)
    (first : before.database = db.identity)
    (last : after.database = identity) :
    ChannelChange db { db with identity := identity } :=
  .linked ⟨before, after, change, first, last⟩

theorem createTelegramLinkChallenge_change
    {input : PersistTelegramLinkChallengeInput}
    {outcome : PersistTelegramLinkChallengeOutcome}
    (ran : IdentityDatabase.createTelegramLinkChallenge input db.identity =
      .ok (outcome, identity)) :
    ChannelChange db { db with identity := identity } := by
  obtain ⟨_, created⟩ := IdentityDatabase.createTelegramLinkChallenge_eq_ok ran
  have targeted : ∀ target, ChallengePurpose.link = .unlink target →
      ∃ row, db.identity.identities.find? target = some row ∧
        row.userId = input.actor.userId ∧
          row.ledgerId = input.actor.ledgerId ∧ row.unlinkedAt = none := by
    intro target impossible
    cases impossible
  have change : IdentityChange { database := db.identity } _ :=
    identityChange_of_create targeted created
  exact linked_of_identityChange change rfl rfl

theorem createTelegramUnlinkChallenge_change
    {input : PersistTelegramUnlinkChallengeInput}
    {outcome : PersistTelegramLinkChallengeOutcome}
    (ran : IdentityDatabase.createTelegramUnlinkChallenge input db.identity =
      .ok (outcome, identity)) :
    ChannelChange db { db with identity := identity } := by
  obtain ⟨_, target, created⟩ :=
    IdentityDatabase.createTelegramUnlinkChallenge_eq_ok ran
  have targeted : ∀ other,
      ChallengePurpose.unlink input.channelIdentityId = .unlink other →
      ∃ row, db.identity.identities.find? other = some row ∧
        row.userId = input.actor.userId ∧
          row.ledgerId = input.actor.ledgerId ∧ row.unlinkedAt = none := by
    intro other same
    cases same
    exact target
  have change : IdentityChange { database := db.identity } _ :=
    identityChange_of_create targeted created
  exact linked_of_identityChange change rfl rfl

theorem IdentityDatabase.LinkEffect.change {generated : ChannelIdentityId}
    {input : ConsumeTelegramChallengeStoreInput}
    {outcome : ConsumeTelegramLinkChallengeStoreOutcome}
    (effect : IdentityDatabase.LinkEffect generated input db.identity outcome
      identity) : ChannelChange db { db with identity := identity } := by
  have change : IdentityChange { database := db.identity } _ :=
    identityChange_of_link effect
  exact linked_of_identityChange change rfl rfl

theorem IdentityDatabase.UnlinkEffect.change
    {input : ConsumeTelegramChallengeStoreInput}
    {outcome : ConsumeTelegramUnlinkChallengeStoreOutcome}
    (effect : IdentityDatabase.UnlinkEffect input db.identity outcome
      identity) : ChannelChange db { db with identity := identity } := by
  have change : IdentityChange { database := db.identity } _ :=
    identityChange_of_unlink effect
  exact linked_of_identityChange change rfl rfl

end Identity

section Environment

@[simp] theorem ChannelState.enqueue_database {message : OutboxQueueJob}
    {outcome : QueueOutcome} :
    (state.enqueue message outcome).database = state.database := by
  unfold ChannelState.enqueue
  split <;> rfl

@[simp] theorem ChannelState.enqueue_jobs {message : OutboxQueueJob}
    {outcome : QueueOutcome} :
    (state.enqueue message outcome).jobs = state.jobs := by
  unfold ChannelState.enqueue
  split <;> rfl

@[simp] theorem ChannelState.enqueue_sent {message : OutboxQueueJob}
    {outcome : QueueOutcome} :
    (state.enqueue message outcome).sent = state.sent := by
  unfold ChannelState.enqueue
  split <;> rfl

theorem referencesKept_refl : state.ReferencesKept state :=
  fun _ referenced => .inl referenced

/-- A transaction of the environment that no job depends on. -/
theorem channelStep_of_execute {ε α : Type} {action : ChannelAction}
    {fate : CallFate}
    {transaction : ChannelDatabase → Except ε (α × ChannelDatabase)}
    (committed : ∀ outcome database,
      transaction state.database = .ok (outcome, database) →
      EnvironmentChange state.database database) :
    ChannelStep state action (state.execute fate transaction) := by
  rcases state.execute_cases fate transaction with
    same | ⟨outcome, database, ran, executed⟩
  · rw [same]
    exact .environment .unchanged rfl rfl referencesKept_refl
  · rw [executed]
    exact .environment (committed outcome database ran) rfl rfl
      (fun _ referenced => .inl referenced)

theorem ChannelDatabase.PublicationOnly.environmentChange
    {db db' : ChannelDatabase}
    (publication : db.PublicationOnly db') : EnvironmentChange db db' := by
  have change := ChannelChange.published publication
  obtain ⟨outbox, rfl, _⟩ := publication
  exact
    { change := change
      replies := fun _ => rfl
      attempts := rfl
      receipts := rfl
      recoveries := fun _ _ found => found }

theorem onIdentity_environmentChange {α : Type} {db db' : ChannelDatabase}
    {transaction : IdentityDatabase →
      Except IdentityStoreFailure (α × IdentityDatabase)}
    {outcome : α}
    (changes : ∀ identity, transaction db.identity = .ok (outcome, identity) →
      ChannelChange db { db with identity := identity })
    (ran : onIdentity transaction db = .ok (outcome, db')) :
    EnvironmentChange db db' := by
  obtain ⟨identity, committed, rfl⟩ := onIdentity_eq_ok ran
  exact
    { change := changes identity committed
      replies := fun _ => rfl
      attempts := rfl
      receipts := rfl
      recoveries := fun _ _ found => found }

theorem ChannelDatabase.PersistEffect.environmentChange
    {db db' : ChannelDatabase}
    {clock : DatabaseClock} {inboundEventId : InboundEventId}
    {outboxMessageId : OutboxMessageId} {input : PersistTelegramEventInput}
    {outcome : AcceptTelegramEventOutcome}
    (effect : PersistEffect clock inboundEventId outboxMessageId input db
      outcome db') : EnvironmentChange db db' := by
  have change := effect.change
  cases effect with
  | duplicate => exact .unchanged
  | accepted =>
      exact
        { change := change
          replies := fun _ => rfl
          attempts := rfl
          receipts := rfl
          recoveries := fun _ _ found => found }

theorem ChannelDatabase.PrepareRecoveryEffect.environmentChange
    {db db' : ChannelDatabase}
    {maximumAttempts : Nat} {input : RecoverTelegramDeliveryInput}
    {outcome : PrepareTelegramDeliveryRecoveryOutcome}
    (effect : PrepareRecoveryEffect maximumAttempts input db outcome db') :
    EnvironmentChange db db' := by
  have change := effect.change
  cases effect with
  | refused | existing => exact .unchanged
  | reopened fresh =>
      exact
        { change := change
          replies := find?_modify_terms (fun _ => rfl)
          attempts := rfl
          receipts := rfl
          recoveries := fun _ _ found => Table.find?_push_of_some fresh found }

theorem report_publicationOnly {db db' : ChannelDatabase}
    {message : ClaimedOutboxPublication} {clock : DatabaseClock}
    {queueOutcome : QueueOutcome} {outcome : Unit}
    (ran : message.report clock queueOutcome db = .ok (outcome, db')) :
    db.PublicationOnly db' := by
  unfold ClaimedOutboxPublication.report at ran
  split at ran
  · exact markOutboxPublished_eq_ok ran
  · exact recordOutboxPublicationFailure_eq_ok ran
  · exact recordOutboxPublicationFailure_eq_ok ran

/-- Publishing a job that was referred to refers to nothing new. -/
theorem referencesKept_enqueue {message : OutboxQueueJob}
    {outcome : QueueOutcome}
    (referenced : state.Referenced message.outboxMessageId)
    (kept : state.ReferencesKept state') :
    state.ReferencesKept (state'.enqueue message outcome) := by
  unfold ChannelState.enqueue
  split
  · intro outboxMessageId queued
    rcases queued with ⟨other, member, same⟩ | later
    · rcases List.mem_append.mp member with earlier | last
      · exact kept outboxMessageId (.inl ⟨other, earlier, same⟩)
      · cases List.mem_singleton.mp last
        exact .inl (same ▸ referenced)
    · exact kept outboxMessageId (.inr later)
  · exact kept

/-- Bookkeeping of a publication keeps its message. -/
theorem referencesKept_publication {claimId : OutboxClaimId}
    {set : OutboxPublication → OutboxPublication}
    (kept : ∀ publication, (set publication).message = publication.message) :
    state.ReferencesKept { state with
      publications := state.publications.modify claimId set } := by
  intro outboxMessageId referenced
  rcases referenced with queued | ⟨other, publication, found, same⟩ | later
  · exact .inl (.inl queued)
  · rcases Table.find?_modify_cases found with
      ⟨_, earlier, present, rfl⟩ | ⟨_, unmoved⟩
    · exact .inl (.inr (.inl ⟨claimId, earlier, present,
        (congrArg (·.outboxMessageId) (kept earlier)).symm.trans same⟩))
    · exact .inl (.inr (.inl ⟨other, publication, unmoved, same⟩))
  · exact .inl (.inr (.inr later))

theorem referencesKept_setRecovery {call : RecoveryCallId}
    {phase : RecoveryPhase} (quiet : ∀ message, phase ≠ .publishing message) :
    state.ReferencesKept (state.setRecovery call phase) := by
  intro outboxMessageId referenced
  rcases referenced with queued | published |
    ⟨other, recoveryId, message, found, same⟩ | running
  · exact .inl (.inl queued)
  · exact .inl (.inr (.inl published))
  · change (state.recoveryCalls.modify call _).find? other = _ at found
    rcases Table.find?_modify_cases found with
      ⟨_, earlier, _, changed⟩ | ⟨_, unmoved⟩
    · exact (quiet message (congrArg RecoveryCall.phase changed).symm).elim
    · exact .inl (.inr (.inr (.inl
        ⟨other, recoveryId, message, unmoved, same⟩)))
  · exact .inl (.inr (.inr (.inr running)))

theorem afterPublication_ne_publishing (outcome : QueueOutcome)
    (message : OutboxQueueJob) :
    RecoveryPhase.afterPublication outcome ≠ .publishing message := by
  cases outcome <;> simp [RecoveryPhase.afterPublication]

theorem afterPreparation_publishing
    {seen : Option PrepareTelegramDeliveryRecoveryOutcome}
    {outcome : PrepareTelegramDeliveryRecoveryOutcome}
    {message : OutboxQueueJob} (saw : Seen seen outcome)
    (begun : RecoveryPhase.afterPreparation seen = .publishing message) :
    ∃ recovery, outcome = .prepared recovery ∧
      recovery.outboxMessageId = message.outboxMessageId := by
  rcases saw with unseen | shown
  · rw [unseen] at begun
    cases begun
  · rw [shown] at begun
    cases outcome with
    | notRecoverable reason => cases begun
    | prepared recovery =>
        simp only [RecoveryPhase.afterPreparation] at begun
        split at begun
        · cases begun
          exact ⟨recovery, rfl, rfl⟩
        · cases begun

theorem channelStep_of_dispatch {fate : CallFate} {clock : DatabaseClock}
    {generated : OutboxMessageId → OutboxClaimId}
    (taken : state.next (.dispatch fate clock generated) = some state') :
    ChannelStep state (.dispatch fate clock generated) state' := by
  have written := (Option.some.inj taken).symm
  subst written
  rcases settle_cases fate
    (claimPendingOutbox clock dispatchClaimInput generated) state.database with
    idle | ⟨claimed, database, seen, ran, saw, settled⟩
  · rw [idle]
    exact .environment .unchanged rfl rfl referencesKept_refl
  · rw [settled]
    have publication := claimPendingOutbox_eq_ok ran
    refine .environment publication.environmentChange rfl rfl ?_
    intro outboxMessageId referenced
    rcases referenced with queued | ⟨claimId, publication, found, same⟩ | later
    · exact .inl (.inl queued)
    · rcases Table.find?_insertAllMissing_cases found with
        earlier | ⟨_, member⟩
      · exact .inl (.inr (.inl ⟨claimId, publication, earlier, same⟩))
      · obtain ⟨message, given, entry⟩ := List.mem_map.mp member
        cases entry
        subst same
        rcases saw with unseen | shown
        · rw [unseen] at given
          cases given
        · rw [shown] at given
          exact .inr (.inl (claimPendingOutbox_present ran given))
    · exact .inl (.inr (.inr later))

/-- The message that a prepared recovery publishes was announced before. -/
theorem ChannelDatabase.PrepareRecoveryEffect.announced
    {db db' : ChannelDatabase}
    {maximumAttempts : Nat} {input : RecoverTelegramDeliveryInput}
    {recovery : TelegramDeliveryRecoveryPrepared}
    (effect : PrepareRecoveryEffect maximumAttempts input db
      (.prepared recovery) db') :
    (db'.outbox.find? recovery.outboxMessageId).isSome = true ∨
      ∃ recoveryId row, db.recoveries.find? recoveryId = some row ∧
        row.outboxMessageId = recovery.outboxMessageId := by
  cases effect with
  | existing found => exact .inr ⟨_, _, found, rfl⟩
  | reopened _ _ _ _ present =>
      refine .inl ?_
      simp [present]

theorem channelStep_of_recoverDelivery {call : RecoveryCallId}
    {fate : CallFate} {input : RecoverTelegramDeliveryInput}
    (taken : state.next (.recoverDelivery call fate input) = some state') :
    ChannelStep state (.recoverDelivery call fate input) state' := by
  simp only [ChannelState.next] at taken
  split at taken
  · cases taken
  · rename_i absent
    have written := (Option.some.inj taken).symm
    subst written
    have unused : state.recoveryCalls.find? call = none := by
      simpa using absent
    have others : ∀ phase : RecoveryPhase, ∀ other recoveryId message,
        (state.recoveryCalls.insertMissing call
          ⟨input.recoveryId, phase⟩).find? other =
            some ⟨recoveryId, .publishing message⟩ →
        phase = .publishing message ∨
          state.recoveryCalls.find? other =
            some ⟨recoveryId, .publishing message⟩ := by
      intro phase other recoveryId message found
      rw [Table.find?_insertMissing, unused] at found
      split at found
      · cases found
        exact .inl rfl
      · exact .inr found
    rcases settle_cases fate
      (prepareTelegramDeliveryRecovery
        defaultTelegramDeliveryPolicy.maximumAttempts input)
      state.database with idle | ⟨outcome, database, seen, ran, saw, settled⟩
    · rw [idle]
      refine .environment .unchanged rfl rfl ?_
      intro outboxMessageId referenced
      rcases referenced with queued | published |
        ⟨other, recoveryId, message, found, same⟩ | running
      · exact .inl (.inl queued)
      · exact .inl (.inr (.inl published))
      · rcases others _ other recoveryId message found with quiet | earlier
        · cases quiet
        · exact .inl (.inr (.inr (.inl
            ⟨other, recoveryId, message, earlier, same⟩)))
      · exact .inl (.inr (.inr (.inr running)))
    · rw [settled]
      have effect := prepareTelegramDeliveryRecovery_eq_ok ran
      refine .environment effect.environmentChange rfl rfl ?_
      intro outboxMessageId referenced
      rcases referenced with queued | published |
        ⟨other, recoveryId, message, found, same⟩ | running
      · exact .inl (.inl queued)
      · exact .inl (.inr (.inl published))
      · rcases others _ other recoveryId message found with begun | earlier
        · obtain ⟨recovery, prepared, named⟩ := afterPreparation_publishing saw
            begun
          subst prepared
          rw [← same, ← named]
          exact .inr effect.announced
        · exact .inl (.inr (.inr (.inl
            ⟨other, recoveryId, message, earlier, same⟩)))
      · exact .inl (.inr (.inr (.inr running)))

theorem channelStep_of_markRecovery {call : RecoveryCallId} {fate : CallFate}
    {clock : DatabaseClock}
    (taken : state.next (.markRecovery call fate clock) = some state') :
    ChannelStep state (.markRecovery call fate clock) state' := by
  have kept : state.ReferencesKept (state.setRecovery call .ended) :=
    referencesKept_setRecovery (by simp)
  simp only [ChannelState.next] at taken
  split at taken
  · rename_i recoveryId marking
    have written := (Option.some.inj taken).symm
    subst written
    by_cases refused : fate = .refused
    · subst refused
      exact .environment .unchanged rfl rfl kept
    · rcases (state.setRecovery call .ended).execute_cases fate
        (markTelegramDeliveryRecoveryPublished clock recoveryId) with
        same | ⟨outcome, database, ran, executed⟩
      · rw [same]
        exact .environment .unchanged rfl rfl kept
      · rw [executed]
        have effect := markTelegramDeliveryRecoveryPublished_eq_ok ran
        cases effect with
        | unchanged => exact .environment .unchanged rfl rfl kept
        | published found prepared =>
            exact .recoveryMarked marking refused found prepared
  · cases taken

end Environment

section Jobs

theorem channelStep_of_nextJob {job : JobId} {current : OutboxJob}
    {action : JobAction} (found : state.jobs.find? job = some current)
    (taken : state.nextJob job current action = some state') :
    ChannelStep state (.job job action) state' := by
  cases action with
  | claimEvent fate clock workerNow claimId =>
      simp only [ChannelState.nextJob] at taken
      split at taken
      · rename_i phase
        cases taken
        apply ChannelState.call_step
        · exact .stopped found (.inl rfl)
        · intro outcome database seen ran saw
          exact .eventClaimed found phase (claimTelegramEvent_eq_ok ran) saw
      · cases taken
  | resolveActor fate =>
      simp only [ChannelState.nextJob] at taken
      split at taken
      · rename_i claim purpose phase
        cases taken
        apply ChannelState.call_step
        · exact .stopped found (.inr ⟨claim, _, phase, rfl⟩)
        · intro outcome database seen ran saw
          cases ran
          exact .actorResolved found phase rfl saw
      · cases taken
  | consumeLink fate now generated =>
      simp only [ChannelState.nextJob] at taken
      split at taken
      · rename_i claim tokenDigest phase
        cases taken
        apply ChannelState.call_step
        · exact .stopped found (.inr ⟨claim, _, phase, rfl⟩)
        · intro outcome database seen ran saw
          obtain ⟨identity, committed, rfl⟩ := onIdentity_eq_ok ran
          exact .linkConsumed found phase
            (IdentityDatabase.consumeTelegramLinkChallenge_eq_ok committed) saw
      · cases taken
  | consumeUnlink fate now =>
      simp only [ChannelState.nextJob] at taken
      split at taken
      · rename_i claim tokenDigest priorActor phase
        cases taken
        apply ChannelState.call_step
        · exact .stopped found (.inr ⟨claim, _, phase, rfl⟩)
        · intro outcome database seen ran saw
          obtain ⟨identity, committed, rfl⟩ := onIdentity_eq_ok ran
          exact .unlinkConsumed found phase
            (IdentityDatabase.consumeTelegramUnlinkChallenge_eq_ok committed)
            saw
      · cases taken
  | enforceLimit fate clock =>
      simp only [ChannelState.nextJob] at taken
      split at taken
      · rename_i claim actor next phase
        cases taken
        apply ChannelState.call_step
        · exact .stopped found (.inl rfl)
        · intro outcome database seen ran saw
          exact .limitEnforced found phase (enforceTelegramUserLimit_eq_ok ran)
            saw
      · cases taken
  | completeEvent fate clock ids =>
      simp only [ChannelState.nextJob] at taken
      split at taken
      · rename_i claim completion phase
        cases taken
        apply ChannelState.call_step
        · exact .stopped found (.inl rfl)
        · intro outcome database seen ran saw
          obtain ⟨rfl, effect⟩ := completeTelegramEvent_eq_ok ran
          exact .eventCompleted found phase effect saw
      · cases taken
  | releaseEvent fate =>
      simp only [ChannelState.nextJob] at taken
      split at taken
      · rename_i claim phase
        cases taken
        apply ChannelState.call_step
        · exact .stopped found (.inl rfl)
        · intro outcome database seen ran _
          exact .eventReleased found phase (releaseTelegramEvent_eq_ok ran)
      · cases taken
  | providerUnavailable =>
      simp only [ChannelState.nextJob] at taken
      split at taken
      · cases taken
        exact .stopped found (.inl rfl)
      · cases taken
  | claimReply fate clock workerNow attemptId =>
      simp only [ChannelState.nextJob] at taken
      split at taken
      · rename_i phase
        cases taken
        apply ChannelState.call_step
        · exact .stopped found (.inl rfl)
        · intro outcome database seen ran saw
          exact .replyClaimed found phase (claimTelegramReply_eq_ok ran) saw
      · cases taken
  | send outcome =>
      simp only [ChannelState.nextJob] at taken
      split at taken
      · rename_i claim phase
        cases taken
        exact .telegramSent found phase
      · cases taken
  | completeAttempt fate clock =>
      simp only [ChannelState.nextJob] at taken
      split at taken
      · rename_i claim outcome phase
        cases taken
        apply ChannelState.call_step
        · exact .stopped found (.inl rfl)
        · intro answer database seen ran saw
          obtain ⟨held, rfl⟩ := completeTelegramReplyAttempt_eq_ok ran
          obtain ⟨row, present, delivering, leased⟩ :=
            replyHeld_eq_true.mp held
          exact .attemptCompleted found phase present delivering leased
      · cases taken
  | recordConsumption fate clock =>
      simp only [ChannelState.nextJob] at taken
      split at taken
      · rename_i phase
        cases taken
        by_cases refused : fate = .refused
        · subst refused
          exact .stopped found (.inl rfl)
        · apply ChannelState.call_step
          · exact .stopped found (.inl rfl)
          · intro outcome database seen ran _
            refine .consumptionRecorded found phase refused ?_
            rcases recordOutboxConsumption_eq_ok ran with
              ⟨same, _⟩ | recorded
            · exact .inl same
            · exact .inr recorded
      · cases taken
  | crash =>
      cases taken
      exact .stopped found (.inl rfl)

end Jobs

theorem channelStep_of_next {action : ChannelAction}
    (taken : channelSystem.next state action = some state') :
    ChannelStep state action state' := by
  change state.next action = some state' at taken
  cases action with
  | createLink fate actor tokenDigest now =>
      cases taken
      apply channelStep_of_execute
      intro outcome database ran
      exact onIdentity_environmentChange
        (fun _ committed => createTelegramLinkChallenge_change committed) ran
  | createUnlink fate actor channelIdentityId tokenDigest now =>
      cases taken
      apply channelStep_of_execute
      intro outcome database ran
      exact onIdentity_environmentChange
        (fun _ committed => createTelegramUnlinkChallenge_change committed) ran
  | receive fate clock inboundEventId outboxMessageId correlationId event =>
      cases taken
      apply channelStep_of_execute
      intro outcome database ran
      exact (persistTelegramEvent_eq_ok ran).environmentChange
  | dispatch fate clock generated => exact channelStep_of_dispatch taken
  | publish claimId outcome =>
      simp only [ChannelState.next] at taken
      split at taken
      · rename_i message _ found
        have kept : state.ReferencesKept { state with
            publications := state.publications.modify claimId
              (fun publication =>
                { publication with outcome := some outcome }) } :=
          referencesKept_publication (fun _ => rfl)
        have written := (Option.some.inj taken).symm
        subst written
        have referenced : state.Referenced message.job.outboxMessageId :=
          .inr (.inl ⟨claimId, _, found, rfl⟩)
        refine .environment ?_ ?_ ?_ (referencesKept_enqueue referenced kept)
        · rw [ChannelState.enqueue_database]
          exact .unchanged
        · rw [ChannelState.enqueue_jobs]
        · rw [ChannelState.enqueue_sent]
      · cases taken
  | reportPublication claimId fate clock =>
      simp only [ChannelState.next] at taken
      split at taken
      · rename_i message queueOutcome found
        have kept : state.ReferencesKept { state with
            publications := state.publications.modify claimId
              (fun publication =>
                { publication with reported := true }) } :=
          referencesKept_publication (fun _ => rfl)
        have written := (Option.some.inj taken).symm
        subst written
        rcases ChannelState.execute_cases
          { state with
            publications := state.publications.modify claimId
              (fun publication => { publication with reported := true }) }
          fate (message.report clock queueOutcome) with
          same | ⟨outcome, database, ran, executed⟩
        · rw [same]
          exact .environment .unchanged rfl rfl kept
        · rw [executed]
          have publication := report_publicationOnly ran
          refine .environment publication.environmentChange rfl rfl ?_
          intro outboxMessageId referenced
          rcases kept outboxMessageId referenced with
            earlier | present | recovered
          · exact .inl earlier
          · exact .inr (.inl
              ((publication.isSome_iff outboxMessageId).mpr present))
          · exact .inr (.inr recovered)
      · cases taken
  | recoverPublication fate clock outboxMessageId =>
      cases taken
      apply channelStep_of_execute
      intro outcome database ran
      exact (recoverFailedOutboxPublication_eq_ok ran).environmentChange
  | recoverDelivery call fate input => exact channelStep_of_recoverDelivery taken
  | publishRecovery call outcome =>
      simp only [ChannelState.next] at taken
      split at taken
      · rename_i recoveryId message found
        have kept : state.ReferencesKept
            (state.setRecovery call (.afterPublication outcome)) :=
          referencesKept_setRecovery (afterPublication_ne_publishing outcome)
        have written := (Option.some.inj taken).symm
        subst written
        have referenced : state.Referenced message.outboxMessageId :=
          .inr (.inr (.inl ⟨call, recoveryId, message, found, rfl⟩))
        refine .environment ?_ ?_ ?_ (referencesKept_enqueue referenced kept)
        · rw [ChannelState.enqueue_database]
          exact .unchanged
        · rw [ChannelState.enqueue_jobs]
          rfl
        · rw [ChannelState.enqueue_sent]
          rfl
      · cases taken
  | markRecovery call fate clock => exact channelStep_of_markRecovery taken
  | deliver job message =>
      simp only [ChannelState.next] at taken
      split at taken
      · rename_i permitted
        cases taken
        exact .delivered permitted.1 permitted.2
      · cases taken
  | drop message =>
      cases taken
      refine .environment .unchanged rfl rfl ?_
      intro outboxMessageId referenced
      rcases referenced with ⟨other, member, same⟩ | later
      · exact .inl (.inl ⟨other, List.mem_of_mem_erase member, same⟩)
      · exact .inl (.inr later)
  | job job action =>
      simp only [ChannelState.next] at taken
      split at taken
      · rename_i current found
        exact channelStep_of_nextJob found taken
      · cases taken

end Inversion

section Consequences

variable {state state' : ChannelState} {action : ChannelAction}

/-- A job found after a job moved is that job or another one. -/
theorem ChannelState.find?_setJob {job other : JobId} {phase : JobPhase}
    {records : List ProcessingRecord} {current : OutboxJob}
    (found : (state.setJob job phase records).jobs.find? other =
      some current) :
    (other = job ∧ ∃ earlier, state.jobs.find? job = some earlier ∧
      current =
        { earlier with
          phase := phase
          trace := earlier.trace ++ records }) ∨
      (other ≠ job ∧ state.jobs.find? other = some current) := by
  exact Table.find?_modify_cases found

theorem ChannelStep.change (step : ChannelStep state action state') :
    ChannelChange state.database state'.database := by
  cases step with
  | environment kept => exact kept.change
  | recoveryMarked _ _ found prepared => exact .recoveryPublished found prepared
  | delivered | stopped | actorResolved | telegramSent => exact .unchanged
  | eventClaimed _ _ effect => exact effect.change
  | linkConsumed _ _ effect => exact effect.change
  | unlinkConsumed _ _ effect => exact effect.change
  | limitEnforced _ _ effect => exact effect.change
  | eventCompleted _ _ effect => exact .completed effect
  | eventReleased _ _ effect => exact effect.change
  | replyClaimed _ _ effect => exact effect.change
  | @attemptCompleted _ _ _ clock claim outcome _ _ _ _ found delivering
      leased =>
      exact @ChannelChange.attemptCompleted _ clock
        (completeAttemptInput claim outcome) _ found delivering leased
  | consumptionRecorded _ _ _ recorded =>
      rcases recorded with same | ⟨present, consumption⟩
      · rw [same]
        exact .unchanged
      · exact .consumed present consumption

theorem channelChange_of_next
    (taken : channelSystem.next state action = some state') :
    ChannelChange state.database state'.database :=
  (channelStep_of_next taken).change

/-- A property of the tables that every change keeps holds in every reachable
state if it holds of empty tables. -/
theorem reachable_of_change {I : ChannelDatabase → Prop}
    (initially : ∀ users ledgers, I { identity :=
      { users := users
        ledgers := ledgers } })
    (kept : ∀ db db', I db → ChannelChange db db' → I db')
    {state : ChannelState} (reached : channelSystem.Reachable state) :
    I state.database := by
  refine System.Reachable.invariant (I := fun state => I state.database)
    ?_ ?_ reached
  · rintro state ⟨users, ledgers, rfl⟩
    exact initially users ledgers
  · intro state action state' _ holds taken
    exact kept _ _ holds (channelChange_of_next taken)

end Consequences

end XpensGo
