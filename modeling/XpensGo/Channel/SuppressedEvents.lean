import XpensGo.Channel.AbuseDecisions
import XpensGo.Channel.SpentChallenges

/-!
# What was done for a suppressed event

A challenge is consumed in a transaction of its own, so a refusal that comes
after it cannot undo it.  The limit of a user is checked before an unlink
challenge is presented, but after a link challenge.
-/

namespace XpensGo

open EcmaScript Postgres Relational Transition ChannelDatabase

section Refusals

/-- The steps that suppress an event. -/
inductive Refusal (state : ChannelState) (inboundEventId : InboundEventId) :
    ChannelAction → Prop where
  | claim {job : JobId} {fate : CallFate} {clock : DatabaseClock}
      {workerNow : Int} {claimId : TelegramProcessingClaimId}
      {row : InboundEventRow} :
      state.database.events.find? inboundEventId = some row →
      row.abuseAllowed = none →
      Refusal state inboundEventId
        (.job job (.claimEvent fate clock workerNow claimId))
  | limit {job : JobId} {current : OutboxJob} {fate : CallFate}
      {clock : DatabaseClock} {claim : TelegramEventClaimed}
      {actor : ChannelActorContext} {next : LimitedStep}
      {row : InboundEventRow} :
      fate ≠ .refused →
      state.jobs.find? job = some current →
      current.phase = .processing claim (.enforcing actor next) →
      state.database.eventHeld claim.inboundEventId claim.claimId = some row →
      row.userAbuseAllowed = none →
      defaultTelegramProcessingPolicy.perIdentityPerMinute ≤
        state.database.eventCount (minuteWindow clock (.user actor.userId)) →
      claim.inboundEventId = inboundEventId →
      Refusal state inboundEventId (.job job (.enforceLimit fate clock))

/-- Events that passed their first check stay so, and only these events become
suppressed. -/
structure SuppressesOnly (refused : InboundEventId → Prop)
    (db db' : ChannelDatabase) : Prop where
  permitted : ∀ inboundEventId row,
    db.events.find? inboundEventId = some row →
    row.abuseAllowed = some true →
    ∃ row', db'.events.find? inboundEventId = some row' ∧
      row'.abuseAllowed = some true
  suppressed : ∀ inboundEventId row',
    db'.events.find? inboundEventId = some row' →
    row'.processingStatus = .suppressed →
    (∃ row, db.events.find? inboundEventId = some row ∧
      row.processingStatus = .suppressed) ∨ refused inboundEventId

variable {refused : InboundEventId → Prop} {db db' : ChannelDatabase}
  {clock : DatabaseClock}

theorem SuppressesOnly.of_events (same : db'.events = db.events) :
    SuppressesOnly refused db db' := by
  constructor
  · intro inboundEventId row found permitted
    exact ⟨row, same ▸ found, permitted⟩
  · intro inboundEventId row' found suppressed
    exact .inl ⟨row', same ▸ found, suppressed⟩

theorem SuppressesOnly.of_modify {changed : InboundEventId}
    {row : InboundEventRow} {set : InboundEventRow → InboundEventRow}
    (events : db'.events = db.events.modify changed set)
    (found : db.events.find? changed = some row)
    (permitted : row.abuseAllowed = some true →
      (set row).abuseAllowed = some true)
    (suppressed : (set row).processingStatus = .suppressed →
      row.processingStatus = .suppressed ∨ refused changed) :
    SuppressesOnly refused db db' := by
  constructor
  · intro inboundEventId before present passed
    rw [events, Table.find?_modify]
    split
    · rename_i same
      subst same
      cases Option.some.inj (found.symm.trans present)
      exact ⟨set row, by rw [found]; rfl, permitted passed⟩
    · exact ⟨before, present, passed⟩
  · intro inboundEventId row' present ended
    rw [events] at present
    rcases Table.find?_modify_cases present with
      ⟨rfl, before, stored, rfl⟩ | ⟨_, unmodified⟩
    · cases found.symm.trans stored
      rcases suppressed ended with before | now
      · exact .inl ⟨row, found, before⟩
      · exact .inr now
    · exact .inl ⟨row', unmodified, ended⟩

theorem persistTelegramEvent_suppressesOnly {inboundEventId : InboundEventId}
    {outboxMessageId : OutboxMessageId} {input : PersistTelegramEventInput}
    {outcome : AcceptTelegramEventOutcome}
    (ran : persistTelegramEvent clock inboundEventId outboxMessageId input db =
      .ok (outcome, db')) : SuppressesOnly refused db db' := by
  cases persistTelegramEvent_eq_ok ran with
  | duplicate => exact .of_events rfl
  | accepted freshEvent =>
      constructor
      · intro other row found permitted
        exact ⟨row, Table.find?_push_of_some freshEvent found, permitted⟩
      · intro other row' found suppressed
        rw [Table.find?_push] at found
        split at found
        · obtain rfl := Option.some.inj found
          cases suppressed
        · exact .inl ⟨row', found, suppressed⟩

theorem claimTelegramEvent_suppressesOnly {workerNow : Int}
    {claimId : TelegramProcessingClaimId} {outboxMessageId : OutboxMessageId}
    {outcome : ClaimTelegramEventOutcome}
    (effect : EventClaimEffect clock workerNow claimId
      defaultTelegramProcessingPolicy outboxMessageId db outcome db') :
    SuppressesOnly (fun inboundEventId => ∃ row,
      db.events.find? inboundEventId = some row ∧ row.abuseAllowed = none)
      db db' := by
  cases effect with
  | notFound | duplicate | deferred | refused => exact .of_events rfl
  | suppressed announced _ unchecked windows =>
      obtain ⟨_, rfl⟩ := windows
      have found := (announcedEvent_eq_some announced).2
      apply SuppressesOnly.of_modify rfl found
      · intro passed
        rw [unchecked] at passed
        cases passed
      · intro _
        exact .inr ⟨_, found, unchecked⟩
  | claimed announced _ _ windows =>
      obtain ⟨_, rfl⟩ := windows
      apply SuppressesOnly.of_modify rfl (announcedEvent_eq_some announced).2
      · intro passed
        simp [InboundEventRow.claim, passed]
      · intro suppressed
        cases suppressed

/-- The limit of a user refuses only when the window of the user is full. -/
theorem enforceTelegramUserLimit_suppressesOnly
    {claim : TelegramEventClaimed} {actor : ChannelActorContext}
    {outcome : EnforceTelegramUserLimitOutcome}
    (ran : enforceTelegramUserLimit clock (enforceUserLimitInput claim actor)
      db = .ok (outcome, db')) :
    SuppressesOnly (fun inboundEventId =>
      claim.inboundEventId = inboundEventId ∧ ∃ row,
        db.eventHeld claim.inboundEventId claim.claimId = some row ∧
          row.userAbuseAllowed = none ∧
          defaultTelegramProcessingPolicy.perIdentityPerMinute ≤
            db.eventCount (minuteWindow clock (.user actor.userId)))
      db db' := by
  unfold enforceTelegramUserLimit at ran
  dsimp only at ran
  split at ran
  · cases ran
  · rename_i row held
    obtain ⟨found, _⟩ := eventHeld_eq_some.mp held
    split at ran
    · cases ran
      exact .of_events rfl
    · cases ran
      exact .of_events rfl
    · rename_i undecided
      have events : (db.countEvent clock (.user actor.userId)).2.events =
          db.events := by
        obtain ⟨_, same⟩ := countEvent_windowsOnly db clock
          (.user actor.userId)
        rw [same]
      split at ran
      · obtain ⟨allowed, updated, rest⟩ := bind_eq_ok.mp ran
        have written := updateEvent_eq_some (require_eq_ok.mp updated)
        subst written
        cases rest
        exact .of_modify (congrArg (·.modify claim.inboundEventId
          (InboundEventRow.allowUser clock)) events) found
          (fun passed => passed) (fun suppressed => .inl suppressed)
      · rename_i full
        obtain ⟨suppressed, updated, rest⟩ := bind_eq_ok.mp ran
        have written := updateEvent_eq_some (require_eq_ok.mp updated)
        subst written
        cases rest
        have counted : defaultTelegramProcessingPolicy.perIdentityPerMinute ≤
            db.eventCount (minuteWindow clock (.user actor.userId)) := by
          have exceeded := Nat.not_le.mp full
          change _ < (db.countEvent clock (.user actor.userId)).1 at exceeded
          rw [countEvent_fst] at exceeded
          exact Nat.lt_succ_iff.mp exceeded
        exact .of_modify (congrArg (·.modify claim.inboundEventId
          (InboundEventRow.suppressUser clock)) events) found
          (fun passed => passed)
          (fun _ => .inr ⟨rfl, row, held, undecided, counted⟩)

theorem completeTelegramEvent_suppressesOnly {ids : CompletionIds}
    {input : CompleteTelegramEventInput}
    (effect : CompleteEventEffect clock ids input db db') :
    SuppressesOnly refused db db' := by
  cases effect with
  | completed _ _ held =>
      apply SuppressesOnly.of_modify rfl (eventHeld_eq_some.mp held).1
      · exact fun passed => passed
      · intro suppressed
        cases suppressed

theorem releaseTelegramEvent_suppressesOnly
    {input : ReleaseTelegramEventInput}
    (effect : ReleaseEffect input db db') :
    SuppressesOnly refused db db' := by
  cases effect with
  | ignored => exact .of_events rfl
  | released held =>
      apply SuppressesOnly.of_modify rfl (eventHeld_eq_some.mp held).1
      · exact fun passed => passed
      · intro suppressed
        cases suppressed

end Refusals

section Steps

variable {state state' : ChannelState} {action : ChannelAction}

private theorem settle_suppressesOnly {ε α : Type} {fate : CallFate}
    {transaction : ChannelDatabase → Except ε (α × ChannelDatabase)}
    {db : ChannelDatabase} {refused : InboundEventId → Prop}
    (committed : ∀ outcome db', fate ≠ .refused →
      transaction db = .ok (outcome, db') →
      SuppressesOnly refused db db') :
    SuppressesOnly refused db (settle fate transaction db).database := by
  by_cases refusal : fate = .refused
  · rw [refusal]
    exact .of_events rfl
  · rcases settle_cases fate transaction db with
      same | ⟨outcome, db', _, ran, _, settled⟩
    · rw [same]
      exact .of_events rfl
    · rw [settled]
      exact committed outcome db' refusal ran

theorem SuppressesOnly.mono {refused weaker : InboundEventId → Prop}
    {db db' : ChannelDatabase}
    (only : SuppressesOnly refused db db')
    (implied : ∀ inboundEventId, refused inboundEventId →
      weaker inboundEventId) : SuppressesOnly weaker db db' := by
  refine ⟨only.permitted, ?_⟩
  intro inboundEventId row' found suppressed
  exact (only.suppressed inboundEventId row' found suppressed).imp_right
    (implied inboundEventId)

/-- What a step of a job commits: a write that touches neither the events nor
the identity tables, or one of the transactions that do. -/
inductive JobCommit (db : ChannelDatabase) (current : OutboxJob) :
    JobAction → ChannelDatabase → Prop where
  | elsewhere {action : JobAction} {db' : ChannelDatabase} :
      db'.events = db.events →
      db'.identity = db.identity →
      JobCommit db current action db'
  | claimEvent {fate : CallFate} {clock : DatabaseClock} {workerNow : Int}
      {claimId : TelegramProcessingClaimId}
      {outcome : ClaimTelegramEventOutcome} {db' : ChannelDatabase} :
      EventClaimEffect clock workerNow claimId defaultTelegramProcessingPolicy
        current.message.outboxMessageId db outcome db' →
      JobCommit db current (.claimEvent fate clock workerNow claimId) db'
  | enforceLimit {fate : CallFate} {clock : DatabaseClock}
      {claim : TelegramEventClaimed} {actor : ChannelActorContext}
      {next : LimitedStep} {outcome : EnforceTelegramUserLimitOutcome}
      {db' : ChannelDatabase} :
      fate ≠ .refused →
      current.phase = .processing claim (.enforcing actor next) →
      enforceTelegramUserLimit clock (enforceUserLimitInput claim actor) db =
        .ok (outcome, db') →
      JobCommit db current (.enforceLimit fate clock) db'
  | consumeLink {fate : CallFate} {now : EpochMillis}
      {generated : ChannelIdentityId} {db' : ChannelDatabase} :
      db'.events = db.events →
      JobCommit db current (.consumeLink fate now generated) db'
  | consumeUnlink {fate : CallFate} {now : EpochMillis}
      {db' : ChannelDatabase} :
      db'.events = db.events →
      JobCommit db current (.consumeUnlink fate now) db'
  | completeEvent {fate : CallFate} {clock : DatabaseClock}
      {ids : CompletionIds} {input : CompleteTelegramEventInput}
      {db' : ChannelDatabase} :
      CompleteEventEffect clock ids input db db' →
      JobCommit db current (.completeEvent fate clock ids) db'
  | releaseEvent {fate : CallFate} {input : ReleaseTelegramEventInput}
      {db' : ChannelDatabase} :
      ReleaseEffect input db db' →
      JobCommit db current (.releaseEvent fate) db'

private theorem settle_commits {ε α : Type} {fate : CallFate}
    {transaction : ChannelDatabase → Except ε (α × ChannelDatabase)}
    {db : ChannelDatabase} {current : OutboxJob} {action : JobAction}
    (committed : ∀ outcome db', fate ≠ .refused →
      transaction db = .ok (outcome, db') →
      JobCommit db current action db') :
    JobCommit db current action (settle fate transaction db).database := by
  by_cases refusal : fate = .refused
  · rw [refusal]
    exact .elsewhere rfl rfl
  · rcases settle_cases fate transaction db with
      same | ⟨outcome, db', _, ran, _, settled⟩
    · rw [same]
      exact .elsewhere rfl rfl
    · rw [settled]
      exact committed outcome db' refusal ran

theorem nextJob_commits {job : JobId} {current : OutboxJob}
    {action : JobAction}
    (taken : state.nextJob job current action = some state') :
    JobCommit state.database current action state'.database := by
  cases action with
  | claimEvent fate clock workerNow claimId =>
      simp only [ChannelState.nextJob] at taken
      split at taken
      · cases taken
        apply settle_commits
        intro outcome db' _ ran
        exact .claimEvent (claimTelegramEvent_eq_ok ran)
      · cases taken
  | enforceLimit fate clock =>
      simp only [ChannelState.nextJob] at taken
      split at taken
      · rename_i claim actor next phase
        cases taken
        apply settle_commits
        intro outcome db' answered ran
        exact .enforceLimit answered phase ran
      · cases taken
  | completeEvent fate clock ids =>
      simp only [ChannelState.nextJob] at taken
      split at taken
      · cases taken
        apply settle_commits
        intro outcome db' _ ran
        exact .completeEvent (completeTelegramEvent_eq_ok ran).2
      · cases taken
  | releaseEvent fate =>
      simp only [ChannelState.nextJob] at taken
      split at taken
      · cases taken
        apply settle_commits
        intro outcome db' _ ran
        exact .releaseEvent (releaseTelegramEvent_eq_ok ran)
      · cases taken
  | resolveActor fate =>
      simp only [ChannelState.nextJob] at taken
      split at taken
      · cases taken
        apply settle_commits
        intro outcome db' _ ran
        cases ran
        exact .elsewhere rfl rfl
      · cases taken
  | consumeLink fate now generated =>
      simp only [ChannelState.nextJob] at taken
      split at taken
      · cases taken
        apply settle_commits
        intro outcome db' _ ran
        obtain ⟨_, _, rfl⟩ := onIdentity_eq_ok ran
        exact .consumeLink rfl
      · cases taken
  | consumeUnlink fate now =>
      simp only [ChannelState.nextJob] at taken
      split at taken
      · cases taken
        apply settle_commits
        intro outcome db' _ ran
        obtain ⟨_, _, rfl⟩ := onIdentity_eq_ok ran
        exact .consumeUnlink rfl
      · cases taken
  | claimReply fate clock workerNow attemptId =>
      simp only [ChannelState.nextJob] at taken
      split at taken
      · cases taken
        apply settle_commits
        intro outcome db' _ ran
        cases claimTelegramReply_eq_ok ran with
        | notFound | terminal | deferred | exhausted | claimed =>
            exact .elsewhere rfl rfl
        | @expired _ row =>
            obtain ⟨_, ended⟩ := endLeased_attempts row
              (DeliveryAttemptRow.expire clock)
            rw [ended]
            exact .elsewhere rfl rfl
      · cases taken
  | completeAttempt fate clock =>
      simp only [ChannelState.nextJob] at taken
      split at taken
      · cases taken
        apply settle_commits
        intro outcome db' _ ran
        obtain ⟨_, rfl⟩ := completeTelegramReplyAttempt_eq_ok ran
        exact .elsewhere rfl rfl
      · cases taken
  | recordConsumption fate clock =>
      simp only [ChannelState.nextJob] at taken
      split at taken
      · cases taken
        apply settle_commits
        intro outcome db' _ ran
        rcases recordOutboxConsumption_eq_ok ran with
          ⟨rfl, _⟩ | ⟨_, _, rfl, _⟩
        · exact .elsewhere rfl rfl
        · exact .elsewhere rfl rfl
      · cases taken
  | providerUnavailable | send outcome =>
      simp only [ChannelState.nextJob] at taken
      split at taken
      · cases taken
        exact .elsewhere rfl rfl
      · cases taken
  | crash =>
      cases taken
      exact .elsewhere rfl rfl

theorem suppressesOnly_of_nextJob {job : JobId} {current : OutboxJob}
    {action : JobAction} (found : state.jobs.find? job = some current)
    (taken : state.nextJob job current action = some state') :
    SuppressesOnly
      (fun inboundEventId => Refusal state inboundEventId (.job job action))
      state.database state'.database := by
  cases nextJob_commits taken with
  | elsewhere events | consumeLink events | consumeUnlink events =>
      exact .of_events events
  | completeEvent effect => exact completeTelegramEvent_suppressesOnly effect
  | releaseEvent effect => exact releaseTelegramEvent_suppressesOnly effect
  | claimEvent effect =>
      apply (claimTelegramEvent_suppressesOnly effect).mono
      rintro inboundEventId ⟨row, present, unchecked⟩
      exact .claim present unchecked
  | enforceLimit answered phase ran =>
      apply (enforceTelegramUserLimit_suppressesOnly ran).mono
      rintro inboundEventId ⟨same, row, held, undecided, full⟩
      exact .limit answered found phase held undecided full same

theorem suppressesOnly_of_next
    (taken : channelSystem.next state action = some state') :
    SuppressesOnly
      (fun inboundEventId => Refusal state inboundEventId action)
      state.database state'.database := by
  change state.next action = some state' at taken
  cases action with
  | job job action =>
      simp only [ChannelState.next] at taken
      split at taken
      · rename_i current found
        exact suppressesOnly_of_nextJob found taken
      · cases taken
  | createLink fate actor tokenDigest now
  | createUnlink fate actor channelIdentityId tokenDigest now =>
      cases taken
      apply settle_suppressesOnly
      intro outcome db' _ ran
      obtain ⟨_, _, rfl⟩ := onIdentity_eq_ok ran
      exact .of_events rfl
  | receive fate clock inboundEventId outboxMessageId correlationId event =>
      cases taken
      apply settle_suppressesOnly
      intro outcome db' _ ran
      exact persistTelegramEvent_suppressesOnly ran
  | dispatch fate clock generated =>
      cases taken
      apply settle_suppressesOnly
      intro outcome db' _ ran
      obtain ⟨_, rfl, _⟩ := claimPendingOutbox_eq_ok ran
      exact .of_events rfl
  | publish claimId outcome =>
      simp only [ChannelState.next] at taken
      split at taken
      · have written := (Option.some.inj taken).symm
        subst written
        rw [ChannelState.enqueue_database]
        exact .of_events rfl
      · cases taken
  | reportPublication claimId fate clock =>
      simp only [ChannelState.next] at taken
      split at taken
      · cases taken
        apply settle_suppressesOnly
        intro outcome db' _ ran
        obtain ⟨_, rfl, _⟩ := report_publicationOnly ran
        exact .of_events rfl
      · cases taken
  | recoverPublication fate clock outboxMessageId =>
      cases taken
      apply settle_suppressesOnly
      intro outcome db' _ ran
      obtain ⟨_, rfl, _⟩ := recoverFailedOutboxPublication_eq_ok ran
      exact .of_events rfl
  | recoverDelivery call fate input =>
      simp only [ChannelState.next] at taken
      split at taken
      · cases taken
      · cases taken
        apply settle_suppressesOnly
        intro outcome db' _ ran
        cases prepareTelegramDeliveryRecovery_eq_ok ran with
        | refused | existing | reopened => exact .of_events rfl
  | publishRecovery call outcome =>
      simp only [ChannelState.next] at taken
      split at taken
      · have written := (Option.some.inj taken).symm
        subst written
        rw [ChannelState.enqueue_database]
        exact .of_events rfl
      · cases taken
  | markRecovery call fate clock =>
      simp only [ChannelState.next] at taken
      split at taken
      · cases taken
        apply settle_suppressesOnly
        intro outcome db' _ ran
        cases markTelegramDeliveryRecoveryPublished_eq_ok ran with
        | unchanged | published => exact .of_events rfl
      · cases taken
  | deliver job message =>
      simp only [ChannelState.next] at taken
      split at taken
      · cases taken
        exact .of_events rfl
      · cases taken
  | drop message =>
      cases taken
      exact .of_events rfl

/-- The steps that consume a challenge for an event. -/
inductive Spending (state : ChannelState) (inboundEventId : InboundEventId) :
    ChannelAction → Prop where
  | link {job : JobId} {current : OutboxJob} {fate : CallFate}
      {now : EpochMillis} {generated : ChannelIdentityId}
      {claim : TelegramEventClaimed}
      {tokenDigest : ChannelLinkChallengeDigest} :
      fate ≠ .refused →
      state.jobs.find? job = some current →
      current.phase = .processing claim (.consumingLink tokenDigest) →
      state.database.identity.LinkSpendable
        (consumeChallengeInput claim current.message.correlationId now
          tokenDigest) →
      claim.inboundEventId = inboundEventId →
      Spending state inboundEventId (.job job (.consumeLink fate now generated))
  | unlink {job : JobId} {current : OutboxJob} {fate : CallFate}
      {now : EpochMillis} {claim : TelegramEventClaimed}
      {tokenDigest : ChannelLinkChallengeDigest}
      {priorActor : Option ChannelActorContext} :
      fate ≠ .refused →
      state.jobs.find? job = some current →
      current.phase =
        .processing claim (.consumingUnlink tokenDigest priorActor) →
      state.database.identity.UnlinkSpendable
        (consumeChallengeInput claim current.message.correlationId now
          tokenDigest) →
      claim.inboundEventId = inboundEventId →
      Spending state inboundEventId (.job job (.consumeUnlink fate now))

private theorem spentBy_of_refused {job : JobId} {phase : JobPhase}
    {inboundEventId : InboundEventId}
    (spent : (state.setJob job phase []).SpentBy inboundEventId) :
    state.SpentBy inboundEventId := by
  rcases @spentBy_of_setJob state inboundEventId state.database job phase []
    state.sent spent with before | ⟨impossible, _⟩
  · exact before
  · cases impossible

/-- A presented challenge is spent for the event of the job, if its outcome
spends it. -/
private theorem spentBy_of_presented (reached : channelSystem.Reachable state)
    {database : ChannelDatabase} {job : JobId} {current : OutboxJob}
    {claim : TelegramEventClaimed} {step : ProcessingStep} {next : JobPhase}
    {record : ProcessingRecord} {inboundEventId : InboundEventId}
    (found : state.jobs.find? job = some current)
    (phase : current.phase = .processing claim step)
    (spent : ({ state with database := database }.setJob job next
      [record]).SpentBy inboundEventId) :
    state.SpentBy inboundEventId ∨
      record.spends = true ∧ claim.inboundEventId = inboundEventId := by
  rcases @spentBy_of_setJob state inboundEventId database job next [record]
    state.sent spent with before | ⟨last, other, present, claimed⟩
  · exact .inl before
  · cases Option.some.inj (found.symm.trans present)
    rw [claimedEvent_of_processing reached found phase] at claimed
    exact .inr ⟨by simpa using last, Option.some.inj claimed⟩

theorem spentBy_of_next (reached : channelSystem.Reachable state)
    (taken : channelSystem.next state action = some state')
    {inboundEventId : InboundEventId}
    (spent : state'.SpentBy inboundEventId) :
    state.SpentBy inboundEventId ∨ Spending state inboundEventId action := by
  -- A job that records nothing of the identity store spends nothing.
  have silent : ∀ {database : ChannelDatabase} {job : JobId}
      {phase : JobPhase} {records : List ProcessingRecord}
      {sent : List TelegramSend}, records.any (·.spends) = false →
      ({ state with
        database := database
        sent := sent }.setJob job phase records).SpentBy inboundEventId →
      state.SpentBy inboundEventId := by
    intro database job phase records sent nothing spent
    rcases spentBy_of_setJob spent with before | ⟨last, _⟩
    · exact before
    · rw [nothing] at last
      cases last
  cases channelStep_of_next taken with
  | environment _ jobs =>
      obtain ⟨job, current, found, claimed, paid⟩ := spent
      exact .inl ⟨job, current, jobs ▸ found, claimed, paid⟩
  | recoveryMarked => exact .inl spent
  | delivered =>
      obtain ⟨job, current, found, claimed, paid⟩ := spent
      rcases Table.find?_insertMissing_cases found with earlier | ⟨_, _, rfl⟩
      · exact .inl ⟨job, current, earlier, claimed, paid⟩
      · cases paid
  | stopped => exact .inl (spentBy_of_refused spent)
  | @eventClaimed _ _ _ _ _ _ outcome =>
      refine .inl (silent ?_ spent)
      cases outcome <;> rfl
  | actorResolved | limitEnforced | eventCompleted | eventReleased
  | replyClaimed | telegramSent | attemptCompleted | consumptionRecorded =>
      exact .inl (silent rfl spent)
  | @linkConsumed job current fate now generated claim tokenDigest outcome
      identity seen found phase effect saw =>
      by_cases refused : fate = .refused
      · subst refused
        simp only [channelSystem, ChannelState.next, found,
          ChannelState.nextJob, phase] at taken
        rw [← Option.some.inj taken] at spent
        exact .inl (spentBy_of_refused spent)
      · refine (spentBy_of_presented reached found phase spent).imp_right ?_
        rintro ⟨spends, same⟩
        exact .link refused found phase (effect.spendable spends) same
  | @unlinkConsumed job current fate now claim tokenDigest priorActor outcome
      identity seen found phase effect saw =>
      by_cases refused : fate = .refused
      · subst refused
        simp only [channelSystem, ChannelState.next, found,
          ChannelState.nextJob, phase] at taken
        rw [← Option.some.inj taken] at spent
        exact .inl (spentBy_of_refused spent)
      · refine (spentBy_of_presented reached found phase spent).imp_right ?_
        rintro ⟨spends, same⟩
        exact .unlink refused found phase (effect.spendable spends) same

/-- A job that holds a claim passed the first check of its event. -/
def ClaimsPermitted (state : ChannelState) : Prop :=
  ∀ job current inboundEventId, state.jobs.find? job = some current →
    current.claimedEvent = some inboundEventId →
    ∃ row, state.database.events.find? inboundEventId = some row ∧
      row.abuseAllowed = some true

private theorem claimedEvent_append {current : OutboxJob} {phase : JobPhase}
    {records : List ProcessingRecord} {inboundEventId : InboundEventId}
    (claimed : ({ current with
      phase := phase
      trace := current.trace ++ records } : OutboxJob).claimedEvent =
        some inboundEventId) :
    current.claimedEvent = some inboundEventId ∨
      ∃ claim later, records = .claimed claim :: later ∧
        claim.inboundEventId = inboundEventId := by
  obtain ⟨message, earlier, trace⟩ := current
  cases trace with
  | cons record trace =>
      cases record with
      | claimed claim => exact .inl claimed
      | resolved | linkPresented | unlinkPresented | completed => cases claimed
  | nil =>
      cases records with
      | nil => cases claimed
      | cons record records =>
          cases record with
          | claimed claim => exact .inr ⟨claim, records, rfl, by
              simpa [OutboxJob.claimedEvent] using claimed⟩
          | resolved | linkPresented | unlinkPresented | completed =>
              cases claimed

private theorem ChannelDatabase.EventClaimEffect.claimPermitted
    {db db' : ChannelDatabase} {clock : DatabaseClock} {workerNow : Int}
    {claimId : TelegramProcessingClaimId} {policy : TelegramProcessingPolicy}
    {outboxMessageId : OutboxMessageId} {outcome : ClaimTelegramEventOutcome}
    (effect : EventClaimEffect clock workerNow claimId policy outboxMessageId
      db outcome db')
    {claim : TelegramEventClaimed} {later : List ProcessingRecord}
    (recorded : ChannelState.eventClaimRecords outcome =
      .claimed claim :: later) :
    ∃ row, db'.events.find? claim.inboundEventId = some row ∧
      row.abuseAllowed = some true := by
  cases effect with
  | notFound | duplicate | deferred | refused | suppressed => cases recorded
  | @claimed inboundEventId row counted announced _ unrefused windows =>
      obtain ⟨_, rfl⟩ := windows
      cases recorded
      refine ⟨row.claim clock policy claimId, ?_, ?_⟩
      · change (Table.modify _ _ _).find? _ = _
        rw [Table.find?_modify_self, (announcedEvent_eq_some announced).2]
        rfl
      · change some (row.abuseAllowed.getD true) = some true
        cases decision : row.abuseAllowed with
        | none => rfl
        | some allowed =>
            cases allowed with
            | true => rfl
            | false => exact (unrefused decision).elim

theorem reachable_claimsPermitted (reached : channelSystem.Reachable state) :
    ClaimsPermitted state := by
  refine System.Reachable.invariant (I := ClaimsPermitted) ?_ ?_ reached
  · rintro state ⟨users, ledgers, rfl⟩ job current inboundEventId found
    cases found
  · intro state action state' _ permitted taken job running inboundEventId
      present claimed
    have kept := (suppressesOnly_of_next taken).permitted
    have others : ∀ job current, state.jobs.find? job = some current →
        current.claimedEvent = some inboundEventId →
        ∃ row, state'.database.events.find? inboundEventId = some row ∧
          row.abuseAllowed = some true := by
      intro job current found claimed
      obtain ⟨row, before, passed⟩ :=
        permitted job current inboundEventId found claimed
      exact kept inboundEventId row before passed
    -- A job that moves keeps its claim, or records a new one.
    have moved : ∀ {database : ChannelDatabase} {moving : JobId}
        {phase : JobPhase} {records : List ProcessingRecord}
        {sent : List TelegramSend},
        ({ state with
          database := database
          sent := sent }.setJob moving phase records).jobs.find? job =
            some running →
        (∃ row, state'.database.events.find? inboundEventId = some row ∧
          row.abuseAllowed = some true) ∨
        ∃ claim later, records = .claimed claim :: later ∧
          claim.inboundEventId = inboundEventId := by
      intro database moving phase records sent found
      rcases ChannelState.find?_setJob found with
        ⟨_, earlier, before, rfl⟩ | ⟨_, unmoved⟩
      · rcases claimedEvent_append claimed with same | new
        · exact .inl (others _ _ before same)
        · exact .inr new
      · exact .inl (others _ _ unmoved claimed)
    cases channelStep_of_next taken with
    | environment _ jobs => exact others job running (jobs ▸ present) claimed
    | recoveryMarked => exact others job running present claimed
    | delivered =>
        rcases Table.find?_insertMissing_cases present with
          earlier | ⟨_, _, rfl⟩
        · exact others job running earlier claimed
        · cases claimed
    | eventClaimed _ _ effect =>
        rcases moved present with passed | ⟨claim, later, recorded, same⟩
        · exact passed
        · rw [← same]
          exact effect.claimPermitted recorded
    | stopped | actorResolved | linkConsumed | unlinkConsumed | limitEnforced
    | eventCompleted | eventReleased | replyClaimed | telegramSent
    | attemptCompleted | consumptionRecorded =>
        rcases moved present with passed | ⟨claim, later, recorded, _⟩
        · exact passed
        · cases recorded

end Steps

section Inertness

variable {state : ChannelState}

/-- The window of a user has room when the user is first checked for an event
for which a challenge is consumed, and no challenge that can be spent is
presented for a suppressed event. -/
def SpendsUnrefused (state : ChannelState) : ChannelAction → Prop
  | .job job (.enforceLimit fate clock) =>
      fate ≠ .refused → ∀ current claim actor next row,
        state.jobs.find? job = some current →
        current.phase = .processing claim (.enforcing actor next) →
        state.database.eventHeld claim.inboundEventId claim.claimId =
          some row →
        row.userAbuseAllowed = none →
        state.SpentBy claim.inboundEventId →
        state.database.eventCount (minuteWindow clock (.user actor.userId)) <
          defaultTelegramProcessingPolicy.perIdentityPerMinute
  | .job job (.consumeLink fate now _) =>
      fate ≠ .refused → ∀ current claim tokenDigest row,
        state.jobs.find? job = some current →
        current.phase = .processing claim (.consumingLink tokenDigest) →
        state.database.events.find? claim.inboundEventId = some row →
        row.processingStatus = .suppressed →
        ¬ state.database.identity.LinkSpendable
          (consumeChallengeInput claim current.message.correlationId now
            tokenDigest)
  | .job job (.consumeUnlink fate now) =>
      fate ≠ .refused → ∀ current claim tokenDigest priorActor row,
        state.jobs.find? job = some current →
        current.phase =
          .processing claim (.consumingUnlink tokenDigest priorActor) →
        state.database.events.find? claim.inboundEventId = some row →
        row.processingStatus = .suppressed →
        ¬ state.database.identity.UnlinkSpendable
          (consumeChallengeInput claim current.message.correlationId now
            tokenDigest)
  | _ => True

theorem suppressed_unspent
    (reached : channelSystem.ReachableWhere SpendsUnrefused state) :
    ∀ inboundEventId row,
      state.database.events.find? inboundEventId = some row →
      row.processingStatus = .suppressed → ¬ state.SpentBy inboundEventId := by
  refine System.ReachableWhere.invariant (I := fun state =>
    ∀ inboundEventId row,
      state.database.events.find? inboundEventId = some row →
      row.processingStatus = .suppressed → ¬ state.SpentBy inboundEventId)
    ?_ ?_ reached
  · rintro state ⟨users, ledgers, rfl⟩ inboundEventId row found
    cases found
  · intro state action state' earlier unspent permitted taken inboundEventId
      row' found' suppressed spent'
    have before := earlier.reachable
    rcases (suppressesOnly_of_next taken).suppressed inboundEventId row' found'
      suppressed with ⟨row, found, already⟩ | refusal
    · rcases spentBy_of_next before taken spent' with spent | spending
      · exact unspent inboundEventId row found already spent
      · cases spending with
        | link answered running phase spendable same =>
            subst same
            exact permitted answered _ _ _ row running phase found already
              spendable
        | unlink answered running phase spendable same =>
            subst same
            exact permitted answered _ _ _ _ row running phase found already
              spendable
    · rcases spentBy_of_next before taken spent' with spent | spending
      · cases refusal with
        | claim found unchecked =>
            obtain ⟨job, current, running, claimed, _⟩ := spent
            obtain ⟨row, present, passed⟩ := reachable_claimsPermitted before
              job current inboundEventId running claimed
            cases Option.some.inj (found.symm.trans present)
            rw [unchecked] at passed
            cases passed
        | limit answered running phase held undecided full same =>
            subst same
            have room := permitted answered _ _ _ _ _ running phase held
              undecided spent
            exact Nat.not_lt.mpr full room
      · cases refusal <;> cases spending

/-- Of the calls of a job only the two consumptions write the identity
tables. -/
theorem JobCommit.consumes {db db' : ChannelDatabase} {current : OutboxJob}
    {action : JobAction} (commit : JobCommit db current action db')
    (written : db'.identity ≠ db.identity) :
    (∃ fate now generated, action = .consumeLink fate now generated) ∨
      ∃ fate now, action = .consumeUnlink fate now := by
  cases commit with
  | consumeLink => exact .inl ⟨_, _, _, rfl⟩
  | consumeUnlink => exact .inr ⟨_, _, rfl⟩
  | elsewhere _ identity => exact (written identity).elim
  | claimEvent effect =>
      cases effect with
      | notFound | duplicate | deferred | refused => exact (written rfl).elim
      | suppressed _ _ _ windows | claimed _ _ _ windows =>
          obtain ⟨_, rfl⟩ := windows
          exact (written rfl).elim
  | enforceLimit _ _ ran =>
      cases enforceTelegramUserLimit_eq_ok ran with
      | decided => exact (written rfl).elim
      | allowed _ _ windows | suppressed _ _ windows =>
          obtain ⟨_, rfl⟩ := windows
          exact (written rfl).elim
  | completeEvent effect =>
      cases effect with
      | completed => exact (written rfl).elim
  | releaseEvent effect =>
      cases effect with
      | ignored | released => exact (written rfl).elim

/-- The job that presents a challenge spends for its event if the call writes
the identity tables. -/
private theorem spentBy_of_call (reached : channelSystem.Reachable state)
    {α : Type} {job : JobId} {current : OutboxJob}
    {claim : TelegramEventClaimed} {step : ProcessingStep} {fate : CallFate}
    {transaction : IdentityDatabase →
      Except IdentityStoreFailure (α × IdentityDatabase)}
    {record : α → ProcessingRecord} {next : Option α → JobPhase}
    (found : state.jobs.find? job = some current)
    (phase : current.phase = .processing claim step)
    (spends : ∀ outcome identity,
      transaction state.database.identity = .ok (outcome, identity) →
      identity ≠ state.database.identity → (record outcome).spends = true)
    (written : (state.call job fate (onIdentity transaction)
      (fun outcome => [record outcome]) next).database.identity ≠
        state.database.identity) :
    (state.call job fate (onIdentity transaction)
      (fun outcome => [record outcome]) next).SpentBy claim.inboundEventId := by
  refine ChannelState.call_step (P := fun after =>
    after.database.identity ≠ state.database.identity →
      after.SpentBy claim.inboundEventId) ?_ ?_ written
  · exact fun written => (written rfl).elim
  · intro outcome database seen ran _ written
    obtain ⟨identity, committed, rfl⟩ := onIdentity_eq_ok ran
    refine ⟨job, _, find?_setJob_self found,
      claimedEvent_of_processing reached found phase _ _, ?_⟩
    simp [OutboxJob.spent, spends outcome identity committed written]

/-- A job writes the identity tables only by consuming a challenge for the
event that it has claimed. -/
theorem spentBy_of_identity_ne (reached : channelSystem.Reachable state)
    {job : JobId} {action : JobAction} {state' : ChannelState}
    (taken : channelSystem.next state (.job job action) = some state')
    (written : state'.database.identity ≠ state.database.identity) :
    ∃ current claim step, state.jobs.find? job = some current ∧
      current.phase = .processing claim step ∧
        state'.SpentBy claim.inboundEventId := by
  simp only [channelSystem, ChannelState.next] at taken
  split at taken
  · rename_i current found
    rcases (nextJob_commits taken).consumes written with
      ⟨fate, now, generated, rfl⟩ | ⟨fate, now, rfl⟩
    · simp only [ChannelState.nextJob] at taken
      split at taken
      · rename_i claim tokenDigest phase
        refine ⟨current, claim, _, found, phase, ?_⟩
        cases taken
        refine spentBy_of_call reached found phase ?_ written
        intro outcome identity committed written
        have effect :=
          IdentityDatabase.consumeTelegramLinkChallenge_eq_ok committed
        exact effect.spends_iff.mpr written
      · cases taken
    · simp only [ChannelState.nextJob] at taken
      split at taken
      · rename_i claim tokenDigest priorActor phase
        refine ⟨current, claim, _, found, phase, ?_⟩
        cases taken
        refine spentBy_of_call reached found phase ?_ written
        intro outcome identity committed written
        have effect :=
          IdentityDatabase.consumeTelegramUnlinkChallenge_eq_ok committed
        exact effect.spends_iff.mpr written
      · cases taken
  · cases taken

/-- Only events that were processed, and were answered, can have spent a
challenge by the time they are closed. -/
theorem suppressed_events_inert
    (reached : channelSystem.ReachableWhere SpendsUnrefused state) :
    (∀ inboundEventId row,
      state.database.events.find? inboundEventId = some row →
      row.processingStatus = .suppressed →
      ¬ state.SpentBy inboundEventId) ∧
    (∀ inboundEventId row,
      state.database.events.find? inboundEventId = some row →
      row.processingStatus.isTerminal = true →
      state.SpentBy inboundEventId →
      ∃ outboundMessageId reply,
        state.database.messages.find? outboundMessageId = some reply ∧
          reply.inboundEventId = inboundEventId) ∧
    ∀ job action state',
      channelSystem.next state (.job job action) = some state' →
      state'.database.identity ≠ state.database.identity →
      ∃ current claim step, state.jobs.find? job = some current ∧
        current.phase = .processing claim step ∧
          state'.SpentBy claim.inboundEventId := by
  have unspent := suppressed_unspent reached
  refine ⟨unspent, ?_, fun job action state' taken written =>
    spentBy_of_identity_ne reached.reachable taken written⟩
  intro inboundEventId row found terminal spent
  cases status : row.processingStatus with
  | suppressed => exact (unspent inboundEventId row found status spent).elim
  | processed =>
      obtain ⟨outboundMessageId, terms, answered, event⟩ :=
        (reachable_processing reached.reachable).answered inboundEventId row
          found status
      obtain ⟨reply, present, rfl⟩ := Option.map_eq_some_iff.mp answered
      exact ⟨outboundMessageId, reply, present, event⟩
  | pending | processing =>
      rw [status] at terminal
      cases terminal

/-- A sufficient test for `SpendsUnrefused`. -/
def refusesNothing (state : ChannelState) : ChannelAction → Bool
  | .job job (.enforceLimit _ clock) =>
      (state.jobs.find? job).all (fun current =>
        match current.phase with
        | .processing _ (.enforcing actor _) =>
            decide (state.database.eventCount
              (minuteWindow clock (.user actor.userId)) <
                defaultTelegramProcessingPolicy.perIdentityPerMinute)
        | _ => true)
  | .job _ (.consumeLink _ _ _) | .job _ (.consumeUnlink _ _) =>
      state.database.events.rows.all (fun entry =>
        decide (entry.2.processingStatus ≠ .suppressed))
  | _ => true

theorem refusesNothing_sound (state : ChannelState) (action : ChannelAction)
    (tested : refusesNothing state action = true) :
    SpendsUnrefused state action := by
  have none : state.database.events.rows.all (fun entry =>
      decide (entry.2.processingStatus ≠ .suppressed)) = true →
      ∀ inboundEventId row,
        state.database.events.find? inboundEventId = some row →
        row.processingStatus ≠ .suppressed := by
    intro tested inboundEventId row found
    rw [List.all_eq_true] at tested
    exact of_decide_eq_true
      (tested _ (Table.find?_eq_some_iff_mem.mp found))
  cases action with
  | job job action =>
      cases action with
      | enforceLimit fate clock =>
          intro _ current claim actor next row found phase _ _ _
          simp only [refusesNothing, found, Option.all_some, phase] at tested
          exact of_decide_eq_true tested
      | consumeLink fate now generated =>
          intro _ current claim tokenDigest row _ _ found suppressed
          exact (none tested _ row found suppressed).elim
      | consumeUnlink fate now =>
          intro _ current claim tokenDigest priorActor row _ _ found suppressed
          exact (none tested _ row found suppressed).elim
      | claimEvent | resolveActor | completeEvent | releaseEvent
      | providerUnavailable | claimReply | send | completeAttempt
      | recordConsumption | crash => trivial
  | createLink | createUnlink | receive | dispatch | publish
  | reportPublication | recoverPublication | recoverDelivery
  | publishRecovery | markRecovery | deliver | drop => trivial

theorem suppressed_events_inert_linked :
    ∃ state outboundMessageId reply,
      channelSystem.ReachableWhere SpendsUnrefused state ∧
        state.SpentBy ⟨101⟩ ∧
        state.database.messages.find? outboundMessageId = some reply ∧
          reply.inboundEventId = ⟨101⟩ := by
  obtain ⟨state, reached, tested⟩ := System.exists_reachableWhere_of_run
    linkedRun refusesNothing
    (fun state => (state.database.events.find? ⟨101⟩).any (fun row =>
        row.processingStatus.isTerminal) &&
      (state.jobs.find? 1).any (fun current =>
        current.claimedEvent = some ⟨101⟩ && current.spent))
    refusesNothing_sound sampleChannelStart_initial (by decide +kernel)
  simp only [Bool.and_eq_true, Option.any_eq_true, decide_eq_true_eq]
    at tested
  obtain ⟨⟨row, found, terminal⟩, current, running, claimed, paid⟩ := tested
  have spent : state.SpentBy ⟨101⟩ := ⟨1, current, running, claimed, paid⟩
  obtain ⟨_, answered, _⟩ := suppressed_events_inert reached
  obtain ⟨outboundMessageId, reply, present, event⟩ :=
    answered ⟨101⟩ row found terminal spent
  exact ⟨state, outboundMessageId, reply, reached, spent, present, event⟩

/-- A message of the linked account that counts for its user. -/
def countedText (number : Nat) : List ChannelAction :=
  arrive sampleAccount number (5002000 + number)
      (.text (JsString.ofString "lunch 250")) ++
    [.job number (.resolveActor .answered),
      .job number (.enforceLimit .answered (channelClock (5002000 + number)))]

/-- The linked account fills the minute of its user, and another account
presents the second challenge of the user. -/
def refusedLinkRun : List ChannelAction :=
  linkedRun ++ (List.range' 2 29).flatMap countedText ++
  arrive sampleStranger 31 5003000 (.linkCommand (sampleDigest 'b')) ++
  [.job 31 (.consumeLink .answered 5003100 ⟨6⟩),
    .job 31 (.enforceLimit .answered (channelClock 5003200))]

/-- The second account is linked, its event is suppressed, and it gets no
reply. -/
theorem suppressed_event_linked :
    ∃ state row identity, channelSystem.Reachable state ∧
      state.database.events.find? ⟨131⟩ = some row ∧
        row.processingStatus = .suppressed ∧
        state.SpentBy ⟨131⟩ ∧
        state.database.identity.identities.find? ⟨6⟩ = some identity ∧
        identity.externalAccountId = sampleStranger ∧
        ∀ outboundMessageId reply,
          state.database.messages.find? outboundMessageId = some reply →
          reply.inboundEventId ≠ ⟨131⟩ := by
  obtain ⟨state, reached, tested⟩ := System.exists_reachable_of_run
    refusedLinkRun
    (fun state => (state.database.events.find? ⟨131⟩).any (fun row =>
        row.processingStatus = .suppressed) &&
      (state.jobs.find? 31).any (fun current =>
        current.claimedEvent = some ⟨131⟩ && current.spent) &&
      (state.database.identity.identities.find? ⟨6⟩).any (fun identity =>
        identity.externalAccountId = sampleStranger) &&
      state.database.messages.rows.all (fun entry =>
        entry.2.inboundEventId ≠ ⟨131⟩))
    sampleChannelStart_initial (by decide +kernel)
  simp only [Bool.and_eq_true, Option.any_eq_true, decide_eq_true_eq,
    List.all_eq_true] at tested
  obtain ⟨⟨⟨⟨row, found, suppressed⟩, current, running, claimed, paid⟩,
    identity, linked, account⟩, unanswered⟩ := tested
  exact ⟨state, row, identity, reached, found, suppressed,
    ⟨31, current, running, claimed, paid⟩, linked, account,
    fun _ _ present => unanswered _ (Table.find?_eq_some_iff_mem.mp present)⟩

end Inertness

end XpensGo
