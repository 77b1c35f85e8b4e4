import XpensGo.Channel.Answers
import XpensGo.Channel.EventProcessing
import XpensGo.Identity.Authority

/-!
# Where replies come from

Every record of a job was true of the identity tables in the state that the
call left behind.  Consumed challenges and the identities they linked persist;
whether an account is linked may change later, so each record is kept together
with the moment at which it was made.
-/

namespace XpensGo

open EcmaScript Postgres Relational Transition ChannelDatabase

section Records

/-- The challenge was consumed by creating this identity of the account, owned
by the user of the challenge. -/
def LinkConsumed (db : IdentityDatabase)
    (tokenDigest : ChannelLinkChallengeDigest)
    (externalAccountId : TelegramExternalAccountId)
    (channelIdentityId : ChannelIdentityId) : Prop :=
  ∃ challenge identity,
    db.challenges.find? tokenDigest = some challenge ∧
      challenge.purpose = .link ∧
      db.identities.find? channelIdentityId = some identity ∧
      identity.externalAccountId = externalAccountId ∧
      identity.userId = challenge.userId ∧
      identity.ledgerId = challenge.ledgerId ∧
      challenge.consumedAt = some identity.linkedAt

/-- The challenge was consumed by unlinking this identity of the account. -/
def UnlinkConsumed (db : IdentityDatabase)
    (tokenDigest : ChannelLinkChallengeDigest)
    (externalAccountId : TelegramExternalAccountId)
    (channelIdentityId : ChannelIdentityId) : Prop :=
  ∃ challenge identity,
    db.challenges.find? tokenDigest = some challenge ∧
      challenge.purpose = .unlink channelIdentityId ∧
      db.identities.find? channelIdentityId = some identity ∧
      identity.externalAccountId = externalAccountId ∧
      challenge.consumedAt.isSome = true ∧
      identity.unlinkedAt = challenge.consumedAt

/-- The challenge was consumed, by whatever presentation. -/
def Spent (db : IdentityDatabase) (tokenDigest : ChannelLinkChallengeDigest)
    (permits : ChallengePurpose → Prop) : Prop :=
  ∃ challenge, db.challenges.find? tokenDigest = some challenge ∧
    permits challenge.purpose ∧ challenge.consumedAt.isSome = true

/-- The actor is the one of an active identity of the account. -/
def ActsFor (db : IdentityDatabase)
    (externalAccountId : TelegramExternalAccountId)
    (actor : ChannelActorContext) : Prop :=
  ∃ identity, db.identities.find? actor.channelIdentityId = some identity ∧
    identity.externalAccountId = externalAccountId ∧
      identity.userId = actor.userId ∧ identity.ledgerId = actor.ledgerId ∧
      identity.unlinkedAt = none

/-- The account has no active identity. -/
def Unlinked (db : IdentityDatabase)
    (externalAccountId : TelegramExternalAccountId) : Prop :=
  ∀ channelIdentityId identity,
    db.identities.find? channelIdentityId = some identity →
    identity.externalAccountId = externalAccountId →
    identity.unlinkedAt ≠ none

/-- What a record says about the identity tables. -/
def ProcessingRecord.Holds (db : IdentityDatabase)
    (event : PersistedTelegramEventV1) : ProcessingRecord → Prop
  | .resolved (some actor) => ActsFor db event.externalAccountId actor
  | .resolved none => Unlinked db event.externalAccountId
  | .linkPresented (.telegramIdentityLinked channelIdentityId _) =>
      ∀ tokenDigest, event.content = .linkCommand tokenDigest →
        LinkConsumed db tokenDigest event.externalAccountId channelIdentityId
  | .linkPresented .challengeAlreadyConsumed =>
      ∀ tokenDigest, event.content = .linkCommand tokenDigest →
        Spent db tokenDigest (fun purpose => purpose = .link)
  | .unlinkPresented (.telegramIdentityUnlinked channelIdentityId) =>
      ∀ tokenDigest, event.content = .unlinkCommand tokenDigest →
        UnlinkConsumed db tokenDigest event.externalAccountId
          channelIdentityId
  | .unlinkPresented .challengeAlreadyConsumed =>
      ∀ tokenDigest, event.content = .unlinkCommand tokenDigest →
        Spent db tokenDigest (fun purpose => ∃ target,
          purpose = .unlink target)
  | _ => True

variable {db db' : IdentityDatabase} {event : PersistedTelegramEventV1}
  {tokenDigest : ChannelLinkChallengeDigest}
  {externalAccountId : TelegramExternalAccountId}
  {channelIdentityId : ChannelIdentityId}

/-- A consumed challenge is never written again. -/
theorem LinksPersist.consumed (persist : LinksPersist db db')
    {challenge : ChannelLinkChallengeRow}
    (found : db.challenges.find? tokenDigest = some challenge)
    (consumed : challenge.consumedAt ≠ none) :
    db'.challenges.find? tokenDigest = some challenge := by
  obtain ⟨consumedAt, present, kept⟩ := persist.challenges _ _ found
  rw [kept consumed] at present
  exact present

theorem LinkConsumed.kept (persist : LinksPersist db db')
    (consumed : LinkConsumed db tokenDigest externalAccountId
      channelIdentityId) :
    LinkConsumed db' tokenDigest externalAccountId channelIdentityId := by
  obtain ⟨challenge, identity, found, purpose, identityFound, account, user,
    ledger, linked⟩ := consumed
  obtain ⟨unlinkedAt, present, _⟩ := persist.identities _ _ identityFound
  exact ⟨challenge, _, persist.consumed found (by simp [linked]), purpose,
    present, account, user, ledger, linked⟩

theorem UnlinkConsumed.kept (persist : LinksPersist db db')
    (consumed : UnlinkConsumed db tokenDigest externalAccountId
      channelIdentityId) :
    UnlinkConsumed db' tokenDigest externalAccountId channelIdentityId := by
  obtain ⟨challenge, identity, found, purpose, identityFound, account,
    spent, unlinked⟩ := consumed
  have ended : identity.unlinkedAt ≠ none := by
    rw [unlinked]
    exact Option.isSome_iff_ne_none.mp spent
  obtain ⟨unlinkedAt, present, kept⟩ := persist.identities _ _ identityFound
  rw [kept ended] at present
  exact ⟨challenge, identity,
    persist.consumed found (Option.isSome_iff_ne_none.mp spent), purpose,
    present, account, spent, unlinked⟩

theorem resolved_holds {correlationId : CorrelationId}
    (resolvable : Resolvable db) :
    (ProcessingRecord.resolved (db.resolveTelegramActor
      event.externalAccountId correlationId)).Holds db event := by
  cases resolved : db.resolveTelegramActor event.externalAccountId
      correlationId with
  | none =>
      exact IdentityDatabase.activeIdentities_eq_nil_iff.mp
        (resolvable.activeIdentities_eq_nil resolved)
  | some actor =>
      unfold IdentityDatabase.resolveTelegramActor at resolved
      split at resolved
      · rename_i entry alone
        have member : entry ∈ db.activeIdentities event.externalAccountId := by
          apply List.mem_of_mem_filter
          rw [alone]
          exact List.mem_singleton_self entry
        obtain ⟨found, links⟩ := Table.mem_select.mp member
        obtain ⟨user, _, rfl⟩ := Option.map_eq_some_iff.mp resolved
        simp only [ChannelIdentityRow.links, Bool.and_eq_true,
          decide_eq_true_eq, Option.isNone_iff_eq_none] at links
        exact ⟨entry.2, found, links.1, rfl, rfl, links.2⟩
      · cases resolved

theorem linkPresented_holds {generated : ChannelIdentityId}
    {input : ConsumeTelegramChallengeStoreInput}
    {outcome : ConsumeTelegramLinkChallengeStoreOutcome}
    (effect : IdentityDatabase.LinkEffect generated input db outcome db')
    (digest : event.content = .linkCommand input.tokenDigest)
    (account : input.externalAccountId = event.externalAccountId) :
    (ProcessingRecord.linkPresented outcome).Holds db' event := by
  cases effect with
  | notFound | expired | alreadyLinked => trivial
  | alreadyConsumed found purpose consumed =>
      intro tokenDigest content
      rw [digest] at content
      cases content
      exact ⟨_, found, purpose, consumed⟩
  | @linked challenge actor fresh found purpose =>
      intro tokenDigest content
      rw [digest] at content
      cases content
      refine ⟨{ challenge with
          consumedAt := some (.ofMillis input.consumedAtMillis) },
        challenge.linkedIdentity input, ?_, purpose, ?_, account, rfl, rfl,
        rfl⟩
      · change (Table.modify _ _ _).find? _ = _
        rw [Table.find?_modify_self]
        exact congrArg (Option.map _) found
      · exact Table.find?_push_self _ _ fresh

theorem unlinkPresented_holds {input : ConsumeTelegramChallengeStoreInput}
    {outcome : ConsumeTelegramUnlinkChallengeStoreOutcome}
    (effect : IdentityDatabase.UnlinkEffect input db outcome db')
    (digest : event.content = .unlinkCommand input.tokenDigest)
    (account : input.externalAccountId = event.externalAccountId) :
    (ProcessingRecord.unlinkPresented outcome).Holds db' event := by
  cases effect with
  | notFound | expired | gone | mismatched => trivial
  | @alreadyConsumed challenge target found purpose consumed =>
      intro tokenDigest content
      rw [digest] at content
      cases content
      exact ⟨challenge, found, ⟨target, purpose⟩, consumed⟩
  | @unlinked challenge target identity found purpose _ _ identityFound _ _ _
      matching =>
      intro tokenDigest content
      rw [digest] at content
      cases content
      refine ⟨{ challenge with
          consumedAt := some (.ofMillis input.consumedAtMillis) },
        { identity with
          unlinkedAt := some (.ofMillis input.consumedAtMillis) }, ?_,
        purpose, ?_, matching.trans account, rfl, rfl⟩
      · change (Table.modify _ _ _).find? _ = _
        rw [Table.find?_modify_self]
        exact congrArg (Option.map _) found
      · change (Table.modify _ _ _).find? _ = _
        rw [Table.find?_modify_self, identityFound]
        rfl

end Records

section Jobs

/-- The records that a job in this phase has. -/
def JobPhase.Follows (trace : List ProcessingRecord) : JobPhase → Prop
  | .claimingEvent => trace = []
  | .processing claim step =>
      ∃ records, trace = .claimed claim :: records ∧
        step.Reached claim.event records
  | .claimingReply | .sending _ | .completingAttempt _ _ | .consuming
  | .ended => True

/-- What a job has claimed was received. -/
def ClaimReceived (db : ChannelDatabase) (trace : List ProcessingRecord) :
    Prop :=
  ∀ claim records, trace = .claimed claim :: records →
    ∃ row, db.events.find? claim.inboundEventId = some row ∧
      row.normalizedPayload = claim.event

/-- What holds of every job. -/
structure Truthful (db : ChannelDatabase) (phase : JobPhase)
    (trace : List ProcessingRecord) : Prop where
  follows : phase.Follows trace
  received : ClaimReceived db trace

variable {db db' : ChannelDatabase} {claim : TelegramEventClaimed}
  {trace records : List ProcessingRecord} {clock : DatabaseClock}

theorem ChannelDatabase.ChannelChange.linksPersist
    (change : ChannelChange db db') :
    LinksPersist db.identity db'.identity := by
  cases change with
  | linked changed => exact changed.linksPersist
  | unchanged | accepted | eventUpdated | replyClaimed | attemptCompleted
  | replyExhausted | replyReopened | recoveryPublished => exact .refl
  | published publication =>
      obtain ⟨outbox, rfl, _⟩ := publication
      exact .refl
  | consumed _ consumption =>
      obtain ⟨receipts, rfl, _⟩ := consumption
      exact .refl
  | completed effect =>
      cases effect with
      | completed => exact .refl
  | @replyExpired clock _ leased =>
      obtain ⟨attempts, ended⟩ :=
        endLeased_attempts leased (DeliveryAttemptRow.expire clock)
      rw [ended]
      exact .refl

theorem ClaimReceived.kept (change : ChannelChange db db')
    (received : ClaimReceived db trace) : ClaimReceived db' trace := by
  intro claim records shape
  obtain ⟨row, found, payload⟩ := received claim records shape
  obtain ⟨row', found', terms⟩ :=
    (ChannelChange.processing change).event_kept found
  refine ⟨row', found', ?_⟩
  rw [← payload]
  exact congrArg (·.normalizedPayload) terms

theorem ClaimReceived.append (received : ClaimReceived db trace)
    (shape : trace = .claimed claim :: records)
    (record : ProcessingRecord) : ClaimReceived db (trace ++ [record]) := by
  subst shape
  intro other rest same
  cases same
  exact received claim records rfl

theorem afterEventClaim_truthful {workerNow : Int}
    {claimId : TelegramProcessingClaimId} {policy : TelegramProcessingPolicy}
    {outboxMessageId : OutboxMessageId} {outcome : ClaimTelegramEventOutcome}
    (effect : EventClaimEffect clock workerNow claimId policy outboxMessageId
      db outcome db')
    {seen : Option ClaimTelegramEventOutcome} (saw : Seen seen outcome) :
    Truthful db' (.afterEventClaim seen)
      (ChannelState.eventClaimRecords outcome) := by
  cases effect with
  | notFound | duplicate | deferred | refused | suppressed =>
      refine { follows := ?_, received := fun _ _ impossible => ?_ }
      · rcases saw with unseen | shown
        · rw [unseen]
          trivial
        · rw [shown]
          trivial
      · cases impossible
  | @claimed inboundEventId row counted announced _ _ windows =>
      obtain ⟨_, found⟩ := announcedEvent_eq_some announced
      obtain ⟨counts, rfl⟩ := windows
      refine { follows := ?_, received := ?_ }
      · rcases saw with unseen | shown
        · rw [unseen]
          trivial
        · rw [shown]
          exact ⟨[], rfl, ProcessingStep.first_reached⟩
      · intro claim records shape
        cases shape
        refine ⟨row.claim clock policy claimId, ?_, rfl⟩
        change (Table.modify _ _ _).find? _ = _
        rw [Table.find?_modify_self, found]
        rfl

theorem afterIdentityCall_follows {α : Type} {record : ProcessingRecord}
    (shape : trace = .claimed claim :: records)
    {next : α → ProcessingStep} {outcome : α}
    (reached : (next outcome).Reached claim.event (records ++ [record]))
    {seen : Option α} (saw : Seen seen outcome) :
    (JobPhase.afterIdentityCall claim next seen).Follows
      (trace ++ [record]) := by
  subst shape
  rcases saw with unseen | shown
  · rw [unseen]
    exact ⟨records ++ [record], rfl, trivial⟩
  · rw [shown]
    exact ⟨records ++ [record], rfl, reached⟩

theorem afterUserLimit_follows {actor : ChannelActorContext}
    {next : LimitedStep}
    (follows : (JobPhase.processing claim (.enforcing actor next)).Follows
      trace)
    (seen : Option EnforceTelegramUserLimitOutcome) :
    (JobPhase.afterUserLimit claim actor next seen).Follows trace := by
  obtain ⟨records, shape, reached⟩ := follows
  cases seen with
  | none => trivial
  | some outcome =>
      cases outcome with
      | allowed =>
          exact ⟨records, shape, ProcessingStep.limited_reached reached⟩
      | rateLimited => trivial

theorem afterCompletion_follows (seen : Option OutboundChannelMessageId) :
    (JobPhase.afterCompletion seen).Follows trace := by
  cases seen <;> trivial

theorem afterReplyClaim_follows (seen : Option ClaimTelegramReplyOutcome) :
    (JobPhase.afterReplyClaim seen).Follows trace := by
  cases seen with
  | none => trivial
  | some outcome => cases outcome <;> trivial

theorem afterAttempt_follows (outcome : TelegramProviderAttemptOutcome)
    (seen : Option Unit) :
    (JobPhase.afterAttempt outcome seen).Follows trace := by
  cases seen with
  | none => trivial
  | some _ => cases outcome <;> trivial

end Jobs

section Runs

variable {state state' : ChannelState} {action : ChannelAction}

theorem truthful_of_setJob {database : ChannelDatabase} {job : JobId}
    {current : OutboxJob} {phase : JobPhase}
    {records : List ProcessingRecord} {sent : List TelegramSend}
    (found : state.jobs.find? job = some current)
    (moved : Truthful database phase (current.trace ++ records))
    (others : ∀ other running, state.jobs.find? other = some running →
      Truthful database running.phase running.trace)
    {other : JobId} {running : OutboxJob}
    (present : ({ state with
      database := database
      sent := sent }.setJob job phase records).jobs.find? other =
        some running) :
    Truthful database running.phase running.trace := by
  rcases ChannelState.find?_setJob present with
    ⟨_, earlier, earlierFound, rfl⟩ | ⟨_, unmoved⟩
  · cases Option.some.inj (earlierFound.symm.trans found)
    exact moved
  · exact others other running unmoved

theorem reachable_truthful (reached : channelSystem.Reachable state) :
    ∀ job current, state.jobs.find? job = some current →
      Truthful state.database current.phase current.trace := by
  refine System.Reachable.invariant (I := fun state =>
    ∀ job current, state.jobs.find? job = some current →
      Truthful state.database current.phase current.trace) ?_ ?_ reached
  · rintro state ⟨users, ledgers, rfl⟩ job current found
    cases found
  · intro state action state' _ truthful taken job current present
    have step := channelStep_of_next taken
    have change := step.change
    have kept : ∀ other running, state.jobs.find? other = some running →
        ClaimReceived state'.database running.trace := by
      intro other running found
      exact (truthful other running found).received.kept change
    have others : ∀ other running, state.jobs.find? other = some running →
        Truthful state'.database running.phase running.trace := by
      intro other running found
      exact
        { follows := (truthful other running found).follows
          received := kept other running found }
    -- A job that records nothing only needs the records of its new phase.
    have silent : ∀ job running phase, state.jobs.find? job = some running →
        phase.Follows running.trace →
        Truthful state'.database phase (running.trace ++ []) := by
      intro job running phase found follows
      rw [List.append_nil]
      exact
        { follows := follows
          received := kept job running found }
    cases step with
    | environment _ jobs => exact others job current (jobs ▸ present)
    | recoveryMarked => exact others job current present
    | delivered =>
        rcases Table.find?_insertMissing_cases present with
          earlier | ⟨_, _, rfl⟩
        · exact others job current earlier
        · refine { follows := rfl, received := fun _ _ impossible => ?_ }
          cases impossible
    | @stopped _ running _ phase found stops =>
        refine truthful_of_setJob found (silent _ running phase found ?_)
          others present
        rcases stops with rfl | ⟨claim, step, processing, rfl⟩
        · trivial
        · have follows := (truthful _ running found).follows
          rw [processing] at follows
          obtain ⟨records, shape, _⟩ := follows
          exact ⟨records, shape, trivial⟩
    | eventClaimed found phase effect saw =>
        have follows := (truthful _ _ found).follows
        rw [phase] at follows
        refine truthful_of_setJob found ?_ others present
        rw [show _ = [] from follows, List.nil_append]
        exact afterEventClaim_truthful effect saw
    | @actorResolved _ running _ claim purpose actor seen found phase answered
        saw =>
        have follows := (truthful _ _ found).follows
        rw [phase] at follows
        obtain ⟨records, shape, reached⟩ := follows
        have next := @afterIdentityCall_follows claim running.trace records _
          (.resolved actor) shape
          (fun actor => .afterResolution actor purpose) actor
          (ProcessingStep.afterResolution_reached actor reached) seen saw
        exact truthful_of_setJob found
          { follows := next
            received := (kept _ running found).append shape _ } others present
    | @linkConsumed _ running _ now generated claim tokenDigest outcome _ _
        found phase _ saw =>
        have follows := (truthful _ _ found).follows
        rw [phase] at follows
        obtain ⟨records, shape, reached⟩ := follows
        exact truthful_of_setJob found
          { follows := afterIdentityCall_follows shape
              (ProcessingStep.afterLink_reached outcome reached) saw
            received := (kept _ running found).append shape _ } others present
    | @unlinkConsumed _ running _ now claim tokenDigest priorActor outcome _ _
        found phase _ saw =>
        have follows := (truthful _ _ found).follows
        rw [phase] at follows
        obtain ⟨records, shape, reached⟩ := follows
        exact truthful_of_setJob found
          { follows := afterIdentityCall_follows shape
              (ProcessingStep.afterUnlink_reached outcome reached) saw
            received := (kept _ running found).append shape _ } others present
    | limitEnforced found phase =>
        have follows := (truthful _ _ found).follows
        rw [phase] at follows
        exact truthful_of_setJob found
          (silent _ _ _ found (afterUserLimit_follows follows _)) others
          present
    | @eventCompleted _ running _ _ _ claim completion database seen found
        phase =>
        have follows := (truthful _ _ found).follows
        rw [phase] at follows
        obtain ⟨records, shape, _⟩ := follows
        exact truthful_of_setJob found
          { follows := afterCompletion_follows seen
            received := (kept _ running found).append shape _ } others present
    | eventReleased found =>
        exact truthful_of_setJob found (silent _ _ .ended found trivial)
          others present
    | replyClaimed found =>
        exact truthful_of_setJob found
          (silent _ _ _ found (afterReplyClaim_follows _)) others present
    | @telegramSent _ running claim outcome found =>
        exact truthful_of_setJob found
          (silent _ running (.completingAttempt claim outcome) found trivial)
          others present
    | attemptCompleted found =>
        exact truthful_of_setJob found
          (silent _ _ _ found (afterAttempt_follows _ _)) others present
    | consumptionRecorded found =>
        exact truthful_of_setJob found (silent _ _ .ended found trivial)
          others present

end Runs

section Moments

variable {state state' : ChannelState} {action : ChannelAction}
  {job : JobId}

theorem reachable_resolvable (reached : channelSystem.Reachable state) :
    Resolvable state.database.identity := by
  refine reachable_of_change (I := fun db => Resolvable db.identity) ?_ ?_
    reached
  · intro users ledgers
    exact
      { single := fun _ _ _ _ impossible => by cases impossible
        owned := fun _ _ impossible => by cases impossible }
  · intro db db' resolvable change
    cases change with
    | linked changed => exact resolvable.changed changed
    | unchanged | accepted | eventUpdated | replyClaimed | attemptCompleted
    | replyExhausted | replyReopened | recoveryPublished => exact resolvable
    | published publication =>
        obtain ⟨outbox, rfl, _⟩ := publication
        exact resolvable
    | consumed _ consumption =>
        obtain ⟨receipts, rfl, _⟩ := consumption
        exact resolvable
    | completed effect =>
        cases effect with
        | completed => exact resolvable
    | @replyExpired clock _ leased =>
        obtain ⟨attempts, ended⟩ :=
          endLeased_attempts leased (DeliveryAttemptRow.expire clock)
        rw [ended]
        exact resolvable

/-- What one step does to the trace of a job that holds a claim: nothing, or
the job records an answer that is true in the state after the step. -/
inductive TraceStep (state state' : ChannelState) (action : ChannelAction)
    (job : JobId) (claim : TelegramEventClaimed) :
    List ProcessingRecord → Prop where
  | kept {records : List ProcessingRecord} {current : OutboxJob} :
      state.jobs.find? job = some current →
      current.trace = .claimed claim :: records →
      TraceStep state state' action job claim records
  | claimed : TraceStep state state' action job claim []
  | recorded {records : List ProcessingRecord} {current : OutboxJob}
      {record : ProcessingRecord} {jobAction : JobAction} :
      action = .job job jobAction →
      state.jobs.find? job = some current →
      current.trace = .claimed claim :: records →
      record.Holds state'.database.identity claim.event →
      TraceStep state state' action job claim (records ++ [record])

theorem traceStep_of_silent {database : ChannelDatabase} {other : JobId}
    {phase : JobPhase} {sent : List TelegramSend} {current : OutboxJob}
    {claim : TelegramEventClaimed} {records : List ProcessingRecord}
    (present : ({ state with
      database := database
      sent := sent }.setJob other phase []).jobs.find? job = some current)
    (trace : current.trace = .claimed claim :: records) :
    TraceStep state state' action job claim records := by
  rcases ChannelState.find?_setJob present with
    ⟨rfl, earlier, found, rfl⟩ | ⟨_, unmoved⟩
  · exact .kept found (by simpa using trace)
  · exact .kept unmoved trace

theorem traceStep_of_recorded {database : ChannelDatabase} {other : JobId}
    {running : OutboxJob} {phase : JobPhase} {sent : List TelegramSend}
    {current : OutboxJob} {holder claim : TelegramEventClaimed}
    {record : ProcessingRecord} {earlier records : List ProcessingRecord}
    {jobAction : JobAction}
    (found : state.jobs.find? other = some running)
    (held : running.trace = .claimed holder :: earlier)
    (told : record.Holds database.identity holder.event)
    (present : ({ state with
      database := database
      sent := sent }.setJob other phase [record]).jobs.find? job =
        some current)
    (trace : current.trace = .claimed claim :: records) :
    TraceStep state
      ({ state with
        database := database
        sent := sent }.setJob other phase [record])
      (.job other jobAction) job claim records := by
  rcases ChannelState.find?_setJob present with
    ⟨rfl, before, foundBefore, rfl⟩ | ⟨_, unmoved⟩
  · cases Option.some.inj (foundBefore.symm.trans found)
    simp only [held, List.cons_append, List.cons.injEq,
      ProcessingRecord.claimed.injEq] at trace
    obtain ⟨rfl, rfl⟩ := trace
    exact .recorded rfl found held told
  · exact .kept unmoved trace

/-- Every step leaves the records of a job alone or adds a true one. -/
theorem traceStep_of_next (reached : channelSystem.Reachable state)
    (taken : channelSystem.next state action = some state')
    {current : OutboxJob} {claim : TelegramEventClaimed}
    {records : List ProcessingRecord}
    (present : state'.jobs.find? job = some current)
    (trace : current.trace = .claimed claim :: records) :
    TraceStep state state' action job claim records := by
  have truthful := reachable_truthful reached
  cases channelStep_of_next taken with
  | environment _ jobs => exact .kept (jobs ▸ present) trace
  | recoveryMarked => exact .kept present trace
  | delivered =>
      rcases Table.find?_insertMissing_cases present with
        earlier | ⟨_, _, rfl⟩
      · exact .kept earlier trace
      · cases trace
  | eventClaimed found phase effect =>
      have follows := (truthful _ _ found).follows
      rw [phase] at follows
      rcases ChannelState.find?_setJob present with
        ⟨rfl, before, foundBefore, rfl⟩ | ⟨_, unmoved⟩
      · cases Option.some.inj (foundBefore.symm.trans found)
        rw [show _ = [] from follows, List.nil_append] at trace
        cases effect with
        | notFound | duplicate | deferred | refused | suppressed => cases trace
        | claimed =>
            cases trace
            exact .claimed
      · exact .kept unmoved trace
  | @actorResolved _ running _ holder _ actor _ found phase answered =>
      have follows := (truthful _ _ found).follows
      rw [phase] at follows
      obtain ⟨earlier, shape, _⟩ := follows
      have told : (ProcessingRecord.resolved actor).Holds
          state.database.identity holder.event := by
        rw [answered]
        exact resolved_holds (reachable_resolvable reached)
      exact traceStep_of_recorded found shape told present trace
  | linkConsumed found phase effect =>
      have follows := (truthful _ _ found).follows
      rw [phase] at follows
      obtain ⟨earlier, shape, content, _⟩ := follows
      exact traceStep_of_recorded found shape
        (linkPresented_holds effect content rfl) present trace
  | unlinkConsumed found phase effect =>
      have follows := (truthful _ _ found).follows
      rw [phase] at follows
      obtain ⟨earlier, shape, content, _⟩ := follows
      exact traceStep_of_recorded found shape
        (unlinkPresented_holds effect content rfl) present trace
  | eventCompleted found phase =>
      have follows := (truthful _ _ found).follows
      rw [phase] at follows
      obtain ⟨earlier, shape, _⟩ := follows
      exact traceStep_of_recorded found shape trivial present trace
  | stopped | limitEnforced | eventReleased | replyClaimed | telegramSent
  | attemptCompleted | consumptionRecorded =>
      exact traceStep_of_silent present trace

/-- The job has this trace. -/
def ChannelState.Traced (state : ChannelState) (job : JobId)
    (trace : List ProcessingRecord) : Prop :=
  ∃ current, state.jobs.find? job = some current ∧ current.trace = trace

/-- A step of the job, which ended in `moment` and led on to `state`, recorded
an answer after these others, and the answer was true of the identity tables of
that moment. -/
structure RecordedIn (state : ChannelState) (job : JobId)
    (claim : TelegramEventClaimed) (earlier : List ProcessingRecord)
    (record : ProcessingRecord) (moment : ChannelState) : Prop where
  taken : ∃ before action, channelSystem.Reachable before ∧
    before.Traced job (.claimed claim :: earlier) ∧
      channelSystem.next before (.job job action) = some moment
  recorded : moment.Traced job (.claimed claim :: (earlier ++ [record]))
  told : record.Holds moment.database.identity claim.event
  later : ∃ actions, channelSystem.run moment actions = some state

theorem RecordedIn.step {claim : TelegramEventClaimed}
    {earlier : List ProcessingRecord} {record : ProcessingRecord}
    {moment : ChannelState}
    (recorded : RecordedIn state job claim earlier record moment)
    (taken : channelSystem.next state action = some state') :
    RecordedIn state' job claim earlier record moment := by
  obtain ⟨actions, ran⟩ := recorded.later
  exact { recorded with
    later := ⟨actions ++ [action], System.run_concat ran taken⟩ }

theorem RecordedIn.reached {claim : TelegramEventClaimed}
    {earlier : List ProcessingRecord} {record : ProcessingRecord}
    {moment : ChannelState}
    (recorded : RecordedIn state job claim earlier record moment) :
    channelSystem.Reachable moment := by
  obtain ⟨before, action, reached, _, taken⟩ := recorded.taken
  exact reached.step taken

/-- What a record said of the links that it made is still true. -/
theorem RecordedIn.linksPersist {claim : TelegramEventClaimed}
    {earlier : List ProcessingRecord} {record : ProcessingRecord}
    {moment : ChannelState}
    (recorded : RecordedIn state job claim earlier record moment) :
    LinksPersist moment.database.identity state.database.identity := by
  obtain ⟨actions, ran⟩ := recorded.later
  refine System.run_preserves (I := fun state =>
    LinksPersist moment.database.identity state.database.identity) ?_
    recorded.reached .refl ran
  intro state action state' _ persist taken
  exact persist.trans (channelChange_of_next taken).linksPersist

/-- In every run every record of a job was made at some moment of the run. -/
theorem reachable_recorded (reached : channelSystem.Reachable state) :
    ∀ job current claim earlier record rest,
      state.jobs.find? job = some current →
      current.trace = .claimed claim :: (earlier ++ record :: rest) →
      ∃ moment, RecordedIn state job claim earlier record moment := by
  refine System.Reachable.invariant (I := fun state =>
    ∀ job current claim earlier record rest,
      state.jobs.find? job = some current →
      current.trace = .claimed claim :: (earlier ++ record :: rest) →
      ∃ moment, RecordedIn state job claim earlier record moment) ?_ ?_ reached
  · rintro state ⟨users, ledgers, rfl⟩ job current claim earlier record rest
      found
    cases found
  · intro state action state' before induction taken job current claim earlier
      record rest present trace
    generalize shape : earlier ++ record :: rest = records at trace
    cases traceStep_of_next before taken present trace with
    | kept found same =>
        obtain ⟨moment, recorded⟩ :=
          induction _ _ _ _ _ _ found (same.trans (by rw [shape]))
        exact ⟨moment, recorded.step taken⟩
    | claimed => simp at shape
    | @recorded records running last jobAction ofJob found same told =>
        rcases List.eq_nil_or_concat rest with rfl | ⟨rest, final, rfl⟩
        · obtain ⟨rfl, lastRecord⟩ := List.append_inj' shape rfl
          cases lastRecord
          subst ofJob
          exact ⟨state',
            { taken := ⟨state, jobAction, before, ⟨running, found, same⟩, taken⟩
              recorded := ⟨current, present, trace⟩
              told := told
              later := ⟨[], rfl⟩ }⟩
        · rw [List.concat_eq_append, ← List.cons_append,
            ← List.append_assoc] at shape
          obtain ⟨rfl, _⟩ := List.append_inj' shape rfl
          obtain ⟨moment, recorded⟩ := induction _ _ _ _ _ _ found same
          exact ⟨moment, recorded.step taken⟩

end Moments

end XpensGo
