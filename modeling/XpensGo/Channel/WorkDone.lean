import XpensGo.Channel.OpenWork

/-!
# Consumed messages were worked off

A job records the consumption of its message only when the event of the message
is closed, or when its reply is closed or was recovered by an operator.
-/

namespace XpensGo

open Postgres Relational Relational.View Transition ChannelDatabase

/-- The event that the message announces is closed, and the reply that it
requests is closed or was recovered. -/
structure WorkDone (db : ChannelDatabase) (outboxMessageId : OutboxMessageId) :
    Prop where
  event : ∀ inboundEventId, db.Announces outboxMessageId inboundEventId →
    ¬ db.OpenEvent inboundEventId
  reply : ∀ outboundMessageId, db.Requests outboxMessageId outboundMessageId →
    db.OpenReply outboundMessageId → db.Recovered outboundMessageId

/-- What a job knows about the work that its message is about. -/
def JobPhase.OnWork (db : ChannelDatabase) (outboxMessageId : OutboxMessageId) :
    JobPhase → Prop
  | .claimingEvent | .ended => True
  | .processing claim _ => db.Announces outboxMessageId claim.inboundEventId
  | .claimingReply =>
      ∃ outboundMessageId, db.Requests outboxMessageId outboundMessageId
  | .sending claim | .completingAttempt claim _ =>
      db.Requests outboxMessageId claim.outboundMessageId
  | .consuming => WorkDone db outboxMessageId

section Phases

variable {db db' : ChannelDatabase} {outboxMessageId : OutboxMessageId}
  {inboundEventId : InboundEventId}
  {outboundMessageId : OutboundChannelMessageId} {clock : DatabaseClock}

theorem not_openEvent {row : InboundEventRow}
    (found : db.events.find? inboundEventId = some row)
    (closed : row.processingStatus.isTerminal = true) :
    ¬ db.OpenEvent inboundEventId := by
  rintro ⟨row', present, unfinished⟩
  cases Option.some.inj (found.symm.trans present)
  rw [closed] at unfinished
  cases unfinished

theorem not_openReply {row : OutboundMessageRow}
    (found : db.messages.find? outboundMessageId = some row)
    (closed : row.status.isTerminal = true) :
    ¬ db.OpenReply outboundMessageId := by
  rintro ⟨row', present, unfinished⟩
  cases Option.some.inj (found.symm.trans present)
  rw [closed] at unfinished
  cases unfinished

theorem workDone_of_event
    (announces : db.Announces outboxMessageId inboundEventId)
    (closed : ¬ db.OpenEvent inboundEventId) :
    WorkDone db outboxMessageId :=
  { event := by
      intro other announced
      cases announces.unique announced
      exact closed
    reply := fun _ requests => (announces.not_requests requests).elim }

theorem workDone_of_reply
    (requests : db.Requests outboxMessageId outboundMessageId)
    (closed : ¬ db.OpenReply outboundMessageId) :
    WorkDone db outboxMessageId :=
  { event := fun _ announces => (announces.not_requests requests).elim
    reply := by
      intro other requested opened
      cases requests.unique requested
      exact (closed opened).elim }

theorem message_of_requests (consistent : db.processing.Consistent)
    (requests : db.Requests outboxMessageId outboundMessageId) :
    ∃ row, db.messages.find? outboundMessageId = some row := by
  obtain ⟨row, found, kind⟩ := requests
  obtain ⟨reply, present, _⟩ := consistent.requests outboxMessageId
    row.toOutboxMessageTerms outboundMessageId (terms_of_find? found) kind
  obtain ⟨message, messageFound, _⟩ := Option.map_eq_some_iff.mp present
  exact ⟨message, messageFound⟩

theorem RecoveryPrepared.recovered
    (prepared : db.RecoveryPrepared outboundMessageId) :
    db.Recovered outboundMessageId := by
  obtain ⟨recoveryId, row, found, same, _⟩ := prepared
  exact ⟨recoveryId, row, found, same⟩

/-- Whatever the others do, the work of a message stays done. -/
theorem WorkDone.kept (done : WorkDone db outboxMessageId)
    (anchored : Anchored db) (consistent : db.processing.Consistent)
    (kept : WorkKept db db')
    (present : (db.outbox.find? outboxMessageId).isSome = true) :
    WorkDone db' outboxMessageId :=
  { event := by
      intro inboundEventId announces opened
      have announced := kept.announces_of_present present announces
      rcases kept.openEvent inboundEventId opened with absent | earlier
      · obtain ⟨row, found⟩ :=
          anchored.announced outboxMessageId inboundEventId announced
        rw [absent] at found
        cases found
      · exact done.event inboundEventId announced earlier
    reply := by
      intro outboundMessageId requests opened
      have requested := kept.requests_of_present present requests
      rcases kept.openReply outboundMessageId opened with
        earlier | absent | prepared
      · exact kept.recovered _ (done.reply _ requested earlier)
      · obtain ⟨row, found⟩ := message_of_requests consistent requested
        rw [absent] at found
        cases found
      · exact RecoveryPrepared.recovered prepared }

theorem JobPhase.OnWork.kept {phase : JobPhase}
    (working : phase.OnWork db outboxMessageId)
    (anchored : Anchored db) (consistent : db.processing.Consistent)
    (kept : WorkKept db db')
    (present : (db.outbox.find? outboxMessageId).isSome = true) :
    phase.OnWork db' outboxMessageId := by
  cases phase with
  | claimingEvent | ended => trivial
  | processing claim step => exact kept.announces _ _ working
  | claimingReply =>
      obtain ⟨outboundMessageId, requests⟩ := working
      exact ⟨outboundMessageId, kept.requests _ _ requests⟩
  | sending claim | completingAttempt claim outcome =>
      exact kept.requests _ _ working
  | consuming => exact WorkDone.kept working anchored consistent kept present

theorem announces_of_announcedEvent {row : InboundEventRow}
    (announced : db.announcedEvent outboxMessageId =
      some (inboundEventId, row)) :
    db.Announces outboxMessageId inboundEventId ∧
      db.events.find? inboundEventId = some row := by
  obtain ⟨⟨outbox, found, kind, same⟩, present⟩ :=
    announcedEvent_eq_some announced
  exact ⟨⟨outbox, found, same, kind⟩, present⟩

theorem announcedEvent_of_announces {row : InboundEventRow}
    (announces : db.Announces outboxMessageId inboundEventId)
    (present : db.events.find? inboundEventId = some row) :
    db.announcedEvent outboxMessageId = some (inboundEventId, row) := by
  obtain ⟨outbox, found, rfl, kind⟩ := announces
  simp only [announcedEvent, found, kind, present, Option.map_some]

theorem afterEventClaim_onWork (anchored : Anchored db)
    (present : (db.outbox.find? outboxMessageId).isSome = true)
    {workerNow : Int} {claimId : TelegramProcessingClaimId}
    {policy : TelegramProcessingPolicy} {outcome : ClaimTelegramEventOutcome}
    (effect : EventClaimEffect clock workerNow claimId policy outboxMessageId
      db outcome db')
    {seen : Option ClaimTelegramEventOutcome} (saw : Seen seen outcome) :
    (JobPhase.afterEventClaim seen).OnWork db' outboxMessageId := by
  rcases saw with unseen | shown
  · rw [unseen]
    trivial
  rw [shown]
  have kept := effect.change.workKept
  cases effect with
  | notFound unannounced =>
      rcases announces_or_requests present with
        ⟨inboundEventId, announces⟩ | requested
      · obtain ⟨row, found⟩ := anchored.announced _ _ announces
        rw [announcedEvent_of_announces announces found] at unannounced
        cases unannounced
      · exact requested
  | duplicate announced closed =>
      obtain ⟨announces, found⟩ := announces_of_announcedEvent announced
      exact workDone_of_event announces (not_openEvent found closed)
  | deferred => trivial
  | refused announced unfinished refused =>
      obtain ⟨_, found⟩ := announces_of_announcedEvent announced
      have suppressed := anchored.denied _ _ found (.inl refused)
      rw [suppressed] at unfinished
      cases unfinished
  | @suppressed inboundEventId row counted announced _ _ windows =>
      obtain ⟨announces, found⟩ := announces_of_announcedEvent announced
      obtain ⟨counts, rfl⟩ := windows
      have written : (setEvent { db with windows := counts } inboundEventId
          (InboundEventRow.suppress clock)).events.find? inboundEventId =
            some (row.suppress clock) := by
        rw [setEvent, Table.find?_modify_self, found]
        rfl
      exact workDone_of_event (kept.announces _ _ announces)
        (not_openEvent written rfl)
  | claimed announced =>
      exact kept.announces _ _ (announces_of_announcedEvent announced).1

theorem afterIdentityCall_onWork {α : Type} {claim : TelegramEventClaimed}
    (announces : db.Announces outboxMessageId claim.inboundEventId)
    (next : α → ProcessingStep) (seen : Option α) :
    (JobPhase.afterIdentityCall claim next seen).OnWork db
      outboxMessageId := by
  cases seen <;> exact announces

theorem afterUserLimit_onWork (anchored : Anchored db)
    {claim : TelegramEventClaimed}
    (announces : db.Announces outboxMessageId claim.inboundEventId)
    {actor : ChannelActorContext} (next : LimitedStep)
    {outcome : EnforceTelegramUserLimitOutcome}
    (effect : EnforceEffect clock (enforceUserLimitInput claim actor) db
      outcome db')
    {seen : Option EnforceTelegramUserLimitOutcome} (saw : Seen seen outcome) :
    (JobPhase.afterUserLimit claim actor next seen).OnWork db'
      outboxMessageId := by
  rcases saw with unseen | shown
  · rw [unseen]
    trivial
  rw [shown]
  have announced := effect.change.workKept.announces _ _ announces
  cases effect with
  | decided held decision =>
      cases outcome with
      | allowed => exact announced
      | rateLimited =>
          obtain ⟨found, processing, _⟩ := eventHeld_eq_some.mp held
          have suppressed := anchored.denied _ _ found (.inr decision)
          rw [processing] at suppressed
          cases suppressed
  | allowed => exact announced
  | @suppressed row counted held _ windows =>
      obtain ⟨found, _⟩ := eventHeld_eq_some.mp held
      obtain ⟨counts, rfl⟩ := windows
      have written : (setEvent { db with windows := counts }
          claim.inboundEventId
          (InboundEventRow.suppressUser clock)).events.find?
            claim.inboundEventId = some (row.suppressUser clock) := by
        rw [setEvent, Table.find?_modify_self]
        exact congrArg (Option.map _) found
      exact workDone_of_event announced (not_openEvent written rfl)

theorem afterCompletion_onWork {claim : TelegramEventClaimed}
    (announces : db.Announces outboxMessageId claim.inboundEventId)
    {ids : CompletionIds} {correlationId : CorrelationId}
    {completion : TelegramEventCompletion}
    (effect : CompleteEventEffect clock ids
      (completeEventInput claim correlationId completion) db db')
    (seen : Option OutboundChannelMessageId) :
    (JobPhase.afterCompletion seen).OnWork db' outboxMessageId := by
  cases seen with
  | none => trivial
  | some _ =>
      have announced :=
        (ChannelChange.completed effect).workKept.announces _ _ announces
      refine workDone_of_event announced ?_
      cases effect with
      | @completed row commands _ _ held =>
          obtain ⟨found, _⟩ := eventHeld_eq_some.mp held
          have written : (db.events.modify claim.inboundEventId
              (InboundEventRow.complete clock completion)).find?
                claim.inboundEventId = some (row.complete clock completion) := by
            rw [Table.find?_modify_self]
            exact congrArg (Option.map _) found
          exact not_openEvent written rfl

theorem find?_setMessage {row : OutboundMessageRow}
    {set : OutboundMessageRow → OutboundMessageRow}
    (found : db.messages.find? outboundMessageId = some row) :
    (db.setMessage outboundMessageId set).messages.find? outboundMessageId =
      some (set row) := by
  rw [setMessage, Table.find?_modify_self, found]
  rfl

theorem afterReplyClaim_onWork (consistent : db.processing.Consistent)
    (requested : ∃ outboundMessageId,
      db.Requests outboxMessageId outboundMessageId)
    {attemptId : ChannelDeliveryAttemptId}
    {outcome : ClaimTelegramReplyOutcome}
    (effect : ReplyClaimEffect clock defaultTelegramDeliveryPolicy attemptId
      outboxMessageId db outcome db')
    {seen : Option ClaimTelegramReplyOutcome} (saw : Seen seen outcome) :
    (JobPhase.afterReplyClaim seen).OnWork db' outboxMessageId := by
  rcases saw with unseen | shown
  · rw [unseen]
    trivial
  rw [shown]
  have kept := effect.change.workKept
  cases effect with
  | notFound unrequested =>
      obtain ⟨outboundMessageId, requests⟩ := requested
      obtain ⟨message, present⟩ := message_of_requests consistent requests
      rw [requestedReply_eq_some.mpr ⟨requests, present⟩] at unrequested
      cases unrequested
  | terminal found closed =>
      obtain ⟨requests, present⟩ := requestedReply_eq_some.mp found
      exact workDone_of_reply requests (not_openReply present closed)
  | deferred => trivial
  | @expired outboundMessageId row found =>
      obtain ⟨requests, present⟩ := requestedReply_eq_some.mp found
      obtain ⟨attempts, ended⟩ :=
        endLeased_attempts row (DeliveryAttemptRow.expire clock)
      rw [ended] at kept ⊢
      exact workDone_of_reply (kept.requests _ _ requests)
        (not_openReply (find?_setMessage present) rfl)
  | @exhausted outboundMessageId row found =>
      obtain ⟨requests, present⟩ := requestedReply_eq_some.mp found
      exact workDone_of_reply (kept.requests _ _ requests)
        (not_openReply (find?_setMessage present) rfl)
  | claimed _ found =>
      exact kept.requests _ _ (requestedReply_eq_some.mp found).1

theorem afterAttempt_onWork {claim : TelegramReplyClaimed}
    (requests : db'.Requests outboxMessageId claim.outboundMessageId)
    {outcome : TelegramProviderAttemptOutcome} {row : OutboundMessageRow}
    (written : db'.messages.find? claim.outboundMessageId =
      some (row.complete clock outcome))
    (seen : Option Unit) :
    (JobPhase.afterAttempt outcome seen).OnWork db' outboxMessageId := by
  cases seen with
  | none => trivial
  | some _ =>
      cases outcome with
      | transientFailure => trivial
      | providerAccepted | terminalFailure | outcomeUnknown =>
          exact workDone_of_reply requests (not_openReply written rfl)

end Phases

section Jobs

variable {state state' : ChannelState} {action : ChannelAction}

theorem referencesKept_setJob {database : ChannelDatabase} {job : JobId}
    {phase : JobPhase} {records : List ProcessingRecord}
    {sent : List TelegramSend} :
    state.ReferencesKept
      ({ state with
        database := database
        sent := sent }.setJob job phase records) := by
  intro outboxMessageId referenced
  rcases referenced with queued | published | recovered |
    ⟨other, current, found, same⟩
  · exact .inl (.inl queued)
  · exact .inl (.inr (.inl published))
  · exact .inl (.inr (.inr (.inl recovered)))
  · rcases ChannelState.find?_setJob found with
      ⟨_, earlier, present, rfl⟩ | ⟨_, present⟩
    · exact .inl (.inr (.inr (.inr ⟨job, earlier, present, same⟩)))
    · exact .inl (.inr (.inr (.inr ⟨other, current, present, same⟩)))

theorem ChannelStep.referencesKept (step : ChannelStep state action state') :
    state.ReferencesKept state' := by
  cases step with
  | environment _ _ _ references => exact references
  | @recoveryMarked call =>
      have quiet : ∀ message, RecoveryPhase.ended ≠ .publishing message := by
        intro message impossible
        cases impossible
      have kept : state.ReferencesKept (state.setRecovery call .ended) :=
        referencesKept_setRecovery quiet
      intro outboxMessageId referenced
      rcases kept outboxMessageId referenced with
        earlier | present | recovered
      · exact .inl earlier
      · exact .inr (.inl present)
      · exact .inr (.inr recovered)
  | @delivered job message queued absent =>
      intro outboxMessageId referenced
      rcases referenced with earlier | published | recovered |
        ⟨other, current, found, same⟩
      · exact .inl (.inl earlier)
      · exact .inl (.inr (.inl published))
      · exact .inl (.inr (.inr (.inl recovered)))
      · rcases Table.find?_insertMissing_cases found with
          present | ⟨_, _, rfl⟩
        · exact .inl (.inr (.inr (.inr ⟨other, current, present, same⟩)))
        · exact .inl (.inl ⟨message, queued, same⟩)
  | stopped | eventClaimed | actorResolved | linkConsumed | unlinkConsumed
  | limitEnforced | eventCompleted | eventReleased | replyClaimed
  | telegramSent | attemptCompleted | consumptionRecorded =>
      exact referencesKept_setJob

theorem reachable_references (reached : channelSystem.Reachable state) :
    ∀ outboxMessageId, state.Referenced outboxMessageId →
      (state.database.outbox.find? outboxMessageId).isSome = true := by
  refine System.Reachable.invariant (I := fun state =>
    ∀ outboxMessageId, state.Referenced outboxMessageId →
      (state.database.outbox.find? outboxMessageId).isSome = true)
    ?_ ?_ reached
  · rintro state ⟨users, ledgers, rfl⟩ outboxMessageId referenced
    rcases referenced with ⟨_, member, _⟩ | ⟨_, _, found, _⟩ |
      ⟨_, _, _, found, _⟩ | ⟨_, _, found, _⟩
    · cases member
    · cases found
    · cases found
    · cases found
  · intro state action state' earlier present taken outboxMessageId referenced
    have step := channelStep_of_next taken
    have kept := step.change.workKept
    rcases step.referencesKept outboxMessageId referenced with
      before | new | ⟨recoveryId, row, found, rfl⟩
    · exact kept.outbox _ (present outboxMessageId before)
    · exact new
    · exact kept.outbox _
        ((reachable_anchored earlier).recovered recoveryId row found)

/-- A job after a step in which at most this job moved. -/
theorem onWork_of_setJob {database : ChannelDatabase} {job : JobId}
    {current : OutboxJob} {phase : JobPhase}
    {records : List ProcessingRecord} {sent : List TelegramSend}
    (found : state.jobs.find? job = some current)
    (moved : phase.OnWork database current.message.outboxMessageId)
    (others : ∀ other running, state.jobs.find? other = some running →
      running.phase.OnWork database running.message.outboxMessageId)
    {other : JobId} {running : OutboxJob}
    (present : ({ state with
      database := database
      sent := sent }.setJob job phase records).jobs.find? other =
        some running) :
    running.phase.OnWork database running.message.outboxMessageId := by
  rcases ChannelState.find?_setJob present with
    ⟨_, earlier, earlierFound, rfl⟩ | ⟨_, unmoved⟩
  · cases Option.some.inj (earlierFound.symm.trans found)
    exact moved
  · exact others other running unmoved

theorem reachable_jobs (reached : channelSystem.Reachable state) :
    ∀ job current, state.jobs.find? job = some current →
      current.phase.OnWork state.database
        current.message.outboxMessageId := by
  refine System.Reachable.invariant (I := fun state =>
    ∀ job current, state.jobs.find? job = some current →
      current.phase.OnWork state.database current.message.outboxMessageId)
    ?_ ?_ reached
  · rintro state ⟨users, ledgers, rfl⟩ job current found
    cases found
  · intro state action state' earlier working taken job current present
    have step := channelStep_of_next taken
    have kept := step.change.workKept
    have anchored := reachable_anchored earlier
    have consistent := reachable_processing earlier
    have exists_outbox : ∀ job current,
        state.jobs.find? job = some current →
        (state.database.outbox.find?
          current.message.outboxMessageId).isSome = true := by
      intro job current found
      exact reachable_references earlier _
        (.inr (.inr (.inr ⟨job, current, found, rfl⟩)))
    have others : ∀ other running, state.jobs.find? other = some running →
        running.phase.OnWork state'.database
          running.message.outboxMessageId := by
      intro other running found
      exact (working other running found).kept anchored consistent kept
        (exists_outbox other running found)
    cases step with
    | environment _ jobs => exact others job current (jobs ▸ present)
    | recoveryMarked => exact others job current present
    | delivered =>
        rcases Table.find?_insertMissing_cases present with
          earlier | ⟨_, _, rfl⟩
        · exact others job current earlier
        · trivial
    | stopped found stops =>
        refine onWork_of_setJob found ?_ others present
        rcases stops with rfl | ⟨claim, step, phase, rfl⟩
        · trivial
        · have held := working _ _ found
          rw [phase] at held
          exact held
    | eventClaimed found _ effect saw =>
        exact onWork_of_setJob found (afterEventClaim_onWork anchored
          (exists_outbox _ _ found) effect saw) others present
    | actorResolved found phase =>
        have held := working _ _ found
        rw [phase] at held
        exact onWork_of_setJob found (afterIdentityCall_onWork held _ _)
          others present
    | linkConsumed found phase =>
        have held := working _ _ found
        rw [phase] at held
        exact onWork_of_setJob found
          (afterIdentityCall_onWork (kept.announces _ _ held) _ _)
          others present
    | unlinkConsumed found phase =>
        have held := working _ _ found
        rw [phase] at held
        exact onWork_of_setJob found
          (afterIdentityCall_onWork (kept.announces _ _ held) _ _)
          others present
    | limitEnforced found phase effect saw =>
        have held := working _ _ found
        rw [phase] at held
        exact onWork_of_setJob found
          (afterUserLimit_onWork anchored held _ effect saw) others present
    | eventCompleted found phase effect =>
        have held := working _ _ found
        rw [phase] at held
        exact onWork_of_setJob found (afterCompletion_onWork held effect _)
          others present
    | eventReleased found =>
        refine onWork_of_setJob found ?_ others present
        trivial
    | replyClaimed found phase effect saw =>
        have held := working _ _ found
        rw [phase] at held
        exact onWork_of_setJob found
          (afterReplyClaim_onWork consistent held effect saw) others present
    | telegramSent found phase =>
        have held := working _ _ found
        rw [phase] at held
        refine onWork_of_setJob found ?_ others present
        exact held
    | @attemptCompleted _ _ _ clock claim outcome _ _ found phase present' =>
        have held := working _ _ found
        rw [phase] at held
        exact onWork_of_setJob found (afterAttempt_onWork
          (kept.requests _ _ held) (find?_setMessage present') _)
          others present
    | consumptionRecorded found =>
        refine onWork_of_setJob found ?_ others present
        trivial

end Jobs

end XpensGo
