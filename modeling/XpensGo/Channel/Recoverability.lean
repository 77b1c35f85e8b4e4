import XpensGo.Channel.WorkDone

/-!
# Accepted work stays recoverable

An open event always has an unconsumed message.  A reply that an operator has
reopened depends on its recovery once its message is consumed, and two steps
leave it with neither: the publication of the recovery is recorded before its
job has run, or an earlier job records the consumption after the reply was
reopened.
-/

namespace XpensGo

open Postgres Relational Relational.View Transition ChannelDatabase

/-- Every open event has an unconsumed message, and every open reply has one or
a recovery that can be repeated. -/
structure Recoverable (db : ChannelDatabase) : Prop where
  events : ∀ inboundEventId, db.OpenEvent inboundEventId →
    ∃ outboxMessageId, db.Announces outboxMessageId inboundEventId ∧
      ¬ db.Consumed outboxMessageId
  replies : ∀ outboundMessageId, db.OpenReply outboundMessageId →
    (∃ outboxMessageId, db.Requests outboxMessageId outboundMessageId ∧
      ¬ db.Consumed outboxMessageId) ∨
        db.RecoveryPrepared outboundMessageId

/-- The steps that strand an open reply: the last prepared recovery of a reply
whose message is consumed is recorded as published, or the message of a reply
whose recoveries are all published is consumed. -/
inductive StrandsReply (state : ChannelState) : ChannelAction → Prop where
  | recoveryPublished {call : RecoveryCallId} {fate : CallFate}
      {clock : DatabaseClock} {recoveryId : TelegramDeliveryRecoveryId}
      {row : DeliveryRecoveryRow} :
      state.recoveryCalls.find? call = some ⟨recoveryId, .marking⟩ →
      fate ≠ .refused →
      state.database.recoveries.find? recoveryId = some row →
      row.publicationStatus = .prepared →
      state.database.OpenReply row.outboundMessageId →
      (∀ outboxMessageId,
        state.database.Requests outboxMessageId row.outboundMessageId →
        state.database.Consumed outboxMessageId) →
      (∀ other otherRow, state.database.recoveries.find? other =
          some otherRow →
        otherRow.outboundMessageId = row.outboundMessageId →
        otherRow.publicationStatus = .prepared → other = recoveryId) →
      StrandsReply state (.markRecovery call fate clock)
  | messageConsumed {job : JobId} {current : OutboxJob} {fate : CallFate}
      {clock : DatabaseClock}
      {outboundMessageId : OutboundChannelMessageId} :
      state.jobs.find? job = some current →
      current.phase = .consuming →
      fate ≠ .refused →
      state.database.Requests current.message.outboxMessageId
        outboundMessageId →
      state.database.OpenReply outboundMessageId →
      state.database.Recovered outboundMessageId →
      ¬ state.database.RecoveryPrepared outboundMessageId →
      StrandsReply state (.job job (.recordConsumption fate clock))

section Steps

variable {state state' : ChannelState} {action : ChannelAction}

/-- What a step does to the receipts and to the recoveries. -/
inductive RecoveryStep (state : ChannelState) (action : ChannelAction)
    (state' : ChannelState) : Prop where
  | quiet :
      state'.database.receipts = state.database.receipts →
      (∀ recoveryId row,
        state.database.recoveries.find? recoveryId = some row →
        state'.database.recoveries.find? recoveryId = some row) →
      RecoveryStep state action state'
  | published {call : RecoveryCallId} {fate : CallFate}
      {clock : DatabaseClock} {recoveryId : TelegramDeliveryRecoveryId}
      {row : DeliveryRecoveryRow} :
      action = .markRecovery call fate clock →
      state.recoveryCalls.find? call = some ⟨recoveryId, .marking⟩ →
      fate ≠ .refused →
      state.database.recoveries.find? recoveryId = some row →
      row.publicationStatus = .prepared →
      state'.database = state.database.publishRecovery clock recoveryId →
      RecoveryStep state action state'
  | consumed {job : JobId} {current : OutboxJob} {fate : CallFate}
      {clock : DatabaseClock} :
      action = .job job (.recordConsumption fate clock) →
      state.jobs.find? job = some current →
      current.phase = .consuming →
      fate ≠ .refused →
      state.database.ConsumptionOnly current.message.outboxMessageId
        state'.database →
      RecoveryStep state action state'

theorem recoveryStep_of_same
    (receipts : state'.database.receipts = state.database.receipts)
    (recoveries : state'.database.recoveries = state.database.recoveries) :
    RecoveryStep state action state' := by
  refine .quiet receipts ?_
  intro recoveryId row found
  rw [recoveries]
  exact found

theorem recoveryStep_of_step (step : ChannelStep state action state') :
    RecoveryStep state action state' := by
  cases step with
  | environment kept => exact .quiet kept.receipts kept.recoveries
  | recoveryMarked marking permitted found prepared =>
      exact .published rfl marking permitted found prepared rfl
  | delivered | stopped | actorResolved | linkConsumed | unlinkConsumed
  | telegramSent | attemptCompleted => exact recoveryStep_of_same rfl rfl
  | eventClaimed _ _ effect =>
      cases effect with
      | notFound | duplicate | deferred | refused =>
          exact recoveryStep_of_same rfl rfl
      | suppressed _ _ _ windows | claimed _ _ _ windows =>
          obtain ⟨_, rfl⟩ := windows
          exact recoveryStep_of_same rfl rfl
  | limitEnforced _ _ effect =>
      cases effect with
      | decided => exact recoveryStep_of_same rfl rfl
      | allowed _ _ windows | suppressed _ _ windows =>
          obtain ⟨_, rfl⟩ := windows
          exact recoveryStep_of_same rfl rfl
  | eventCompleted _ _ effect =>
      cases effect with
      | completed => exact recoveryStep_of_same rfl rfl
  | eventReleased _ _ effect =>
      cases effect with
      | ignored | released => exact recoveryStep_of_same rfl rfl
  | replyClaimed _ _ effect =>
      cases effect with
      | notFound | terminal | deferred | exhausted | claimed =>
          exact recoveryStep_of_same rfl rfl
      | @expired _ row =>
          obtain ⟨attempts, ended⟩ := endLeased_attempts row
            (DeliveryAttemptRow.expire _)
          rw [ended]
          exact recoveryStep_of_same rfl rfl
  | consumptionRecorded found phase permitted recorded =>
      rcases recorded with same | ⟨_, consumption⟩
      · rw [same]
        exact recoveryStep_of_same rfl rfl
      · exact .consumed rfl found phase permitted consumption

/-- A message is consumed because it was, or by the job of this step. -/
theorem consumed_cases (step : ChannelStep state action state')
    {outboxMessageId : OutboxMessageId}
    (consumed : state'.database.Consumed outboxMessageId) :
    state.database.Consumed outboxMessageId ∨
      ∃ job current fate clock,
        action = .job job (.recordConsumption fate clock) ∧
          state.jobs.find? job = some current ∧ current.phase = .consuming ∧
          fate ≠ .refused ∧
          current.message.outboxMessageId = outboxMessageId ∧
          state'.database.recoveries = state.database.recoveries := by
  cases recoveryStep_of_step step with
  | quiet receipts =>
      rw [Consumed, receipts] at consumed
      exact .inl consumed
  | published _ _ _ _ _ written =>
      rw [written] at consumed
      exact .inl consumed
  | consumed isAction found phase permitted consumption =>
      obtain ⟨receipts, written, recorded⟩ := consumption
      rw [written] at consumed ⊢
      rcases (recorded outboxMessageId).mp consumed with before | rfl
      · exact .inl before
      · exact .inr ⟨_, _, _, _, isAction, found, phase, permitted, rfl, rfl⟩

theorem consumed_done (reached : channelSystem.Reachable state) :
    ∀ outboxMessageId, state.database.Consumed outboxMessageId →
      WorkDone state.database outboxMessageId := by
  refine System.Reachable.invariant (I := fun state =>
    ∀ outboxMessageId, state.database.Consumed outboxMessageId →
      WorkDone state.database outboxMessageId) ?_ ?_ reached
  · rintro state ⟨users, ledgers, rfl⟩ outboxMessageId consumed
    cases consumed
  · intro state action state' earlier done taken outboxMessageId consumed
    have step := channelStep_of_next taken
    have kept := step.change.workKept
    have anchored := reachable_anchored earlier
    have consistent := reachable_processing earlier
    rcases consumed_cases step consumed with
      before | ⟨job, current, _, _, _, found, phase, _, rfl, _⟩
    · exact (done outboxMessageId before).kept anchored consistent kept
        (anchored.consumed outboxMessageId before)
    · have working := reachable_jobs earlier job current found
      rw [phase] at working
      exact WorkDone.kept working anchored consistent kept
        (reachable_references earlier _
          (.inr (.inr (.inr ⟨job, current, found, rfl⟩))))

end Steps

section Recovery

variable {state state' : ChannelState} {action : ChannelAction}

/-- A consumed message of an open reply leaves a prepared recovery. -/
def RecoveriesCover (db : ChannelDatabase) : Prop :=
  ∀ outboxMessageId outboundMessageId,
    db.Requests outboxMessageId outboundMessageId →
    db.Consumed outboxMessageId → db.OpenReply outboundMessageId →
    db.RecoveryPrepared outboundMessageId

/-- There is one request for each reply. -/
theorem requests_unique {db : ChannelDatabase}
    (consistent : db.processing.Consistent)
    {outboxMessageId other : OutboxMessageId}
    {outboundMessageId : OutboundChannelMessageId}
    (requests : db.Requests outboxMessageId outboundMessageId)
    (requests' : db.Requests other outboundMessageId) :
    outboxMessageId = other := by
  obtain ⟨row, found, kind⟩ := requests
  obtain ⟨row', found', kind'⟩ := requests'
  obtain ⟨reply, present, same⟩ :=
    consistent.requests _ _ outboundMessageId (terms_of_find? found) kind
  obtain ⟨reply', present', same'⟩ :=
    consistent.requests _ _ outboundMessageId (terms_of_find? found') kind'
  cases Option.some.inj (present.symm.trans present')
  refine consistent.distinctOutbox _ _ _ _ (terms_of_find? found)
    (terms_of_find? found') (same.symm.trans same') ?_
  rw [kind, kind']
  rfl

/-- A prepared recovery outlasts a step that strands no reply. -/
theorem recoveryPrepared_kept (reached : channelSystem.Reachable state)
    (harmless : ¬ StrandsReply state action)
    (taken : channelSystem.next state action = some state')
    {outboxMessageId : OutboxMessageId}
    {outboundMessageId : OutboundChannelMessageId}
    (requests : state.database.Requests outboxMessageId outboundMessageId)
    (consumed : state.database.Consumed outboxMessageId)
    (opened : state.database.OpenReply outboundMessageId)
    (prepared : state.database.RecoveryPrepared outboundMessageId) :
    state'.database.RecoveryPrepared outboundMessageId := by
  obtain ⟨recoveryId, row, found, same, unpublished⟩ := prepared
  cases recoveryStep_of_step (channelStep_of_next taken) with
  | quiet _ kept =>
      exact ⟨recoveryId, row, kept recoveryId row found, same, unpublished⟩
  | consumed _ _ _ _ consumption =>
      obtain ⟨receipts, written, _⟩ := consumption
      rw [written]
      exact ⟨recoveryId, row, found, same, unpublished⟩
  | @published call fate clock published publishedRow isAction marking
      permitted publishedFound publishedPrepared written =>
      by_contra none
      have others : ∀ other otherRow,
          state.database.recoveries.find? other = some otherRow →
          otherRow.outboundMessageId = outboundMessageId →
          otherRow.publicationStatus = .prepared → other = published := by
        intro other otherRow otherFound otherSame otherPrepared
        by_contra different
        refine none ⟨other, otherRow, ?_, otherSame, otherPrepared⟩
        rw [written]
        exact (Table.find?_modify_of_ne _ _ different).trans otherFound
      cases others recoveryId row found same unpublished
      cases Option.some.inj (found.symm.trans publishedFound)
      subst same isAction
      refine harmless (.recoveryPublished marking permitted found unpublished
        opened ?_ others)
      intro other requests'
      cases requests_unique (reachable_processing reached) requests requests'
      exact consumed

theorem RecoveriesCover.step (covered : RecoveriesCover state.database)
    (reached : channelSystem.Reachable state)
    (harmless : ¬ StrandsReply state action)
    (taken : channelSystem.next state action = some state') :
    RecoveriesCover state'.database := by
  intro outboxMessageId outboundMessageId requests consumed opened
  have step := channelStep_of_next taken
  have kept := step.change.workKept
  have present :
      (state.database.outbox.find? outboxMessageId).isSome = true := by
    rcases step.change.consumed_before consumed with before | present
    · exact (reachable_anchored reached).consumed outboxMessageId before
    · exact present
  have requested := kept.requests_of_present present requests
  rcases kept.openReply outboundMessageId opened with
    before | absent | prepared
  · rcases consumed_cases step consumed with
      earlier | ⟨job, current, fate, clock, rfl, found, phase, permitted, rfl,
        unchanged⟩
    · exact recoveryPrepared_kept reached harmless taken requested earlier
        before (covered _ _ requested earlier before)
    · by_contra unprepared
      rw [RecoveryPrepared, unchanged] at unprepared
      have working := reachable_jobs reached job current found
      rw [phase] at working
      exact harmless (.messageConsumed found phase permitted requested before
        (WorkDone.reply working _ requested before) unprepared)
  · obtain ⟨row, found⟩ :=
      message_of_requests (reachable_processing reached) requested
    rw [absent] at found
    cases found
  · exact prepared

/-- In every run an open event has an unconsumed message. -/
theorem events_recoverable (reached : channelSystem.Reachable state)
    {inboundEventId : InboundEventId}
    (opened : state.database.OpenEvent inboundEventId) :
    ∃ outboxMessageId,
      state.database.Announces outboxMessageId inboundEventId ∧
        ¬ state.database.Consumed outboxMessageId := by
  obtain ⟨row, found, unfinished⟩ := opened
  obtain ⟨outboxMessageId, terms, announced, rfl, kind⟩ :=
    (reachable_processing reached).announced inboundEventId row found
  have announces := announces_of_terms announced kind
  refine ⟨outboxMessageId, announces, ?_⟩
  intro consumed
  exact (consumed_done reached outboxMessageId consumed).event _ announces
    ⟨row, found, unfinished⟩

/-- Every reply was requested by an outbox message. -/
theorem requests_of_message {db : ChannelDatabase}
    (consistent : db.processing.Consistent)
    {outboundMessageId : OutboundChannelMessageId} {row : OutboundMessageRow}
    (found : db.messages.find? outboundMessageId = some row) :
    ∃ outboxMessageId, db.Requests outboxMessageId outboundMessageId := by
  have present : db.processing.replies outboundMessageId =
      some row.toOutboundMessageTerms := by
    change Option.map _ (db.messages.find? outboundMessageId) = _
    rw [found]
    rfl
  obtain ⟨_, _, _, _, outboxMessageId, terms, requested, _, kind, _⟩ :=
    consistent.replies outboundMessageId _ present
  exact ⟨outboxMessageId, requests_of_terms requested kind⟩

/-- In every run none of whose steps strands a reply, all open work can be
taken up again. -/
theorem work_recoverable
    (reached : channelSystem.ReachableWhere
      (fun state action => ¬ StrandsReply state action) state) :
    Recoverable state.database := by
  have covered : RecoveriesCover state.database := by
    refine System.ReachableWhere.invariant (I := fun state =>
      RecoveriesCover state.database) ?_ ?_ reached
    · rintro state ⟨users, ledgers, rfl⟩ outboxMessageId _ _ consumed
      cases consumed
    · intro state action state' earlier covered harmless taken
      exact covered.step earlier.reachable harmless taken
  constructor
  · intro inboundEventId opened
    exact events_recoverable reached.reachable opened
  · intro outboundMessageId opened
    obtain ⟨row, found, unfinished⟩ := opened
    obtain ⟨outboxMessageId, requests⟩ :=
      requests_of_message (reachable_processing reached.reachable) found
    by_cases consumed : state.database.Consumed outboxMessageId
    · exact .inr (covered outboxMessageId outboundMessageId requests consumed
        ⟨row, found, unfinished⟩)
    · exact .inl ⟨outboxMessageId, requests, consumed⟩

theorem markTelegramDeliveryRecoveryPublished_of_prepared
    {db : ChannelDatabase} {clock : DatabaseClock}
    {recoveryId : TelegramDeliveryRecoveryId} {row : DeliveryRecoveryRow}
    (found : db.recoveries.find? recoveryId = some row)
    (prepared : row.publicationStatus = .prepared) :
    markTelegramDeliveryRecoveryPublished clock recoveryId db =
      .ok (.published, db.publishRecovery clock recoveryId) := by
  have updated : db.recoveries.modify? DeliveryRecoveryRow.check recoveryId
      (fun row =>
        { row with
          publicationStatus := .published
          publishedAt := some clock.currentTimestamp }) =
        some (db.publishRecovery clock recoveryId).recoveries := by
    rw [Table.modify?_eq_some_iff]
    exact ⟨fun _ _ => rfl, rfl⟩
  simp only [markTelegramDeliveryRecoveryPublished, found, prepared, updated]
  rfl

theorem StrandsReply.strands (reached : channelSystem.Reachable state)
    (strands : StrandsReply state action)
    (taken : channelSystem.next state action = some state') :
    ¬ Recoverable state'.database := by
  intro recoverable
  cases strands with
  | @recoveryPublished call fate clock recoveryId row marking permitted found
      prepared opened consumed last =>
      have written : state'.database =
          state.database.publishRecovery clock recoveryId := by
        change state.next (.markRecovery call fate clock) = _ at taken
        simp only [ChannelState.next, marking] at taken
        cases taken
        exact settle_database permitted
          (markTelegramDeliveryRecoveryPublished_of_prepared found prepared)
      rw [written] at recoverable
      rcases recoverable.replies row.outboundMessageId opened with
        ⟨outboxMessageId, requests, unconsumed⟩ |
          ⟨other, otherRow, otherFound, same, otherPrepared⟩
      · exact unconsumed (consumed outboxMessageId requests)
      · change (Table.modify _ _ _).find? _ = _ at otherFound
        rw [Table.find?_modify_eq_update found] at otherFound
        rcases update_eq_some otherFound with ⟨_, rfl⟩ | ⟨different, earlier⟩
        · cases otherPrepared
        · exact different (last other otherRow earlier same otherPrepared)
  | @messageConsumed job current fate clock outboundMessageId found phase
      permitted requests opened recovered unprepared =>
      obtain ⟨outcome, database, ran⟩ : ∃ outcome database,
          recordOutboxConsumption clock current.message.outboxMessageId
            state.database = .ok (outcome, database) := by
        unfold recordOutboxConsumption
        split <;> exact ⟨_, _, rfl⟩
      have written : state'.database = database := by
        change state.next (.job job (.recordConsumption fate clock)) = _
          at taken
        simp only [ChannelState.next, found, ChannelState.nextJob, phase]
          at taken
        cases taken
        exact settle_database permitted ran
      rw [written] at recoverable
      rcases recordOutboxConsumption_eq_ok ran with
        ⟨_, absent⟩ | ⟨_, receipts, rfl, recorded⟩
      · obtain ⟨outbox, present, _⟩ := requests
        rw [present] at absent
        cases absent
      · rcases recoverable.replies outboundMessageId opened with
          ⟨other, requests', unconsumed⟩ | prepared
        · cases requests_unique (reachable_processing reached) requests
            requests'
          exact unconsumed ((recorded _).mpr (.inr rfl))
        · exact unprepared prepared

/-- An operator repeats a delivery that Telegram has rejected. -/
def sampleRecovery : RecoverTelegramDeliveryInput :=
  { recoveryId := ⟨"recovery-1"⟩
    outboundMessageId := ⟨401⟩
    expectedErrorCode := "telegram_http_400"
    reason := .recipientStateCorrected }

def recoveredRun : List ChannelAction :=
  deliveredRun (.terminalFailure "telegram_http_400") ++
    [.recoverDelivery 0 .answered sampleRecovery,
      .publishRecovery 0 .accepted]

/-- The recovery is recorded as published after its job has delivered. -/
def repeatedRun : List ChannelAction :=
  recoveredRun ++
    [.deliver 3 { outboxMessageId := ⟨501⟩, correlationId := ⟨9⟩ },
      .job 3 (.claimEvent .answered (channelClock 5002000) 5002000 ⟨5002000⟩),
      .job 3 (.claimReply .answered (channelClock 5002000) 5002000 ⟨602⟩),
      .job 3 (.send (.providerAccepted "telegram-2")),
      .job 3 (.completeAttempt .answered (channelClock 5002100)),
      .markRecovery 0 .answered (channelClock 5002200)]

/-- The job has no step left. -/
def JobPhase.hasEnded : JobPhase → Bool
  | .ended => true
  | .claimingEvent | .processing _ _ | .claimingReply | .sending _
  | .completingAttempt _ _ | .consuming => false

theorem JobPhase.hasEnded_eq_true {phase : JobPhase} :
    phase.hasEnded = true ↔ phase = .ended := by
  cases phase <;> simp [JobPhase.hasEnded]

/-- The recovery is recorded as published, and the queue loses its job. -/
def lostRecoveryRun : List ChannelAction :=
  recoveredRun ++
    [.markRecovery 0 .answered (channelClock 5002000),
      .drop { outboxMessageId := ⟨501⟩, correlationId := ⟨9⟩ }]

/-- A computable condition under which a step strands no reply. -/
def strandsNothing (state : ChannelState) : ChannelAction → Bool
  | .markRecovery call _ _ =>
      match state.recoveryCalls.find? call with
      | some ⟨recoveryId, .marking⟩ =>
          (state.database.recoveries.find? recoveryId).all (fun recovery =>
            (state.database.messages.find? recovery.outboundMessageId).all
              (fun row => row.status.isTerminal))
      | _ => true
  | .job _ (.recordConsumption _ _) => state.database.recoveries.rows.isEmpty
  | _ => true

theorem not_strandsReply_of_strandsNothing {action : ChannelAction}
    (met : strandsNothing state action = true) :
    ¬ StrandsReply state action := by
  intro strands
  cases strands with
  | recoveryPublished marking _ found _ opened =>
      obtain ⟨row, present, unfinished⟩ := opened
      simp [strandsNothing, marking, found, present, unfinished] at met
  | messageConsumed _ _ _ _ _ recovered =>
      obtain ⟨recoveryId, row, found, _⟩ := recovered
      have member := Table.find?_eq_some_iff_mem.mp found
      rw [strandsNothing, List.isEmpty_iff] at met
      rw [met] at member
      cases member

theorem work_recoverable_repeated :
    ∃ state row, channelSystem.ReachableWhere
        (fun state action => ¬ StrandsReply state action) state ∧
      state.database.recoveries.find? ⟨"recovery-1"⟩ = some row ∧
        row.publicationStatus = .published ∧ Recoverable state.database := by
  obtain ⟨state, reached, tested⟩ := System.exists_reachableWhere_of_run
    repeatedRun strandsNothing
    (fun state => (state.database.recoveries.find? ⟨"recovery-1"⟩).any
      (fun row => row.publicationStatus = .published))
    (fun _ _ => not_strandsReply_of_strandsNothing)
    sampleChannelStart_initial (by decide +kernel)
  simp only [Option.any_eq_true, decide_eq_true_eq] at tested
  obtain ⟨row, found, published⟩ := tested
  exact ⟨state, row, reached, found, published, work_recoverable reached⟩

/-- The reply of the lost recovery is open, and no job is left that could
deliver it. -/
theorem work_stranded :
    ∃ state, channelSystem.Reachable state ∧
      ¬ Recoverable state.database ∧
        state.database.OpenReply ⟨401⟩ ∧ state.queue = [] ∧
          ∀ job current, state.jobs.find? job = some current →
            current.phase = .ended := by
  obtain ⟨state, reached, tested⟩ := System.exists_reachable_of_run
    lostRecoveryRun
    (fun state => state.queue.isEmpty &&
      state.jobs.rows.all (fun entry => entry.2.phase.hasEnded) &&
      (state.database.messages.find? ⟨401⟩).any (fun row =>
        row.status = .pending) &&
      (state.database.outbox.find? ⟨501⟩).any (fun row =>
        row.kind = .channelReplyRequested ⟨401⟩) &&
      (state.database.receipts.find? ⟨501⟩).isSome &&
      state.database.recoveries.rows.all (fun entry =>
        entry.2.publicationStatus = .published))
    sampleChannelStart_initial (by decide +kernel)
  simp only [Bool.and_eq_true, Option.any_eq_true, List.all_eq_true,
    decide_eq_true_eq, List.isEmpty_iff] at tested
  obtain ⟨⟨⟨⟨⟨empty, ended⟩, row, found, pending⟩, outbox, requested, kind⟩,
    consumed⟩, published⟩ := tested
  have opened : state.database.OpenReply ⟨401⟩ :=
    ⟨row, found, by rw [pending]; rfl⟩
  refine ⟨state, reached, ?_, opened, empty, ?_⟩
  · intro recoverable
    rcases recoverable.replies ⟨401⟩ opened with
      ⟨outboxMessageId, requests, unconsumed⟩ |
        ⟨recoveryId, recovery, recoveryFound, _, prepared⟩
    · have requests' : state.database.Requests ⟨501⟩ ⟨401⟩ :=
        ⟨outbox, requested, kind⟩
      cases requests_unique (reachable_processing reached) requests requests'
      exact unconsumed consumed
    · have member := Table.find?_eq_some_iff_mem.mp recoveryFound
      have recorded := published _ member
      rw [prepared] at recorded
      cases recorded
  · intro job current running
    exact JobPhase.hasEnded_eq_true.mp
      (ended _ (Table.find?_eq_some_iff_mem.mp running))

end Recovery

end XpensGo
