import XpensGo.Channel.ProcessingStore

/-!
# What a committed processing transaction can do

The committed outcomes of the ingress store and of the event-processing store,
with their conditions and with the tables they leave.
-/

namespace XpensGo

open EcmaScript Postgres Relational

namespace ChannelDatabase

section Updates

def setEvent (db : ChannelDatabase) (inboundEventId : InboundEventId)
    (set : InboundEventRow → InboundEventRow) : ChannelDatabase :=
  { db with events := db.events.modify inboundEventId set }

variable {db db' : ChannelDatabase}

theorem updateEvent_eq_some {inboundEventId : InboundEventId}
    {set : InboundEventRow → InboundEventRow}
    (updated : db.updateEvent inboundEventId set = some db') :
    db' = db.setEvent inboundEventId set := by
  simp only [updateEvent, Option.bind_eq_bind, Option.bind_eq_some_iff]
    at updated
  obtain ⟨events, modified, rest⟩ := updated
  obtain ⟨_, rfl⟩ := Table.modify?_eq_some_iff.mp modified
  exact (Option.some.inj rest).symm

theorem insertEvent_eq_some {inboundEventId : InboundEventId}
    {row : InboundEventRow}
    (inserted : db.insertEvent inboundEventId row = some db') :
    ∃ fresh : inboundEventId ∉ db.events.rows.map Prod.fst,
      db' = { db with events := db.events.push inboundEventId row fresh } := by
  unfold insertEvent at inserted
  split at inserted
  · simp only [Option.bind_eq_bind, Option.bind_eq_some_iff] at inserted
    obtain ⟨events, pushed, rest⟩ := inserted
    obtain ⟨_, fresh, rfl⟩ := Table.insert?_eq_some_iff.mp pushed
    exact ⟨fresh, (Option.some.inj rest).symm⟩
  · cases inserted

/-- No outbox message of this kind exists for the event. -/
def NoOutboxOfKind (db : ChannelDatabase) (inboundEventId : InboundEventId)
    (kind : OutboxKind) : Prop :=
  ∀ outboxMessageId row, db.outbox.find? outboxMessageId = some row →
    row.inboundEventId = inboundEventId → row.kind.sameKind kind = false

theorem insertOutbox_eq_some {outboxMessageId : OutboxMessageId}
    {row : OutboxMessageRow}
    (inserted : db.insertOutbox outboxMessageId row = some db') :
    db.NoOutboxOfKind row.inboundEventId row.kind ∧
      ∃ fresh : outboxMessageId ∉ db.outbox.rows.map Prod.fst,
        db' = { db with
          outbox := db.outbox.push outboxMessageId row fresh } := by
  unfold insertOutbox at inserted
  split at inserted
  · rename_i permitted
    simp only [Bool.and_eq_true, Table.select_isEmpty_iff] at permitted
    simp only [Option.bind_eq_bind, Option.bind_eq_some_iff] at inserted
    obtain ⟨outbox, pushed, rest⟩ := inserted
    obtain ⟨_, fresh, rfl⟩ := Table.insert?_eq_some_iff.mp pushed
    refine ⟨?_, fresh, (Option.some.inj rest).symm⟩
    intro other present found sameEvent
    simpa [sameEvent] using permitted.1 other present found
  · cases inserted

/-- No message exists for the event. -/
def Unanswered (db : ChannelDatabase) (inboundEventId : InboundEventId) :
    Prop :=
  ∀ outboundMessageId row, db.messages.find? outboundMessageId = some row →
    row.inboundEventId ≠ inboundEventId

theorem insertMessage_eq_some {outboundMessageId : OutboundChannelMessageId}
    {row : OutboundMessageRow}
    (inserted : db.insertMessage outboundMessageId row = some db') :
    db.Unanswered row.inboundEventId ∧
      ∃ fresh : outboundMessageId ∉ db.messages.rows.map Prod.fst,
        db' = { db with
          messages := db.messages.push outboundMessageId row fresh } := by
  unfold insertMessage at inserted
  split at inserted
  · rename_i permitted
    simp only [Bool.and_eq_true, Table.select_isEmpty_iff] at permitted
    simp only [Option.bind_eq_bind, Option.bind_eq_some_iff] at inserted
    obtain ⟨messages, pushed, rest⟩ := inserted
    obtain ⟨_, fresh, rfl⟩ := Table.insert?_eq_some_iff.mp pushed
    refine ⟨?_, fresh, (Option.some.inj rest).symm⟩
    intro other present found
    simpa using permitted.1 other present found
  · cases inserted

/-- No command exists for the event. -/
def Uncommanded (db : ChannelDatabase) (inboundEventId : InboundEventId) :
    Prop :=
  ∀ commandId row, db.commands.find? commandId = some row →
    row.inboundEventId ≠ inboundEventId

theorem insertCommand_eq_some {commandId : NormalizedCommandId}
    {row : NormalizedCommandRow}
    (inserted : db.insertCommand commandId row = some db') :
    db.Uncommanded row.inboundEventId ∧
      ∃ fresh : commandId ∉ db.commands.rows.map Prod.fst,
        db' = { db with
          commands := db.commands.push commandId row fresh } := by
  unfold insertCommand at inserted
  split at inserted
  · rename_i permitted
    simp only [Bool.and_eq_true, Table.select_isEmpty_iff] at permitted
    simp only [Option.bind_eq_bind, Option.bind_eq_some_iff] at inserted
    obtain ⟨commands, pushed, rest⟩ := inserted
    obtain ⟨_, fresh, rfl⟩ := Table.insert?_eq_some_iff.mp pushed
    refine ⟨?_, fresh, (Option.some.inj rest).symm⟩
    intro other present found
    simpa using permitted.1 other present found
  · cases inserted

/-- The windows change and nothing else. -/
def WindowsOnly (db db' : ChannelDatabase) : Prop :=
  ∃ windows, db' = { db with windows := windows }

theorem countEvent_windowsOnly (db : ChannelDatabase) (clock : DatabaseClock)
    (scope : AbuseScope) : db.WindowsOnly (db.countEvent clock scope).2 := by
  unfold countEvent
  dsimp only
  split
  · exact ⟨_, rfl⟩
  · exact ⟨_, rfl⟩

theorem WindowsOnly.trans {middle : ChannelDatabase}
    (first : db.WindowsOnly middle) (second : middle.WindowsOnly db') :
    db.WindowsOnly db' := by
  obtain ⟨_, rfl⟩ := first
  obtain ⟨windows, rfl⟩ := second
  exact ⟨windows, rfl⟩

theorem eventHeld_eq_some {inboundEventId : InboundEventId}
    {claimId : TelegramProcessingClaimId} {row : InboundEventRow} :
    db.eventHeld inboundEventId claimId = some row ↔
      db.events.find? inboundEventId = some row ∧
        row.processingStatus = .processing ∧
          row.processingClaimId = some claimId := by
  unfold eventHeld
  rw [Option.filter_eq_some_iff]
  simp

theorem announcedEvent_eq_some {outboxMessageId : OutboxMessageId}
    {inboundEventId : InboundEventId} {row : InboundEventRow}
    (announced : db.announcedEvent outboxMessageId =
      some (inboundEventId, row)) :
    (∃ outbox, db.outbox.find? outboxMessageId = some outbox ∧
      outbox.kind = .channelEventReceived ∧
        outbox.inboundEventId = inboundEventId) ∧
      db.events.find? inboundEventId = some row := by
  unfold announcedEvent at announced
  split at announced
  · rename_i outbox found
    split at announced
    · rename_i kind
      obtain ⟨event, present, same⟩ := Option.map_eq_some_iff.mp announced
      cases same
      exact ⟨⟨outbox, found, kind, rfl⟩, present⟩
    · cases announced
  · cases announced

end Updates

section Effects

/-- The committed outcomes of `persist`. -/
inductive PersistEffect (clock : DatabaseClock)
    (inboundEventId : InboundEventId) (outboxMessageId : OutboxMessageId)
    (input : PersistTelegramEventInput) (db : ChannelDatabase) :
    AcceptTelegramEventOutcome → ChannelDatabase → Prop where
  | duplicate :
      PersistEffect clock inboundEventId outboxMessageId input db .duplicate db
  | accepted
      (freshEvent : inboundEventId ∉ db.events.rows.map Prod.fst)
      (freshOutbox : outboxMessageId ∉ db.outbox.rows.map Prod.fst) :
      (∀ other row, db.events.find? other = some row →
        row.externalEventId ≠ input.event.updateId) →
      db.NoOutboxOfKind inboundEventId .channelEventReceived →
      PersistEffect clock inboundEventId outboxMessageId input db
        (.accepted inboundEventId outboxMessageId)
        { db with
          events := db.events.push inboundEventId input.row freshEvent
          outbox := db.outbox.push outboxMessageId
            (newOutboxRow clock inboundEventId none .channelEventReceived
              input.correlationId) freshOutbox }

/-- The committed outcomes of `claim`. -/
inductive EventClaimEffect (clock : DatabaseClock) (workerNow : Int)
    (claimId : TelegramProcessingClaimId) (policy : TelegramProcessingPolicy)
    (outboxMessageId : OutboxMessageId) (db : ChannelDatabase) :
    ClaimTelegramEventOutcome → ChannelDatabase → Prop where
  | notFound :
      db.announcedEvent outboxMessageId = none →
      EventClaimEffect clock workerNow claimId policy outboxMessageId db
        .notFound db
  | duplicate {inboundEventId : InboundEventId} {row : InboundEventRow} :
      db.announcedEvent outboxMessageId = some (inboundEventId, row) →
      row.processingStatus.isTerminal = true →
      EventClaimEffect clock workerNow claimId policy outboxMessageId db
        .duplicate db
  | deferred {inboundEventId : InboundEventId} {row : InboundEventRow}
      {retryAfterSeconds : Int} :
      db.announcedEvent outboxMessageId = some (inboundEventId, row) →
      row.processingStatus = .processing →
      EventClaimEffect clock workerNow claimId policy outboxMessageId db
        (.deferred retryAfterSeconds) db
  | refused {inboundEventId : InboundEventId} {row : InboundEventRow} :
      db.announcedEvent outboxMessageId = some (inboundEventId, row) →
      row.processingStatus.isTerminal = false →
      row.abuseAllowed = some false →
      EventClaimEffect clock workerNow claimId policy outboxMessageId db
        .rateLimited db
  | suppressed {inboundEventId : InboundEventId} {row : InboundEventRow}
      {counted : ChannelDatabase} :
      db.announcedEvent outboxMessageId = some (inboundEventId, row) →
      row.processingStatus.isTerminal = false →
      row.abuseAllowed = none →
      db.WindowsOnly counted →
      EventClaimEffect clock workerNow claimId policy outboxMessageId db
        .rateLimited
        (counted.setEvent inboundEventId (InboundEventRow.suppress clock))
  | claimed {inboundEventId : InboundEventId} {row : InboundEventRow}
      {counted : ChannelDatabase} :
      db.announcedEvent outboxMessageId = some (inboundEventId, row) →
      row.processingStatus.isTerminal = false →
      row.abuseAllowed ≠ some false →
      db.WindowsOnly counted →
      EventClaimEffect clock workerNow claimId policy outboxMessageId db
        (.claimed
          { claimId := claimId
            inboundEventId := inboundEventId
            event := row.normalizedPayload })
        (counted.setEvent inboundEventId
          (InboundEventRow.claim clock policy claimId))

/-- The rows that a completion adds. -/
inductive CompleteEventEffect (clock : DatabaseClock) (ids : CompletionIds)
    (input : CompleteTelegramEventInput) (db : ChannelDatabase) :
    ChannelDatabase → Prop where
  | completed {row : InboundEventRow}
      {commands : Table NormalizedCommandId NormalizedCommandRow}
      (freshMessage : ids.message ∉ db.messages.rows.map Prod.fst)
      (freshOutbox : ids.outbox ∉ db.outbox.rows.map Prod.fst) :
      db.eventHeld input.inboundEventId input.claimId = some row →
      (input.completion.command = none → commands = db.commands) →
      (∀ actor text, input.completion.command = some (actor, text) →
        db.Uncommanded input.inboundEventId ∧
          ∃ fresh : ids.command ∉ db.commands.rows.map Prod.fst,
            commands = db.commands.push ids.command
              (input.command row.normalizedPayload actor text) fresh) →
      db.Unanswered input.inboundEventId →
      db.NoOutboxOfKind input.inboundEventId
        (.channelReplyRequested ids.message) →
      CompleteEventEffect clock ids input db
        { db with
          events := db.events.modify input.inboundEventId
            (InboundEventRow.complete clock input.completion)
          commands := commands
          messages := db.messages.push ids.message
            (input.message row.normalizedPayload) freshMessage
          outbox := db.outbox.push ids.outbox
            (newOutboxRow clock input.inboundEventId
              (input.completion.actor.map (·.owner))
              (.channelReplyRequested ids.message) input.correlationId)
            freshOutbox }

/-- The committed outcomes of `enforceUserLimit`. -/
inductive EnforceEffect (clock : DatabaseClock)
    (input : EnforceTelegramUserLimitInput) (db : ChannelDatabase) :
    EnforceTelegramUserLimitOutcome → ChannelDatabase → Prop where
  | decided {row : InboundEventRow}
      {outcome : EnforceTelegramUserLimitOutcome} :
      db.eventHeld input.inboundEventId input.claimId = some row →
      row.userAbuseAllowed = some (decide (outcome = .allowed)) →
      EnforceEffect clock input db outcome db
  | allowed {row : InboundEventRow} {counted : ChannelDatabase} :
      db.eventHeld input.inboundEventId input.claimId = some row →
      row.userAbuseAllowed = none →
      db.WindowsOnly counted →
      EnforceEffect clock input db .allowed
        (counted.setEvent input.inboundEventId
          (InboundEventRow.allowUser clock))
  | suppressed {row : InboundEventRow} {counted : ChannelDatabase} :
      db.eventHeld input.inboundEventId input.claimId = some row →
      row.userAbuseAllowed = none →
      db.WindowsOnly counted →
      EnforceEffect clock input db .rateLimited
        (counted.setEvent input.inboundEventId
          (InboundEventRow.suppressUser clock))

/-- The committed outcomes of `release`. -/
inductive ReleaseEffect (input : ReleaseTelegramEventInput)
    (db : ChannelDatabase) : ChannelDatabase → Prop where
  | ignored :
      db.eventHeld input.inboundEventId input.claimId = none →
      ReleaseEffect input db db
  | released {row : InboundEventRow} :
      db.eventHeld input.inboundEventId input.claimId = some row →
      ReleaseEffect input db
        (db.setEvent input.inboundEventId InboundEventRow.release)

variable {db db' : ChannelDatabase} {clock : DatabaseClock}

theorem persistTelegramEvent_eq_ok {inboundEventId : InboundEventId}
    {outboxMessageId : OutboxMessageId} {input : PersistTelegramEventInput}
    {outcome : AcceptTelegramEventOutcome}
    (ran : persistTelegramEvent clock inboundEventId outboxMessageId input db =
      .ok (outcome, db')) :
    PersistEffect clock inboundEventId outboxMessageId input db outcome db' := by
  unfold persistTelegramEvent at ran
  dsimp only at ran
  split at ran
  · rename_i unknown
    have absent : ∀ other row, db.events.find? other = some row →
        row.externalEventId ≠ input.event.updateId := by
      intro other row found
      simpa using Table.select_isEmpty_iff.mp unknown other row found
    obtain ⟨accepted, inserted, rest⟩ := bind_eq_ok.mp ran
    obtain ⟨freshEvent, rfl⟩ := insertEvent_eq_some (require_eq_ok.mp inserted)
    obtain ⟨queued, announced, rest⟩ := bind_eq_ok.mp rest
    obtain ⟨unannounced, freshOutbox, rfl⟩ :=
      insertOutbox_eq_some (require_eq_ok.mp announced)
    cases rest
    exact .accepted freshEvent freshOutbox absent unannounced
  · cases ran
    exact .duplicate

section Claim

variable {workerNow : Int} {claimId : TelegramProcessingClaimId}
  {policy : TelegramProcessingPolicy} {outboxMessageId : OutboxMessageId}
  {inboundEventId : InboundEventId} {row : InboundEventRow}
  {outcome : ClaimTelegramEventOutcome}

theorem leaseEvent_eq_ok {counted : ChannelDatabase}
    (announced : db.announcedEvent outboxMessageId =
      some (inboundEventId, row))
    (open_ : row.processingStatus.isTerminal = false)
    (permitted : row.abuseAllowed ≠ some false)
    (windows : db.WindowsOnly counted)
    (ran : counted.leaseEvent clock claimId policy inboundEventId row =
      .ok (outcome, db')) :
    EventClaimEffect clock workerNow claimId policy outboxMessageId db outcome
      db' := by
  obtain ⟨leased, updated, rest⟩ := bind_eq_ok.mp ran
  have written := updateEvent_eq_some (require_eq_ok.mp updated)
  subst written
  cases rest
  exact .claimed announced open_ permitted windows

theorem activeLease_processing {claimedUntil : Timestamp}
    (leased : InboundEventRow.activeLease workerNow row = some claimedUntil) :
    row.processingStatus = .processing := by
  unfold InboundEventRow.activeLease at leased
  split at leased
  · assumption
  · cases leased

theorem claimTelegramEvent_eq_ok
    (ran : claimTelegramEvent clock workerNow claimId policy outboxMessageId
      db = .ok (outcome, db')) :
    EventClaimEffect clock workerNow claimId policy outboxMessageId db outcome
      db' := by
  unfold claimTelegramEvent at ran
  split at ran
  · rename_i absent
    cases ran
    exact .notFound absent
  · rename_i inboundEventId row announced
    split at ran
    · rename_i terminal
      cases ran
      exact .duplicate announced terminal
    · rename_i unfinished
      have pending : row.processingStatus.isTerminal = false := by
        simpa using unfinished
      split at ran
      · rename_i claimedUntil leased
        cases ran
        exact .deferred announced (activeLease_processing leased)
      · split at ran
        · rename_i denied
          cases ran
          exact .refused announced pending denied
        · rename_i allowed
          exact leaseEvent_eq_ok announced pending (by simp [allowed])
            ⟨_, rfl⟩ ran
        · rename_i unchecked
          dsimp only at ran
          have windows := (countEvent_windowsOnly db clock .system).trans
            (countEvent_windowsOnly _ clock
              (.identity row.normalizedPayload.externalAccountId))
          split at ran
          · exact leaseEvent_eq_ok announced pending (by simp [unchecked])
              windows ran
          · obtain ⟨suppressed, updated, rest⟩ := bind_eq_ok.mp ran
            have written := updateEvent_eq_some (require_eq_ok.mp updated)
            subst written
            cases rest
            exact .suppressed announced pending unchecked windows

end Claim

theorem completeTelegramEvent_eq_ok {ids : CompletionIds}
    {input : CompleteTelegramEventInput}
    {outboundMessageId : OutboundChannelMessageId}
    (ran : completeTelegramEvent clock ids input db =
      .ok (outboundMessageId, db')) :
    outboundMessageId = ids.message ∧
      CompleteEventEffect clock ids input db db' := by
  unfold completeTelegramEvent at ran
  dsimp only at ran
  split at ran
  · cases ran
  · rename_i row held
    obtain ⟨processed, updated, rest⟩ := bind_eq_ok.mp ran
    have written := updateEvent_eq_some (require_eq_ok.mp updated)
    subst written
    obtain ⟨commanded, stored, rest⟩ := bind_eq_ok.mp rest
    obtain ⟨replied, answered, rest⟩ := bind_eq_ok.mp rest
    obtain ⟨queued, announced, rest⟩ := bind_eq_ok.mp rest
    cases rest
    refine ⟨rfl, ?_⟩
    have inserted := require_eq_ok.mp stored
    unfold insertCompletionCommand at inserted
    split at inserted
    · rename_i actor text command
      obtain ⟨uncommanded, freshCommand, rfl⟩ :=
        insertCommand_eq_some inserted
      obtain ⟨unanswered, freshMessage, rfl⟩ :=
        insertMessage_eq_some (require_eq_ok.mp answered)
      obtain ⟨unannounced, freshOutbox, rfl⟩ :=
        insertOutbox_eq_some (require_eq_ok.mp announced)
      refine @CompleteEventEffect.completed clock ids input db row _
        freshMessage freshOutbox held ?_ ?_ unanswered
        unannounced
      · intro none
        rw [command] at none
        cases none
      · intro other otherText same
        rw [command] at same
        cases same
        exact ⟨uncommanded, freshCommand, rfl⟩
    · rename_i uncommanded
      cases inserted
      obtain ⟨unanswered, freshMessage, rfl⟩ :=
        insertMessage_eq_some (require_eq_ok.mp answered)
      obtain ⟨unannounced, freshOutbox, rfl⟩ :=
        insertOutbox_eq_some (require_eq_ok.mp announced)
      refine @CompleteEventEffect.completed clock ids input db row _
        freshMessage freshOutbox held (fun _ => rfl) ?_
        unanswered unannounced
      intro actor text command
      rw [uncommanded] at command
      cases command

theorem enforceTelegramUserLimit_eq_ok
    {input : EnforceTelegramUserLimitInput}
    {outcome : EnforceTelegramUserLimitOutcome}
    (ran : enforceTelegramUserLimit clock input db = .ok (outcome, db')) :
    EnforceEffect clock input db outcome db' := by
  unfold enforceTelegramUserLimit at ran
  dsimp only at ran
  split at ran
  · cases ran
  · rename_i row held
    split at ran
    · rename_i allowed
      cases ran
      exact .decided held (by simpa using allowed)
    · rename_i denied
      cases ran
      exact .decided held (by simpa using denied)
    · rename_i undecided
      have windows := countEvent_windowsOnly db clock (.user input.userId)
      split at ran
      · obtain ⟨allowed, updated, rest⟩ := bind_eq_ok.mp ran
        have written := updateEvent_eq_some (require_eq_ok.mp updated)
        subst written
        cases rest
        exact .allowed held undecided windows
      · obtain ⟨suppressed, updated, rest⟩ := bind_eq_ok.mp ran
        have written := updateEvent_eq_some (require_eq_ok.mp updated)
        subst written
        cases rest
        exact .suppressed held undecided windows

theorem releaseTelegramEvent_eq_ok {input : ReleaseTelegramEventInput}
    {outcome : Unit}
    (ran : releaseTelegramEvent input db = .ok (outcome, db')) :
    ReleaseEffect input db db' := by
  unfold releaseTelegramEvent at ran
  split at ran
  · rename_i free
    cases ran
    exact .ignored free
  · rename_i row held
    obtain ⟨released, updated, rest⟩ := bind_eq_ok.mp ran
    have written := updateEvent_eq_some (require_eq_ok.mp updated)
    subst written
    cases rest
    exact .released held

end Effects

end ChannelDatabase

end XpensGo
