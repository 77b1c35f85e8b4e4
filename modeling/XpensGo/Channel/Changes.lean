import XpensGo.Channel.DeliveryStoreCases
import XpensGo.Channel.OutboxStoreCases
import XpensGo.Channel.ProcessingStoreCases
import XpensGo.Identity.System

/-!
# The changes of the channel tables

Everything that one committed transaction of any store can do to the channel
tables, as one relation.  The invariants of the channel are proved once for
each kind of change.
-/

namespace XpensGo

open Postgres Relational

/-- An abuse decision refused the event. -/
def InboundEventRow.Denied (row : InboundEventRow) : Prop :=
  row.abuseAllowed = some false ∨ row.userAbuseAllowed = some false

/-- A change of an event that does not complete it. -/
structure EventTransition (row row' : InboundEventRow) : Prop where
  terms : row'.toInboundEventTerms = row.toInboundEventTerms
  owner : row'.owner = row.owner
  unfinished : row.processingStatus.isTerminal = false
  unprocessed : row'.processingStatus ≠ .processed
  denied : row'.Denied → row'.processingStatus = .suppressed ∨ row.Denied

/-- A reply on which no attempt is running or was possibly accepted. -/
def OutboundMessageStatus.isIdle : OutboundMessageStatus → Bool
  | .pending | .terminalFailure => true
  | .delivering | .providerAccepted | .outcomeUnknown => false

namespace ChannelDatabase

/-- What one transition of any store can do to the channel tables. -/
inductive ChannelChange (db : ChannelDatabase) : ChannelDatabase → Prop where
  | unchanged : ChannelChange db db
  | linked {identity : IdentityDatabase} :
      TablesChange db.identity identity →
      ChannelChange db { db with identity := identity }
  | published {db' : ChannelDatabase} :
      db.PublicationOnly db' →
      ChannelChange db db'
  | consumed {outboxMessageId : OutboxMessageId} {db' : ChannelDatabase} :
      (db.outbox.find? outboxMessageId).isSome = true →
      db.ConsumptionOnly outboxMessageId db' →
      ChannelChange db db'
  | accepted {clock : DatabaseClock} {inboundEventId : InboundEventId}
      {outboxMessageId : OutboxMessageId} {input : PersistTelegramEventInput}
      (freshEvent : inboundEventId ∉ db.events.rows.map Prod.fst)
      (freshOutbox : outboxMessageId ∉ db.outbox.rows.map Prod.fst) :
      (∀ other row, db.events.find? other = some row →
        row.externalEventId ≠ input.event.updateId) →
      db.NoOutboxOfKind inboundEventId .channelEventReceived →
      ChannelChange db
        { db with
          events := db.events.push inboundEventId input.row freshEvent
          outbox := db.outbox.push outboxMessageId
            (newOutboxRow clock inboundEventId none .channelEventReceived
              input.correlationId) freshOutbox }
  | eventUpdated {windows : Table AbuseWindowKey Nat}
      {inboundEventId : InboundEventId} {row : InboundEventRow}
      {set : InboundEventRow → InboundEventRow} :
      db.events.find? inboundEventId = some row →
      EventTransition row (set row) →
      ChannelChange db
        { db with
          windows := windows
          events := db.events.modify inboundEventId set }
  | completed {clock : DatabaseClock} {ids : CompletionIds}
      {input : CompleteTelegramEventInput} {db' : ChannelDatabase} :
      CompleteEventEffect clock ids input db db' →
      ChannelChange db db'
  | replyClaimed {clock : DatabaseClock}
      {attemptId : ChannelDeliveryAttemptId}
      {outboundMessageId : OutboundChannelMessageId}
      {row : OutboundMessageRow}
      (fresh : attemptId ∉ db.attempts.rows.map Prod.fst) :
      db.messages.find? outboundMessageId = some row →
      row.status = .pending →
      row.deliveryAttempts < defaultTelegramDeliveryPolicy.maximumAttempts →
      ChannelChange db
        { db with
          messages := db.messages.modify outboundMessageId
            (OutboundMessageRow.claim clock defaultTelegramDeliveryPolicy
              attemptId)
          attempts := db.attempts.push attemptId
            (newDeliveryAttempt clock outboundMessageId row) fresh }
  | replyExpired {clock : DatabaseClock}
      {outboundMessageId : OutboundChannelMessageId}
      {row : OutboundMessageRow} :
      db.messages.find? outboundMessageId = some row →
      row.status = .delivering →
      ChannelChange db
        ((db.endLeased row (DeliveryAttemptRow.expire clock)).setMessage
          outboundMessageId (OutboundMessageRow.expire clock))
  | attemptCompleted {clock : DatabaseClock}
      {input : CompleteTelegramReplyAttemptInput}
      {row : OutboundMessageRow} :
      db.messages.find? input.outboundMessageId = some row →
      row.status = .delivering →
      row.deliveryClaimId = some input.attemptId →
      ChannelChange db
        ((db.endAttempt input.attemptId
          (fun row => row.outboundMessageId = input.outboundMessageId)
          (DeliveryAttemptRow.complete clock input.outcome)).setMessage
            input.outboundMessageId
            (OutboundMessageRow.complete clock input.outcome))
  | replyExhausted {clock : DatabaseClock}
      {outboundMessageId : OutboundChannelMessageId}
      {row : OutboundMessageRow} :
      db.messages.find? outboundMessageId = some row →
      row.status = .pending →
      ChannelChange db
        (db.setMessage outboundMessageId (OutboundMessageRow.exhaust clock))
  | replyReopened {recoveryId : TelegramDeliveryRecoveryId}
      {outboundMessageId : OutboundChannelMessageId}
      {row : OutboundMessageRow} {recovery : DeliveryRecoveryRow}
      (fresh : recoveryId ∉ db.recoveries.rows.map Prod.fst) :
      db.messages.find? outboundMessageId = some row →
      row.status = .terminalFailure →
      recovery.outboundMessageId = outboundMessageId →
      recovery.publicationStatus = .prepared →
      (db.outbox.find? recovery.outboxMessageId).isSome = true →
      ChannelChange db
        { db with
          messages := db.messages.modify outboundMessageId
            OutboundMessageRow.reopen
          recoveries := db.recoveries.push recoveryId recovery fresh }
  | recoveryPublished {clock : DatabaseClock}
      {recoveryId : TelegramDeliveryRecoveryId} {row : DeliveryRecoveryRow} :
      db.recoveries.find? recoveryId = some row →
      row.publicationStatus = .prepared →
      ChannelChange db (db.publishRecovery clock recoveryId)

variable {db db' : ChannelDatabase} {clock : DatabaseClock}

section Terms

/-- No reply is created, and none changes what it says. -/
def RepliesKept (db db' : ChannelDatabase) : Prop :=
  ∀ outboundMessageId,
    (db'.messages.find? outboundMessageId).map (·.toOutboundMessageTerms) =
      (db.messages.find? outboundMessageId).map (·.toOutboundMessageTerms)

theorem find?_modify_terms {outboundMessageId : OutboundChannelMessageId}
    {set : OutboundMessageRow → OutboundMessageRow}
    (kept : ∀ row, (set row).toOutboundMessageTerms =
      row.toOutboundMessageTerms) (other : OutboundChannelMessageId) :
    ((db.messages.modify outboundMessageId set).find? other).map
        (·.toOutboundMessageTerms) =
      (db.messages.find? other).map (·.toOutboundMessageTerms) := by
  rw [Table.find?_modify]
  split
  · cases db.messages.find? other with
    | none => rfl
    | some row => exact congrArg some (kept row)
  · rfl

theorem complete_terms (outcome : TelegramProviderAttemptOutcome)
    (row : OutboundMessageRow) :
    (row.complete clock outcome).toOutboundMessageTerms =
      row.toOutboundMessageTerms := by
  cases outcome <;> rfl

end Terms

section Processing

theorem PersistEffect.change {inboundEventId : InboundEventId}
    {outboxMessageId : OutboxMessageId} {input : PersistTelegramEventInput}
    {outcome : AcceptTelegramEventOutcome}
    (effect : PersistEffect clock inboundEventId outboxMessageId input db
      outcome db') : ChannelChange db db' := by
  cases effect with
  | duplicate => exact .unchanged
  | accepted freshEvent freshOutbox absent unannounced =>
      exact .accepted freshEvent freshOutbox absent unannounced

theorem EventClaimEffect.change {workerNow : Int}
    {claimId : TelegramProcessingClaimId} {policy : TelegramProcessingPolicy}
    {outboxMessageId : OutboxMessageId} {outcome : ClaimTelegramEventOutcome}
    (effect : EventClaimEffect clock workerNow claimId policy outboxMessageId
      db outcome db') : ChannelChange db db' := by
  cases effect with
  | notFound | duplicate | deferred | refused => exact .unchanged
  | suppressed announced pending _ windows =>
      obtain ⟨windows, rfl⟩ := windows
      obtain ⟨_, found⟩ := announcedEvent_eq_some announced
      exact .eventUpdated found
        { terms := rfl
          owner := rfl
          unfinished := pending
          unprocessed := by simp [InboundEventRow.suppress]
          denied := fun _ => .inl rfl }
  | @claimed inboundEventId row _ announced pending permitted windows =>
      obtain ⟨windows, rfl⟩ := windows
      obtain ⟨_, found⟩ := announcedEvent_eq_some announced
      refine .eventUpdated found
        { terms := rfl
          owner := rfl
          unfinished := pending
          unprocessed := by simp [InboundEventRow.claim]
          denied := ?_ }
      intro denied
      rcases denied with refused | userRefused
      · cases allowed : row.abuseAllowed with
        | none => simp [InboundEventRow.claim, allowed] at refused
        | some decision =>
            exact .inr (.inl (by
              simpa [InboundEventRow.claim, allowed] using refused))
      · exact .inr (.inr userRefused)

theorem EnforceEffect.change {input : EnforceTelegramUserLimitInput}
    {outcome : EnforceTelegramUserLimitOutcome}
    (effect : EnforceEffect clock input db outcome db') :
    ChannelChange db db' := by
  cases effect with
  | decided => exact .unchanged
  | @allowed row _ held _ windows =>
      obtain ⟨windows, rfl⟩ := windows
      obtain ⟨found, processing, _⟩ := eventHeld_eq_some.mp held
      refine .eventUpdated found
        { terms := rfl
          owner := rfl
          unfinished :=
            ProcessingStatus.isTerminal_eq_false_of_processing processing
          unprocessed := by simp [InboundEventRow.allowUser, processing]
          denied := ?_ }
      intro denied
      rcases denied with refused | userRefused
      · exact .inr (.inl refused)
      · simp [InboundEventRow.allowUser] at userRefused
  | suppressed held _ windows =>
      obtain ⟨windows, rfl⟩ := windows
      obtain ⟨found, processing, _⟩ := eventHeld_eq_some.mp held
      exact .eventUpdated found
        { terms := rfl
          owner := rfl
          unfinished :=
            ProcessingStatus.isTerminal_eq_false_of_processing processing
          unprocessed := by simp [InboundEventRow.suppressUser]
          denied := fun _ => .inl rfl }

theorem ReleaseEffect.change {input : ReleaseTelegramEventInput}
    (effect : ReleaseEffect input db db') : ChannelChange db db' := by
  cases effect with
  | ignored => exact .unchanged
  | released held =>
      obtain ⟨found, processing, _⟩ := eventHeld_eq_some.mp held
      exact .eventUpdated found
        { terms := rfl
          owner := rfl
          unfinished :=
            ProcessingStatus.isTerminal_eq_false_of_processing processing
          unprocessed := by simp [InboundEventRow.release]
          denied := fun denied => .inr denied }

end Processing

section Delivery

theorem ReplyClaimEffect.change {attemptId : ChannelDeliveryAttemptId}
    {outboxMessageId : OutboxMessageId} {outcome : ClaimTelegramReplyOutcome}
    (effect : ReplyClaimEffect clock defaultTelegramDeliveryPolicy attemptId
      outboxMessageId db outcome db') : ChannelChange db db' := by
  cases effect with
  | notFound | terminal | deferred => exact .unchanged
  | expired requested delivering =>
      exact .replyExpired (requestedReply_eq_some.mp requested).2 delivering
  | exhausted requested pending =>
      exact .replyExhausted (requestedReply_eq_some.mp requested).2 pending
  | claimed fresh requested pending below =>
      exact .replyClaimed fresh (requestedReply_eq_some.mp requested).2 pending
        below

theorem PrepareRecoveryEffect.change {maximumAttempts : Nat}
    {input : RecoverTelegramDeliveryInput}
    {outcome : PrepareTelegramDeliveryRecoveryOutcome}
    (effect : PrepareRecoveryEffect maximumAttempts input db outcome db') :
    ChannelChange db db' := by
  cases effect with
  | refused | existing => exact .unchanged
  | reopened fresh found failed _ present =>
      exact .replyReopened fresh found failed rfl rfl (by simp [present])

theorem MarkRecoveryEffect.change {recoveryId : TelegramDeliveryRecoveryId}
    {outcome : MarkTelegramDeliveryRecoveryPublishedOutcome}
    (effect : MarkRecoveryEffect clock recoveryId db outcome db') :
    ChannelChange db db' := by
  cases effect with
  | unchanged => exact .unchanged
  | published found prepared => exact .recoveryPublished found prepared

end Delivery

section Identity

/-- Run a transaction of the identity store inside the channel tables. -/
def onIdentity {ε α : Type}
    (transaction : IdentityDatabase → Except ε (α × IdentityDatabase))
    (db : ChannelDatabase) : Except ε (α × ChannelDatabase) :=
  match transaction db.identity with
  | .ok (outcome, identity) =>
      .ok (outcome, { db with identity := identity })
  | .error failure => .error failure

theorem onIdentity_eq_ok {ε α : Type}
    {transaction : IdentityDatabase → Except ε (α × IdentityDatabase)}
    {outcome : α} (ran : onIdentity transaction db = .ok (outcome, db')) :
    ∃ identity, transaction db.identity = .ok (outcome, identity) ∧
      db' = { db with identity := identity } := by
  unfold onIdentity at ran
  split at ran
  · rename_i found identity committed
    cases ran
    exact ⟨identity, committed, rfl⟩
  · cases ran

end Identity

end ChannelDatabase

end XpensGo
