import XpensGo.Channel.DeliveryStore

/-!
# What a committed delivery transaction can do

The committed outcomes of the delivery store and of the recovery store, with
their conditions and with the tables they leave.
-/

namespace XpensGo

open Postgres Relational

namespace ChannelDatabase

section Updates

def setMessage (db : ChannelDatabase)
    (outboundMessageId : OutboundChannelMessageId)
    (set : OutboundMessageRow → OutboundMessageRow) : ChannelDatabase :=
  { db with messages := db.messages.modify outboundMessageId set }

/-- End an attempt that is still running and meets the condition. -/
def endAttempt (db : ChannelDatabase) (attemptId : ChannelDeliveryAttemptId)
    (condition : DeliveryAttemptRow → Bool)
    (set : DeliveryAttemptRow → DeliveryAttemptRow) : ChannelDatabase :=
  { db with
    attempts := db.attempts.updateWhere (fun key row => key = attemptId &&
      row.status = .attempting && condition row) set }

/-- End the attempt under which a message was leased. -/
def endLeased (db : ChannelDatabase) (row : OutboundMessageRow)
    (set : DeliveryAttemptRow → DeliveryAttemptRow) : ChannelDatabase :=
  match row.deliveryClaimId with
  | some attemptId => db.endAttempt attemptId (fun _ => true) set
  | none => db

def publishRecovery (db : ChannelDatabase) (clock : DatabaseClock)
    (recoveryId : TelegramDeliveryRecoveryId) : ChannelDatabase :=
  { db with
    recoveries := db.recoveries.modify recoveryId (fun row =>
      { row with
        publicationStatus := .published
        publishedAt := some clock.currentTimestamp }) }

variable {db db' : ChannelDatabase}

theorem endLeased_attempts (row : OutboundMessageRow)
    (set : DeliveryAttemptRow → DeliveryAttemptRow) :
    ∃ attempts, db.endLeased row set = { db with attempts := attempts } := by
  unfold endLeased
  split
  · exact ⟨_, rfl⟩
  · exact ⟨db.attempts, rfl⟩

theorem updateMessage_eq_some {outboundMessageId : OutboundChannelMessageId}
    {set : OutboundMessageRow → OutboundMessageRow}
    (updated : db.updateMessage outboundMessageId set = some db') :
    db' = db.setMessage outboundMessageId set := by
  simp only [updateMessage, Option.bind_eq_bind, Option.bind_eq_some_iff]
    at updated
  obtain ⟨messages, modified, rest⟩ := updated
  obtain ⟨_, rfl⟩ := Table.modify?_eq_some_iff.mp modified
  exact (Option.some.inj rest).symm

theorem updateAttempting_eq_some {attemptId : ChannelDeliveryAttemptId}
    {condition : DeliveryAttemptRow → Bool}
    {set : DeliveryAttemptRow → DeliveryAttemptRow}
    (updated : db.updateAttempting attemptId condition set = some db') :
    db' = db.endAttempt attemptId condition set := by
  simp only [updateAttempting, Option.bind_eq_bind, Option.bind_eq_some_iff]
    at updated
  obtain ⟨attempts, modified, rest⟩ := updated
  obtain ⟨_, rfl⟩ := Table.updateWhere?_eq_some_iff.mp modified
  exact (Option.some.inj rest).symm

theorem insertDeliveryAttempt_eq_some {attemptId : ChannelDeliveryAttemptId}
    {row : DeliveryAttemptRow}
    (inserted : db.insertDeliveryAttempt attemptId row = some db') :
    ∃ fresh : attemptId ∉ db.attempts.rows.map Prod.fst,
      db' = { db with attempts := db.attempts.push attemptId row fresh } := by
  unfold insertDeliveryAttempt at inserted
  split at inserted
  · simp only [Option.bind_eq_bind, Option.bind_eq_some_iff] at inserted
    obtain ⟨attempts, pushed, rest⟩ := inserted
    obtain ⟨_, fresh, rfl⟩ := Table.insert?_eq_some_iff.mp pushed
    exact ⟨fresh, (Option.some.inj rest).symm⟩
  · cases inserted

theorem insertRecovery_eq_some {recoveryId : TelegramDeliveryRecoveryId}
    {row : DeliveryRecoveryRow}
    (inserted : db.insertRecovery recoveryId row = some db') :
    ∃ fresh : recoveryId ∉ db.recoveries.rows.map Prod.fst,
      db' = { db with
        recoveries := db.recoveries.push recoveryId row fresh } := by
  simp only [insertRecovery, Option.bind_eq_bind, Option.bind_eq_some_iff]
    at inserted
  obtain ⟨recoveries, pushed, rest⟩ := inserted
  obtain ⟨_, fresh, rfl⟩ := Table.insert?_eq_some_iff.mp pushed
  exact ⟨fresh, (Option.some.inj rest).symm⟩

theorem requestedReply_eq_some {outboxMessageId : OutboxMessageId}
    {outboundMessageId : OutboundChannelMessageId} {row : OutboundMessageRow} :
    db.requestedReply outboxMessageId = some (outboundMessageId, row) ↔
      (∃ outbox, db.outbox.find? outboxMessageId = some outbox ∧
        outbox.kind = .channelReplyRequested outboundMessageId) ∧
        db.messages.find? outboundMessageId = some row := by
  unfold requestedReply
  constructor
  · intro requested
    split at requested
    · rename_i outbox found
      split at requested
      · rename_i requestedId kind
        obtain ⟨message, present, same⟩ := Option.map_eq_some_iff.mp requested
        cases same
        exact ⟨⟨outbox, found, kind⟩, present⟩
      · cases requested
    · cases requested
  · rintro ⟨⟨outbox, found, kind⟩, present⟩
    simp only [found, kind, present, Option.map_some]

theorem replyHeld_eq_true {outboundMessageId : OutboundChannelMessageId}
    {attemptId : ChannelDeliveryAttemptId} :
    db.replyHeld outboundMessageId attemptId = true ↔
      ∃ row, db.messages.find? outboundMessageId = some row ∧
        row.status = .delivering ∧ row.deliveryClaimId = some attemptId := by
  simp [replyHeld, Option.any_eq_true]

theorem notRecoverable_eq_none {input : RecoverTelegramDeliveryInput}
    {maximumAttempts : Nat} {row : OutboundMessageRow} :
    notRecoverable input maximumAttempts row = none ↔
      row.status = .terminalFailure ∧
        row.lastErrorCode = some input.expectedErrorCode ∧
          row.deliveryAttempts < maximumAttempts := by
  unfold notRecoverable
  cases row.status with
  | terminalFailure =>
      by_cases expected : row.lastErrorCode = some input.expectedErrorCode
      · by_cases below : row.deliveryAttempts < maximumAttempts
        · simp [expected, below]
        · simp [expected, below]
      · simp [expected]
  | pending | delivering | providerAccepted | outcomeUnknown => simp

theorem replyOutbox_eq_some {outboundMessageId : OutboundChannelMessageId}
    {outboxMessageId : OutboxMessageId} {row : OutboxMessageRow}
    (requested : db.replyOutbox outboundMessageId =
      some (outboxMessageId, row)) :
    db.outbox.find? outboxMessageId = some row ∧
      row.kind = .channelReplyRequested outboundMessageId := by
  have member := List.mem_of_mem_head? requested
  obtain ⟨present, kind⟩ := Table.mem_select.mp member
  exact ⟨present, by simpa using kind⟩

end Updates

section Effects

/-- The committed outcomes of `claim`. -/
inductive ReplyClaimEffect (clock : DatabaseClock)
    (policy : TelegramDeliveryPolicy) (attemptId : ChannelDeliveryAttemptId)
    (outboxMessageId : OutboxMessageId) (db : ChannelDatabase) :
    ClaimTelegramReplyOutcome → ChannelDatabase → Prop where
  | notFound :
      db.requestedReply outboxMessageId = none →
      ReplyClaimEffect clock policy attemptId outboxMessageId db .notFound db
  | terminal {outboundMessageId : OutboundChannelMessageId}
      {row : OutboundMessageRow} :
      db.requestedReply outboxMessageId = some (outboundMessageId, row) →
      row.status.isTerminal = true →
      ReplyClaimEffect clock policy attemptId outboxMessageId db .terminal db
  | deferred {retryAfterSeconds : Int} :
      ReplyClaimEffect clock policy attemptId outboxMessageId db
        (.deferred retryAfterSeconds) db
  | expired {outboundMessageId : OutboundChannelMessageId}
      {row : OutboundMessageRow} :
      db.requestedReply outboxMessageId = some (outboundMessageId, row) →
      row.status = .delivering →
      ReplyClaimEffect clock policy attemptId outboxMessageId db .terminal
        ((db.endLeased row (DeliveryAttemptRow.expire clock)).setMessage
          outboundMessageId (OutboundMessageRow.expire clock))
  | exhausted {outboundMessageId : OutboundChannelMessageId}
      {row : OutboundMessageRow} :
      db.requestedReply outboxMessageId = some (outboundMessageId, row) →
      row.status = .pending →
      policy.maximumAttempts ≤ row.deliveryAttempts →
      ReplyClaimEffect clock policy attemptId outboxMessageId db .terminal
        (db.setMessage outboundMessageId (OutboundMessageRow.exhaust clock))
  | claimed {outboundMessageId : OutboundChannelMessageId}
      {row : OutboundMessageRow}
      (fresh : attemptId ∉ db.attempts.rows.map Prod.fst) :
      db.requestedReply outboxMessageId = some (outboundMessageId, row) →
      row.status = .pending →
      row.deliveryAttempts < policy.maximumAttempts →
      ReplyClaimEffect clock policy attemptId outboxMessageId db
        (.claimed
          { attemptId := attemptId
            outboundMessageId := outboundMessageId
            externalConversationId := row.externalConversationId
            intent := row.intent })
        { db with
          messages := db.messages.modify outboundMessageId
            (OutboundMessageRow.claim clock policy attemptId)
          attempts := db.attempts.push attemptId
            (newDeliveryAttempt clock outboundMessageId row) fresh }

/-- The committed outcomes of `prepare`. -/
inductive PrepareRecoveryEffect (maximumAttempts : Nat)
    (input : RecoverTelegramDeliveryInput) (db : ChannelDatabase) :
    PrepareTelegramDeliveryRecoveryOutcome → ChannelDatabase → Prop where
  | refused {reason : TelegramDeliveryNotRecoverableReason} :
      PrepareRecoveryEffect maximumAttempts input db (.notRecoverable reason)
        db
  | existing {row : DeliveryRecoveryRow} :
      db.recoveries.find? input.recoveryId = some row →
      PrepareRecoveryEffect maximumAttempts input db
        (.prepared
          { publicationStatus := row.publicationStatus
            outboxMessageId := row.outboxMessageId
            correlationId := row.correlationId }) db
  | reopened {row : OutboundMessageRow} {outboxMessageId : OutboxMessageId}
      {outbox : OutboxMessageRow}
      (fresh : input.recoveryId ∉ db.recoveries.rows.map Prod.fst) :
      db.messages.find? input.outboundMessageId = some row →
      row.status = .terminalFailure →
      row.deliveryAttempts < maximumAttempts →
      db.outbox.find? outboxMessageId = some outbox →
      outbox.kind = .channelReplyRequested input.outboundMessageId →
      PrepareRecoveryEffect maximumAttempts input db
        (.prepared
          { publicationStatus := .prepared
            outboxMessageId := outboxMessageId
            correlationId := row.correlationId })
        { db with
          messages := db.messages.modify input.outboundMessageId
            OutboundMessageRow.reopen
          recoveries := db.recoveries.push input.recoveryId
            { outboundMessageId := input.outboundMessageId
              outboxMessageId := outboxMessageId
              correlationId := row.correlationId
              expectedErrorCode := input.expectedErrorCode
              reason := input.reason } fresh }

/-- The committed outcomes of `markPublished`. -/
inductive MarkRecoveryEffect (clock : DatabaseClock)
    (recoveryId : TelegramDeliveryRecoveryId) (db : ChannelDatabase) :
    MarkTelegramDeliveryRecoveryPublishedOutcome → ChannelDatabase → Prop
    where
  | unchanged {outcome : MarkTelegramDeliveryRecoveryPublishedOutcome} :
      MarkRecoveryEffect clock recoveryId db outcome db
  | published {row : DeliveryRecoveryRow} :
      db.recoveries.find? recoveryId = some row →
      row.publicationStatus = .prepared →
      MarkRecoveryEffect clock recoveryId db .published
        (db.publishRecovery clock recoveryId)

variable {db db' : ChannelDatabase} {clock : DatabaseClock}

section Claim

variable {workerNow : Int} {policy : TelegramDeliveryPolicy}
  {attemptId : ChannelDeliveryAttemptId} {outboxMessageId : OutboxMessageId}
  {outboundMessageId : OutboundChannelMessageId} {row : OutboundMessageRow}
  {outcome : ClaimTelegramReplyOutcome}

theorem expireReply_eq_ok
    (requested : db.requestedReply outboxMessageId =
      some (outboundMessageId, row))
    (delivering : row.status = .delivering)
    (ran : db.expireReply clock outboundMessageId row =
      .ok (outcome, db')) :
    ReplyClaimEffect clock policy attemptId outboxMessageId db outcome db' := by
  obtain ⟨ended, collected, rest⟩ := bind_eq_ok.mp ran
  obtain ⟨expired, updated, rest⟩ := bind_eq_ok.mp rest
  have written := updateMessage_eq_some (require_eq_ok.mp updated)
  subst written
  have leased : ended = db.endLeased row (DeliveryAttemptRow.expire clock) := by
    have taken := require_eq_ok.mp collected
    cases held : row.deliveryClaimId with
    | some attemptId =>
        simp only [held] at taken
        simp only [endLeased, held]
        exact updateAttempting_eq_some taken
    | none =>
        simp only [held] at taken
        simp only [endLeased, held]
        exact (Option.some.inj taken).symm
  subst leased
  cases rest
  exact .expired requested delivering

theorem claimPendingReply_eq_ok
    (requested : db.requestedReply outboxMessageId =
      some (outboundMessageId, row))
    (pending : row.status = .pending)
    (ran : db.claimPendingReply clock policy attemptId outboundMessageId row =
      .ok (outcome, db')) :
    ReplyClaimEffect clock policy attemptId outboxMessageId db outcome db' := by
  unfold claimPendingReply at ran
  split at ran
  · rename_i spent
    obtain ⟨exhausted, updated, rest⟩ := bind_eq_ok.mp ran
    have written := updateMessage_eq_some (require_eq_ok.mp updated)
    subst written
    cases rest
    exact .exhausted requested pending spent
  · rename_i unspent
    obtain ⟨leased, updated, rest⟩ := bind_eq_ok.mp ran
    have written := updateMessage_eq_some (require_eq_ok.mp updated)
    subst written
    obtain ⟨attempted, inserted, rest⟩ := bind_eq_ok.mp rest
    obtain ⟨fresh, rfl⟩ :=
      insertDeliveryAttempt_eq_some (require_eq_ok.mp inserted)
    cases rest
    exact @ReplyClaimEffect.claimed clock policy attemptId outboxMessageId db
      outboundMessageId row fresh requested pending (by omega)

theorem claimTelegramReply_eq_ok
    (ran : claimTelegramReply clock workerNow policy attemptId outboxMessageId
      db = .ok (outcome, db')) :
    ReplyClaimEffect clock policy attemptId outboxMessageId db outcome db' := by
  unfold claimTelegramReply at ran
  split at ran
  · rename_i absent
    cases ran
    exact .notFound absent
  · rename_i outboundMessageId row requested
    split at ran
    case h_1 | h_2 | h_3 =>
      rename_i ended
      cases ran
      exact .terminal requested
        (by simp [ended, OutboundMessageStatus.isTerminal])
    case h_4 =>
      rename_i delivering
      split at ran
      · cases ran
        exact .deferred
      · exact expireReply_eq_ok requested delivering ran
    case h_5 =>
      rename_i pending
      exact claimPendingReply_eq_ok requested pending ran

end Claim

theorem completeTelegramReplyAttempt_eq_ok
    {input : CompleteTelegramReplyAttemptInput} {outcome : Unit}
    (ran : completeTelegramReplyAttempt clock input db =
      .ok (outcome, db')) :
    db.replyHeld input.outboundMessageId input.attemptId = true ∧
      db' = (db.endAttempt input.attemptId
        (fun row => row.outboundMessageId = input.outboundMessageId)
        (DeliveryAttemptRow.complete clock input.outcome)).setMessage
          input.outboundMessageId
          (OutboundMessageRow.complete clock input.outcome) := by
  unfold completeTelegramReplyAttempt at ran
  dsimp only at ran
  split at ran
  · rename_i held
    obtain ⟨ended, collected, rest⟩ := bind_eq_ok.mp ran
    have attempt := updateAttempting_eq_some (require_eq_ok.mp collected)
    subst attempt
    obtain ⟨completed, updated, rest⟩ := bind_eq_ok.mp rest
    have written := updateMessage_eq_some (require_eq_ok.mp updated)
    subst written
    cases rest
    exact ⟨held, rfl⟩
  · cases ran

theorem prepareTelegramDeliveryRecovery_eq_ok {maximumAttempts : Nat}
    {input : RecoverTelegramDeliveryInput}
    {outcome : PrepareTelegramDeliveryRecoveryOutcome}
    (ran : prepareTelegramDeliveryRecovery maximumAttempts input db =
      .ok (outcome, db')) :
    PrepareRecoveryEffect maximumAttempts input db outcome db' := by
  unfold prepareTelegramDeliveryRecovery at ran
  dsimp only at ran
  split at ran
  · rename_i existing found
    split at ran
    · cases ran
      exact .refused
    · cases ran
      exact .existing found
  · split at ran
    · rename_i message outboxMessageId outbox found requested
      obtain ⟨present, kind⟩ := replyOutbox_eq_some requested
      split at ran
      · cases ran
        exact .refused
      · rename_i recoverable
        obtain ⟨failed, _, below⟩ := notRecoverable_eq_none.mp recoverable
        obtain ⟨reopened, updated, rest⟩ := bind_eq_ok.mp ran
        have written := updateMessage_eq_some (require_eq_ok.mp updated)
        subst written
        obtain ⟨recorded, inserted, rest⟩ := bind_eq_ok.mp rest
        obtain ⟨fresh, rfl⟩ :=
          insertRecovery_eq_some (require_eq_ok.mp inserted)
        cases rest
        exact @PrepareRecoveryEffect.reopened maximumAttempts input db message
          outboxMessageId outbox fresh found failed below present kind
    · cases ran
      exact .refused

theorem markTelegramDeliveryRecoveryPublished_eq_ok
    {recoveryId : TelegramDeliveryRecoveryId}
    {outcome : MarkTelegramDeliveryRecoveryPublishedOutcome}
    (ran : markTelegramDeliveryRecoveryPublished clock recoveryId db =
      .ok (outcome, db')) :
    MarkRecoveryEffect clock recoveryId db outcome db' := by
  unfold markTelegramDeliveryRecoveryPublished at ran
  split at ran
  · cases ran
    exact .unchanged
  · rename_i recovery found
    split at ran
    · cases ran
      exact .unchanged
    · rename_i prepared
      obtain ⟨recoveries, updated, rest⟩ := bind_eq_ok.mp ran
      obtain ⟨_, rfl⟩ :=
        Table.modify?_eq_some_iff.mp (require_eq_ok.mp updated)
      cases rest
      exact .published found prepared

end Effects

end ChannelDatabase

end XpensGo
