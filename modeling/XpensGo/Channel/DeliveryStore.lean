import XpensGo.Channel.Database
import XpensGo.Identity.Store

/-!
# The delivery store and the recovery store

`claim` and `completeAttempt` surround every request to the Telegram Bot API
with a durable attempt.  `prepare` and `markPublished` let an operator return a
reply that was explicitly rejected to the delivery path.
-/

namespace XpensGo

open Postgres Relational

/-- How often a reply is attempted, and how long an attempt may take. -/
structure TelegramDeliveryPolicy where
  maximumAttempts : Nat
  leaseSeconds : Nat
  deriving DecidableEq, Repr

def defaultTelegramDeliveryPolicy : TelegramDeliveryPolicy :=
  { maximumAttempts := 3
    leaseSeconds := 60 }

/-- One reply leased to a queue delivery. -/
structure TelegramReplyClaimed where
  attemptId : ChannelDeliveryAttemptId
  outboundMessageId : OutboundChannelMessageId
  externalConversationId : TelegramConversationId
  intent : TelegramReplyIntentV1
  deriving DecidableEq, Repr

/-- What a claim of a reply answers. -/
inductive ClaimTelegramReplyOutcome where
  | claimed (claim : TelegramReplyClaimed)
  | terminal
  | notFound
  | deferred (retryAfterSeconds : Int)
  deriving DecidableEq, Repr

/-- What `send` of the Telegram Bot API reports. -/
inductive TelegramProviderAttemptOutcome where
  | providerAccepted (providerMessageId : String)
  | transientFailure (errorCode : String)
  | terminalFailure (errorCode : String)
  | outcomeUnknown (errorCode : String)
  deriving DecidableEq, Repr

/-- The attempt that ends, and what the provider said. -/
structure CompleteTelegramReplyAttemptInput where
  attemptId : ChannelDeliveryAttemptId
  outboundMessageId : OutboundChannelMessageId
  outcome : TelegramProviderAttemptOutcome
  deriving DecidableEq, Repr

/-- The request of an operator to deliver a reply again. -/
structure RecoverTelegramDeliveryInput where
  recoveryId : TelegramDeliveryRecoveryId
  outboundMessageId : OutboundChannelMessageId
  expectedErrorCode : String
  reason : TelegramDeliveryRecoveryReason
  deriving DecidableEq, Repr

/-- Why a delivery is not recovered. -/
inductive TelegramDeliveryNotRecoverableReason where
  | notFound
  | notTerminalFailure
  | providerAccepted
  | outcomeUnknown
  | errorCodeMismatch
  | attemptLimitReached
  | idempotencyConflict
  deriving DecidableEq, Repr

/-- A recovery whose job can be published. -/
structure TelegramDeliveryRecoveryPrepared where
  publicationStatus : RecoveryPublicationStatus
  outboxMessageId : OutboxMessageId
  correlationId : CorrelationId
  deriving DecidableEq, Repr

/-- What the preparation of a recovery answers. -/
inductive PrepareTelegramDeliveryRecoveryOutcome where
  | prepared (recovery : TelegramDeliveryRecoveryPrepared)
  | notRecoverable (reason : TelegramDeliveryNotRecoverableReason)
  deriving DecidableEq, Repr

/-- What marking a recovery as published answers. -/
inductive MarkTelegramDeliveryRecoveryPublishedOutcome where
  | published
  | alreadyPublished
  | notFound
  deriving DecidableEq, Repr

namespace TelegramProviderAttemptOutcome

/-- The state of an attempt that has ended so. -/
def attemptStatus : TelegramProviderAttemptOutcome → DeliveryAttemptStatus
  | .providerAccepted _ => .providerAccepted
  | .transientFailure _ => .transientFailure
  | .terminalFailure _ => .terminalFailure
  | .outcomeUnknown _ => .outcomeUnknown

/-- The status of the message; a transient failure leaves it pending. -/
def messageStatus : TelegramProviderAttemptOutcome → OutboundMessageStatus
  | .providerAccepted _ => .providerAccepted
  | .transientFailure _ => .pending
  | .terminalFailure _ => .terminalFailure
  | .outcomeUnknown _ => .outcomeUnknown

/-- The identifier that the provider gave to the message. -/
def providerMessageId : TelegramProviderAttemptOutcome → Option String
  | .providerAccepted providerMessageId => some providerMessageId
  | .transientFailure _ | .terminalFailure _ | .outcomeUnknown _ => none

/-- The code of the error that is recorded. -/
def errorCode : TelegramProviderAttemptOutcome → Option String
  | .providerAccepted _ => none
  | .transientFailure errorCode | .terminalFailure errorCode
  | .outcomeUnknown errorCode => some errorCode

end TelegramProviderAttemptOutcome

section RowUpdates

variable (clock : DatabaseClock)

namespace DeliveryAttemptRow

def expire (row : DeliveryAttemptRow) : DeliveryAttemptRow :=
  { row with
    status := .outcomeUnknown
    errorCode := some "attempt_lease_expired"
    completedAt := some clock.currentTimestamp }

def complete (outcome : TelegramProviderAttemptOutcome)
    (row : DeliveryAttemptRow) : DeliveryAttemptRow :=
  { row with
    status := outcome.attemptStatus
    providerMessageId := outcome.providerMessageId
    errorCode := outcome.errorCode
    completedAt := some clock.currentTimestamp }

end DeliveryAttemptRow

namespace OutboundMessageRow

def expire (row : OutboundMessageRow) : OutboundMessageRow :=
  { row with
    status := .outcomeUnknown
    deliveryClaimId := none
    deliveryClaimedUntil := none
    lastErrorCode := some "attempt_lease_expired"
    terminalAt := some clock.currentTimestamp }

/-- A reply whose attempts are used up has failed. -/
def exhaust (row : OutboundMessageRow) : OutboundMessageRow :=
  { row with
    status := .terminalFailure
    lastErrorCode := some "attempts_exhausted"
    terminalAt := some clock.currentTimestamp }

/-- The reply is leased to an attempt. -/
def claim (policy : TelegramDeliveryPolicy)
    (attemptId : ChannelDeliveryAttemptId) (row : OutboundMessageRow) :
    OutboundMessageRow :=
  { row with
    status := .delivering
    deliveryAttempts := row.deliveryAttempts + 1
    deliveryClaimId := some attemptId
    deliveryClaimedUntil :=
      some (clock.currentTimestamp.addSeconds policy.leaseSeconds)
    lastErrorCode := none }

/-- Columns written after a transient failure. -/
def retry (outcome : TelegramProviderAttemptOutcome)
    (row : OutboundMessageRow) : OutboundMessageRow :=
  { row with
    status := .pending
    deliveryClaimId := none
    deliveryClaimedUntil := none
    lastErrorCode := outcome.errorCode }

/-- Columns written after a final outcome. -/
def finish (outcome : TelegramProviderAttemptOutcome)
    (row : OutboundMessageRow) : OutboundMessageRow :=
  { row with
    status := outcome.messageStatus
    deliveryClaimId := none
    deliveryClaimedUntil := none
    providerMessageId := outcome.providerMessageId
    lastErrorCode := outcome.errorCode
    providerAcceptedAt :=
      if outcome.messageStatus = .providerAccepted then
        some clock.currentTimestamp
      else
        none
    terminalAt :=
      if outcome.messageStatus = .terminalFailure ∨
          outcome.messageStatus = .outcomeUnknown then
        some clock.currentTimestamp
      else
        none }

def complete (outcome : TelegramProviderAttemptOutcome)
    (row : OutboundMessageRow) : OutboundMessageRow :=
  match outcome with
  | .transientFailure _ => row.retry outcome
  | .providerAccepted _ | .terminalFailure _ | .outcomeUnknown _ =>
      row.finish clock outcome

/-- Columns written when an operator reopens a rejected reply. -/
def reopen (row : OutboundMessageRow) : OutboundMessageRow :=
  { row with
    status := .pending
    deliveryClaimId := none
    deliveryClaimedUntil := none
    lastErrorCode := none
    terminalAt := none }

end OutboundMessageRow

/-- The attempt inserted with a claim, numbered after the earlier ones. -/
def newDeliveryAttempt (outboundMessageId : OutboundChannelMessageId)
    (row : OutboundMessageRow) : DeliveryAttemptRow :=
  { outboundMessageId := outboundMessageId
    attemptNumber := row.deliveryAttempts + 1
    status := .attempting
    startedAt := clock.currentTimestamp }

end RowUpdates

namespace ChannelDatabase

section Statements

/-- `UPDATE outbound_channel_messages`, of one row. -/
def updateMessage (db : ChannelDatabase)
    (outboundMessageId : OutboundChannelMessageId)
    (set : OutboundMessageRow → OutboundMessageRow) :
    Option ChannelDatabase := do
  let messages ← db.messages.modify? OutboundMessageRow.check
    outboundMessageId set
  pure { db with messages := messages }

/-- `UPDATE channel_delivery_attempts … WHERE id = … AND status = 'attempting'`,
restricted further by `condition`. -/
def updateAttempting (db : ChannelDatabase)
    (attemptId : ChannelDeliveryAttemptId)
    (condition : DeliveryAttemptRow → Bool)
    (set : DeliveryAttemptRow → DeliveryAttemptRow) :
    Option ChannelDatabase := do
  let attempts ← db.attempts.updateWhere? DeliveryAttemptRow.check
    (fun key row => key = attemptId && row.status = .attempting &&
      condition row) set
  pure { db with attempts := attempts }

/-- Insert an attempt of an existing message under a new number. -/
def insertDeliveryAttempt (db : ChannelDatabase)
    (attemptId : ChannelDeliveryAttemptId) (row : DeliveryAttemptRow) :
    Option ChannelDatabase :=
  if (db.messages.find? row.outboundMessageId).isSome &&
      (db.attempts.select (fun _ other =>
        other.outboundMessageId = row.outboundMessageId &&
          other.attemptNumber = row.attemptNumber)).isEmpty then do
    let attempts ← db.attempts.insert? DeliveryAttemptRow.check attemptId row
    pure { db with attempts := attempts }
  else
    none

/-- `INSERT INTO telegram_delivery_recoveries`. -/
def insertRecovery (db : ChannelDatabase)
    (recoveryId : TelegramDeliveryRecoveryId) (row : DeliveryRecoveryRow) :
    Option ChannelDatabase := do
  let recoveries ← db.recoveries.insert? DeliveryRecoveryRow.check recoveryId
    row
  pure { db with recoveries := recoveries }

end Statements

/-- The reply that an outbox message requests. -/
def requestedReply (db : ChannelDatabase) (outboxMessageId : OutboxMessageId) :
    Option (OutboundChannelMessageId × OutboundMessageRow) :=
  match db.outbox.find? outboxMessageId with
  | some outbox =>
      match outbox.kind with
      | .channelReplyRequested outboundMessageId =>
          (db.messages.find? outboundMessageId).map (fun message =>
            (outboundMessageId, message))
      | .channelEventReceived => none
  | none => none

section Claim

variable (clock : DatabaseClock) (workerNow : Int)
  (policy : TelegramDeliveryPolicy)

/-- Collect a reply whose attempt was not completed within its lease. -/
def expireReply (db : ChannelDatabase)
    (outboundMessageId : OutboundChannelMessageId) (row : OutboundMessageRow) :
    Except ChannelStoreFailure (ClaimTelegramReplyOutcome × ChannelDatabase) := do
  let ended ← require (.persistenceUnavailable .claimTelegramReply)
    (match row.deliveryClaimId with
      | some attemptId =>
          db.updateAttempting attemptId (fun _ => true)
            (DeliveryAttemptRow.expire clock)
      | none => some db)
  let expired ← require (.persistenceUnavailable .claimTelegramReply)
    (ended.updateMessage outboundMessageId (OutboundMessageRow.expire clock))
  pure (.terminal, expired)

/-- The next attempt of a reply is entered, and the reply is leased to it. -/
def claimPendingReply (db : ChannelDatabase)
    (attemptId : ChannelDeliveryAttemptId)
    (outboundMessageId : OutboundChannelMessageId) (row : OutboundMessageRow) :
    Except ChannelStoreFailure (ClaimTelegramReplyOutcome × ChannelDatabase) :=
  if policy.maximumAttempts ≤ row.deliveryAttempts then do
    let exhausted ← require (.persistenceUnavailable .claimTelegramReply)
      (db.updateMessage outboundMessageId (OutboundMessageRow.exhaust clock))
    pure (.terminal, exhausted)
  else do
    let leased ← require (.persistenceUnavailable .claimTelegramReply)
      (db.updateMessage outboundMessageId
        (OutboundMessageRow.claim clock policy attemptId))
    let attempted ← require (.persistenceUnavailable .claimTelegramReply)
      (leased.insertDeliveryAttempt attemptId
        (newDeliveryAttempt clock outboundMessageId row))
    pure (.claimed
      { attemptId := attemptId
        outboundMessageId := outboundMessageId
        externalConversationId := row.externalConversationId
        intent := row.intent }, attempted)

/-- `claim` of the delivery store; only a pending reply is leased. -/
def claimTelegramReply (attemptId : ChannelDeliveryAttemptId)
    (outboxMessageId : OutboxMessageId) (db : ChannelDatabase) :
    Except ChannelStoreFailure (ClaimTelegramReplyOutcome × ChannelDatabase) :=
  match db.requestedReply outboxMessageId with
  | none => pure (.notFound, db)
  | some (outboundMessageId, row) =>
      match row.status with
      | .providerAccepted | .terminalFailure | .outcomeUnknown =>
          pure (.terminal, db)
      | .delivering =>
          match row.deliveryClaimedUntil.filter (fun claimedUntil =>
            workerNow < claimedUntil.getTime) with
          | some claimedUntil =>
              pure (.deferred
                (secondsToWait (claimedUntil.getTime - workerNow)), db)
          | none => db.expireReply clock outboundMessageId row
      | .pending =>
          db.claimPendingReply clock policy attemptId outboundMessageId row

end Claim

/-- A message that is delivered under the given attempt. -/
def replyHeld (db : ChannelDatabase)
    (outboundMessageId : OutboundChannelMessageId)
    (attemptId : ChannelDeliveryAttemptId) : Bool :=
  (db.messages.find? outboundMessageId).any (fun row =>
    row.status = .delivering && row.deliveryClaimId = some attemptId)

/-- `complete` of the delivery store, by the attempt that holds the reply. -/
def completeTelegramReplyAttempt (clock : DatabaseClock)
    (input : CompleteTelegramReplyAttemptInput) (db : ChannelDatabase) :
    Except ChannelStoreFailure (Unit × ChannelDatabase) :=
  let unavailable : ChannelStoreFailure :=
    .persistenceUnavailable .completeTelegramReplyAttempt
  if db.replyHeld input.outboundMessageId input.attemptId then do
    let ended ← require unavailable
      (db.updateAttempting input.attemptId
        (fun row => row.outboundMessageId = input.outboundMessageId)
        (DeliveryAttemptRow.complete clock input.outcome))
    let completed ← require unavailable
      (ended.updateMessage input.outboundMessageId
        (OutboundMessageRow.complete clock input.outcome))
    pure ((), completed)
  else
    .error unavailable

section Recovery

/-- The first outbox message that requests a reply. -/
def replyOutbox (db : ChannelDatabase)
    (outboundMessageId : OutboundChannelMessageId) :
    Option (OutboxMessageId × OutboxMessageRow) :=
  (db.outbox.select (fun _ row =>
    row.kind = .channelReplyRequested outboundMessageId)).head?

/-- Why a reply that was found cannot be recovered. -/
def notRecoverable (input : RecoverTelegramDeliveryInput)
    (maximumAttempts : Nat) (row : OutboundMessageRow) :
    Option TelegramDeliveryNotRecoverableReason :=
  match row.status with
  | .providerAccepted => some .providerAccepted
  | .outcomeUnknown => some .outcomeUnknown
  | .pending | .delivering => some .notTerminalFailure
  | .terminalFailure =>
      if row.lastErrorCode ≠ some input.expectedErrorCode then
        some .errorCodeMismatch
      else if maximumAttempts ≤ row.deliveryAttempts then
        some .attemptLimitReached
      else
        none

/-- `prepare` of the recovery store; a known identifier is answered from its
row. -/
def prepareTelegramDeliveryRecovery (maximumAttempts : Nat)
    (input : RecoverTelegramDeliveryInput) (db : ChannelDatabase) :
    Except ChannelStoreFailure
      (PrepareTelegramDeliveryRecoveryOutcome × ChannelDatabase) :=
  let unavailable : ChannelStoreFailure :=
    .persistenceUnavailable .prepareTelegramDeliveryRecovery
  match db.recoveries.find? input.recoveryId with
  | some existing =>
      if existing.outboundMessageId ≠ input.outboundMessageId ∨
          existing.expectedErrorCode ≠ input.expectedErrorCode ∨
            existing.reason ≠ input.reason then
        pure (.notRecoverable .idempotencyConflict, db)
      else
        pure (.prepared
          { publicationStatus := existing.publicationStatus
            outboxMessageId := existing.outboxMessageId
            correlationId := existing.correlationId }, db)
  | none =>
      match db.messages.find? input.outboundMessageId,
        db.replyOutbox input.outboundMessageId with
      | some message, some (outboxMessageId, _) =>
          match notRecoverable input maximumAttempts message with
          | some reason => pure (.notRecoverable reason, db)
          | none => do
              let reopened ← require unavailable
                (db.updateMessage input.outboundMessageId
                  OutboundMessageRow.reopen)
              let recorded ← require unavailable
                (reopened.insertRecovery input.recoveryId
                  { outboundMessageId := input.outboundMessageId
                    outboxMessageId := outboxMessageId
                    correlationId := message.correlationId
                    expectedErrorCode := input.expectedErrorCode
                    reason := input.reason })
              pure (.prepared
                { publicationStatus := .prepared
                  outboxMessageId := outboxMessageId
                  correlationId := message.correlationId }, recorded)
      | _, _ => pure (.notRecoverable .notFound, db)

/-- Two statements without a transaction; the second one only reads. -/
def markTelegramDeliveryRecoveryPublished (clock : DatabaseClock)
    (recoveryId : TelegramDeliveryRecoveryId) (db : ChannelDatabase) :
    Except ChannelStoreFailure
      (MarkTelegramDeliveryRecoveryPublishedOutcome × ChannelDatabase) :=
  match db.recoveries.find? recoveryId with
  | none => pure (.notFound, db)
  | some recovery =>
      match recovery.publicationStatus with
      | .published => pure (.alreadyPublished, db)
      | .prepared => do
          let recoveries ← require
            (.persistenceUnavailable .markTelegramDeliveryRecoveryPublished)
            (db.recoveries.modify? DeliveryRecoveryRow.check recoveryId
              (fun row =>
                { row with
                  publicationStatus := .published
                  publishedAt := some clock.currentTimestamp }))
          pure (.published, { db with recoveries := recoveries })

end Recovery

end ChannelDatabase

end XpensGo
