import XpensGo.EcmaScript.Value
import XpensGo.Identity.Database

/-!
# The channel tables

Inbound Telegram events, the abuse windows, the normalized commands, the
outbound replies with their delivery attempts and recoveries, and the outbox
with its consumption receipts.  Columns that are null together are one optional
value, so that the constraints named `…_scope_complete` and
`outbox_messages_target_matches_kind` hold by construction.
-/

namespace XpensGo

open EcmaScript Postgres Relational

abbrev InboundEventId := Uuid

abbrev NormalizedCommandId := Uuid

abbrev OutboundChannelMessageId := Uuid

abbrev ChannelDeliveryAttemptId := Uuid

abbrev OutboxMessageId := Uuid

abbrev OutboxClaimId := Uuid

abbrev TelegramProcessingClaimId := Uuid

/-- The identifier of an update, in decimal digits. -/
structure TelegramUpdateId where
  digits : String
  deriving DecidableEq, Repr

/-- The identifier of a chat, in decimal digits. -/
structure TelegramConversationId where
  digits : String
  deriving DecidableEq, Repr

/-- The identifier of a message, in decimal digits. -/
structure TelegramMessageId where
  digits : String
  deriving DecidableEq, Repr

/-- A key that an operator chooses for one recovery. -/
structure TelegramDeliveryRecoveryId where
  text : String
  deriving DecidableEq, Repr

/-- The two commands that present a challenge. -/
inductive ChallengeCommand where
  | link
  | unlink
  deriving DecidableEq, Repr

/-- Telegram content whose capabilities were replaced by digests. -/
inductive PersistedTelegramContent where
  | text (text : JsString)
  | linkCommand (challengeDigest : ChannelLinkChallengeDigest)
  | unlinkCommand (challengeDigest : ChannelLinkChallengeDigest)
  | invalidCommand (command : ChallengeCommand)
  deriving DecidableEq

/-- The payload of an event, as it is stored. -/
structure PersistedTelegramEventV1 where
  updateId : TelegramUpdateId
  externalAccountId : TelegramExternalAccountId
  externalConversationId : TelegramConversationId
  externalMessageId : TelegramMessageId
  occurredAtMillis : EpochMillis
  content : PersistedTelegramContent
  deriving DecidableEq

/-- Why a presented challenge is refused. -/
inductive ChallengeRejectionReason where
  | alreadyLinked
  | alreadyUsed
  | expired
  | identityMismatch
  | invalidCommand
  | notFound
  deriving DecidableEq, Repr

/-- What a reply says. -/
inductive TelegramReplyContent where
  | linkSucceeded
  | unlinkSucceeded
  | linkRequired
  | captureUnavailable
  | challengeRejected (purpose : ChallengeCommand)
      (reason : ChallengeRejectionReason)
  deriving DecidableEq, Repr

/-- What a reply is for. -/
inductive TelegramReplyPurpose where
  | reply
  | system
  deriving DecidableEq, Repr

/-- What is done with a reply. -/
inductive OutboundChannelAction where
  | openWorkspace
  deriving DecidableEq, Repr

/-- The reply that processing asks for. -/
structure TelegramReplyIntentV1 where
  purpose : TelegramReplyPurpose
  content : TelegramReplyContent
  actions : List OutboundChannelAction
  deriving DecidableEq, Repr

/-- `owner_user_id` and `ledger_id`. -/
structure LedgerOwner where
  userId : UserId
  ledgerId : LedgerId
  deriving DecidableEq, Repr

/-- The user and the ledger of an actor. -/
def ChannelActorContext.owner (actor : ChannelActorContext) : LedgerOwner :=
  { userId := actor.userId
    ledgerId := actor.ledgerId }

/-- `owner_user_id`, `ledger_id` and `channel_identity_id`. -/
structure ActorScope where
  owner : LedgerOwner
  channelIdentityId : ChannelIdentityId
  deriving DecidableEq, Repr

def ChannelActorContext.scope (actor : ChannelActorContext) : ActorScope :=
  { owner := actor.owner
    channelIdentityId := actor.channelIdentityId }

section Events

/-- The states of an event. -/
inductive ProcessingStatus where
  | pending
  | processing
  | processed
  | suppressed
  deriving DecidableEq, Repr

/-- The event is not processed again. -/
def ProcessingStatus.isTerminal : ProcessingStatus → Bool
  | .processed | .suppressed => true
  | .pending | .processing => false

theorem ProcessingStatus.isTerminal_eq_false_of_processing
    {status : ProcessingStatus} (processing : status = .processing) :
    status.isTerminal = false := by
  rw [processing]
  rfl

theorem ProcessingStatus.ne_processed_of_unfinished {status : ProcessingStatus}
    (unfinished : status.isTerminal = false) : status ≠ .processed := by
  rintro rfl
  cases unfinished

/-- How the processing of an event has ended. -/
inductive ProcessingOutcome where
  | abuseLimited
  | userAbuseLimited
  | normalizedTextAccepted
  | scopedReplyCreated
  | unscopedReplyCreated
  deriving DecidableEq, Repr

/-- Columns of `inbound_channel_events` that no statement updates. -/
structure InboundEventTerms where
  externalEventId : TelegramUpdateId
  idempotencyKey : String
  correlationId : CorrelationId
  normalizedPayload : PersistedTelegramEventV1

/-- A row of `inbound_channel_events`. -/
structure InboundEventRow extends InboundEventTerms where
  owner : Option LedgerOwner := none
  processingStatus : ProcessingStatus := .pending
  processingOutcome : Option ProcessingOutcome := none
  processedAt : Option Timestamp := none
  processingClaimId : Option TelegramProcessingClaimId := none
  processingClaimedUntil : Option Timestamp := none
  processingAttempts : Nat := 0
  abuseCheckedAt : Option Timestamp := none
  abuseAllowed : Option Bool := none
  userAbuseCheckedAt : Option Timestamp := none
  userAbuseAllowed : Option Bool := none

/-- The CHECK constraints on the claim, on the two abuse decisions and on the
processing state. -/
def InboundEventRow.check (row : InboundEventRow) : Bool :=
  row.processingClaimId.isSome = row.processingClaimedUntil.isSome &&
    row.processingClaimId.isSome =
      decide (row.processingStatus = .processing) &&
    row.abuseCheckedAt.isSome = row.abuseAllowed.isSome &&
    row.userAbuseCheckedAt.isSome = row.userAbuseAllowed.isSome &&
    row.processedAt.isSome = row.processingStatus.isTerminal

/-- Whose events a window counts. -/
inductive AbuseScope where
  | system
  | identity (externalAccountId : TelegramExternalAccountId)
  | user (userId : UserId)
  deriving DecidableEq, Repr

/-- The key of a window: whose it is, and when it begins. -/
structure AbuseWindowKey where
  scope : AbuseScope
  windowStartedAt : Timestamp
  deriving DecidableEq, Repr

/-- A row of `normalized_channel_commands`. -/
structure NormalizedCommandRow where
  inboundEventId : InboundEventId
  owner : LedgerOwner
  channelIdentityId : ChannelIdentityId
  externalMessageId : TelegramMessageId
  commandText : JsString
  occurredAt : Timestamp
  correlationId : CorrelationId
  deriving DecidableEq

/-- `normalized_channel_commands_text_bounded`, in code points. -/
def NormalizedCommandRow.check (row : NormalizedCommandRow) : Bool :=
  let characters := row.commandText.codePoints.length
  0 < characters && characters ≤ 4096

end Events

section Replies

/-- The states of a reply. -/
inductive OutboundMessageStatus where
  | pending
  | delivering
  | providerAccepted
  | terminalFailure
  | outcomeUnknown
  deriving DecidableEq, Repr

/-- No attempt follows on its own. -/
def OutboundMessageStatus.isTerminal : OutboundMessageStatus → Bool
  | .providerAccepted | .terminalFailure | .outcomeUnknown => true
  | .pending | .delivering => false

/-- Columns of `outbound_channel_messages` that no statement updates. -/
structure OutboundMessageTerms where
  inboundEventId : InboundEventId
  scope : Option ActorScope
  externalConversationId : TelegramConversationId
  intent : TelegramReplyIntentV1
  correlationId : CorrelationId
  deriving DecidableEq, Repr

/-- A row of `outbound_channel_messages`. -/
structure OutboundMessageRow extends OutboundMessageTerms where
  status : OutboundMessageStatus := .pending
  deliveryAttempts : Nat := 0
  deliveryClaimId : Option ChannelDeliveryAttemptId := none
  deliveryClaimedUntil : Option Timestamp := none
  providerMessageId : Option String := none
  lastErrorCode : Option String := none
  providerAcceptedAt : Option Timestamp := none
  terminalAt : Option Timestamp := none
  deriving DecidableEq, Repr

/-- `outbound_channel_messages_claim_complete` and
`outbound_channel_messages_terminal_state_complete`. -/
def OutboundMessageRow.check (row : OutboundMessageRow) : Bool :=
  row.deliveryClaimId.isSome = row.deliveryClaimedUntil.isSome &&
    (row.deliveryClaimId.isNone || row.status = .delivering) &&
    match row.status with
    | .pending | .delivering =>
        row.providerAcceptedAt.isNone && row.terminalAt.isNone
    | .providerAccepted =>
        row.providerAcceptedAt.isSome && row.terminalAt.isNone &&
          row.providerMessageId.isSome
    | .terminalFailure | .outcomeUnknown =>
        row.providerAcceptedAt.isNone && row.terminalAt.isSome

/-- The states of an attempt at a delivery. -/
inductive DeliveryAttemptStatus where
  | attempting
  | providerAccepted
  | transientFailure
  | terminalFailure
  | outcomeUnknown
  deriving DecidableEq, Repr

/-- A row of `channel_delivery_attempts`. -/
structure DeliveryAttemptRow where
  outboundMessageId : OutboundChannelMessageId
  attemptNumber : Nat
  status : DeliveryAttemptStatus
  providerMessageId : Option String := none
  errorCode : Option String := none
  startedAt : Timestamp
  completedAt : Option Timestamp := none
  deriving DecidableEq, Repr

/-- `channel_delivery_attempts_number_positive` and
`channel_delivery_attempts_completion_state`. -/
def DeliveryAttemptRow.check (row : DeliveryAttemptRow) : Bool :=
  0 < row.attemptNumber &&
    row.completedAt.isNone = decide (row.status = .attempting)

/-- Why an operator recovers a delivery. -/
inductive TelegramDeliveryRecoveryReason where
  | recipientStateCorrected
  | providerConfigurationCorrected
  deriving DecidableEq, Repr

/-- Whether the job of a recovery was published. -/
inductive RecoveryPublicationStatus where
  | prepared
  | published
  deriving DecidableEq, Repr

/-- A row of `telegram_delivery_recoveries`. -/
structure DeliveryRecoveryRow where
  outboundMessageId : OutboundChannelMessageId
  outboxMessageId : OutboxMessageId
  correlationId : CorrelationId
  expectedErrorCode : String
  reason : TelegramDeliveryRecoveryReason
  publicationStatus : RecoveryPublicationStatus := .prepared
  publishedAt : Option Timestamp := none
  deriving DecidableEq, Repr

/-- `telegram_delivery_recoveries_publication_state_complete`. -/
def DeliveryRecoveryRow.check (row : DeliveryRecoveryRow) : Bool :=
  row.publishedAt.isSome = decide (row.publicationStatus = .published)

end Replies

section Outbox

/-- The kind of an outbox message with the reply that it requests. -/
inductive OutboxKind where
  | channelEventReceived
  | channelReplyRequested (outboundMessageId : OutboundChannelMessageId)
  deriving DecidableEq, Repr

/-- Equality of the `kind` columns. -/
def OutboxKind.sameKind : OutboxKind → OutboxKind → Bool
  | .channelEventReceived, .channelEventReceived => true
  | .channelReplyRequested _, .channelReplyRequested _ => true
  | _, _ => false

/-- The states of an outbox message. -/
inductive OutboxStatus where
  | pending
  | published
  | failed
  deriving DecidableEq, Repr

/-- Why a publication has failed. -/
inductive OutboxPublishErrorCode where
  | consumerStalled
  | publicationAttemptsExhausted
  | queueOutcomeUnknown
  | queueUnavailable
  deriving DecidableEq, Repr

/-- Columns of `outbox_messages` that no statement updates; the correlation
identifier is the one in the payload. -/
structure OutboxMessageTerms where
  inboundEventId : InboundEventId
  owner : Option LedgerOwner
  kind : OutboxKind
  correlationId : CorrelationId
  createdAt : Timestamp
  deriving DecidableEq, Repr

/-- A row of `outbox_messages`. -/
structure OutboxMessageRow extends OutboxMessageTerms where
  status : OutboxStatus := .pending
  publishedAt : Option Timestamp := none
  publishAttempts : Nat := 0
  publishClaimId : Option OutboxClaimId := none
  publishClaimedUntil : Option Timestamp := none
  nextPublishAttemptAt : Timestamp
  lastPublishErrorCode : Option OutboxPublishErrorCode := none
  failedAt : Option Timestamp := none
  deriving DecidableEq, Repr

/-- `outbox_messages_publish_claim_complete` and
`outbox_messages_publication_state`. -/
def OutboxMessageRow.check (row : OutboxMessageRow) : Bool :=
  row.publishClaimId.isSome = row.publishClaimedUntil.isSome &&
    (row.publishClaimId.isNone || row.status = .pending) &&
    match row.status with
    | .pending => row.publishedAt.isNone && row.failedAt.isNone
    | .published => row.publishedAt.isSome && row.failedAt.isNone
    | .failed =>
        row.publishedAt.isNone && row.failedAt.isSome &&
          row.lastPublishErrorCode.isSome

/-- A row of `outbox_message_receipts`. -/
structure OutboxReceiptRow where
  consumedAt : Timestamp
  deliveryAttempts : Nat := 1
  lastDeliveredAt : Timestamp
  deriving DecidableEq, Repr

end Outbox

/-- The tables of the channel, with those of identities among them. -/
structure ChannelDatabase where
  identity : IdentityDatabase
  events : Table InboundEventId InboundEventRow := .empty
  windows : Table AbuseWindowKey Nat := .empty
  commands : Table NormalizedCommandId NormalizedCommandRow := .empty
  messages : Table OutboundChannelMessageId OutboundMessageRow := .empty
  attempts : Table ChannelDeliveryAttemptId DeliveryAttemptRow := .empty
  recoveries : Table TelegramDeliveryRecoveryId DeliveryRecoveryRow := .empty
  outbox : Table OutboxMessageId OutboxMessageRow := .empty
  receipts : Table OutboxMessageId OutboxReceiptRow := .empty

/-- The outbox message is the `channel.event.received.v1` of the event. -/
def ChannelDatabase.Announces (db : ChannelDatabase)
    (outboxMessageId : OutboxMessageId) (inboundEventId : InboundEventId) :
    Prop :=
  ∃ row, db.outbox.find? outboxMessageId = some row ∧
    row.inboundEventId = inboundEventId ∧ row.kind = .channelEventReceived

/-- The operations that a failure names. -/
inductive ChannelOperation where
  | persistTelegramEvent
  | claimTelegramEvent
  | completeTelegramEvent
  | enforceTelegramUserLimit
  | releaseTelegramEvent
  | claimTelegramReply
  | completeTelegramReplyAttempt
  | prepareTelegramDeliveryRecovery
  | markTelegramDeliveryRecoveryPublished
  | claimPendingOutbox
  | markOutboxPublished
  | recordOutboxPublicationFailure
  | recordOutboxConsumption
  | recoverFailedOutboxPublication
  deriving DecidableEq, Repr

/-- Every failure of a channel store is reported as unavailable persistence,
except for a publication whose claim is not held any more. -/
inductive ChannelStoreFailure where
  | persistenceUnavailable (operation : ChannelOperation)
  | outboxPublicationStateConflict (operation : ChannelOperation)
      (outboxMessageId : OutboxMessageId)
  deriving DecidableEq, Repr

end XpensGo
