import XpensGo.Channel.DeliveryStore
import XpensGo.Channel.OutboxStore
import XpensGo.Channel.ProcessingStore
import XpensGo.Transition.System

/-!
# Queue jobs

The consumer of the outbox queue runs `processTelegramEvent`, then, for a job
that announces no event, `deliverTelegramReply`, and last
`recordOutboxConsumption`.  Every call of a store, of the identity store and of
Telegram is a step of its own, so that any number of jobs interleave with each
other, with the webhook, with web requests, with the dispatcher and with an
operator, and can be cut off between two steps.
-/

namespace XpensGo

open EcmaScript Postgres Relational Transition

abbrev JobId := Nat

abbrev RecoveryCallId := Nat

/-- The body of a queue message. -/
structure OutboxQueueJob where
  outboxMessageId : OutboxMessageId
  correlationId : CorrelationId
  deriving DecidableEq, Repr

section ProcessTelegramEvent

/-- Why a job resolves the account of its event. -/
inductive ResolutionPurpose where
  | text (text : JsString)
  | linkReplay
  | priorToUnlink (tokenDigest : ChannelLinkChallengeDigest)
  deriving DecidableEq

/-- What a job does once the limit of its user allows the event. -/
inductive LimitedStep where
  | complete (completion : TelegramEventCompletion)
  | consumeUnlink (tokenDigest : ChannelLinkChallengeDigest)
  deriving DecidableEq

/-- The next call of a job that holds a claim on its event. -/
inductive ProcessingStep where
  | resolving (purpose : ResolutionPurpose)
  | consumingLink (tokenDigest : ChannelLinkChallengeDigest)
  | enforcing (actor : ChannelActorContext) (next : LimitedStep)
  | consumingUnlink (tokenDigest : ChannelLinkChallengeDigest)
      (priorActor : Option ChannelActorContext)
  | completing (completion : TelegramEventCompletion)
  | releasing
  deriving DecidableEq

/-- `intent`, whose replies all link to the workspace. -/
def intent (content : TelegramReplyContent) (purpose : TelegramReplyPurpose) :
    TelegramReplyIntentV1 :=
  { purpose := purpose
    content := content
    actions := [.openWorkspace] }

/-- The reply to a challenge that is refused. -/
def rejectedChallenge (purpose : ChallengeCommand)
    (reason : ChallengeRejectionReason) : TelegramEventCompletion :=
  .unscopedReply (intent (.challengeRejected purpose reason) .system)

/-- The reply to a command that has linked an account. -/
def linkSucceeded (actor : ChannelActorContext) : TelegramEventCompletion :=
  .scopedReply actor (intent .linkSucceeded .system)

/-- The reply to an unlink command, scoped to the actor that the account had
before. -/
def unlinkSucceeded : Option ChannelActorContext → TelegramEventCompletion
  | some actor => .scopedReply actor (intent .unlinkSucceeded .system)
  | none => .unscopedReply (intent .unlinkSucceeded .system)

/-- The first call for a claimed event. -/
def ProcessingStep.first (event : PersistedTelegramEventV1) : ProcessingStep :=
  match event.content with
  | .invalidCommand command =>
      .completing (rejectedChallenge command .invalidCommand)
  | .text text => .resolving (.text text)
  | .linkCommand tokenDigest => .consumingLink tokenDigest
  | .unlinkCommand tokenDigest => .resolving (.priorToUnlink tokenDigest)

/-- The call after an account was resolved, or was not. -/
def ProcessingStep.afterResolution (resolved : Option ChannelActorContext) :
    ResolutionPurpose → ProcessingStep
  | .text text =>
      match resolved with
      | none =>
          .completing (.unscopedReply (intent .linkRequired .system))
      | some actor =>
          .enforcing actor (.complete
            (.linkedTextAccepted actor text
              (intent .captureUnavailable .reply)))
  | .linkReplay =>
      match resolved with
      | none => .completing (rejectedChallenge .link .alreadyUsed)
      | some actor => .enforcing actor (.complete (linkSucceeded actor))
  | .priorToUnlink tokenDigest =>
      match resolved with
      | none => .consumingUnlink tokenDigest none
      | some actor => .enforcing actor (.consumeUnlink tokenDigest)

/-- The call after a link challenge was presented. -/
def ProcessingStep.afterLink :
    ConsumeTelegramLinkChallengeStoreOutcome → ProcessingStep
  | .telegramIdentityLinked _ actor =>
      .enforcing actor (.complete (linkSucceeded actor))
  | .challengeAlreadyConsumed => .resolving .linkReplay
  | .challengeNotFound => .completing (rejectedChallenge .link .notFound)
  | .challengeExpired => .completing (rejectedChallenge .link .expired)
  | .telegramIdentityAlreadyLinked =>
      .completing (rejectedChallenge .link .alreadyLinked)

/-- The call after an unlink challenge was presented. -/
def ProcessingStep.afterUnlink (priorActor : Option ChannelActorContext) :
    ConsumeTelegramUnlinkChallengeStoreOutcome → ProcessingStep
  | .telegramIdentityUnlinked _ => .completing (unlinkSucceeded priorActor)
  | .challengeAlreadyConsumed =>
      match priorActor with
      | none => .completing (unlinkSucceeded none)
      | some _ => .completing (rejectedChallenge .unlink .alreadyUsed)
  | .challengeNotFound => .completing (rejectedChallenge .unlink .notFound)
  | .challengeExpired => .completing (rejectedChallenge .unlink .expired)
  | .telegramIdentityDoesNotMatchChallenge | .channelIdentityNotFound =>
      .completing (rejectedChallenge .unlink .identityMismatch)

/-- The call that the limit has held back. -/
def LimitedStep.step (actor : ChannelActorContext) :
    LimitedStep → ProcessingStep
  | .complete completion => .completing completion
  | .consumeUnlink tokenDigest => .consumingUnlink tokenDigest (some actor)

end ProcessTelegramEvent

section ProcessOutboxJob

/-- Where a job stands between its calls. -/
inductive JobPhase where
  | claimingEvent
  | processing (claim : TelegramEventClaimed) (step : ProcessingStep)
  | claimingReply
  | sending (claim : TelegramReplyClaimed)
  | completingAttempt (claim : TelegramReplyClaimed)
      (outcome : TelegramProviderAttemptOutcome)
  | consuming
  | ended

/-- What the committed calls of a job have answered about its event. -/
inductive ProcessingRecord where
  | claimed (claim : TelegramEventClaimed)
  | resolved (actor : Option ChannelActorContext)
  | linkPresented (outcome : ConsumeTelegramLinkChallengeStoreOutcome)
  | unlinkPresented (outcome : ConsumeTelegramUnlinkChallengeStoreOutcome)
  | completed (completion : TelegramEventCompletion)
  deriving DecidableEq

/-- A queue job, with its message and what its calls have answered. -/
structure OutboxJob where
  message : OutboxQueueJob
  phase : JobPhase := .claimingEvent
  trace : List ProcessingRecord := []

/-- One request to the Telegram Bot API with what it reported. -/
structure TelegramSend where
  claim : TelegramReplyClaimed
  outcome : TelegramProviderAttemptOutcome
  deriving DecidableEq, Repr

namespace JobPhase

/-- A message without an event to process may ask for a reply. -/
def afterEventClaim : Option ClaimTelegramEventOutcome → JobPhase
  | some (.claimed claim) => .processing claim (.first claim.event)
  | some .notFound => .claimingReply
  | some .duplicate | some .rateLimited => .consuming
  | some (.deferred _) | none => .ended

/-- An identity call that fails releases the claim. -/
def afterIdentityCall {α : Type} (claim : TelegramEventClaimed)
    (next : α → ProcessingStep) : Option α → JobPhase
  | some outcome => .processing claim (next outcome)
  | none => .processing claim .releasing

/-- A suppressed event is done. -/
def afterUserLimit (claim : TelegramEventClaimed)
    (actor : ChannelActorContext) (next : LimitedStep) :
    Option EnforceTelegramUserLimitOutcome → JobPhase
  | some .allowed => .processing claim (next.step actor)
  | some .rateLimited => .consuming
  | none => .ended

/-- The consumption of the message is recorded last. -/
def afterCompletion : Option OutboundChannelMessageId → JobPhase
  | some _ => .consuming
  | none => .ended

/-- A claimed reply is sent. -/
def afterReplyClaim : Option ClaimTelegramReplyOutcome → JobPhase
  | some (.claimed claim) => .sending claim
  | some .terminal | some .notFound => .consuming
  | some (.deferred _) | none => .ended

/-- A transient failure leaves the job to the queue. -/
def afterAttempt (outcome : TelegramProviderAttemptOutcome) :
    Option Unit → JobPhase
  | some _ =>
      match outcome with
      | .transientFailure _ => .ended
      | .providerAccepted _ | .terminalFailure _ | .outcomeUnknown _ =>
          .consuming
  | none => .ended

end JobPhase

/-- The challenge of an event, presented by the account of the event. -/
def consumeChallengeInput (claim : TelegramEventClaimed)
    (correlationId : CorrelationId) (now : EpochMillis)
    (tokenDigest : ChannelLinkChallengeDigest) :
    ConsumeTelegramChallengeStoreInput :=
  { tokenDigest := tokenDigest
    externalAccountId := claim.event.externalAccountId
    correlationId := correlationId
    consumedAtMillis := now }

/-- The completion of a claimed event. -/
def completeEventInput (claim : TelegramEventClaimed)
    (correlationId : CorrelationId) (completion : TelegramEventCompletion) :
    CompleteTelegramEventInput :=
  { claimId := claim.claimId
    inboundEventId := claim.inboundEventId
    correlationId := correlationId
    completion := completion }

/-- The limit applies to the user of the actor. -/
def enforceUserLimitInput (claim : TelegramEventClaimed)
    (actor : ChannelActorContext) : EnforceTelegramUserLimitInput :=
  { claimId := claim.claimId
    inboundEventId := claim.inboundEventId
    userId := actor.userId
    maximumEventsPerMinute :=
      defaultTelegramProcessingPolicy.perIdentityPerMinute }

/-- The claim that is given up. -/
def releaseEventInput (claim : TelegramEventClaimed) :
    ReleaseTelegramEventInput :=
  { claimId := claim.claimId
    inboundEventId := claim.inboundEventId }

/-- The attempt of a claimed reply, with what the provider reported. -/
def completeAttemptInput (claim : TelegramReplyClaimed)
    (outcome : TelegramProviderAttemptOutcome) :
    CompleteTelegramReplyAttemptInput :=
  { attemptId := claim.attemptId
    outboundMessageId := claim.outboundMessageId
    outcome := outcome }

end ProcessOutboxJob

section Publication

/-- What became of a request to publish a job; a request whose outcome is
unknown may have been accepted. -/
inductive QueueOutcome where
  | accepted
  | unavailable
  | unknown (delivered : Bool)
  deriving DecidableEq, Repr

/-- The queue delivers the job. -/
def QueueOutcome.delivers : QueueOutcome → Bool
  | .accepted => true
  | .unavailable => false
  | .unknown delivered => delivered

/-- The longest delay is 30 minutes; it doubles with every attempt. -/
def retryDelaySeconds (attempt : Nat) : Nat :=
  min (30 * 2 ^ min (attempt - 1) 6) 1800

/-- A claimed message, the answer of the queue, and whether it was reported. -/
structure OutboxPublication where
  message : ClaimedOutboxPublication
  outcome : Option QueueOutcome := none
  reported : Bool := false

/-- The job that is published for a message. -/
def ClaimedOutboxPublication.job (message : ClaimedOutboxPublication) :
    OutboxQueueJob :=
  { outboxMessageId := message.outboxMessageId
    correlationId := message.correlationId }

/-- The message with the claim that publishes it. -/
def ClaimedOutboxPublication.mark (message : ClaimedOutboxPublication) :
    MarkOutboxPublishedInput :=
  { outboxMessageId := message.outboxMessageId
    claimId := message.claimId }

/-- The failure that a dispatcher records. -/
def ClaimedOutboxPublication.failure (message : ClaimedOutboxPublication)
    (errorCode : OutboxPublicationFailureCode) :
    RecordOutboxPublicationFailureInput :=
  { outboxMessageId := message.outboxMessageId
    claimId := message.claimId
    errorCode := errorCode
    retryDelaySeconds :=
      match errorCode with
      | .queueOutcomeUnknown => dispatchClaimInput.receiptTimeoutSeconds
      | .queueUnavailable => retryDelaySeconds message.attempt
    disposition :=
      if dispatchClaimInput.maximumAttempts ≤ message.attempt then .terminal
      else .retry }

/-- The transaction with which a dispatcher reports an outcome. -/
def ClaimedOutboxPublication.report (message : ClaimedOutboxPublication)
    (clock : DatabaseClock) (outcome : QueueOutcome) (db : ChannelDatabase) :
    Except ChannelStoreFailure (Unit × ChannelDatabase) :=
  match outcome with
  | .accepted => db.markOutboxPublished clock message.mark
  | .unavailable =>
      db.recordOutboxPublicationFailure clock
        (message.failure .queueUnavailable)
  | .unknown _ =>
      db.recordOutboxPublicationFailure clock
        (message.failure .queueOutcomeUnknown)

/-- Where a call of `recoverTelegramDelivery` stands. -/
inductive RecoveryPhase where
  | publishing (message : OutboxQueueJob)
  | marking
  | ended

/-- A call of `recoverTelegramDelivery`. -/
structure RecoveryCall where
  recoveryId : TelegramDeliveryRecoveryId
  phase : RecoveryPhase

/-- Only a recovery that is not published yet publishes its job. -/
def RecoveryPhase.afterPreparation :
    Option PrepareTelegramDeliveryRecoveryOutcome → RecoveryPhase
  | some (.prepared recovery) =>
      match recovery.publicationStatus with
      | .prepared =>
          .publishing
            { outboxMessageId := recovery.outboxMessageId
              correlationId := recovery.correlationId }
      | .published => .ended
  | some (.notRecoverable _) | none => .ended

/-- A job that may not have been published is not marked. -/
def RecoveryPhase.afterPublication : QueueOutcome → RecoveryPhase
  | .accepted => .marking
  | .unavailable | .unknown _ => .ended

end Publication

end XpensGo
