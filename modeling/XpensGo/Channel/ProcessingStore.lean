import XpensGo.Channel.Database
import XpensGo.Identity.Store

/-!
# The ingress store and the event-processing store

`persist` accepts a Telegram event and its outbox message.  `claim`,
`enforceUserLimit`, `complete` and `release` process it, each one transaction
over the channel tables.  Identifiers that the database generates and clock
readings are arguments.
-/

namespace XpensGo

open EcmaScript Postgres Relational

/-- An accepted event, with the key that makes it unique. -/
structure PersistTelegramEventInput where
  idempotencyKey : String
  correlationId : CorrelationId
  event : PersistedTelegramEventV1

/-- The store input of `acceptTelegramEvent`. -/
def persistTelegramEventInput (correlationId : CorrelationId)
    (event : PersistedTelegramEventV1) : PersistTelegramEventInput :=
  { idempotencyKey := "telegram:update:" ++ event.updateId.digits
    correlationId := correlationId
    event := event }

/-- What the store answers to an accepted event. -/
inductive AcceptTelegramEventOutcome where
  | accepted (inboundEventId : InboundEventId)
      (outboxMessageId : OutboxMessageId)
  | duplicate
  deriving DecidableEq, Repr

/-- The limits of a minute, and the length of a lease. -/
structure TelegramProcessingPolicy where
  perIdentityPerMinute : Nat
  systemPerMinute : Nat
  leaseSeconds : Nat
  deriving DecidableEq, Repr

/-- The policy of the deployed consumer. -/
def defaultTelegramProcessingPolicy : TelegramProcessingPolicy :=
  { perIdentityPerMinute := 30
    systemPerMinute := 300
    leaseSeconds := 60 }

/-- One event leased to a queue delivery. -/
structure TelegramEventClaimed where
  claimId : TelegramProcessingClaimId
  inboundEventId : InboundEventId
  event : PersistedTelegramEventV1
  deriving DecidableEq

/-- What a claim of an event answers. -/
inductive ClaimTelegramEventOutcome where
  | claimed (claim : TelegramEventClaimed)
  | duplicate
  | notFound
  | rateLimited
  | deferred (retryAfterSeconds : Int)
  deriving DecidableEq

/-- How an event is completed, with the reply that it gets. -/
inductive TelegramEventCompletion where
  | linkedTextAccepted (actor : ChannelActorContext) (text : JsString)
      (intent : TelegramReplyIntentV1)
  | scopedReply (actor : ChannelActorContext) (intent : TelegramReplyIntentV1)
  | unscopedReply (intent : TelegramReplyIntentV1)
  deriving DecidableEq

/-- The completion of an event under a claim. -/
structure CompleteTelegramEventInput where
  claimId : TelegramProcessingClaimId
  inboundEventId : InboundEventId
  correlationId : CorrelationId
  completion : TelegramEventCompletion
  deriving DecidableEq

/-- A claim that is given up. -/
structure ReleaseTelegramEventInput where
  claimId : TelegramProcessingClaimId
  inboundEventId : InboundEventId
  deriving DecidableEq

/-- The user of an event under a claim, and the limit of a minute. -/
structure EnforceTelegramUserLimitInput where
  claimId : TelegramProcessingClaimId
  inboundEventId : InboundEventId
  userId : UserId
  maximumEventsPerMinute : Nat
  deriving DecidableEq

/-- What the limit of a user answers. -/
inductive EnforceTelegramUserLimitOutcome where
  | allowed
  | rateLimited
  deriving DecidableEq, Repr

/-- Identifiers that the database generates for a completion. -/
structure CompletionIds where
  command : NormalizedCommandId
  message : OutboundChannelMessageId
  outbox : OutboxMessageId
  deriving DecidableEq, Repr

namespace TelegramEventCompletion

/-- The actor on whose behalf the event is completed. -/
def actor : TelegramEventCompletion → Option ChannelActorContext
  | .linkedTextAccepted actor _ _ | .scopedReply actor _ => some actor
  | .unscopedReply _ => none

/-- The reply that the event gets. -/
def intent : TelegramEventCompletion → TelegramReplyIntentV1
  | .linkedTextAccepted _ _ intent | .scopedReply _ intent
  | .unscopedReply intent => intent

/-- The outcome that the row records. -/
def outcome : TelegramEventCompletion → ProcessingOutcome
  | .linkedTextAccepted _ _ _ => .normalizedTextAccepted
  | .scopedReply _ _ => .scopedReplyCreated
  | .unscopedReply _ => .unscopedReplyCreated

/-- The actor and the text of a completion that stores a command. -/
def command : TelegramEventCompletion →
    Option (ChannelActorContext × JsString)
  | .linkedTextAccepted actor text _ => some (actor, text)
  | .scopedReply _ _ | .unscopedReply _ => none

end TelegramEventCompletion

section RowUpdates

variable (clock : DatabaseClock)

/-- `date_trunc('minute', CURRENT_TIMESTAMP)`. -/
def minuteStart : Timestamp :=
  clock.currentTimestamp / 60000000 * 60000000

/-- The row of a new event. -/
def PersistTelegramEventInput.row (input : PersistTelegramEventInput) :
    InboundEventRow :=
  { externalEventId := input.event.updateId
    idempotencyKey := input.idempotencyKey
    correlationId := input.correlationId
    normalizedPayload := input.event }

/-- A new outbox message, to be published at once. -/
def newOutboxRow (inboundEventId : InboundEventId)
    (owner : Option LedgerOwner) (kind : OutboxKind)
    (correlationId : CorrelationId) : OutboxMessageRow :=
  { inboundEventId := inboundEventId
    owner := owner
    kind := kind
    correlationId := correlationId
    createdAt := clock.currentTimestamp
    nextPublishAttemptAt := clock.currentTimestamp }

namespace InboundEventRow

/-- Columns written when an event is refused for the abuse windows of the
system and of its identity. -/
def suppress (row : InboundEventRow) : InboundEventRow :=
  { row with
    processingStatus := .suppressed
    processingOutcome := some .abuseLimited
    processedAt := some clock.currentTimestamp
    processingClaimId := none
    processingClaimedUntil := none
    abuseCheckedAt := some clock.currentTimestamp
    abuseAllowed := some false }

def claim (policy : TelegramProcessingPolicy)
    (claimId : TelegramProcessingClaimId) (row : InboundEventRow) :
    InboundEventRow :=
  { row with
    processingStatus := .processing
    processingClaimId := some claimId
    processingClaimedUntil :=
      some (clock.currentTimestamp.addSeconds policy.leaseSeconds)
    processingAttempts := row.processingAttempts + 1
    abuseCheckedAt :=
      some (row.abuseCheckedAt.getD clock.currentTimestamp)
    abuseAllowed := some (row.abuseAllowed.getD true) }

/-- Columns written when the window of its user has room. -/
def allowUser (row : InboundEventRow) : InboundEventRow :=
  { row with
    userAbuseCheckedAt := some clock.currentTimestamp
    userAbuseAllowed := some true }

/-- Columns written when an event is refused for the window of its user. -/
def suppressUser (row : InboundEventRow) : InboundEventRow :=
  { row with
    processingStatus := .suppressed
    processingOutcome := some .userAbuseLimited
    processedAt := some clock.currentTimestamp
    processingClaimId := none
    processingClaimedUntil := none
    userAbuseCheckedAt := some clock.currentTimestamp
    userAbuseAllowed := some false }

def complete (completion : TelegramEventCompletion) (row : InboundEventRow) :
    InboundEventRow :=
  { row with
    owner := completion.actor.map (·.owner)
    processingStatus := .processed
    processingOutcome := some completion.outcome
    processedAt := some clock.currentTimestamp
    processingClaimId := none
    processingClaimedUntil := none }

/-- Columns of an event that is given back. -/
def release (row : InboundEventRow) : InboundEventRow :=
  { row with
    processingStatus := .pending
    processingClaimId := none
    processingClaimedUntil := none }

end InboundEventRow

/-- The reply that a completion creates for the event it completes. -/
def CompleteTelegramEventInput.message (input : CompleteTelegramEventInput)
    (event : PersistedTelegramEventV1) : OutboundMessageRow :=
  { inboundEventId := input.inboundEventId
    scope := input.completion.actor.map (·.scope)
    externalConversationId := event.externalConversationId
    intent := input.completion.intent
    correlationId := input.correlationId }

/-- The command that a completion stores, if it has a text. -/
def CompleteTelegramEventInput.command (input : CompleteTelegramEventInput)
    (event : PersistedTelegramEventV1) (actor : ChannelActorContext)
    (text : JsString) : NormalizedCommandRow :=
  { inboundEventId := input.inboundEventId
    owner := actor.owner
    channelIdentityId := actor.channelIdentityId
    externalMessageId := event.externalMessageId
    commandText := text
    occurredAt := .ofMillis event.occurredAtMillis
    correlationId := input.correlationId }

end RowUpdates

namespace ChannelDatabase

section Statements

/-- Insert an event whose idempotency key is new. -/
def insertEvent (db : ChannelDatabase) (inboundEventId : InboundEventId)
    (row : InboundEventRow) : Option ChannelDatabase :=
  if (db.events.select (fun _ other =>
      other.idempotencyKey = row.idempotencyKey)).isEmpty then do
    let events ← db.events.insert? InboundEventRow.check inboundEventId row
    pure { db with events := events }
  else
    none

/-- `UPDATE inbound_channel_events`, of one row. -/
def updateEvent (db : ChannelDatabase) (inboundEventId : InboundEventId)
    (set : InboundEventRow → InboundEventRow) : Option ChannelDatabase := do
  let events ← db.events.modify? InboundEventRow.check inboundEventId set
  pure { db with events := events }

/-- The owner of the event and the reply that an outbox row references. -/
def outboxReferencesExist (db : ChannelDatabase) (row : OutboxMessageRow) :
    Bool :=
  row.owner.all (fun owner =>
      (db.events.find? row.inboundEventId).any (fun event =>
        event.owner = some owner)) &&
    match row.kind with
    | .channelEventReceived => true
    | .channelReplyRequested outboundMessageId =>
        (db.messages.find? outboundMessageId).isSome

/-- Insert an outbox message of a kind that is new for its event. -/
def insertOutbox (db : ChannelDatabase) (outboxMessageId : OutboxMessageId)
    (row : OutboxMessageRow) : Option ChannelDatabase :=
  if (db.outbox.select (fun _ other =>
        other.inboundEventId = row.inboundEventId &&
          other.kind.sameKind row.kind)).isEmpty &&
      db.outboxReferencesExist row then do
    let outbox ← db.outbox.insert? OutboxMessageRow.check outboxMessageId row
    pure { db with outbox := outbox }
  else
    none

/-- The identity and the owner that a scoped row references. -/
def scopeExists (db : ChannelDatabase) (inboundEventId : InboundEventId)
    (scope : ActorScope) : Bool :=
  (db.events.find? inboundEventId).any (fun event =>
      event.owner = some scope.owner) &&
    (db.identity.identities.find? scope.channelIdentityId).any (fun identity =>
      identity.userId = scope.owner.userId &&
        identity.ledgerId = scope.owner.ledgerId)

/-- `INSERT INTO normalized_channel_commands`. -/
def insertCommand (db : ChannelDatabase) (commandId : NormalizedCommandId)
    (row : NormalizedCommandRow) : Option ChannelDatabase :=
  if (db.commands.select (fun _ other =>
        other.inboundEventId = row.inboundEventId)).isEmpty &&
      db.scopeExists row.inboundEventId
        { owner := row.owner
          channelIdentityId := row.channelIdentityId } then do
    let commands ← db.commands.insert? NormalizedCommandRow.check commandId row
    pure { db with commands := commands }
  else
    none

def insertMessage (db : ChannelDatabase)
    (outboundMessageId : OutboundChannelMessageId) (row : OutboundMessageRow) :
    Option ChannelDatabase :=
  if (db.messages.select (fun _ other =>
        other.inboundEventId = row.inboundEventId)).isEmpty &&
      row.scope.all (db.scopeExists row.inboundEventId) then do
    let messages ← db.messages.insert? OutboundMessageRow.check
      outboundMessageId row
    pure { db with messages := messages }
  else
    none

/-- Count an event in a minute window and return the new count. -/
def countEvent (db : ChannelDatabase) (clock : DatabaseClock)
    (scope : AbuseScope) : Nat × ChannelDatabase :=
  let key : AbuseWindowKey :=
    { scope := scope
      windowStartedAt := minuteStart clock }
  match db.windows.find? key with
  | none => (1, { db with windows := db.windows.insertMissing key 1 })
  | some count =>
      (count + 1,
        { db with
          windows := db.windows.modify key (fun count => count + 1) })

end Statements

/-- `persist` of the ingress store. -/
def persistTelegramEvent (clock : DatabaseClock) (inboundEventId : InboundEventId)
    (outboxMessageId : OutboxMessageId) (input : PersistTelegramEventInput)
    (db : ChannelDatabase) :
    Except ChannelStoreFailure (AcceptTelegramEventOutcome × ChannelDatabase) :=
  let unavailable : ChannelStoreFailure :=
    .persistenceUnavailable .persistTelegramEvent
  if (db.events.select (fun _ row =>
      row.externalEventId = input.event.updateId)).isEmpty then do
    let accepted ← require unavailable (db.insertEvent inboundEventId input.row)
    let queued ← require unavailable
      (accepted.insertOutbox outboxMessageId
        (newOutboxRow clock inboundEventId none .channelEventReceived
          input.correlationId))
    pure (.accepted inboundEventId outboxMessageId, queued)
  else
    pure (.duplicate, db)

/-- The event that an outbox message announces. -/
def announcedEvent (db : ChannelDatabase) (outboxMessageId : OutboxMessageId) :
    Option (InboundEventId × InboundEventRow) :=
  match db.outbox.find? outboxMessageId with
  | some outbox =>
      match outbox.kind with
      | .channelEventReceived =>
          (db.events.find? outbox.inboundEventId).map (fun event =>
            (outbox.inboundEventId, event))
      | .channelReplyRequested _ => none
  | none => none

section Claim

variable (clock : DatabaseClock) (workerNow : Int)
  (claimId : TelegramProcessingClaimId) (policy : TelegramProcessingPolicy)

/-- The lease of another delivery, seen by the clock of the worker. -/
def InboundEventRow.activeLease (row : InboundEventRow) : Option Timestamp :=
  if row.processingStatus = .processing then
    row.processingClaimedUntil.filter (fun claimedUntil =>
      workerNow < claimedUntil.getTime)
  else
    none

/-- The event is leased to a claim. -/
def leaseEvent (db : ChannelDatabase) (inboundEventId : InboundEventId)
    (row : InboundEventRow) :
    Except ChannelStoreFailure (ClaimTelegramEventOutcome × ChannelDatabase) := do
  let leased ← require (.persistenceUnavailable .claimTelegramEvent)
    (db.updateEvent inboundEventId
      (InboundEventRow.claim clock policy claimId))
  pure (.claimed
    { claimId := claimId
      inboundEventId := inboundEventId
      event := row.normalizedPayload }, leased)

/-- `claim` of the processing store; an event is counted once, and leased if
its windows have room. -/
def claimTelegramEvent (outboxMessageId : OutboxMessageId)
    (db : ChannelDatabase) :
    Except ChannelStoreFailure (ClaimTelegramEventOutcome × ChannelDatabase) :=
  match db.announcedEvent outboxMessageId with
  | none => pure (.notFound, db)
  | some (inboundEventId, row) =>
      if row.processingStatus.isTerminal then
        pure (.duplicate, db)
      else
        match InboundEventRow.activeLease workerNow row with
        | some claimedUntil =>
            pure (.deferred (secondsToWait (claimedUntil.getTime - workerNow)),
              db)
        | none =>
            match row.abuseAllowed with
            | some false => pure (.rateLimited, db)
            | some true => db.leaseEvent clock claimId policy inboundEventId row
            | none =>
                let (systemCount, counted) := db.countEvent clock .system
                let (identityCount, counted) := counted.countEvent clock
                  (.identity row.normalizedPayload.externalAccountId)
                if systemCount ≤ policy.systemPerMinute ∧
                    identityCount ≤ policy.perIdentityPerMinute then
                  counted.leaseEvent clock claimId policy inboundEventId row
                else do
                  let suppressed ←
                    require (.persistenceUnavailable .claimTelegramEvent)
                      (counted.updateEvent inboundEventId
                        (InboundEventRow.suppress clock))
                  pure (.rateLimited, suppressed)

end Claim

/-- An event that is processed under the given claim. -/
def eventHeld (db : ChannelDatabase) (inboundEventId : InboundEventId)
    (claimId : TelegramProcessingClaimId) : Option InboundEventRow :=
  (db.events.find? inboundEventId).filter (fun row =>
    row.processingStatus = .processing && row.processingClaimId = some claimId)

section Completion

variable (clock : DatabaseClock)

/-- The command of a completion, if it has one. -/
def insertCompletionCommand (db : ChannelDatabase)
    (commandId : NormalizedCommandId) (input : CompleteTelegramEventInput)
    (event : PersistedTelegramEventV1) : Option ChannelDatabase :=
  match input.completion.command with
  | some (actor, text) =>
      db.insertCommand commandId (input.command event actor text)
  | none => some db

/-- `complete` of the processing store, which also stores the reply and the
request to deliver it. -/
def completeTelegramEvent (ids : CompletionIds)
    (input : CompleteTelegramEventInput) (db : ChannelDatabase) :
    Except ChannelStoreFailure (OutboundChannelMessageId × ChannelDatabase) :=
  let unavailable : ChannelStoreFailure :=
    .persistenceUnavailable .completeTelegramEvent
  match db.eventHeld input.inboundEventId input.claimId with
  | none => .error unavailable
  | some row => do
      let processed ← require unavailable
        (db.updateEvent input.inboundEventId
          (InboundEventRow.complete clock input.completion))
      let commanded ← require unavailable
        (processed.insertCompletionCommand ids.command input
          row.normalizedPayload)
      let replied ← require unavailable
        (commanded.insertMessage ids.message
          (input.message row.normalizedPayload))
      let queued ← require unavailable
        (replied.insertOutbox ids.outbox
          (newOutboxRow clock input.inboundEventId
            (input.completion.actor.map (·.owner))
            (.channelReplyRequested ids.message) input.correlationId))
      pure (ids.message, queued)

/-- `enforceUserLimit` of the processing store; a decision that was made is
kept. -/
def enforceTelegramUserLimit (input : EnforceTelegramUserLimitInput)
    (db : ChannelDatabase) :
    Except ChannelStoreFailure
      (EnforceTelegramUserLimitOutcome × ChannelDatabase) :=
  let unavailable : ChannelStoreFailure :=
    .persistenceUnavailable .enforceTelegramUserLimit
  match db.eventHeld input.inboundEventId input.claimId with
  | none => .error unavailable
  | some row =>
      match row.userAbuseAllowed with
      | some true => pure (.allowed, db)
      | some false => pure (.rateLimited, db)
      | none =>
          let (count, counted) := db.countEvent clock (.user input.userId)
          if count ≤ input.maximumEventsPerMinute then do
            let allowed ← require unavailable
              (counted.updateEvent input.inboundEventId
                (InboundEventRow.allowUser clock))
            pure (.allowed, allowed)
          else do
            let suppressed ← require unavailable
              (counted.updateEvent input.inboundEventId
                (InboundEventRow.suppressUser clock))
            pure (.rateLimited, suppressed)

/-- One conditional update; a claim that is not held any more is ignored. -/
def releaseTelegramEvent (input : ReleaseTelegramEventInput)
    (db : ChannelDatabase) :
    Except ChannelStoreFailure (Unit × ChannelDatabase) :=
  match db.eventHeld input.inboundEventId input.claimId with
  | none => pure ((), db)
  | some _ => do
      let released ← require (.persistenceUnavailable .releaseTelegramEvent)
        (db.updateEvent input.inboundEventId InboundEventRow.release)
      pure ((), released)

end Completion

end ChannelDatabase

end XpensGo
