import XpensGo.Channel.Database

/-!
# The outbox store

Publication of outbox messages under leases, reconciliation with the receipts
of the queue consumer, and the operator's return of a failed publication.
-/

namespace XpensGo

open Postgres Relational

/-- How many messages are claimed, for how long and how often. -/
structure ClaimPendingOutboxInput where
  limit : Nat
  leaseDurationSeconds : Nat
  maximumAttempts : Nat
  receiptTimeoutSeconds : Nat
  deriving DecidableEq, Repr

/-- What `dispatchPendingOutbox` claims with. -/
def dispatchClaimInput : ClaimPendingOutboxInput :=
  { limit := 10
    leaseDurationSeconds := 120
    maximumAttempts := 5
    receiptTimeoutSeconds := 600 }

/-- One outbox message leased to a dispatcher. -/
structure ClaimedOutboxPublication where
  outboxMessageId : OutboxMessageId
  claimId : OutboxClaimId
  correlationId : CorrelationId
  attempt : Nat
  deriving DecidableEq, Repr

/-- A message with the claim of its publisher. -/
structure MarkOutboxPublishedInput where
  outboxMessageId : OutboxMessageId
  claimId : OutboxClaimId
  deriving DecidableEq, Repr

/-- Why a publication has failed. -/
inductive OutboxPublicationFailureCode where
  | queueOutcomeUnknown
  | queueUnavailable
  deriving DecidableEq, Repr

/-- The code that the row keeps. -/
def OutboxPublicationFailureCode.errorCode :
    OutboxPublicationFailureCode → OutboxPublishErrorCode
  | .queueOutcomeUnknown => .queueOutcomeUnknown
  | .queueUnavailable => .queueUnavailable

/-- Whether the publication is tried again. -/
inductive OutboxPublicationFailureDisposition where
  | retry
  | terminal
  deriving DecidableEq, Repr

/-- A failed publication, and what is to follow. -/
structure RecordOutboxPublicationFailureInput extends
    MarkOutboxPublishedInput where
  errorCode : OutboxPublicationFailureCode
  retryDelaySeconds : Nat
  disposition : OutboxPublicationFailureDisposition
  deriving DecidableEq, Repr

/-- What recording a consumption answers. -/
inductive OutboxConsumptionOutcome where
  | processed
  | duplicate
  | notFound
  deriving DecidableEq, Repr

section RowUpdates

variable (clock : DatabaseClock)

namespace OutboxMessageRow

/-- Columns of a message whose receipt was committed before it was marked as
published. -/
def reconcile (consumedAt : Timestamp) (row : OutboxMessageRow) :
    OutboxMessageRow :=
  { row with
    status := .published
    publishedAt := some consumedAt
    failedAt := none
    publishClaimId := none
    publishClaimedUntil := none
    lastPublishErrorCode := none }

/-- Columns of a published message that no consumer has acknowledged. -/
def stall (maximumAttempts : Nat) (row : OutboxMessageRow) :
    OutboxMessageRow :=
  { row with
    status :=
      if maximumAttempts ≤ row.publishAttempts then .failed else .pending
    publishedAt := none
    failedAt :=
      if maximumAttempts ≤ row.publishAttempts then
        some clock.currentTimestamp
      else
        none
    nextPublishAttemptAt := clock.currentTimestamp
    publishClaimId := none
    publishClaimedUntil := none
    lastPublishErrorCode := some .consumerStalled }

/-- Columns of a message whose attempts are used up. -/
def exhaustPublication (row : OutboxMessageRow) : OutboxMessageRow :=
  { row with
    status := .failed
    failedAt := some clock.currentTimestamp
    publishClaimId := none
    publishClaimedUntil := none
    lastPublishErrorCode := some .publicationAttemptsExhausted }

/-- Columns of a message that is leased to a publisher. -/
def claimPublication (leaseDurationSeconds : Nat) (claimId : OutboxClaimId)
    (row : OutboxMessageRow) : OutboxMessageRow :=
  { row with
    publishClaimId := some claimId
    publishClaimedUntil :=
      some (clock.currentTimestamp.addSeconds leaseDurationSeconds)
    publishAttempts := row.publishAttempts + 1 }

/-- Columns of a message that the queue has accepted. -/
def publish (row : OutboxMessageRow) : OutboxMessageRow :=
  { row with
    status := .published
    publishedAt := some clock.currentTimestamp
    publishClaimId := none
    publishClaimedUntil := none
    lastPublishErrorCode := none }

/-- Columns of a message that the queue has not accepted. -/
def failPublication (input : RecordOutboxPublicationFailureInput)
    (row : OutboxMessageRow) : OutboxMessageRow :=
  { row with
    status := if input.disposition = .terminal then .failed else .pending
    failedAt :=
      if input.disposition = .terminal then some clock.currentTimestamp
      else none
    publishClaimId := none
    publishClaimedUntil := none
    nextPublishAttemptAt :=
      if input.disposition = .terminal then clock.currentTimestamp
      else clock.currentTimestamp.addSeconds input.retryDelaySeconds
    lastPublishErrorCode := some input.errorCode.errorCode }

/-- Columns of a failed message that an operator publishes again. -/
def recoverPublication (row : OutboxMessageRow) : OutboxMessageRow :=
  { row with
    status := .pending
    publishedAt := none
    failedAt := none
    publishAttempts := 0
    publishClaimId := none
    publishClaimedUntil := none
    nextPublishAttemptAt := clock.currentTimestamp
    lastPublishErrorCode := none }

/-- A publication that no dispatcher holds at the time of the transaction. -/
def unclaimed (row : OutboxMessageRow) : Bool :=
  row.publishClaimedUntil.all (fun claimedUntil =>
    claimedUntil ≤ clock.currentTimestamp)

/-- The order in which pending messages are claimed. -/
def claimsBefore (left right : OutboxMessageId × OutboxMessageRow) : Bool :=
  if left.2.nextPublishAttemptAt ≠ right.2.nextPublishAttemptAt then
    left.2.nextPublishAttemptAt < right.2.nextPublishAttemptAt
  else if left.2.createdAt ≠ right.2.createdAt then
    left.2.createdAt < right.2.createdAt
  else
    left.1.number ≤ right.1.number

end OutboxMessageRow

end RowUpdates

namespace ChannelDatabase

section Statements

/-- An update of the outbox in which every message has its own new columns. -/
def updateOutbox (db : ChannelDatabase)
    (condition : OutboxMessageId → OutboxMessageRow → Bool)
    (set : OutboxMessageId → OutboxMessageRow → OutboxMessageRow) :
    Option ChannelDatabase :=
  if db.outbox.rows.all (fun entry => !condition entry.1 entry.2 ||
      (set entry.1 entry.2).check) then
    some { db with
      outbox := db.outbox.update (fun key row =>
        if condition key row then set key row else row) }
  else
    none

/-- `UPDATE outbox_messages`, of one row. -/
def updateOutboxMessage (db : ChannelDatabase)
    (outboxMessageId : OutboxMessageId)
    (set : OutboxMessageRow → OutboxMessageRow) : Option ChannelDatabase := do
  let outbox ← db.outbox.modify? OutboxMessageRow.check outboxMessageId set
  pure { db with outbox := outbox }

/-- A consumer has acknowledged the message. -/
def hasReceipt (db : ChannelDatabase) (outboxMessageId : OutboxMessageId) :
    Bool :=
  (db.receipts.find? outboxMessageId).isSome

end Statements

section Claim

variable (clock : DatabaseClock) (input : ClaimPendingOutboxInput)

/-- Messages with a receipt are published, whatever their publishers know. -/
def reconcileReceipts (db : ChannelDatabase) : Option ChannelDatabase :=
  db.updateOutbox
    (fun key row => row.status ≠ .published && db.hasReceipt key)
    (fun key row =>
      match db.receipts.find? key with
      | some receipt => row.reconcile receipt.consumedAt
      | none => row)

/-- Published messages without a receipt are published again. -/
def returnStalled (db : ChannelDatabase) : Option ChannelDatabase :=
  db.updateOutbox
    (fun key row => row.status = .published &&
      row.publishedAt.any (fun publishedAt => publishedAt ≤
        clock.currentTimestamp.addSeconds (-input.receiptTimeoutSeconds)) &&
      !db.hasReceipt key)
    (fun _ row => row.stall clock input.maximumAttempts)

/-- Messages whose attempts are used up and whose lease is over fail. -/
def failExhausted (db : ChannelDatabase) : Option ChannelDatabase :=
  db.updateOutbox
    (fun _ row => row.status = .pending &&
      input.maximumAttempts ≤ row.publishAttempts && row.unclaimed clock)
    (fun _ row => row.exhaustPublication clock)

/-- `SELECT … ORDER BY … LIMIT …` of the messages to publish. -/
def publicationCandidates (db : ChannelDatabase) :
    List (OutboxMessageId × OutboxMessageRow) :=
  ((db.outbox.select (fun _ row => row.status = .pending &&
    row.publishAttempts < input.maximumAttempts &&
      row.nextPublishAttemptAt ≤ clock.currentTimestamp &&
        row.unclaimed clock)).mergeSort OutboxMessageRow.claimsBefore).take
          input.limit

/-- One transaction of four statements; `generated` stands for the claim
identifiers that the last one generates. -/
def claimPendingOutbox (generated : OutboxMessageId → OutboxClaimId)
    (db : ChannelDatabase) :
    Except ChannelStoreFailure
      (List ClaimedOutboxPublication × ChannelDatabase) := do
  let unavailable : ChannelStoreFailure :=
    .persistenceUnavailable .claimPendingOutbox
  let reconciled ← require unavailable db.reconcileReceipts
  let returned ← require unavailable (reconciled.returnStalled clock input)
  let exhausted ← require unavailable (returned.failExhausted clock input)
  let candidates := exhausted.publicationCandidates clock input
  let claimed ← require unavailable
    (exhausted.updateOutbox
      (fun key _ => key ∈ candidates.map Prod.fst)
      (fun key row => row.claimPublication clock input.leaseDurationSeconds
        (generated key)))
  pure (candidates.map (fun entry =>
    { outboxMessageId := entry.1
      claimId := generated entry.1
      correlationId := entry.2.correlationId
      attempt := entry.2.publishAttempts + 1 }), claimed)

end Claim

section Transitions

variable (clock : DatabaseClock)

/-- A pending message under the given publication claim. -/
def publicationHeld (db : ChannelDatabase) (input : MarkOutboxPublishedInput) :
    Bool :=
  (db.outbox.find? input.outboxMessageId).any (fun row =>
    row.status = .pending && row.publishClaimId = some input.claimId)

/-- The answer to a transition whose claim is not held: it is ignored if the
message has been published. -/
def resolveClaimTransition (db : ChannelDatabase)
    (operation : ChannelOperation) (outboxMessageId : OutboxMessageId) :
    Except ChannelStoreFailure (Unit × ChannelDatabase) :=
  match db.outbox.find? outboxMessageId with
  | none => .error (.persistenceUnavailable operation)
  | some row =>
      if row.status = .published then
        pure ((), db)
      else
        .error (.outboxPublicationStateConflict operation outboxMessageId)

/-- `markPublished`. -/
def markOutboxPublished (input : MarkOutboxPublishedInput)
    (db : ChannelDatabase) :
    Except ChannelStoreFailure (Unit × ChannelDatabase) :=
  if db.publicationHeld input then do
    let published ← require (.persistenceUnavailable .markOutboxPublished)
      (db.updateOutboxMessage input.outboxMessageId
        (OutboxMessageRow.publish clock))
    pure ((), published)
  else
    db.resolveClaimTransition .markOutboxPublished input.outboxMessageId

/-- `recordPublicationFailure`. -/
def recordOutboxPublicationFailure
    (input : RecordOutboxPublicationFailureInput) (db : ChannelDatabase) :
    Except ChannelStoreFailure (Unit × ChannelDatabase) :=
  if db.publicationHeld input.toMarkOutboxPublishedInput then do
    let failed ← require
      (.persistenceUnavailable .recordOutboxPublicationFailure)
      (db.updateOutboxMessage input.outboxMessageId
        (OutboxMessageRow.failPublication clock input))
    pure ((), failed)
  else
    db.resolveClaimTransition .recordOutboxPublicationFailure
      input.outboxMessageId

/-- Insert the receipt of a message or count another delivery of it. -/
def recordOutboxConsumption (outboxMessageId : OutboxMessageId)
    (db : ChannelDatabase) :
    Except ChannelStoreFailure (OutboxConsumptionOutcome × ChannelDatabase) :=
  match db.outbox.find? outboxMessageId, db.receipts.find? outboxMessageId with
  | none, _ => pure (.notFound, db)
  | some _, none =>
      pure (.processed,
        { db with
          receipts := db.receipts.insertMissing outboxMessageId
            { consumedAt := clock.currentTimestamp
              lastDeliveredAt := clock.currentTimestamp } })
  | some _, some _ =>
      pure (.duplicate,
        { db with
          receipts := db.receipts.modify outboxMessageId (fun row =>
            { row with
              deliveryAttempts := row.deliveryAttempts + 1
              lastDeliveredAt := clock.currentTimestamp }) })

/-- `recoverFailedPublication`. -/
def recoverFailedOutboxPublication (outboxMessageId : OutboxMessageId)
    (db : ChannelDatabase) :
    Except ChannelStoreFailure (Bool × ChannelDatabase) :=
  if (db.outbox.find? outboxMessageId).any (fun row => row.status = .failed) &&
      !db.hasReceipt outboxMessageId then do
    let recovered ← require
      (.persistenceUnavailable .recoverFailedOutboxPublication)
      (db.updateOutboxMessage outboxMessageId
        (OutboxMessageRow.recoverPublication clock))
    pure (true, recovered)
  else
    pure (false, db)

end Transitions

end ChannelDatabase

end XpensGo
