import XpensGo.Channel.Changes
import XpensGo.Channel.Jobs

/-!
# The channel as a transition system

All interleavings of webhook deliveries, web requests, dispatchers, operators
and queue jobs.  Clock readings, generated identifiers, answers of Telegram and
of the queue, and the fate of every call are carried by the actions.
-/

namespace XpensGo

open EcmaScript Postgres Relational Transition ChannelDatabase

/-- How a call ends for its caller: with an answer, before its transaction ran,
or after it without an answer. -/
inductive CallFate where
  | answered
  | refused
  | lost
  deriving DecidableEq, Repr

/-- What the caller sees of a transaction and what it committed. -/
structure Settlement (α : Type) where
  seen : Option α
  committed : Option α
  database : ChannelDatabase

/-- A call ends with its own answer, or as an unavailable store. -/
def settle {ε α : Type} (fate : CallFate)
    (transaction : ChannelDatabase → Except ε (α × ChannelDatabase))
    (db : ChannelDatabase) : Settlement α :=
  match fate with
  | .refused =>
      { seen := none
        committed := none
        database := db }
  | .answered =>
      match withTransaction transaction db with
      | (.ok outcome, committed) =>
          { seen := some outcome
            committed := some outcome
            database := committed }
      | (.error _, unchanged) =>
          { seen := none
            committed := none
            database := unchanged }
  | .lost =>
      match withTransaction transaction db with
      | (.ok outcome, committed) =>
          { seen := none
            committed := some outcome
            database := committed }
      | (.error _, unchanged) =>
          { seen := none
            committed := none
            database := unchanged }

/-- Either nothing happened, or the transaction committed and the caller saw
its outcome or nothing. -/
theorem settle_cases {ε α : Type} (fate : CallFate)
    (transaction : ChannelDatabase → Except ε (α × ChannelDatabase))
    (db : ChannelDatabase) :
    settle fate transaction db =
        { seen := none
          committed := none
          database := db } ∨
      ∃ outcome database seen, transaction db = .ok (outcome, database) ∧
        (seen = none ∨ seen = some outcome) ∧
          settle fate transaction db =
            { seen := seen
              committed := some outcome
              database := database } := by
  rcases withTransaction_cases transaction db with
    ⟨failure, _, rolledBack⟩ | ⟨outcome, database, ran, committed⟩
  · left
    cases fate with
    | refused => rfl
    | answered | lost => simp [settle, rolledBack]
  · cases fate with
    | refused => exact .inl rfl
    | answered =>
        exact .inr ⟨outcome, database, some outcome, ran, .inr rfl,
          by simp [settle, committed]⟩
    | lost =>
        exact .inr ⟨outcome, database, none, ran, .inl rfl,
          by simp [settle, committed]⟩

/-- A call that is not refused commits what its transaction commits. -/
theorem settle_database {ε α : Type} {fate : CallFate}
    {transaction : ChannelDatabase → Except ε (α × ChannelDatabase)}
    {db database : ChannelDatabase} {outcome : α}
    (permitted : fate ≠ .refused)
    (ran : transaction db = .ok (outcome, database)) :
    (settle fate transaction db).database = database := by
  cases fate with
  | refused => exact (permitted rfl).elim
  | answered | lost => simp [settle, withTransaction, ran]

/-- The tables, the queue, all calls under way, and what was sent. -/
structure ChannelState where
  database : ChannelDatabase
  queue : List OutboxQueueJob := []
  publications : Table OutboxClaimId OutboxPublication := .empty
  recoveryCalls : Table RecoveryCallId RecoveryCall := .empty
  jobs : Table JobId OutboxJob := .empty
  sent : List TelegramSend := []

/-- One step of a queue job. -/
inductive JobAction where
  | claimEvent (fate : CallFate) (clock : DatabaseClock) (workerNow : Int)
      (claimId : TelegramProcessingClaimId)
  | resolveActor (fate : CallFate)
  | consumeLink (fate : CallFate) (now : EpochMillis)
      (generated : ChannelIdentityId)
  | consumeUnlink (fate : CallFate) (now : EpochMillis)
  | enforceLimit (fate : CallFate) (clock : DatabaseClock)
  | completeEvent (fate : CallFate) (clock : DatabaseClock)
      (ids : CompletionIds)
  | releaseEvent (fate : CallFate)
  | providerUnavailable
  | claimReply (fate : CallFate) (clock : DatabaseClock) (workerNow : Int)
      (attemptId : ChannelDeliveryAttemptId)
  | send (outcome : TelegramProviderAttemptOutcome)
  | completeAttempt (fate : CallFate) (clock : DatabaseClock)
  | recordConsumption (fate : CallFate) (clock : DatabaseClock)
  | crash

/-- The steps of the channel. -/
inductive ChannelAction where
  | createLink (fate : CallFate) (actor : WebActorContext)
      (tokenDigest : ChannelLinkChallengeDigest) (now : EpochMillis)
  | createUnlink (fate : CallFate) (actor : WebActorContext)
      (channelIdentityId : ChannelIdentityId)
      (tokenDigest : ChannelLinkChallengeDigest) (now : EpochMillis)
  | receive (fate : CallFate) (clock : DatabaseClock)
      (inboundEventId : InboundEventId) (outboxMessageId : OutboxMessageId)
      (correlationId : CorrelationId) (event : PersistedTelegramEventV1)
  | dispatch (fate : CallFate) (clock : DatabaseClock)
      (generated : OutboxMessageId → OutboxClaimId)
  | publish (claimId : OutboxClaimId) (outcome : QueueOutcome)
  | reportPublication (claimId : OutboxClaimId) (fate : CallFate)
      (clock : DatabaseClock)
  | recoverPublication (fate : CallFate) (clock : DatabaseClock)
      (outboxMessageId : OutboxMessageId)
  | recoverDelivery (call : RecoveryCallId) (fate : CallFate)
      (input : RecoverTelegramDeliveryInput)
  | publishRecovery (call : RecoveryCallId) (outcome : QueueOutcome)
  | markRecovery (call : RecoveryCallId) (fate : CallFate)
      (clock : DatabaseClock)
  | deliver (job : JobId) (message : OutboxQueueJob)
  | drop (message : OutboxQueueJob)
  | job (job : JobId) (action : JobAction)

namespace ChannelState

/-- Run a transaction for a caller that no later step depends on. -/
def execute {ε α : Type} (state : ChannelState) (fate : CallFate)
    (transaction : ChannelDatabase → Except ε (α × ChannelDatabase)) :
    ChannelState :=
  { state with database := (settle fate transaction state.database).database }

/-- A job moves to a phase, and its trace grows. -/
def setJob (state : ChannelState) (job : JobId) (phase : JobPhase)
    (records : List ProcessingRecord) : ChannelState :=
  { state with
    jobs := state.jobs.modify job (fun current =>
      { current with
        phase := phase
        trace := current.trace ++ records }) }

/-- Run a transaction for a job and move the job to its next phase. -/
def call {ε α : Type} (state : ChannelState) (job : JobId) (fate : CallFate)
    (transaction : ChannelDatabase → Except ε (α × ChannelDatabase))
    (records : α → List ProcessingRecord) (next : Option α → JobPhase) :
    ChannelState :=
  let settlement := settle fate transaction state.database
  { state with database := settlement.database }.setJob job
    (next settlement.seen) (settlement.committed.elim [] records)

/-- The queue after a request to publish a job. -/
def enqueue (state : ChannelState) (message : OutboxQueueJob)
    (outcome : QueueOutcome) : ChannelState :=
  if outcome.delivers then
    { state with queue := state.queue ++ [message] }
  else
    state

/-- A call of an operator moves to a phase. -/
def setRecovery (state : ChannelState) (call : RecoveryCallId)
    (phase : RecoveryPhase) : ChannelState :=
  { state with
    recoveryCalls := state.recoveryCalls.modify call (fun current =>
      { current with phase := phase }) }

/-- The send of a claimed reply is recorded. -/
def recordSend (state : ChannelState) (claim : TelegramReplyClaimed)
    (outcome : TelegramProviderAttemptOutcome) : ChannelState :=
  { state with sent := state.sent ++ [⟨claim, outcome⟩] }

/-- What a claim adds to the trace of its job. -/
def eventClaimRecords : ClaimTelegramEventOutcome → List ProcessingRecord
  | .claimed claim => [.claimed claim]
  | .duplicate | .notFound | .rateLimited | .deferred _ => []

/-- Resolution only reads. -/
def resolveActor (claim : TelegramEventClaimed)
    (correlationId : CorrelationId) (db : ChannelDatabase) :
    Except IdentityStoreFailure
      (Option ChannelActorContext × ChannelDatabase) :=
  .ok (db.identity.resolveTelegramActor claim.event.externalAccountId
    correlationId, db)

/-- The step of a job in a phase that enables it. -/
def nextJob (state : ChannelState) (job : JobId) (current : OutboxJob) :
    JobAction → Option ChannelState
  | .claimEvent fate clock workerNow claimId =>
      match current.phase with
      | .claimingEvent =>
          some (state.call job fate
            (claimTelegramEvent clock workerNow claimId
              defaultTelegramProcessingPolicy current.message.outboxMessageId)
            eventClaimRecords .afterEventClaim)
      | _ => none
  | .resolveActor fate =>
      match current.phase with
      | .processing claim (.resolving purpose) =>
          some (state.call job fate
            (resolveActor claim current.message.correlationId)
            (fun actor => [.resolved actor])
            (.afterIdentityCall claim
              (fun actor => .afterResolution actor purpose)))
      | _ => none
  | .consumeLink fate now generated =>
      match current.phase with
      | .processing claim (.consumingLink tokenDigest) =>
          some (state.call job fate
            (onIdentity (IdentityDatabase.consumeTelegramLinkChallenge
              generated (consumeChallengeInput claim
                current.message.correlationId now tokenDigest)))
            (fun outcome => [.linkPresented outcome])
            (.afterIdentityCall claim .afterLink))
      | _ => none
  | .consumeUnlink fate now =>
      match current.phase with
      | .processing claim (.consumingUnlink tokenDigest priorActor) =>
          some (state.call job fate
            (onIdentity (IdentityDatabase.consumeTelegramUnlinkChallenge
              (consumeChallengeInput claim current.message.correlationId now
                tokenDigest)))
            (fun outcome => [.unlinkPresented outcome])
            (.afterIdentityCall claim (.afterUnlink priorActor)))
      | _ => none
  | .enforceLimit fate clock =>
      match current.phase with
      | .processing claim (.enforcing actor next) =>
          some (state.call job fate
            (enforceTelegramUserLimit clock
              (enforceUserLimitInput claim actor))
            (fun _ => []) (.afterUserLimit claim actor next))
      | _ => none
  | .completeEvent fate clock ids =>
      match current.phase with
      | .processing claim (.completing completion) =>
          some (state.call job fate
            (completeTelegramEvent clock ids (completeEventInput claim
              current.message.correlationId completion))
            (fun _ => [.completed completion]) .afterCompletion)
      | _ => none
  | .releaseEvent fate =>
      match current.phase with
      | .processing claim .releasing =>
          some (state.call job fate
            (releaseTelegramEvent (releaseEventInput claim))
            (fun _ => []) (fun _ => .ended))
      | _ => none
  | .providerUnavailable =>
      match current.phase with
      | .claimingReply => some (state.setJob job .ended [])
      | _ => none
  | .claimReply fate clock workerNow attemptId =>
      match current.phase with
      | .claimingReply =>
          some (state.call job fate
            (claimTelegramReply clock workerNow defaultTelegramDeliveryPolicy
              attemptId current.message.outboxMessageId)
            (fun _ => []) .afterReplyClaim)
      | _ => none
  | .send outcome =>
      match current.phase with
      | .sending claim =>
          some ((state.recordSend claim outcome).setJob job
            (.completingAttempt claim outcome) [])
      | _ => none
  | .completeAttempt fate clock =>
      match current.phase with
      | .completingAttempt claim outcome =>
          some (state.call job fate
            (completeTelegramReplyAttempt clock
              (completeAttemptInput claim outcome))
            (fun _ => []) (.afterAttempt outcome))
      | _ => none
  | .recordConsumption fate clock =>
      match current.phase with
      | .consuming =>
          some (state.call job fate
            (recordOutboxConsumption clock current.message.outboxMessageId)
            (fun _ => []) (fun _ => .ended))
      | _ => none
  | .crash => some (state.setJob job .ended [])

/-- A step of the channel. -/
def next (state : ChannelState) : ChannelAction → Option ChannelState
  | .createLink fate actor tokenDigest now =>
      some (state.execute fate
        (onIdentity (IdentityDatabase.createTelegramLinkChallenge
          (challengeInput actor tokenDigest now))))
  | .createUnlink fate actor channelIdentityId tokenDigest now =>
      some (state.execute fate
        (onIdentity (IdentityDatabase.createTelegramUnlinkChallenge
          (unlinkChallengeInput actor channelIdentityId tokenDigest now))))
  | .receive fate clock inboundEventId outboxMessageId correlationId event =>
      some (state.execute fate
        (persistTelegramEvent clock inboundEventId outboxMessageId
          (persistTelegramEventInput correlationId event)))
  | .dispatch fate clock generated =>
      let settlement := settle fate
        (claimPendingOutbox clock dispatchClaimInput generated) state.database
      some { state with
        database := settlement.database
        publications := state.publications.insertAllMissing
          ((settlement.seen.getD []).map (fun message =>
            (message.claimId, { message := message }))) }
  | .publish claimId outcome =>
      match state.publications.find? claimId with
      | some ⟨message, none, _⟩ =>
          some (({ state with
            publications := state.publications.modify claimId
              (fun publication =>
                { publication with outcome := some outcome }) }).enqueue
                  message.job outcome)
      | _ => none
  | .reportPublication claimId fate clock =>
      match state.publications.find? claimId with
      | some ⟨message, some outcome, false⟩ =>
          some ({ state with
            publications := state.publications.modify claimId
              (fun publication =>
                { publication with reported := true }) }.execute fate
                  (message.report clock outcome))
      | _ => none
  | .recoverPublication fate clock outboxMessageId =>
      some (state.execute fate
        (recoverFailedOutboxPublication clock outboxMessageId))
  | .recoverDelivery call fate input =>
      if (state.recoveryCalls.find? call).isSome then
        none
      else
        let settlement := settle fate
          (prepareTelegramDeliveryRecovery
            defaultTelegramDeliveryPolicy.maximumAttempts input)
          state.database
        some { state with
          database := settlement.database
          recoveryCalls := state.recoveryCalls.insertMissing call
            { recoveryId := input.recoveryId
              phase := .afterPreparation settlement.seen } }
  | .publishRecovery call outcome =>
      match state.recoveryCalls.find? call with
      | some ⟨_, .publishing message⟩ =>
          some ((state.setRecovery call (.afterPublication outcome)).enqueue
            message outcome)
      | _ => none
  | .markRecovery call fate clock =>
      match state.recoveryCalls.find? call with
      | some ⟨recoveryId, .marking⟩ =>
          some ((state.setRecovery call .ended).execute fate
            (markTelegramDeliveryRecoveryPublished clock recoveryId))
      | _ => none
  | .deliver job message =>
      if message ∈ state.queue ∧ state.jobs.find? job = none then
        some { state with
          jobs := state.jobs.insertMissing job { message := message } }
      else
        none
  | .drop message => some { state with queue := state.queue.erase message }
  | .job job action =>
      match state.jobs.find? job with
      | some current => state.nextJob job current action
      | none => none

/-- Any users and ledgers, and no links, events and work yet. -/
def Initial (state : ChannelState) : Prop :=
  ∃ users ledgers, state = { database :=
    { identity :=
        { users := users
          ledgers := ledgers } } }

end ChannelState

/-- The channel, from tables without events. -/
def channelSystem : System ChannelState ChannelAction :=
  { Initial := ChannelState.Initial
    next := ChannelState.next }

section Samples

/-- A clock of the database, by its milliseconds. -/
def channelClock (milliseconds : Int) : DatabaseClock :=
  { currentTimestamp := Timestamp.ofMillis milliseconds
    currentDate :=
      { year := 2026
        month := 3
        day := 5 } }

def sampleTelegramEvent (externalAccountId : TelegramExternalAccountId)
    (updateId : String) (content : PersistedTelegramContent) :
    PersistedTelegramEventV1 :=
  { updateId := ⟨updateId⟩
    externalAccountId := externalAccountId
    externalConversationId := ⟨"7001"⟩
    externalMessageId := ⟨"1"⟩
    occurredAtMillis := 4000000
    content := content }

/-- One user who has created two challenges. -/
def sampleChannelStart : ChannelState :=
  { database := { identity := sampleIdentityStart.database } }

theorem sampleChannelStart_initial :
    channelSystem.Initial sampleChannelStart :=
  ⟨_, _, rfl⟩

/-- The pending message is published. -/
def publishPending (outboxMessageId : OutboxMessageId) (milliseconds : Nat) :
    List ChannelAction :=
  [.dispatch .answered (channelClock milliseconds) (fun other => other),
    .publish outboxMessageId .accepted,
    .reportPublication outboxMessageId .answered (channelClock milliseconds)]

/-- The job with the given number takes up a published message. -/
def takeUp (job : JobId) (outboxMessageId : OutboxMessageId)
    (milliseconds : Nat) : List ChannelAction :=
  let message : OutboxQueueJob :=
    { outboxMessageId := outboxMessageId
      correlationId := ⟨9⟩ }
  [.deliver job message,
    .drop message,
    .job job (.claimEvent .answered (channelClock milliseconds) milliseconds
      ⟨milliseconds⟩)]

/-- The event with the given number arrives and is claimed by its job. -/
def arrive (externalAccountId : TelegramExternalAccountId) (number : Nat)
    (milliseconds : Nat) (content : PersistedTelegramContent) :
    List ChannelAction :=
  .receive .answered (channelClock milliseconds) ⟨100 + number⟩
      ⟨200 + number⟩ ⟨9⟩
      (sampleTelegramEvent externalAccountId (toString number) content) ::
    (publishPending ⟨200 + number⟩ milliseconds ++
      takeUp number ⟨200 + number⟩ milliseconds)

/-- The rows of a completion for the event with the given number. -/
def sampleIds (number : Nat) : CompletionIds :=
  { command := ⟨300 + number⟩
    message := ⟨400 + number⟩
    outbox := ⟨500 + number⟩ }

/-- The job with the given number completes its event, and the reply is
published. -/
def answer (number : Nat) (milliseconds : Nat) : List ChannelAction :=
  [.job number (.completeEvent .answered (channelClock milliseconds)
      (sampleIds number)),
    .job number (.recordConsumption .answered (channelClock milliseconds))] ++
  publishPending ⟨500 + number⟩ milliseconds

/-- A message of an account that is not linked is answered. -/
def answeredRun : List ChannelAction :=
  arrive sampleAccount 1 5000000 (.text (JsString.ofString "lunch 250")) ++
    [.job 1 (.resolveActor .answered)] ++ answer 1 5000100

/-- Telegram answers the first attempt to deliver the reply. -/
def deliveredRun (outcome : TelegramProviderAttemptOutcome) :
    List ChannelAction :=
  answeredRun ++ takeUp 2 ⟨501⟩ 5001000 ++
    [.job 2 (.claimReply .answered (channelClock 5001000) 5001000 ⟨601⟩),
      .job 2 (.send outcome),
      .job 2 (.completeAttempt .answered (channelClock 5001100)),
      .job 2 (.recordConsumption .answered (channelClock 5001200))]

end Samples

end XpensGo
