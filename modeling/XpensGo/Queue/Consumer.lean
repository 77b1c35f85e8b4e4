import XpensGo.Concurrency.Records
import XpensGo.Model.Execution
import XpensGo.Queue.Envelope

/-!
# The queue consumer

`runQueue` decodes the messages of a batch and handles them in three groups, by
the kinds of their jobs.  Each group has a layer of its own, and the messages of
a group are handled at most five at a time.  Every message is acknowledged or
retried by its own handler.
-/

namespace XpensGo

open EcmaScript Transition Concurrency

section Messages

/-- `_tag` of a `Cause`. -/
inductive CauseTag where
  | empty
  | fail
  | die
  | interrupt
  | sequential
  | parallel
  deriving DecidableEq, Repr

structure QueueMessage where
  id : JsString
  attempts : Nat
  body : JsValue

structure MessageBatch where
  queue : JsString
  messages : List QueueMessage

inductive QueueSettlement where
  | ack
  | retry (delaySeconds : Int)
  deriving DecidableEq, Repr

/-- A line that the consumer logs.  No line holds a body. -/
inductive QueueLog where
  | invalidPlatformQueueJob (messageId queue : JsString)
  | queueJobDeferred (event errorTag : String) (messageId queue : JsString)
      (attempts : Nat)
  | modelOperationQueueJobRejected (errorTag : String)
      (messageId queue : JsString)
  | terminalDefect (event : String) (messageId queue : JsString)
      (attempts : Nat) (causeTag : CauseTag)
  deriving DecidableEq

/-- What a handler does with its message. -/
structure QueueVerdict where
  settlement : QueueSettlement
  log : Option QueueLog := none
  deriving DecidableEq

def queueRetryDelaySeconds (attempts : Nat) : Nat :=
  min (30 * 2 ^ min (attempts - 1) 4) 300

end Messages

section Exits

/-- How `processPlatformStatusJob` ends. -/
inductive PlatformStatusExit where
  | processed
  | caused (causeTag : CauseTag)
  deriving DecidableEq, Repr

/-- The errors of an outbox job that its handler names. -/
inductive OutboxJobError where
  | outboxPersistenceUnavailable
  | telegramDeliveryPersistenceUnavailable
  | telegramEventProcessingDeferred (retryAfterSeconds : Int)
  | telegramEventProcessingPersistenceUnavailable
  | telegramIdentityResolutionUnavailable
  | telegramReplyDeliveryDeferred (retryAfterSeconds : Int)
  deriving DecidableEq, Repr

def OutboxJobError.tag : OutboxJobError → String
  | .outboxPersistenceUnavailable => "OutboxPersistenceUnavailable"
  | .telegramDeliveryPersistenceUnavailable =>
      "TelegramDeliveryPersistenceUnavailable"
  | .telegramEventProcessingDeferred _ => "TelegramEventProcessingDeferred"
  | .telegramEventProcessingPersistenceUnavailable =>
      "TelegramEventProcessingPersistenceUnavailable"
  | .telegramIdentityResolutionUnavailable =>
      "TelegramIdentityResolutionUnavailable"
  | .telegramReplyDeliveryDeferred _ => "TelegramReplyDeliveryDeferred"

def OutboxJobError.retryAfterSeconds : OutboxJobError → Option Int
  | .telegramEventProcessingDeferred retryAfterSeconds
  | .telegramReplyDeliveryDeferred retryAfterSeconds => some retryAfterSeconds
  | .outboxPersistenceUnavailable | .telegramDeliveryPersistenceUnavailable
  | .telegramEventProcessingPersistenceUnavailable
  | .telegramIdentityResolutionUnavailable => none

/-- How `processOutboxJob` ends. -/
inductive OutboxExit where
  | consumed
  | failed (error : OutboxJobError)
  | caused (causeTag : CauseTag)
  deriving DecidableEq, Repr

/-- How `processModelOperationJob` ends. -/
inductive ModelOperationExit where
  | ended (outcome : ExecutePreparedModelOperationOutcome)
  | budgetExceeded
  | notFound
  | persistenceUnavailable
  | caused (causeTag : CauseTag)

/-- How the job of a message ends, whichever kind it is of. -/
structure QueueJobExits where
  platformStatus : PlatformStatusExit := .processed
  outbox : OutboxExit := .consumed
  modelOperation : ModelOperationExit

end Exits

section Handlers

namespace QueueMessage

variable (message : QueueMessage) (queue : JsString)

def deferred (event errorTag : String) : QueueLog :=
  .queueJobDeferred event errorTag message.id queue message.attempts

def terminalDefect (event : String) (causeTag : CauseTag) : QueueVerdict :=
  { settlement := .ack
    log := some (.terminalDefect event message.id queue message.attempts
      causeTag) }

/-- The verdict on a body that is no job. -/
def invalid : QueueVerdict :=
  { settlement := .ack
    log := some (.invalidPlatformQueueJob message.id queue) }

def backoff (event errorTag : String) : QueueVerdict :=
  { settlement := .retry (queueRetryDelaySeconds message.attempts)
    log := some (message.deferred queue event errorTag) }

def processPlatformStatusMessageAtBoundary :
    PlatformStatusExit → QueueVerdict
  | .processed => { settlement := .ack }
  | .caused causeTag =>
      message.terminalDefect queue "TerminalQueueMessageDefect" causeTag

def processOutboxMessageAtBoundary : OutboxExit → QueueVerdict
  | .consumed => { settlement := .ack }
  | .failed error =>
      { settlement := .retry (error.retryAfterSeconds.getD
          (queueRetryDelaySeconds message.attempts))
        log := some
          (message.deferred queue "OutboxQueueJobDeferred" error.tag) }
  | .caused causeTag =>
      message.terminalDefect queue "TerminalQueueMessageDefect" causeTag

/-- `defer` of a model operation that names its delay. -/
def deferModelOperation (errorTag : String) (retryAfterMilliseconds : Int) :
    QueueVerdict :=
  { settlement := .retry (max 1 ⌈(retryAfterMilliseconds : Rat) / 1000⌉)
    log := some
      (message.deferred queue "ModelOperationQueueJobDeferred" errorTag) }

def processModelOperationMessageAtBoundary :
    ModelOperationExit → QueueVerdict
  | .ended (.deferred retryAfterMilliseconds) =>
      message.deferModelOperation queue "Deferred" retryAfterMilliseconds
  | .ended (.retryScheduled retryAfterMilliseconds) =>
      message.deferModelOperation queue "RetryScheduled"
        retryAfterMilliseconds
  | .ended (.succeeded _) | .ended (.failed _)
  | .ended (.alreadyCompleted _) | .budgetExceeded => { settlement := .ack }
  | .notFound =>
      { settlement := .ack
        log := some (.modelOperationQueueJobRejected
          "ModelOperationNotFound" message.id queue) }
  | .persistenceUnavailable =>
      message.backoff queue "ModelOperationQueueJobDeferred"
        "ModelOperationPersistenceUnavailable"
  | .caused causeTag =>
      message.terminalDefect queue "TerminalModelOperationDefect" causeTag

/-- The verdict of the handler of a job. -/
def handle (exits : QueueJobExits) : PlatformQueueJob → QueueVerdict
  | .platformStatus _ =>
      message.processPlatformStatusMessageAtBoundary queue
        exits.platformStatus
  | .outbox _ => message.processOutboxMessageAtBoundary queue exits.outbox
  | .modelOperation _ =>
      message.processModelOperationMessageAtBoundary queue
        exits.modelOperation

end QueueMessage

end Handlers

section Groups

inductive QueueGroup where
  | platformStatus
  | outbox
  | modelOperation
  deriving DecidableEq, Repr

def PlatformQueueJob.group : PlatformQueueJob → QueueGroup
  | .platformStatus _ => .platformStatus
  | .outbox _ => .outbox
  | .modelOperation _ => .modelOperation

/-- The groups in the order in which they are handled. -/
def queueGroups : List QueueGroup :=
  [.platformStatus, .outbox, .modelOperation]

/-- The typed errors of the layers. -/
inductive QueueLayerError where
  | invalidRuntimeConfig
  | outboxPersistenceUnavailable
  | invalidModelGatewayConfig
  | modelOperationPersistenceUnavailable
  deriving DecidableEq, Repr

def QueueLayerError.tag : QueueLayerError → String
  | .invalidRuntimeConfig => "InvalidRuntimeConfig"
  | .outboxPersistenceUnavailable => "OutboxPersistenceUnavailable"
  | .invalidModelGatewayConfig => "InvalidModelGatewayConfig"
  | .modelOperationPersistenceUnavailable =>
      "ModelOperationPersistenceUnavailable"

inductive QueueLayerOutcome where
  /-- Its release, once the group is done, may die. -/
  | built (releaseDies : Option CauseTag)
  | failed (error : QueueLayerError)
  | died (causeTag : CauseTag)
  deriving DecidableEq, Repr

namespace QueueGroup

/-- The errors of its layer that a group catches. -/
def catches : QueueGroup → QueueLayerError → Bool
  | .platformStatus, .invalidRuntimeConfig
  | .outbox, .outboxPersistenceUnavailable
  | .modelOperation, .invalidModelGatewayConfig
  | .modelOperation, .modelOperationPersistenceUnavailable => true
  | _, _ => false

def deferralEvent : QueueGroup → String
  | .platformStatus => "PlatformStatusQueueJobDeferred"
  | .outbox => "OutboxQueueJobDeferred"
  | .modelOperation => "ModelOperationQueueJobDeferred"

end QueueGroup

end Groups

section Batches

abbrev QueueRecords := List (Nat × QueueVerdict)

abbrev DecodeState :=
  LoopState Nat Unit (Option PlatformQueueJob) QueueRecords

abbrev HandleState := LoopState Nat Unit Unit QueueRecords

/-- Where `runQueue` stands: the calls that it has made so far are those of its
records, by the positions of their messages in the batch. -/
inductive ConsumerState where
  | decoding (loop : DecodeState)
  | entering (group : QueueGroup) (rest : List QueueGroup)
      (decoded : List (Option PlatformQueueJob)) (records : QueueRecords)
  | handling (group : QueueGroup) (rest : List QueueGroup)
      (decoded : List (Option PlatformQueueJob)) (loop : HandleState)
  | finished (records : QueueRecords)
  | acknowledgedAll (causeTag : CauseTag) (records : QueueRecords)

inductive ConsumerAction where
  | start
  | step (position : Nat)
  | proceed
  deriving DecidableEq, Repr

def ConsumerState.records : ConsumerState → QueueRecords
  | .decoding loop => loop.store
  | .handling _ _ _ loop => loop.store
  | .entering _ _ _ records | .finished records
  | .acknowledgedAll _ records => records

/-- The messages of a group. -/
def QueueGroup.positions (group : QueueGroup)
    (decoded : List (Option PlatformQueueJob)) : List Nat :=
  (List.range decoded.length).filter (fun position =>
    decoded[position]?.join.map PlatformQueueJob.group = some group)

def ConsumerAction.loopAction : ConsumerAction → Option
    (LoopAction Nat Unit Empty)
  | .start => some .start
  | .step position => some (.step position ())
  | .proceed => none

variable (batch : MessageBatch) (layers : QueueGroup → QueueLayerOutcome)
  (exits : Nat → QueueJobExits)

namespace MessageBatch

/-- The job of a message. -/
def job (position : Nat) : Option PlatformQueueJob :=
  batch.messages[position]?.bind (fun message =>
    decodeQueueMessage message.body)

def positions : List Nat := List.range batch.messages.length

/-- `decodeQueueMessageAtBoundary`: the call for a message that is refused. -/
def refusal (position : Nat) : List QueueVerdict :=
  match batch.messages[position]?, batch.job position with
  | some message, none => [message.invalid batch.queue]
  | _, _ => []

/-- The call of the handler of a decoded message. -/
def handled (decoded : List (Option PlatformQueueJob)) (position : Nat) :
    List QueueVerdict :=
  match batch.messages[position]?, decoded[position]?.join with
  | some message, some job => [message.handle batch.queue (exits position) job]
  | _, _ => []

/-- `retryQueueMessagesAfterLayerFailure`. -/
def retried (group : QueueGroup) (error : QueueLayerError)
    (positions : List Nat) : QueueRecords :=
  positions.filterMap (fun position =>
    (batch.messages[position]?.map (fun message =>
      message.backoff batch.queue group.deferralEvent error.tag)).map
        (fun verdict => (position, verdict)))

def decodeLoop : ForEach Nat Unit (Option PlatformQueueJob) QueueRecords Unit
    Empty :=
  .recording batch.positions 5 batch.refusal batch.job

def handleLoop (group : QueueGroup)
    (decoded : List (Option PlatformQueueJob)) :
    ForEach Nat Unit Unit QueueRecords Unit Empty :=
  .recording (group.positions decoded) 5 (batch.handled exits decoded)
    (fun _ => ())

end MessageBatch

/-- The next group that has messages. -/
def ConsumerState.enter (decoded : List (Option PlatformQueueJob))
    (records : QueueRecords) : List QueueGroup → ConsumerState
  | [] => .finished records
  | group :: rest =>
      if (group.positions decoded).isEmpty then
        enter decoded records rest
      else
        .entering group rest decoded records

/-- What a group does once its layer is built or has failed. -/
def ConsumerState.layered (group : QueueGroup) (rest : List QueueGroup)
    (decoded : List (Option PlatformQueueJob)) (records : QueueRecords) :
    ConsumerState :=
  match layers group with
  | .built _ => .handling group rest decoded (ForEach.initial records)
  | .failed error =>
      if group.catches error then
        .enter decoded (records ++
          batch.retried group error (group.positions decoded)) rest
      else
        .acknowledgedAll .fail records
  | .died causeTag => .acknowledgedAll causeTag records

/-- The layer of a group that is done is released. -/
def ConsumerState.released (group : QueueGroup) (rest : List QueueGroup)
    (decoded : List (Option PlatformQueueJob)) (records : QueueRecords) :
    ConsumerState :=
  match layers group with
  | .built (some causeTag) => .acknowledgedAll causeTag records
  | .built none | .failed _ | .died _ => .enter decoded records rest

/-- `runQueue`. -/
def ConsumerState.next (state : ConsumerState) (action : ConsumerAction) :
    Option ConsumerState :=
  match state with
  | .decoding loop =>
      match action.loopAction with
      | some action =>
          (batch.decodeLoop.next loop action).map .decoding
      | none =>
          if batch.decodeLoop.Ended loop then
            (batch.decodeLoop.results loop).map (fun decoded =>
              .enter decoded loop.store queueGroups)
          else
            none
  | .entering group rest decoded records =>
      match action.loopAction with
      | some _ => none
      | none => some (.layered batch layers group rest decoded records)
  | .handling group rest decoded loop =>
      match action.loopAction with
      | some action =>
          ((batch.handleLoop exits group decoded).next loop action).map
            (.handling group rest decoded)
      | none =>
          if (batch.handleLoop exits group decoded).Ended loop then
            some (.released layers group rest decoded loop.store)
          else
            none
  | .finished _ | .acknowledgedAll _ _ => none

/-- The consumer of a batch, for any layers and any ends of its jobs. -/
def consumerSystem : System ConsumerState ConsumerAction :=
  { Initial := fun state => state = .decoding (ForEach.initial [])
    next := ConsumerState.next batch layers exits }

end Batches

end XpensGo
