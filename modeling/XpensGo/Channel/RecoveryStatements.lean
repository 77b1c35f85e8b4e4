import XpensGo.Channel.DeliveryStoreCases
import XpensGo.Postgres.ReadCommitted

/-!
# The statements of a delivery recovery

`prepare` of the recovery store as a program of single statements: it looks for
a recovery with its identifier before it locks the message, and does not look
again.  The other calls lock a row before they write; what they write depends
on the row as it was when they got the lock.

A call can lose its connection between any two statements, and the answer to
its commit can be lost after the commit was carried out.  Other transactions may
create messages; they change neither an existing message nor a recovery.
-/

namespace XpensGo

open Postgres Relational Transition ChannelDatabase

/-- Rows and keys that one transaction keeps from the others. -/
inductive DeliveryLock where
  | message (outboundMessageId : OutboundChannelMessageId)
  | attempt (attemptId : ChannelDeliveryAttemptId)
  | recovery (recoveryId : TelegramDeliveryRecoveryId)
  deriving DecidableEq, Repr

/-- The change of the tables by a transaction of another kind. -/
structure OtherDeliveryChange where
  write : ChannelDatabase → ChannelDatabase
  messages : ∀ db outboundMessageId row,
    db.messages.find? outboundMessageId = some row →
    (write db).messages.find? outboundMessageId = some row
  recoveries : ∀ db, (write db).recoveries = db.recoveries

/-- The transactions on replies and their attempts. -/
inductive DeliveryTransaction where
  | prepare (input : RecoverTelegramDeliveryInput)
  | markPublished (clock : DatabaseClock)
      (recoveryId : TelegramDeliveryRecoveryId)
  | claim (clock : DatabaseClock) (workerNow : Int)
      (policy : TelegramDeliveryPolicy) (attemptId : ChannelDeliveryAttemptId)
      (outboxMessageId : OutboxMessageId)
  | complete (clock : DatabaseClock)
      (input : CompleteTelegramReplyAttemptInput)
  | other (change : OtherDeliveryChange)

/-- The operation that a call reports when it fails. -/
def DeliveryTransaction.operation : DeliveryTransaction → ChannelOperation
  | .prepare _ => .prepareTelegramDeliveryRecovery
  | .markPublished _ _ => .markTelegramDeliveryRecoveryPublished
  | .claim _ _ _ _ _ => .claimTelegramReply
  | .complete _ _ => .completeTelegramReplyAttempt
  | .other _ => .persistTelegramEvent

/-- What these transactions answer. -/
inductive DeliveryAnswer where
  | prepared (outcome : PrepareTelegramDeliveryRecoveryOutcome)
  | marked (outcome : MarkTelegramDeliveryRecoveryPublishedOutcome)
  | claimed (outcome : ClaimTelegramReplyOutcome)
  | completed
  | written
  | failed (failure : ChannelStoreFailure)
  deriving DecidableEq

/-- Where such a transaction stands. -/
inductive DeliveryPhase where
  | starting
  | lockingMessage
  | resetting (outboxMessageId : OutboxMessageId)
      (correlationId : CorrelationId)
  | recording (outboxMessageId : OutboxMessageId)
      (correlationId : CorrelationId)
  | claiming (outboundMessageId : OutboundChannelMessageId)
      (row : OutboundMessageRow)
  | completing
  | marking
  | committing (answer : DeliveryAnswer)
  | failing (failure : ChannelStoreFailure)

abbrev DeliveryInstruction :=
  Instruction ChannelDatabase DeliveryLock DeliveryPhase DeliveryAnswer

/-- The phase after the last statement of a transaction. -/
def DeliveryPhase.after {α : Type} (answer : α → DeliveryAnswer) :
    Except ChannelStoreFailure (α × ChannelDatabase) → DeliveryPhase
  | .ok (outcome, _) => .committing (answer outcome)
  | .error failure => .failing failure

section Prepare

variable (maximumAttempts : Nat) (input : RecoverTelegramDeliveryInput)

/-- The answer to an identifier that has been used. -/
def resumeRecovery (existing : DeliveryRecoveryRow) :
    PrepareTelegramDeliveryRecoveryOutcome :=
  if existing.outboundMessageId ≠ input.outboundMessageId ∨
      existing.expectedErrorCode ≠ input.expectedErrorCode ∨
        existing.reason ≠ input.reason then
    .notRecoverable .idempotencyConflict
  else
    .prepared
      { publicationStatus := existing.publicationStatus
        outboxMessageId := existing.outboxMessageId
        correlationId := existing.correlationId }

/-- The audit record of a recovery. -/
def newRecovery (outboxMessageId : OutboxMessageId)
    (correlationId : CorrelationId) : DeliveryRecoveryRow :=
  { outboundMessageId := input.outboundMessageId
    outboxMessageId := outboxMessageId
    correlationId := correlationId
    expectedErrorCode := input.expectedErrorCode
    reason := input.reason }

/-- A recovery that exists already is answered at once. -/
def DeliveryPhase.afterLookup :
    Option DeliveryRecoveryRow → DeliveryPhase
  | some existing => .committing (.prepared (resumeRecovery input existing))
  | none => .lockingMessage

/-- The phase after the message was read under its lock. -/
def DeliveryPhase.afterLock :
    Option OutboundMessageRow → Option (OutboxMessageId × OutboxMessageRow) →
      DeliveryPhase
  | some message, some (outboxMessageId, _) =>
      match notRecoverable input maximumAttempts message with
      | some reason => .committing (.prepared (.notRecoverable reason))
      | none => .resetting outboxMessageId message.correlationId
  | _, _ => .committing (.prepared (.notRecoverable .notFound))

/-- The statements of `prepareTelegramDeliveryRecovery`. -/
def recoveryInstruction : DeliveryPhase → DeliveryInstruction
  | .starting =>
      .statement (fun _ => none) id (fun db =>
        .afterLookup input (db.recoveries.find? input.recoveryId))
  | .lockingMessage =>
      .statement
        (fun db =>
          if (db.messages.find? input.outboundMessageId).isSome &&
              (db.replyOutbox input.outboundMessageId).isSome then
            some (.message input.outboundMessageId)
          else
            none)
        id
        (fun db => .afterLock maximumAttempts input
          (db.messages.find? input.outboundMessageId)
          (db.replyOutbox input.outboundMessageId))
  | .resetting outboxMessageId correlationId =>
      .statement (fun _ => none)
        (fun db => (db.updateMessage input.outboundMessageId
          OutboundMessageRow.reopen).getD db)
        (fun db =>
          if (db.updateMessage input.outboundMessageId
              OutboundMessageRow.reopen).isSome then
            .recording outboxMessageId correlationId
          else
            .failing (.persistenceUnavailable
              .prepareTelegramDeliveryRecovery))
  | .recording outboxMessageId correlationId =>
      .statement (fun _ => some (.recovery input.recoveryId))
        (fun db => (db.insertRecovery input.recoveryId
          (newRecovery input outboxMessageId correlationId)).getD db)
        (fun db =>
          if (db.insertRecovery input.recoveryId
              (newRecovery input outboxMessageId correlationId)).isSome then
            .committing (.prepared (.prepared
              { publicationStatus := .prepared
                outboxMessageId := outboxMessageId
                correlationId := correlationId }))
          else
            .failing (.persistenceUnavailable
              .prepareTelegramDeliveryRecovery))
  | .committing answer => .commit answer
  | .failing failure => .rollback (.failed failure)
  | .claiming _ _ | .completing | .marking =>
      .rollback (.failed (.persistenceUnavailable
        .prepareTelegramDeliveryRecovery))

end Prepare

section Claim

variable (clock : DatabaseClock) (workerNow : Int)
  (policy : TelegramDeliveryPolicy) (attemptId : ChannelDeliveryAttemptId)

/-- What a claim does with the row that it has locked. -/
def claimSelected (outboundMessageId : OutboundChannelMessageId)
    (row : OutboundMessageRow) (db : ChannelDatabase) :
    Except ChannelStoreFailure
      (ClaimTelegramReplyOutcome × ChannelDatabase) :=
  match row.status with
  | .providerAccepted | .terminalFailure | .outcomeUnknown =>
      pure (.terminal, db)
  | .delivering =>
      match row.deliveryClaimedUntil.filter (fun claimedUntil =>
        workerNow < claimedUntil.getTime) with
      | some claimedUntil =>
          pure (.deferred (secondsToWait (claimedUntil.getTime - workerNow)),
            db)
      | none => db.expireReply clock outboundMessageId row
  | .pending =>
      db.claimPendingReply clock policy attemptId outboundMessageId row

/-- A request without a reply is not found. -/
def DeliveryPhase.afterSelect :
    Option (OutboundChannelMessageId × OutboundMessageRow) → DeliveryPhase
  | some (outboundMessageId, row) => .claiming outboundMessageId row
  | none => .committing (.claimed .notFound)

/-- The statements of `claimTelegramReply`. -/
def claimInstruction (outboxMessageId : OutboxMessageId) :
    DeliveryPhase → DeliveryInstruction
  | .starting =>
      .statement
        (fun db => (db.requestedReply outboxMessageId).map (fun found =>
          .message found.1))
        id
        (fun db => .afterSelect (db.requestedReply outboxMessageId))
  | .claiming outboundMessageId row =>
      .statement
        (fun _ =>
          if row.status = .pending then some (.attempt attemptId) else none)
        (fun db => (withTransaction (claimSelected clock workerNow policy
          attemptId outboundMessageId row) db).2)
        (fun db => .after .claimed (claimSelected clock workerNow policy
          attemptId outboundMessageId row db))
  | .committing answer => .commit answer
  | .failing failure => .rollback (.failed failure)
  | .lockingMessage | .resetting _ _ | .recording _ _ | .completing
  | .marking =>
      .rollback (.failed (.persistenceUnavailable .claimTelegramReply))

end Claim

section Complete

variable (clock : DatabaseClock) (input : CompleteTelegramReplyAttemptInput)

/-- What a completion does once it holds its message. -/
def completeHeld (db : ChannelDatabase) :
    Except ChannelStoreFailure (Unit × ChannelDatabase) := do
  let unavailable : ChannelStoreFailure :=
    .persistenceUnavailable .completeTelegramReplyAttempt
  let ended ← require unavailable
    (db.updateAttempting input.attemptId
      (fun row => row.outboundMessageId = input.outboundMessageId)
      (DeliveryAttemptRow.complete clock input.outcome))
  let completed ← require unavailable
    (ended.updateMessage input.outboundMessageId
      (OutboundMessageRow.complete clock input.outcome))
  pure ((), completed)

/-- The statements of `completeTelegramReplyAttempt`. -/
def completeInstruction : DeliveryPhase → DeliveryInstruction
  | .starting =>
      .statement
        (fun db =>
          if db.replyHeld input.outboundMessageId input.attemptId then
            some (.message input.outboundMessageId)
          else
            none)
        id
        (fun db =>
          if db.replyHeld input.outboundMessageId input.attemptId then
            .completing
          else
            .failing (.persistenceUnavailable .completeTelegramReplyAttempt))
  | .completing =>
      .statement (fun _ => none)
        (fun db => (withTransaction (completeHeld clock input) db).2)
        (fun db => .after (fun _ => .completed) (completeHeld clock input db))
  | .committing answer => .commit answer
  | .failing failure => .rollback (.failed failure)
  | .lockingMessage | .resetting _ _ | .recording _ _ | .claiming _ _
  | .marking =>
      .rollback (.failed (.persistenceUnavailable
        .completeTelegramReplyAttempt))

end Complete

/-- The statements of `markTelegramDeliveryRecoveryPublished`. -/
def markInstruction (clock : DatabaseClock)
    (recoveryId : TelegramDeliveryRecoveryId) :
    DeliveryPhase → DeliveryInstruction
  | .starting =>
      .statement
        (fun db => (db.recoveries.find? recoveryId).map (fun _ =>
          .recovery recoveryId))
        id
        (fun db =>
          if (db.recoveries.find? recoveryId).isSome then
            .marking
          else
            .committing (.marked .notFound))
  | .marking =>
      .statement (fun _ => none)
        (fun db => (withTransaction
          (markTelegramDeliveryRecoveryPublished clock recoveryId) db).2)
        (fun db => .after .marked
          (markTelegramDeliveryRecoveryPublished clock recoveryId db))
  | .committing answer => .commit answer
  | .failing failure => .rollback (.failed failure)
  | .lockingMessage | .resetting _ _ | .recording _ _ | .claiming _ _
  | .completing =>
      .rollback (.failed (.persistenceUnavailable
        .markTelegramDeliveryRecoveryPublished))

/-- The statement that a transaction makes next. -/
def DeliveryTransaction.instruction (maximumAttempts : Nat) :
    DeliveryTransaction → DeliveryPhase → DeliveryInstruction
  | .prepare input => recoveryInstruction maximumAttempts input
  | .markPublished clock recoveryId => markInstruction clock recoveryId
  | .claim clock workerNow policy attemptId outboxMessageId =>
      claimInstruction clock workerNow policy attemptId outboxMessageId
  | .complete clock input => completeInstruction clock input
  | .other change => fun
      | .starting =>
          .statement (fun _ => none) change.write
            (fun _ => .committing .written)
      | .committing answer => .commit answer
      | .failing failure => .rollback (.failed failure)
      | _ => .rollback (.failed (.persistenceUnavailable .persistTelegramEvent))

@[simp] theorem DeliveryTransaction.instruction_committing
    (maximumAttempts : Nat) (transaction : DeliveryTransaction)
    (answer : DeliveryAnswer) :
    transaction.instruction maximumAttempts (.committing answer) =
      .commit answer := by
  cases transaction <;> rfl

@[simp] theorem DeliveryTransaction.instruction_failing
    (maximumAttempts : Nat) (transaction : DeliveryTransaction)
    (failure : ChannelStoreFailure) :
    transaction.instruction maximumAttempts (.failing failure) =
      .rollback (.failed failure) := by
  cases transaction <;> rfl

/-- The transactions on replies, statement by statement. -/
def deliveryProgram (maximumAttempts : Nat) :
    Program ChannelDatabase DeliveryLock DeliveryTransaction DeliveryPhase
      DeliveryAnswer :=
  { start := .starting
    instruction := DeliveryTransaction.instruction maximumAttempts }

abbrev DeliveryCalls :=
  Sessions ChannelDatabase DeliveryLock DeliveryTransaction DeliveryPhase
    DeliveryAnswer

abbrev DeliveryCall :=
  Transaction ChannelDatabase DeliveryLock DeliveryTransaction DeliveryPhase

/-- A message that was returned from a terminal failure, with its row before. -/
structure Reopening where
  outboundMessageId : OutboundChannelMessageId
  row : OutboundMessageRow
  deriving DecidableEq, Repr

/-- The messages that a commit returns from a terminal failure. -/
def reopenings (db db' : ChannelDatabase) : List Reopening :=
  (db.messages.select (fun outboundMessageId row =>
    row.status = .terminalFailure &&
      (db'.messages.find? outboundMessageId).any (fun row' =>
        row'.status = .pending))).map (fun entry =>
          { outboundMessageId := entry.1
            row := entry.2 })

/-- The sessions, and the messages that they have reopened. -/
structure RecoveryState where
  calls : DeliveryCalls
  reopened : List Reopening := []

/-- A step of a session, or the loss of its connection or of its answer. -/
inductive RecoveryAction where
  | call (action : SessionAction DeliveryTransaction)
  | disconnect (session : SessionId)
  | loseAnswer (session : SessionId)

/-- The answer of a call that has lost its connection. -/
def DeliveryTransaction.lost (transaction : DeliveryTransaction) :
    DeliveryAnswer :=
  .failed (.persistenceUnavailable transaction.operation)

/-- A step of the recoveries; what a commit reopens is recorded. -/
def RecoveryState.next (maximumAttempts : Nat) (state : RecoveryState) :
    RecoveryAction → Option RecoveryState
  | .call action =>
      ((deliveryProgram maximumAttempts).next state.calls action).map
        (fun calls =>
          { calls := calls
            reopened := state.reopened ++
              reopenings state.calls.committed calls.committed })
  | .disconnect session =>
      match state.calls.sessions.find? session with
      | some (.running call) =>
          some { state with
            calls := state.calls.setSession session
              (.ended call.parameter.lost) }
      | _ => none
  | .loseAnswer session =>
      match state.calls.sessions.find? session with
      | some (.running call) =>
          match (deliveryProgram maximumAttempts).instruction call.parameter
            call.phase with
          | .commit _ =>
              -- The commit is carried out; the caller sees a failure.
              let committed := call.view state.calls.committed
              some
                { calls := state.calls.commit session committed
                    call.parameter.lost
                  reopened := state.reopened ++
                    reopenings state.calls.committed committed }
          | .statement _ _ _ | .rollback _ => none
      | _ => none

/-- Any number of calls on tables that `initially` admits. -/
def recoverySystem (maximumAttempts : Nat)
    (initially : ChannelDatabase → Prop) :
    System RecoveryState RecoveryAction :=
  { Initial := fun state => ∃ db, initially db ∧ state =
      { calls := { committed := db } }
    next := RecoveryState.next maximumAttempts }

section Alone

variable {maximumAttempts : Nat} {clock : DatabaseClock}
  {start : ChannelDatabase}

/-- The answer of a transaction that ran as a whole, with the tables it left;
it started from the given ones. -/
def deliveryEnding {α : Type} (start : ChannelDatabase)
    (answer : α → DeliveryAnswer) :
    Except ChannelStoreFailure (α × ChannelDatabase) →
    DeliveryAnswer × ChannelDatabase
  | .ok (outcome, committed) => (answer outcome, committed)
  | .error failure => (.failed failure, start)

/-- A preparation that nothing disturbs is the transaction `prepare`. -/
theorem deliveryProgram_runAlone_prepare
    {input : RecoverTelegramDeliveryInput} :
    (deliveryProgram maximumAttempts).runAlone (.prepare input) start 5
        .starting start =
      some (deliveryEnding start .prepared
        (prepareTelegramDeliveryRecovery maximumAttempts input start)) := by
  simp only [Program.runAlone, deliveryProgram,
    DeliveryTransaction.instruction, recoveryInstruction,
    prepareTelegramDeliveryRecovery, id]
  cases start.recoveries.find? input.recoveryId with
  | some existing =>
      simp only [DeliveryPhase.afterLookup, resumeRecovery]
      split <;> rfl
  | none =>
      simp only [DeliveryPhase.afterLookup]
      cases start.messages.find? input.outboundMessageId with
      | none => rfl
      | some message =>
          cases start.replyOutbox input.outboundMessageId with
          | none => rfl
          | some requested =>
              obtain ⟨outboxMessageId, outbox⟩ := requested
              cases refused : notRecoverable input maximumAttempts message with
              | some reason => simp [DeliveryPhase.afterLock, refused,
                  deliveryEnding, pure, Except.pure]
              | none =>
                  simp only [DeliveryPhase.afterLock, refused]
                  cases reopened : start.updateMessage
                      input.outboundMessageId OutboundMessageRow.reopen with
                  | none =>
                      simp [reopened]
                      rfl
                  | some reset =>
                      cases recorded : reset.insertRecovery input.recoveryId
                          (newRecovery input outboxMessageId
                            message.correlationId) with
                      | none =>
                          simp only [newRecovery] at recorded
                          simp [reopened, newRecovery, recorded, require,
                            bind, Except.bind, deliveryEnding]
                      | some stored =>
                          simp only [newRecovery] at recorded
                          simp [reopened, newRecovery, recorded, require,
                            bind, Except.bind, deliveryEnding, pure,
                            Except.pure]

theorem deliveryProgram_runAlone_claim {workerNow : Int}
    {policy : TelegramDeliveryPolicy} {attemptId : ChannelDeliveryAttemptId}
    {outboxMessageId : OutboxMessageId} :
    (deliveryProgram maximumAttempts).runAlone
        (.claim clock workerNow policy attemptId outboxMessageId) start 3
        .starting start =
      some (deliveryEnding start .claimed (claimTelegramReply clock workerNow
        policy attemptId outboxMessageId start)) := by
  simp only [Program.runAlone, deliveryProgram,
    DeliveryTransaction.instruction, claimInstruction, claimTelegramReply, id]
  cases start.requestedReply outboxMessageId with
  | none => rfl
  | some requested =>
      obtain ⟨outboundMessageId, row⟩ := requested
      change _ = some (deliveryEnding start .claimed (claimSelected clock
        workerNow policy attemptId outboundMessageId row start))
      simp only [DeliveryPhase.afterSelect]
      cases ran : claimSelected clock workerNow policy attemptId
          outboundMessageId row start with
      | error failure => rfl
      | ok result => simp [DeliveryPhase.after, withTransaction, ran,
          deliveryEnding]

theorem deliveryProgram_runAlone_complete
    {input : CompleteTelegramReplyAttemptInput} :
    (deliveryProgram maximumAttempts).runAlone (.complete clock input) start 3
        .starting start =
      some (deliveryEnding start (fun _ => .completed)
        (completeTelegramReplyAttempt clock input start)) := by
  simp only [Program.runAlone, deliveryProgram,
    DeliveryTransaction.instruction, completeInstruction,
    completeTelegramReplyAttempt, id]
  by_cases held : start.replyHeld input.outboundMessageId input.attemptId
  · rw [if_pos held, if_pos held]
    change _ = some (deliveryEnding start (fun _ => .completed)
      (completeHeld clock input start))
    cases ran : completeHeld clock input start with
    | error failure => simp [DeliveryPhase.after, ran, deliveryEnding]
    | ok result => simp [DeliveryPhase.after, withTransaction, ran,
        deliveryEnding]
  · rw [if_neg held, if_neg held]
    rfl

theorem deliveryProgram_runAlone_markPublished
    {recoveryId : TelegramDeliveryRecoveryId} :
    (deliveryProgram maximumAttempts).runAlone
        (.markPublished clock recoveryId) start 3 .starting start =
      some (deliveryEnding start .marked
        (markTelegramDeliveryRecoveryPublished clock recoveryId start)) := by
  simp only [Program.runAlone, deliveryProgram,
    DeliveryTransaction.instruction, markInstruction, id]
  cases found : start.recoveries.find? recoveryId with
  | none =>
      simp only [markTelegramDeliveryRecoveryPublished, found]
      rfl
  | some recovery =>
      simp only [Option.isSome_some, if_true]
      cases ran : markTelegramDeliveryRecoveryPublished clock recoveryId
          start with
      | error failure => simp [DeliveryPhase.after, deliveryEnding]
      | ok result => simp [DeliveryPhase.after, withTransaction, ran,
          deliveryEnding]

end Alone

end XpensGo
