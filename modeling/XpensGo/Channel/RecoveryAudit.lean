import XpensGo.Channel.Execution
import XpensGo.Channel.RecoveryStatements

/-!
# The audit of delivery recoveries

A preparation that has found no recovery reads the message under its lock, and
no other call changes the row of a locked message.  So the message is still
recoverable when the preparation commits, and the commit adds one recovery for
one message returned from a terminal failure.
-/

namespace XpensGo

open Postgres Relational Transition ChannelDatabase

/-- What may become of a recovery. -/
def DeliveryRecoveryRow.Becomes (row row' : DeliveryRecoveryRow) : Prop :=
  row' = row ∨
    (row.publicationStatus = .prepared ∧ ∃ publishedAt, row' =
      { row with
        publicationStatus := .published
        publishedAt := some publishedAt })

/-- The recovery of a preparation with this input, for this outbox message. -/
def DeliveryRecoveryRow.Records (input : RecoverTelegramDeliveryInput)
    (outboxMessageId : OutboxMessageId) (row : DeliveryRecoveryRow) : Prop :=
  row.outboundMessageId = input.outboundMessageId ∧
    row.expectedErrorCode = input.expectedErrorCode ∧
    row.reason = input.reason ∧ row.outboxMessageId = outboxMessageId

theorem DeliveryRecoveryRow.Becomes.records {row row' : DeliveryRecoveryRow}
    {input : RecoverTelegramDeliveryInput} {outboxMessageId : OutboxMessageId}
    (becomes : row.Becomes row') (records : row.Records input outboxMessageId) :
    row'.Records input outboxMessageId := by
  rcases becomes with rfl | ⟨_, publishedAt, rfl⟩
  · exact records
  · exact records

theorem DeliveryRecoveryRow.Becomes.trans
    {first second third : DeliveryRecoveryRow} (earlier : first.Becomes second)
    (later : second.Becomes third) : first.Becomes third := by
  rcases earlier with rfl | ⟨prepared, publishedAt, rfl⟩
  · exact later
  · rcases later with rfl | ⟨published, _⟩
    · exact .inr ⟨prepared, publishedAt, rfl⟩
    · cases published

section Writes

variable {db db' : ChannelDatabase}
  {outboundMessageId : OutboundChannelMessageId}

/-- Of the messages and recoveries only the given message has changed. -/
structure OnlyReply (outboundMessageId : OutboundChannelMessageId)
    (db db' : ChannelDatabase) : Prop where
  messages : ∀ other, other ≠ outboundMessageId →
    db'.messages.find? other = db.messages.find? other
  recoveries : db'.recoveries = db.recoveries

theorem OnlyReply.refl : OnlyReply outboundMessageId db db :=
  ⟨fun _ _ => rfl, rfl⟩

theorem OnlyReply.setMessage (set : OutboundMessageRow → OutboundMessageRow)
    (attempts : Table ChannelDeliveryAttemptId DeliveryAttemptRow) :
    OnlyReply outboundMessageId db
      { db with
        messages := db.messages.modify outboundMessageId set
        attempts := attempts } :=
  ⟨fun _ different => Table.find?_modify_of_ne _ _ different, rfl⟩

section Claim

variable {clock : DatabaseClock} {workerNow : Int}
  {policy : TelegramDeliveryPolicy} {attemptId : ChannelDeliveryAttemptId}
  {row : OutboundMessageRow} {outcome : ClaimTelegramReplyOutcome}

private theorem onlyReply_of_expireReply
    (ran : db.expireReply clock outboundMessageId row = .ok (outcome, db')) :
    OnlyReply outboundMessageId db db' := by
  obtain ⟨ended, collected, rest⟩ := bind_eq_ok.mp ran
  obtain ⟨expired, updated, rest⟩ := bind_eq_ok.mp rest
  have written := updateMessage_eq_some (require_eq_ok.mp updated)
  subst written
  cases rest
  cases held : row.deliveryClaimId with
  | none =>
      rw [held] at collected
      cases require_eq_ok.mp collected
      exact .setMessage _ _
  | some attemptId =>
      rw [held] at collected
      cases updateAttempting_eq_some (require_eq_ok.mp collected)
      exact .setMessage _ _

private theorem onlyReply_of_claimPendingReply
    (ran : db.claimPendingReply clock policy attemptId outboundMessageId row =
      .ok (outcome, db')) : OnlyReply outboundMessageId db db' := by
  unfold claimPendingReply at ran
  split at ran
  · obtain ⟨exhausted, updated, rest⟩ := bind_eq_ok.mp ran
    have written := updateMessage_eq_some (require_eq_ok.mp updated)
    subst written
    cases rest
    exact .setMessage _ _
  · obtain ⟨leased, updated, rest⟩ := bind_eq_ok.mp ran
    have written := updateMessage_eq_some (require_eq_ok.mp updated)
    subst written
    obtain ⟨attempted, inserted, rest⟩ := bind_eq_ok.mp rest
    obtain ⟨fresh, rfl⟩ :=
      insertDeliveryAttempt_eq_some (require_eq_ok.mp inserted)
    cases rest
    exact .setMessage _ _

theorem onlyReply_claimSelected : OnlyReply outboundMessageId db
    (withTransaction (claimSelected clock workerNow policy attemptId
      outboundMessageId row) db).2 := by
  rcases withTransaction_cases (claimSelected clock workerNow policy attemptId
    outboundMessageId row) db with
    ⟨_, _, failed⟩ | ⟨outcome, db', ran, committed⟩
  · rw [failed]
    exact .refl
  · rw [committed]
    unfold claimSelected at ran
    split at ran
    case h_1 | h_2 | h_3 =>
      cases ran
      exact .refl
    case h_4 =>
      split at ran
      · cases ran
        exact .refl
      · exact onlyReply_of_expireReply ran
    case h_5 => exact onlyReply_of_claimPendingReply ran

theorem claimSelected_of_isTerminal (ended : row.status.isTerminal = true) :
    (withTransaction (claimSelected clock workerNow policy attemptId
      outboundMessageId row) db).2 = db := by
  cases status : row.status with
  | pending | delivering =>
      rw [status] at ended
      cases ended
  | providerAccepted | terminalFailure | outcomeUnknown =>
      simp only [withTransaction, claimSelected, status]
      rfl

end Claim

theorem onlyReply_completeHeld {clock : DatabaseClock}
    {input : CompleteTelegramReplyAttemptInput} :
    OnlyReply input.outboundMessageId db
      (withTransaction (completeHeld clock input) db).2 := by
  rcases withTransaction_cases (completeHeld clock input) db with
    ⟨_, _, failed⟩ | ⟨outcome, db', ran, committed⟩
  · rw [failed]
    exact .refl
  · rw [committed]
    obtain ⟨ended, collected, rest⟩ := bind_eq_ok.mp ran
    obtain ⟨completed, updated, rest⟩ := bind_eq_ok.mp rest
    cases updateAttempting_eq_some (require_eq_ok.mp collected)
    cases updateMessage_eq_some (require_eq_ok.mp updated)
    cases rest
    exact .setMessage _ _

/-- `markPublished` publishes a prepared recovery or changes nothing. -/
theorem withTransaction_markPublished (clock : DatabaseClock)
    (recoveryId : TelegramDeliveryRecoveryId) :
    (withTransaction (markTelegramDeliveryRecoveryPublished clock recoveryId)
        db).2 = db ∨
      ∃ row, db.recoveries.find? recoveryId = some row ∧
        row.publicationStatus = .prepared ∧
        (withTransaction (markTelegramDeliveryRecoveryPublished clock
          recoveryId) db).2 = db.publishRecovery clock recoveryId := by
  rcases withTransaction_cases
    (markTelegramDeliveryRecoveryPublished clock recoveryId) db with
    ⟨_, _, failed⟩ | ⟨outcome, db', ran, committed⟩
  · rw [failed]
    exact .inl rfl
  · rw [committed]
    cases markTelegramDeliveryRecoveryPublished_eq_ok ran with
    | unchanged => exact .inl rfl
    | published found prepared => exact .inr ⟨_, found, prepared, rfl⟩

end Writes

section Calls

/-- The message of a preparation can be returned to the delivery path. -/
def ReplyRecoverable (maximumAttempts : Nat) (input : RecoverTelegramDeliveryInput)
    (db : ChannelDatabase) : Prop :=
  ∃ row, db.messages.find? input.outboundMessageId = some row ∧
    notRecoverable input maximumAttempts row = none

/-- It can be returned without a violation of its constraints. -/
def ReplyReopenable (maximumAttempts : Nat) (input : RecoverTelegramDeliveryInput)
    (db : ChannelDatabase) : Prop :=
  ∃ row, db.messages.find? input.outboundMessageId = some row ∧
    notRecoverable input maximumAttempts row = none ∧ row.reopen.check = true

/-- The first write of a preparation. -/
def resetMessage (input : RecoverTelegramDeliveryInput)
    (db : ChannelDatabase) : ChannelDatabase :=
  (db.updateMessage input.outboundMessageId OutboundMessageRow.reopen).getD db

/-- The second write of a preparation. -/
def recordRecovery (input : RecoverTelegramDeliveryInput)
    (row : DeliveryRecoveryRow) (db : ChannelDatabase) : ChannelDatabase :=
  (db.insertRecovery input.recoveryId row).getD db

/-- The calls of the delivery store. -/
def DeliveryTransaction.delivers : DeliveryTransaction → Bool
  | .claim _ _ _ _ _ | .complete _ _ => true
  | .prepare _ | .markPublished _ _ | .other _ => false

/-- What a running call holds, has written and knows. -/
inductive DeliveryProgress (maximumAttempts : Nat)
    (committed : ChannelDatabase) (locks : List DeliveryLock) :
    DeliveryTransaction → DeliveryPhase →
      (ChannelDatabase → ChannelDatabase) → Prop where
  | starting {transaction : DeliveryTransaction} :
      DeliveryProgress maximumAttempts committed locks transaction .starting id
  | answered {transaction : DeliveryTransaction} {answer : DeliveryAnswer} :
      transaction.delivers = true →
      DeliveryProgress maximumAttempts committed locks transaction
        (.committing answer) id
  | refused {input : RecoverTelegramDeliveryInput}
      {reason : TelegramDeliveryNotRecoverableReason} :
      DeliveryProgress maximumAttempts committed locks (.prepare input)
        (.committing (.prepared (.notRecoverable reason))) id
  | resumed {input : RecoverTelegramDeliveryInput} {row : DeliveryRecoveryRow}
      {prepared : TelegramDeliveryRecoveryPrepared} :
      committed.recoveries.find? input.recoveryId = some row →
      row.Records input prepared.outboxMessageId →
      DeliveryProgress maximumAttempts committed locks (.prepare input)
        (.committing (.prepared (.prepared prepared))) id
  | failing {transaction : DeliveryTransaction} {failure : ChannelStoreFailure}
      {writes : ChannelDatabase → ChannelDatabase} :
      DeliveryProgress maximumAttempts committed locks transaction
        (.failing failure) writes
  | lockingMessage {input : RecoverTelegramDeliveryInput} :
      DeliveryProgress maximumAttempts committed locks (.prepare input)
        .lockingMessage id
  | resetting {input : RecoverTelegramDeliveryInput}
      {outboxMessageId : OutboxMessageId} {correlationId : CorrelationId} :
      .message input.outboundMessageId ∈ locks →
      ReplyRecoverable maximumAttempts input committed →
      DeliveryProgress maximumAttempts committed locks (.prepare input)
        (.resetting outboxMessageId correlationId) id
  | recording {input : RecoverTelegramDeliveryInput}
      {outboxMessageId : OutboxMessageId} {correlationId : CorrelationId} :
      .message input.outboundMessageId ∈ locks →
      ReplyReopenable maximumAttempts input committed →
      DeliveryProgress maximumAttempts committed locks (.prepare input)
        (.recording outboxMessageId correlationId) (resetMessage input)
  | recorded {input : RecoverTelegramDeliveryInput}
      {outboxMessageId : OutboxMessageId} {correlationId : CorrelationId} :
      .message input.outboundMessageId ∈ locks →
      .recovery input.recoveryId ∈ locks →
      ReplyReopenable maximumAttempts input committed →
      committed.recoveries.find? input.recoveryId = none →
      DeliveryProgress maximumAttempts committed locks (.prepare input)
        (.committing (.prepared (.prepared
          { publicationStatus := .prepared
            outboxMessageId := outboxMessageId
            correlationId := correlationId })))
        (fun db => recordRecovery input
          (newRecovery input outboxMessageId correlationId)
          (resetMessage input db))
  | unmarked {clock : DatabaseClock} {recoveryId : TelegramDeliveryRecoveryId}
      {outcome : MarkTelegramDeliveryRecoveryPublishedOutcome} :
      DeliveryProgress maximumAttempts committed locks
        (.markPublished clock recoveryId) (.committing (.marked outcome)) id
  | marking {clock : DatabaseClock} {recoveryId : TelegramDeliveryRecoveryId} :
      .recovery recoveryId ∈ locks →
      DeliveryProgress maximumAttempts committed locks
        (.markPublished clock recoveryId) .marking id
  | marked {clock : DatabaseClock} {recoveryId : TelegramDeliveryRecoveryId}
      {outcome : MarkTelegramDeliveryRecoveryPublishedOutcome} :
      .recovery recoveryId ∈ locks →
      DeliveryProgress maximumAttempts committed locks
        (.markPublished clock recoveryId) (.committing (.marked outcome))
        (fun db => (withTransaction
          (markTelegramDeliveryRecoveryPublished clock recoveryId) db).2)
  | claiming {clock : DatabaseClock} {workerNow : Int}
      {policy : TelegramDeliveryPolicy} {attemptId : ChannelDeliveryAttemptId}
      {outboxMessageId : OutboxMessageId}
      {outboundMessageId : OutboundChannelMessageId}
      {row : OutboundMessageRow} :
      .message outboundMessageId ∈ locks →
      committed.messages.find? outboundMessageId = some row →
      DeliveryProgress maximumAttempts committed locks
        (.claim clock workerNow policy attemptId outboxMessageId)
        (.claiming outboundMessageId row) id
  | claimed {clock : DatabaseClock} {workerNow : Int}
      {policy : TelegramDeliveryPolicy} {attemptId : ChannelDeliveryAttemptId}
      {outboxMessageId : OutboxMessageId}
      {outboundMessageId : OutboundChannelMessageId}
      {row : OutboundMessageRow} {answer : DeliveryAnswer} :
      .message outboundMessageId ∈ locks →
      committed.messages.find? outboundMessageId = some row →
      DeliveryProgress maximumAttempts committed locks
        (.claim clock workerNow policy attemptId outboxMessageId)
        (.committing answer)
        (fun db => (withTransaction (claimSelected clock workerNow policy
          attemptId outboundMessageId row) db).2)
  | completing {clock : DatabaseClock}
      {input : CompleteTelegramReplyAttemptInput} :
      .message input.outboundMessageId ∈ locks →
      committed.replyHeld input.outboundMessageId input.attemptId = true →
      DeliveryProgress maximumAttempts committed locks (.complete clock input)
        .completing id
  | completed {clock : DatabaseClock}
      {input : CompleteTelegramReplyAttemptInput} {answer : DeliveryAnswer} :
      .message input.outboundMessageId ∈ locks →
      committed.replyHeld input.outboundMessageId input.attemptId = true →
      DeliveryProgress maximumAttempts committed locks (.complete clock input)
        (.committing answer)
        (fun db => (withTransaction (completeHeld clock input) db).2)
  | written {change : OtherDeliveryChange} :
      DeliveryProgress maximumAttempts committed locks (.other change)
        (.committing .written) change.write

variable {maximumAttempts : Nat} {committed committed' : ChannelDatabase}
  {locks : List DeliveryLock} {transaction : DeliveryTransaction}
  {phase : DeliveryPhase} {writes : ChannelDatabase → ChannelDatabase}

/-- The commit of another call leaves the progress of a call as it is. -/
theorem DeliveryProgress.commit
    (progress : DeliveryProgress maximumAttempts committed locks transaction
      phase writes)
    (messages : ∀ outboundMessageId row, .message outboundMessageId ∈ locks →
      committed.messages.find? outboundMessageId = some row →
      committed'.messages.find? outboundMessageId = some row)
    (recoveries : ∀ recoveryId, .recovery recoveryId ∈ locks →
      committed.recoveries.find? recoveryId = none →
      committed'.recoveries.find? recoveryId = none)
    (becomes : ∀ recoveryId row,
      committed.recoveries.find? recoveryId = some row →
      ∃ row', committed'.recoveries.find? recoveryId = some row' ∧
        row.Becomes row') :
    DeliveryProgress maximumAttempts committed' locks transaction phase
      writes := by
  have held : ∀ outboundMessageId attemptId,
      .message outboundMessageId ∈ locks →
      committed.replyHeld outboundMessageId attemptId = true →
      committed'.replyHeld outboundMessageId attemptId = true := by
    intro outboundMessageId attemptId locked held
    obtain ⟨row, found, leased⟩ := replyHeld_eq_true.mp held
    exact replyHeld_eq_true.mpr ⟨row, messages _ row locked found, leased⟩
  cases progress with
  | starting => exact .starting
  | answered delivers => exact .answered delivers
  | refused => exact .refused
  | resumed found records =>
      obtain ⟨row', found', becomes⟩ := becomes _ _ found
      exact .resumed found' (becomes.records records)
  | failing => exact .failing
  | lockingMessage => exact .lockingMessage
  | resetting locked recoverable =>
      obtain ⟨row, found, recoverable⟩ := recoverable
      exact .resetting locked ⟨row, messages _ row locked found, recoverable⟩
  | recording locked reopenable =>
      obtain ⟨row, found, reopenable⟩ := reopenable
      exact .recording locked ⟨row, messages _ row locked found, reopenable⟩
  | recorded locked reserved reopenable fresh =>
      obtain ⟨row, found, reopenable⟩ := reopenable
      exact .recorded locked reserved
        ⟨row, messages _ row locked found, reopenable⟩
        (recoveries _ reserved fresh)
  | unmarked => exact .unmarked
  | marking reserved => exact .marking reserved
  | marked reserved => exact .marked reserved
  | claiming locked found => exact .claiming locked (messages _ _ locked found)
  | claimed locked found => exact .claimed locked (messages _ _ locked found)
  | completing locked leased =>
      exact .completing locked (held _ _ locked leased)
  | completed locked leased =>
      exact .completed locked (held _ _ locked leased)
  | written => exact .written

theorem reopenable_of_updateMessage {input : RecoverTelegramDeliveryInput}
    (recoverable : ReplyRecoverable maximumAttempts input committed)
    (updated : (committed.updateMessage input.outboundMessageId
      OutboundMessageRow.reopen).isSome = true) :
    ReplyReopenable maximumAttempts input committed := by
  obtain ⟨row, found, recoverable⟩ := recoverable
  obtain ⟨db, updated⟩ := Option.isSome_iff_exists.mp updated
  simp only [updateMessage, Option.bind_eq_bind, Option.bind_eq_some_iff]
    at updated
  obtain ⟨messages, modified, _⟩ := updated
  exact ⟨row, found, recoverable,
    (Table.modify?_eq_some_iff.mp modified).1 row found⟩

theorem updateMessage_of_reopenable {input : RecoverTelegramDeliveryInput}
    (reopenable : ReplyReopenable maximumAttempts input committed) :
    committed.updateMessage input.outboundMessageId OutboundMessageRow.reopen =
      some (committed.setMessage input.outboundMessageId
        OutboundMessageRow.reopen) := by
  obtain ⟨row, found, _, legal⟩ := reopenable
  have updated : committed.messages.modify? OutboundMessageRow.check
      input.outboundMessageId OutboundMessageRow.reopen =
        some (committed.messages.modify input.outboundMessageId
          OutboundMessageRow.reopen) := by
    apply Table.modify?_eq_some_iff.mpr
    refine ⟨?_, rfl⟩
    intro row' found'
    rw [found] at found'
    cases found'
    exact legal
  rw [updateMessage, updated]
  rfl

theorem resetMessage_eq {input : RecoverTelegramDeliveryInput}
    (reopenable : ReplyReopenable maximumAttempts input committed) :
    resetMessage input committed = committed.setMessage
      input.outboundMessageId OutboundMessageRow.reopen := by
  rw [resetMessage, updateMessage_of_reopenable reopenable]
  rfl

/-- What holds of a running call. -/
def OrderlyDelivery (maximumAttempts : Nat) (committed : ChannelDatabase)
    (call : DeliveryCall) : Prop :=
  DeliveryProgress maximumAttempts committed call.locks call.parameter
    call.phase call.writes

section Statements

private theorem progress_afterLookup {input : RecoverTelegramDeliveryInput} :
    DeliveryProgress maximumAttempts committed locks (.prepare input)
      (.afterLookup input (committed.recoveries.find? input.recoveryId)) id := by
  cases found : committed.recoveries.find? input.recoveryId with
  | none => exact .lockingMessage
  | some row =>
      simp only [DeliveryPhase.afterLookup, resumeRecovery]
      split
      · exact .refused
      · rename_i same
        simp only [not_or, not_not] at same
        exact .resumed found ⟨same.1, same.2.1, same.2.2, rfl⟩

private theorem progress_afterLock {input : RecoverTelegramDeliveryInput} :
    DeliveryProgress maximumAttempts committed
      ((if (committed.messages.find? input.outboundMessageId).isSome &&
          (committed.replyOutbox input.outboundMessageId).isSome then
        some (DeliveryLock.message input.outboundMessageId)
      else
        none).toList ++ locks) (.prepare input)
      (.afterLock maximumAttempts input
        (committed.messages.find? input.outboundMessageId)
        (committed.replyOutbox input.outboundMessageId)) id := by
  cases found : committed.messages.find? input.outboundMessageId with
  | none => exact .refused
  | some row =>
      cases committed.replyOutbox input.outboundMessageId with
      | none => exact .refused
      | some requested =>
          simp only [DeliveryPhase.afterLock]
          cases recoverable : notRecoverable input maximumAttempts row with
          | some reason => exact .refused
          | none =>
              apply DeliveryProgress.resetting
              · simp
              · exact ⟨row, found, recoverable⟩

private theorem progress_afterReset {input : RecoverTelegramDeliveryInput}
    {outboxMessageId : OutboxMessageId} {correlationId : CorrelationId}
    (locked : .message input.outboundMessageId ∈ locks)
    (recoverable : ReplyRecoverable maximumAttempts input committed) :
    DeliveryProgress maximumAttempts committed locks (.prepare input)
      (if (committed.updateMessage input.outboundMessageId
          OutboundMessageRow.reopen).isSome then
        .recording outboxMessageId correlationId
      else
        .failing (.persistenceUnavailable .prepareTelegramDeliveryRecovery))
      (resetMessage input) := by
  split
  · rename_i updated
    exact .recording locked (reopenable_of_updateMessage recoverable updated)
  · exact .failing

private theorem progress_afterRecord {input : RecoverTelegramDeliveryInput}
    {outboxMessageId : OutboxMessageId} {correlationId : CorrelationId}
    (locked : .message input.outboundMessageId ∈ locks)
    (reopenable : ReplyReopenable maximumAttempts input committed) :
    DeliveryProgress maximumAttempts committed
      (.recovery input.recoveryId :: locks) (.prepare input)
      (if ((resetMessage input committed).insertRecovery input.recoveryId
          (newRecovery input outboxMessageId correlationId)).isSome then
        .committing (.prepared (.prepared
          { publicationStatus := .prepared
            outboxMessageId := outboxMessageId
            correlationId := correlationId }))
      else
        .failing (.persistenceUnavailable .prepareTelegramDeliveryRecovery))
      (fun db => recordRecovery input
        (newRecovery input outboxMessageId correlationId)
        (resetMessage input db)) := by
  split
  · rename_i inserted
    obtain ⟨db, inserted⟩ := Option.isSome_iff_exists.mp inserted
    obtain ⟨fresh, _⟩ := insertRecovery_eq_some inserted
    have absent := Table.find?_eq_none_iff.mpr fresh
    rw [resetMessage_eq reopenable] at absent
    exact .recorded (List.mem_cons_of_mem _ locked) (by simp) reopenable absent
  · exact .failing

private theorem progress_after {α : Type} {answer : α → DeliveryAnswer}
    {ran : Except ChannelStoreFailure (α × ChannelDatabase)}
    (wrote : ∀ outcome, DeliveryProgress maximumAttempts committed locks
      transaction (.committing (answer outcome)) writes) :
    DeliveryProgress maximumAttempts committed locks transaction
      (.after answer ran) writes := by
  cases ran with
  | error failure => exact .failing
  | ok result => exact wrote _

private theorem progress_started
    {lock : ChannelDatabase → Option DeliveryLock}
    {write : ChannelDatabase → ChannelDatabase}
    {next : ChannelDatabase → DeliveryPhase}
    (instruction : transaction.instruction maximumAttempts .starting =
      .statement lock write next) :
    DeliveryProgress maximumAttempts committed
      ((lock committed).toList ++ locks) transaction (next committed)
      write := by
  cases transaction with
  | prepare input =>
      cases instruction
      exact progress_afterLookup
  | markPublished clock recoveryId =>
      cases instruction
      dsimp only
      cases found : committed.recoveries.find? recoveryId with
      | none => exact .unmarked
      | some row => exact .marking (by simp)
  | claim clock workerNow policy attemptId outboxMessageId =>
      cases instruction
      dsimp only
      cases requested : committed.requestedReply outboxMessageId with
      | none => exact .answered rfl
      | some reply =>
          have present := (requestedReply_eq_some.mp requested).2
          exact .claiming (by simp) present
  | complete clock input =>
      cases instruction
      by_cases held : committed.replyHeld input.outboundMessageId
          input.attemptId
      · simp only [held, if_true]
        exact .completing (by simp) held
      · simp only [held]
        exact .failing
  | other change =>
      cases instruction
      exact .written

end Statements

theorem OrderlyDelivery.execute {call : DeliveryCall}
    (orderly : OrderlyDelivery maximumAttempts committed call)
    {lock : ChannelDatabase → Option DeliveryLock}
    {write : ChannelDatabase → ChannelDatabase}
    {next : ChannelDatabase → DeliveryPhase}
    (instruction : (deliveryProgram maximumAttempts).instruction
      call.parameter call.phase = .statement lock write next) :
    OrderlyDelivery maximumAttempts committed
      (call.execute committed lock write next) := by
  obtain ⟨transaction, phase, writes, locks⟩ := call
  cases orderly with
  | starting => exact progress_started instruction
  | answered | failing | refused | resumed | recorded | unmarked | marked
  | claimed | completed | written => simp [deliveryProgram] at instruction
  | lockingMessage =>
      cases instruction
      exact progress_afterLock
  | resetting locked recoverable =>
      cases instruction
      exact progress_afterReset locked recoverable
  | recording locked reopenable =>
      cases instruction
      exact progress_afterRecord locked reopenable
  | marking reserved =>
      cases instruction
      exact progress_after (fun outcome => .marked reserved)
  | claiming locked found =>
      cases instruction
      exact progress_after (fun outcome =>
        .claimed (List.mem_append_right _ locked) found)
  | completing locked leased =>
      cases instruction
      exact progress_after (fun outcome => .completed locked leased)

section Commits

variable {db db' : ChannelDatabase} {answer : DeliveryAnswer}

/-- What the commit of a call does to the messages and recoveries. -/
inductive DeliveryCommit (maximumAttempts : Nat) (db : ChannelDatabase)
    (locks : List DeliveryLock) :
    DeliveryTransaction → DeliveryAnswer → ChannelDatabase → Prop where
  | unchanged {transaction : DeliveryTransaction} {answer : DeliveryAnswer} :
      transaction.delivers = true →
      DeliveryCommit maximumAttempts db locks transaction answer db
  | unmarked {clock : DatabaseClock} {recoveryId : TelegramDeliveryRecoveryId}
      {outcome : MarkTelegramDeliveryRecoveryPublishedOutcome} :
      DeliveryCommit maximumAttempts db locks (.markPublished clock recoveryId)
        (.marked outcome) db
  | refused {input : RecoverTelegramDeliveryInput}
      {reason : TelegramDeliveryNotRecoverableReason} :
      DeliveryCommit maximumAttempts db locks (.prepare input)
        (.prepared (.notRecoverable reason)) db
  | resumed {input : RecoverTelegramDeliveryInput} {row : DeliveryRecoveryRow}
      {prepared : TelegramDeliveryRecoveryPrepared} :
      db.recoveries.find? input.recoveryId = some row →
      row.Records input prepared.outboxMessageId →
      DeliveryCommit maximumAttempts db locks (.prepare input)
        (.prepared (.prepared prepared)) db
  | delivered {transaction : DeliveryTransaction} {answer : DeliveryAnswer}
      {db' : ChannelDatabase} {outboundMessageId : OutboundChannelMessageId}
      {row : OutboundMessageRow} :
      transaction.delivers = true →
      .message outboundMessageId ∈ locks →
      db.messages.find? outboundMessageId = some row →
      row.status ≠ .terminalFailure →
      OnlyReply outboundMessageId db db' →
      DeliveryCommit maximumAttempts db locks transaction answer db'
  | published {clock : DatabaseClock}
      {recoveryId : TelegramDeliveryRecoveryId} {row : DeliveryRecoveryRow}
      {outcome : MarkTelegramDeliveryRecoveryPublishedOutcome} :
      .recovery recoveryId ∈ locks →
      db.recoveries.find? recoveryId = some row →
      row.publicationStatus = .prepared →
      DeliveryCommit maximumAttempts db locks (.markPublished clock recoveryId)
        (.marked outcome) (db.publishRecovery clock recoveryId)
  | reopened {input : RecoverTelegramDeliveryInput} {row : OutboundMessageRow}
      {outboxMessageId : OutboxMessageId} {correlationId : CorrelationId}
      (fresh : input.recoveryId ∉ db.recoveries.rows.map Prod.fst) :
      .message input.outboundMessageId ∈ locks →
      .recovery input.recoveryId ∈ locks →
      db.messages.find? input.outboundMessageId = some row →
      notRecoverable input maximumAttempts row = none →
      row.reopen.check = true →
      DeliveryCommit maximumAttempts db locks (.prepare input)
        (.prepared (.prepared
          { publicationStatus := .prepared
            outboxMessageId := outboxMessageId
            correlationId := correlationId }))
        { db with
          messages := db.messages.modify input.outboundMessageId
            OutboundMessageRow.reopen
          recoveries := db.recoveries.push input.recoveryId
            (newRecovery input outboxMessageId correlationId) fresh }
  | other {change : OtherDeliveryChange} {answer : DeliveryAnswer} :
      DeliveryCommit maximumAttempts db locks (.other change) answer
        (change.write db)

theorem insertRecovery_of_fresh {recoveryId : TelegramDeliveryRecoveryId}
    {row : DeliveryRecoveryRow} (legal : row.check = true)
    (fresh : recoveryId ∉ db.recoveries.rows.map Prod.fst) :
    db.insertRecovery recoveryId row = some
      { db with recoveries := db.recoveries.push recoveryId row fresh } := by
  have inserted : db.recoveries.insert? DeliveryRecoveryRow.check recoveryId
      row = some (db.recoveries.push recoveryId row fresh) :=
    Table.insert?_eq_some_iff.mpr ⟨legal, fresh, rfl⟩
  rw [insertRecovery, inserted]
  rfl

/-- A call commits with the answer of its phase. -/
theorem OrderlyDelivery.phase_of_commit {call : DeliveryCall}
    (orderly : OrderlyDelivery maximumAttempts committed call)
    (instruction : (deliveryProgram maximumAttempts).instruction
      call.parameter call.phase = .commit answer) :
    call.phase = .committing answer := by
  obtain ⟨transaction, phase, writes, locks⟩ := call
  cases orderly with
  | starting =>
      cases transaction with
      | prepare | markPublished | claim | complete | other => cases instruction
  | failing => simp [deliveryProgram] at instruction
  | lockingMessage | resetting | recording | marking | claiming
  | completing => cases instruction
  | answered | refused | resumed | recorded | unmarked | marked | claimed
  | completed | written =>
      simp only [deliveryProgram,
        DeliveryTransaction.instruction_committing] at instruction
      cases instruction
      rfl

/-- A call rolls back with the failure of its phase. -/
theorem OrderlyDelivery.phase_of_rollback {call : DeliveryCall}
    (orderly : OrderlyDelivery maximumAttempts committed call)
    (instruction : (deliveryProgram maximumAttempts).instruction
      call.parameter call.phase = .rollback answer) :
    ∃ failure, call.phase = .failing failure ∧ answer = .failed failure := by
  obtain ⟨transaction, phase, writes, locks⟩ := call
  cases orderly with
  | starting =>
      cases transaction with
      | prepare | markPublished | claim | complete | other => cases instruction
  | @failing _ failure =>
      simp only [deliveryProgram,
        DeliveryTransaction.instruction_failing] at instruction
      cases instruction
      exact ⟨failure, rfl, rfl⟩
  | lockingMessage | resetting | recording | marking | claiming
  | completing => cases instruction
  | answered | refused | resumed | recorded | unmarked | marked | claimed
  | completed | written => simp [deliveryProgram] at instruction

theorem OrderlyDelivery.deliveryCommit {call : DeliveryCall}
    (orderly : OrderlyDelivery maximumAttempts committed call)
    (instruction : (deliveryProgram maximumAttempts).instruction
      call.parameter call.phase = .commit answer) :
    DeliveryCommit maximumAttempts committed call.locks call.parameter answer
      (call.view committed) := by
  obtain ⟨transaction, phase, writes, locks⟩ := call
  cases orderly with
  | starting =>
      cases transaction with
      | prepare | markPublished | claim | complete | other => cases instruction
  | failing => simp [deliveryProgram] at instruction
  | answered delivers => exact .unchanged delivers
  | unmarked =>
      cases instruction
      exact .unmarked
  | refused =>
      cases instruction
      exact .refused
  | resumed found records =>
      cases instruction
      exact .resumed found records
  | lockingMessage | resetting | recording | marking | claiming
  | completing => cases instruction
  | @recorded input outboxMessageId correlationId locked reserved reopenable
      absent =>
      cases instruction
      obtain ⟨row, found, recoverable, legal⟩ := reopenable
      have fresh := Table.find?_eq_none_iff.mp absent
      have written : recordRecovery input
          (newRecovery input outboxMessageId correlationId)
          (resetMessage input committed) =
          { committed with
            messages := committed.messages.modify input.outboundMessageId
              OutboundMessageRow.reopen
            recoveries := committed.recoveries.push input.recoveryId
              (newRecovery input outboxMessageId correlationId) fresh } := by
        rw [resetMessage_eq ⟨row, found, recoverable, legal⟩, recordRecovery,
          @insertRecovery_of_fresh (committed.setMessage _ _) input.recoveryId
            (newRecovery input outboxMessageId correlationId) rfl fresh]
        rfl
      change DeliveryCommit _ _ _ _ _ (recordRecovery input
        (newRecovery input outboxMessageId correlationId)
        (resetMessage input committed))
      rw [written]
      exact .reopened fresh locked reserved found recoverable legal
  | @marked clock recoveryId outcome reserved =>
      cases instruction
      rcases @withTransaction_markPublished committed clock recoveryId with
        same | ⟨row, found, prepared, published⟩
      · simp only [Transaction.view, same]
        exact .unmarked
      · simp only [Transaction.view, published]
        exact .published reserved found prepared
  | @claimed _ _ _ _ _ outboundMessageId row _ locked found =>
      by_cases ended : row.status.isTerminal = true
      · simp only [Transaction.view, claimSelected_of_isTerminal ended]
        exact .unchanged rfl
      · refine .delivered rfl locked found ?_ onlyReply_claimSelected
        intro failed
        simp [failed, OutboundMessageStatus.isTerminal] at ended
  | completed locked leased =>
      obtain ⟨row, found, delivering, _⟩ := replyHeld_eq_true.mp leased
      refine .delivered rfl locked found ?_ onlyReply_completeHeld
      simp [delivering]
  | written => exact .other

/-- A commit leaves the messages that the call does not hold. -/
theorem DeliveryCommit.find?_message
    (commit : DeliveryCommit maximumAttempts db locks transaction answer db')
    {outboundMessageId : OutboundChannelMessageId} {row : OutboundMessageRow}
    (free : .message outboundMessageId ∉ locks)
    (found : db.messages.find? outboundMessageId = some row) :
    db'.messages.find? outboundMessageId = some row := by
  have apart : ∀ other, .message other ∈ locks → outboundMessageId ≠ other := by
    rintro other locked rfl
    exact free locked
  cases commit with
  | unchanged | unmarked | refused | resumed | published => exact found
  | delivered _ locked _ _ only =>
      rw [only.messages _ (apart _ locked)]
      exact found
  | reopened _ locked =>
      exact (Table.find?_modify_of_ne _ _ (apart _ locked)).trans found
  | @other change => exact change.messages _ _ _ found

/-- A commit uses no identifier of a recovery that the call does not hold. -/
theorem DeliveryCommit.find?_recovery
    (commit : DeliveryCommit maximumAttempts db locks transaction answer db')
    {recoveryId : TelegramDeliveryRecoveryId}
    (free : .recovery recoveryId ∉ locks)
    (absent : db.recoveries.find? recoveryId = none) :
    db'.recoveries.find? recoveryId = none := by
  cases commit with
  | unchanged | unmarked | refused | resumed => exact absent
  | delivered _ _ _ _ only =>
      rw [only.recoveries]
      exact absent
  | published =>
      simp only [publishRecovery, Table.find?_modify, absent]
      simp
  | reopened fresh _ reserved =>
      rw [Table.find?_push, if_neg]
      · exact absent
      · rintro rfl
        exact free reserved
  | @other change =>
      rw [change.recoveries]
      exact absent

theorem DeliveryCommit.becomes
    (commit : DeliveryCommit maximumAttempts db locks transaction answer db')
    {recoveryId : TelegramDeliveryRecoveryId} {row : DeliveryRecoveryRow}
    (found : db.recoveries.find? recoveryId = some row) :
    ∃ row', db'.recoveries.find? recoveryId = some row' ∧
      row.Becomes row' := by
  cases commit with
  | unchanged | unmarked | refused | resumed => exact ⟨row, found, .inl rfl⟩
  | delivered _ _ _ _ only =>
      exact ⟨row, by rw [only.recoveries]; exact found, .inl rfl⟩
  | @published clock published before _ _ present prepared =>
      simp only [publishRecovery, Table.find?_modify, found]
      split
      · rename_i same
        subst same
        rw [found] at present
        cases present
        exact ⟨_, rfl, .inr ⟨prepared, _, rfl⟩⟩
      · exact ⟨row, rfl, .inl rfl⟩
  | reopened fresh => exact ⟨row, Table.find?_push_of_some fresh found, .inl rfl⟩
  | @other change =>
      exact ⟨row, by rw [change.recoveries]; exact found, .inl rfl⟩

theorem DeliveryCommit.prepare {input : RecoverTelegramDeliveryInput}
    (commit : DeliveryCommit maximumAttempts db locks (.prepare input) answer
      db') :
    db' = db ∨ ∃ prepared, answer = .prepared (.prepared prepared) := by
  cases commit with
  | unchanged delivers | delivered delivers => cases delivers
  | refused | resumed => exact .inl rfl
  | reopened => exact .inr ⟨_, rfl⟩

end Commits

end Calls

section Runs

variable {maximumAttempts : Nat} {initially : ChannelDatabase → Prop}
  {state state' : RecoveryState}

/-- A recovery accounts for a message that was returned from a terminal
failure. -/
def Accounts (maximumAttempts : Nat) (reopening : Reopening)
    (recovery : TelegramDeliveryRecoveryId × DeliveryRecoveryRow) : Prop :=
  recovery.2.outboundMessageId = reopening.outboundMessageId ∧
    reopening.row.lastErrorCode = some recovery.2.expectedErrorCode ∧
    reopening.row.deliveryAttempts < maximumAttempts

section Commits

variable {db db' : ChannelDatabase} {locks : List DeliveryLock}
  {transaction : DeliveryTransaction} {answer : DeliveryAnswer}

theorem reopenings_eq_nil
    (kept : ∀ outboundMessageId row row',
      db.messages.find? outboundMessageId = some row →
      row.status = .terminalFailure →
      db'.messages.find? outboundMessageId = some row' →
      row'.status ≠ .pending) :
    reopenings db db' = [] := by
  unfold reopenings
  rw [List.map_eq_nil_iff, ← List.isEmpty_iff, Table.select_isEmpty_iff]
  intro outboundMessageId row found
  by_contra returned
  simp only [Bool.not_eq_false, Bool.and_eq_true, decide_eq_true_eq,
    Option.any_eq_true] at returned
  obtain ⟨failed, row', found', pending⟩ := returned
  exact kept outboundMessageId row row' found failed found' pending

theorem reopenings_eq_nil_of_kept
    (kept : ∀ outboundMessageId row,
      db.messages.find? outboundMessageId = some row →
      row.status = .terminalFailure →
      db'.messages.find? outboundMessageId = some row) :
    reopenings db db' = [] := by
  apply reopenings_eq_nil
  intro outboundMessageId row row' found failed found' pending
  rw [kept outboundMessageId row found failed] at found'
  cases found'
  rw [failed] at pending
  cases pending

theorem reopenings_self : reopenings db db = [] :=
  reopenings_eq_nil_of_kept (fun _ _ found _ => found)

theorem reopenings_reopen {outboundMessageId : OutboundChannelMessageId}
    {row : OutboundMessageRow}
    (found : db.messages.find? outboundMessageId = some row)
    (failed : row.status = .terminalFailure)
    (messages : db'.messages = db.messages.modify outboundMessageId
      OutboundMessageRow.reopen) :
    reopenings db db' =
      [{ outboundMessageId := outboundMessageId
         row := row }] := by
  unfold reopenings
  rw [@Table.select_eq_singleton _ _ _ _ _ outboundMessageId row found]
  · rfl
  · simp [failed, messages, found, OutboundMessageRow.reopen]
  · intro other otherRow present returned
    by_contra different
    rw [messages, Table.find?_modify_of_ne _ _ different, present]
      at returned
    simp only [Option.any_some, Bool.and_eq_true, decide_eq_true_eq]
      at returned
    rw [returned.1] at returned
    cases returned.2

/-- A commit adds recoveries for the messages that it returns, and no others. -/
theorem DeliveryCommit.accounts {reopened : List Reopening}
    (commit : DeliveryCommit maximumAttempts db locks transaction answer db')
    (accounts : List.Forall₂ (Accounts maximumAttempts) reopened
      db.recoveries.rows) :
    List.Forall₂ (Accounts maximumAttempts) (reopened ++ reopenings db db')
      db'.recoveries.rows := by
  cases commit with
  | unchanged | unmarked | refused | resumed =>
      rw [reopenings_self, List.append_nil]
      exact accounts
  | @delivered _ _ _ delivered row _ _ found unfailed only =>
      rw [reopenings_eq_nil_of_kept, List.append_nil, only.recoveries]
      · exact accounts
      · intro outboundMessageId other present failed
        rw [only.messages]
        · exact present
        · rintro rfl
          rw [found] at present
          cases present
          exact unfailed failed
  | @published clock published =>
      rw [reopenings_eq_nil_of_kept, List.append_nil]
      · apply List.forall₂_map_right_iff.mpr
        apply accounts.imp
        rintro reopening ⟨recoveryId, row⟩ accounted
        by_cases same : recoveryId = published
        · simpa [same, Accounts] using accounted
        · simpa [same, Accounts] using accounted
      · intro outboundMessageId row found _
        exact found
  | @reopened input row outboxMessageId correlationId fresh _ _ found
      recoverable =>
      obtain ⟨failed, expected, below⟩ := notRecoverable_eq_none.mp recoverable
      rw [reopenings_reopen found failed rfl]
      exact List.rel_append accounts
        (.cons ⟨rfl, expected, below⟩ .nil)
  | @other change =>
      rw [reopenings_eq_nil_of_kept
          (fun _ _ found _ => change.messages _ _ _ found),
        List.append_nil, change.recoveries]
      exact accounts

end Commits

/-- The transitions of the calls. -/
inductive RecoveryCallStep (maximumAttempts : Nat) (state : RecoveryState) :
    RecoveryAction → RecoveryState → Prop where
  | called {action : SessionAction DeliveryTransaction}
      {calls : DeliveryCalls} :
      SessionStep (deliveryProgram maximumAttempts) state.calls action calls →
      RecoveryCallStep maximumAttempts state (.call action)
        { calls := calls
          reopened := state.reopened ++
            reopenings state.calls.committed calls.committed }
  | disconnected {session : SessionId} {call : DeliveryCall} :
      state.calls.sessions.find? session = some (.running call) →
      RecoveryCallStep maximumAttempts state (.disconnect session)
        { state with
          calls := state.calls.setSession session
            (.ended call.parameter.lost) }
  | answerLost {session : SessionId} {call : DeliveryCall}
      {answer : DeliveryAnswer} :
      state.calls.sessions.find? session = some (.running call) →
      (deliveryProgram maximumAttempts).instruction call.parameter call.phase =
        .commit answer →
      RecoveryCallStep maximumAttempts state (.loseAnswer session)
        { calls := state.calls.commit session
            (call.view state.calls.committed) call.parameter.lost
          reopened := state.reopened ++ reopenings state.calls.committed
            (call.view state.calls.committed) }

theorem recoveryCallStep_of_next {action : RecoveryAction}
    (taken : (recoverySystem maximumAttempts initially).next state action =
      some state') : RecoveryCallStep maximumAttempts state action state' := by
  change RecoveryState.next maximumAttempts state action = some state' at taken
  cases action with
  | call action =>
      obtain ⟨calls, stepped, rfl⟩ := Option.map_eq_some_iff.mp taken
      exact .called
        (@sessionStep_of_next _ _ _ _ _ _ _ (fun _ => True) _ _ _ stepped)
  | disconnect session =>
      simp only [RecoveryState.next] at taken
      split at taken
      · rename_i call found
        cases taken
        exact .disconnected found
      · cases taken
  | loseAnswer session =>
      simp only [RecoveryState.next] at taken
      split at taken
      · rename_i call found
        split at taken
        · rename_i answer commits
          cases taken
          exact .answerLost found commits
        · cases taken
        · cases taken
      · cases taken

/-- What holds of the running calls in every run. -/
structure RecoveryRun (maximumAttempts : Nat) (state : RecoveryState) :
    Prop where
  exclusive : state.calls.LocksExclusive
  orderly : ∀ session call,
    state.calls.sessions.find? session = some (.running call) →
    OrderlyDelivery maximumAttempts state.calls.committed call

theorem RecoveryRun.called {action : SessionAction DeliveryTransaction}
    {calls : DeliveryCalls} {reopened : List Reopening}
    (run : RecoveryRun maximumAttempts state)
    (step : SessionStep (deliveryProgram maximumAttempts) state.calls action
      calls) :
    RecoveryRun maximumAttempts
      { calls := calls
        reopened := reopened } := by
  refine ⟨step.locksExclusive run.exclusive, ?_⟩
  apply Sessions.RunningMeet.step (J := OrderlyDelivery maximumAttempts)
    run.orderly run.exclusive ?_ ?_ ?_ step
  · intro transaction
    exact DeliveryProgress.starting
  · intro call lock write next orderly instruction
    exact orderly.execute instruction
  · intro ending call answer ended instruction orderly apart
    have commit := ended.deliveryCommit instruction
    apply orderly.commit
    · intro outboundMessageId row held
      exact commit.find?_message (apart _ held)
    · intro recoveryId held
      exact commit.find?_recovery (apart _ held)
    · intro recoveryId row found
      exact commit.becomes found

theorem RecoveryRun.endSession {reopened : List Reopening}
    (run : RecoveryRun maximumAttempts state) (session : SessionId)
    (answer : DeliveryAnswer) :
    RecoveryRun maximumAttempts
      { calls := state.calls.setSession session (.ended answer)
        reopened := reopened } :=
  ⟨run.exclusive.endSession _ _,
    Sessions.RunningMeet.endSession run.orderly _ _⟩

theorem RecoveryRun.next {action : RecoveryAction}
    (run : RecoveryRun maximumAttempts state)
    (step : RecoveryCallStep maximumAttempts state action state') :
    RecoveryRun maximumAttempts state' := by
  cases step with
  | called step => exact run.called step
  | disconnected => exact run.endSession _ _
  | @answerLost session call answer present commits =>
      have answered := @RecoveryRun.called _ _ _ _ state.reopened run
        (.committed present commits)
      have ended := @RecoveryRun.endSession _ _ (state.reopened ++ reopenings
        state.calls.committed (call.view state.calls.committed)) answered
        session call.parameter.lost
      rw [Sessions.setSession_commit] at ended
      exact ended

theorem reachable_recoveryRun
    (reached : (recoverySystem maximumAttempts initially).Reachable state) :
    RecoveryRun maximumAttempts state := by
  refine System.Reachable.invariant ?_ ?_ reached
  · rintro state ⟨db, _, rfl⟩
    refine ⟨?_, ?_⟩
    · intro session call lock found
      cases found
    · intro session call found
      cases found
  · intro state action state' _ run taken
    exact run.next (recoveryCallStep_of_next taken)

/-- The call that takes a step. -/
def RecoveryAction.session : RecoveryAction → SessionId
  | .call (.start session _) | .call (.step session)
  | .disconnect session | .loseAnswer session => session

/-- A step changes nothing or is the commit of a call. -/
theorem RecoveryRun.step_cases {action : RecoveryAction}
    (run : RecoveryRun maximumAttempts state)
    (step : RecoveryCallStep maximumAttempts state action state') :
    (state'.calls.committed = state.calls.committed ∧
        state'.reopened = state.reopened) ∨
      ∃ session call answer, action.session = session ∧
        state.calls.sessions.find? session = some (.running call) ∧
        (action = .loseAnswer session ∨
          state'.calls.sessions.find? session = some (.ended answer)) ∧
        DeliveryCommit maximumAttempts state.calls.committed call.locks
          call.parameter answer state'.calls.committed ∧
        state'.reopened = state.reopened ++
          reopenings state.calls.committed state'.calls.committed := by
  cases step with
  | called step =>
      cases step with
      | started | executed | rolledBack =>
          left
          refine ⟨rfl, ?_⟩
          exact (congrArg (state.reopened ++ ·) reopenings_self).trans
            (List.append_nil _)
      | @committed session call answer present instruction =>
          right
          exact ⟨session, call, answer, rfl, present,
            .inr (Sessions.find?_setSession_self present),
            (run.orderly _ _ present).deliveryCommit instruction, rfl⟩
  | disconnected => exact .inl ⟨rfl, rfl⟩
  | @answerLost session call answer present instruction =>
      right
      exact ⟨session, call, answer, rfl, present, .inl rfl,
        (run.orderly _ _ present).deliveryCommit instruction, rfl⟩

/-- The recoveries account for the messages returned from a terminal failure,
one by one and in the same order. -/
def Audited (maximumAttempts : Nat) (state : RecoveryState) : Prop :=
  List.Forall₂ (Accounts maximumAttempts) state.reopened
    state.calls.committed.recoveries.rows

theorem reachable_audited
    (reached : (recoverySystem maximumAttempts
      (fun db => db.recoveries = .empty)).Reachable state) :
    Audited maximumAttempts state := by
  refine System.Reachable.invariant ?_ ?_ reached
  · rintro state ⟨db, none, rfl⟩
    simp only [Audited, none]
    exact .nil
  · intro state action state' earlier audited taken
    rcases (reachable_recoveryRun earlier).step_cases
        (recoveryCallStep_of_next taken) with
      ⟨same, none⟩ | ⟨session, call, answer, _, _, _, commit, added⟩
    · rw [Audited, same, none]
      exact audited
    · rw [Audited, added]
      exact commit.accounts audited

/-- What becomes of the recoveries in a replay. -/
theorem recoveries_become
    (reached : (recoverySystem maximumAttempts initially).Reachable state)
    {actions : List RecoveryAction}
    (ran : (recoverySystem maximumAttempts initially).run state actions =
      some state') {recoveryId : TelegramDeliveryRecoveryId}
    {row : DeliveryRecoveryRow}
    (found : state.calls.committed.recoveries.find? recoveryId = some row) :
    ∃ row', state'.calls.committed.recoveries.find? recoveryId = some row' ∧
      row.Becomes row' := by
  refine System.run_preserves (I := fun state =>
    ∃ row', state.calls.committed.recoveries.find? recoveryId = some row' ∧
      row.Becomes row') ?_ reached ⟨row, found, .inl rfl⟩ ran
  rintro state action state' earlier ⟨middle, found, becomes⟩ taken
  rcases (reachable_recoveryRun earlier).step_cases
      (recoveryCallStep_of_next taken) with
    ⟨same, _⟩ | ⟨_, _, _, _, _, _, commit, _⟩
  · rw [same]
    exact ⟨middle, found, becomes⟩
  · obtain ⟨last, present, later⟩ := commit.becomes found
    exact ⟨last, present, becomes.trans later⟩

/-- A call changes the tables with its step. -/
def Changes (system : System RecoveryState RecoveryAction)
    (session : SessionId) (state : RecoveryState) (action : RecoveryAction) :
    Prop :=
  action.session = session ∧ ∃ state',
    system.next state action = some state' ∧
      state'.calls.committed ≠ state.calls.committed

/-- A preparation that is running, or a call that has ended. -/
def PreparesOrEnded (session : SessionId) (state : RecoveryState) : Prop :=
  (∃ call input, state.calls.sessions.find? session = some (.running call) ∧
      call.parameter = .prepare input) ∨
    ∃ answer, state.calls.sessions.find? session = some (.ended answer)

theorem RecoveryCallStep.ended {action : RecoveryAction} {session : SessionId}
    {answer : DeliveryAnswer}
    (step : RecoveryCallStep maximumAttempts state action state')
    (found : state.calls.sessions.find? session = some (.ended answer)) :
    state'.calls.sessions.find? session = some (.ended answer) := by
  cases step with
  | called step => exact step.ended found
  | @disconnected disconnected call present =>
      rw [Sessions.find?_setSession_of_ne]
      · exact found
      · rintro rfl
        rw [found] at present
        cases present
  | @answerLost lost call answer present =>
      rw [Sessions.commit, Sessions.find?_setSession_of_ne]
      · exact found
      · rintro rfl
        rw [found] at present
        cases present

private theorem preparesOrEnded_setSession {calls : DeliveryCalls}
    {session moved : SessionId} {call : DeliveryCall}
    {value : Session ChannelDatabase DeliveryLock DeliveryTransaction
      DeliveryPhase DeliveryAnswer} {reopened : List Reopening}
    (present : calls.sessions.find? moved = some (.running call))
    (continues : (∃ call', value = .running call' ∧
      call'.parameter = call.parameter) ∨ ∃ answer, value = .ended answer)
    (prepares : PreparesOrEnded session
      { calls := calls
        reopened := reopened }) :
    PreparesOrEnded session
      { calls := calls.setSession moved value
        reopened := reopened } := by
  by_cases same : session = moved
  · subst same
    have found := @Sessions.find?_setSession_self _ _ _ _ _ calls session value
      _ present
    rcases continues with ⟨call', rfl, parameter⟩ | ⟨answer, rfl⟩
    · rcases prepares with ⟨before, input, running, prepares⟩ | ⟨_, ended⟩
      · rw [present] at running
        cases running
        exact .inl ⟨call', input, found, parameter.trans prepares⟩
      · rw [present] at ended
        cases ended
    · exact .inr ⟨answer, found⟩
  · rcases prepares with ⟨before, input, running, prepares⟩ | ⟨answer, ended⟩
    · exact .inl ⟨before, input,
        (Sessions.find?_setSession_of_ne same).trans running, prepares⟩
    · exact .inr ⟨answer, (Sessions.find?_setSession_of_ne same).trans ended⟩

theorem RecoveryCallStep.preparesOrEnded {action : RecoveryAction}
    {session : SessionId}
    (step : RecoveryCallStep maximumAttempts state action state')
    (prepares : PreparesOrEnded session state) :
    PreparesOrEnded session state' := by
  obtain ⟨calls, reopened⟩ := state
  cases step with
  | called step =>
      cases step with
      | @started started _ absent =>
          have different : ∀ value,
              calls.sessions.find? session = some value →
              session ≠ started := by
            rintro value found rfl
            rw [absent] at found
            cases found
          rcases prepares with ⟨call, input, running, prepares⟩ | ⟨answer, ended⟩
          · refine .inl ⟨call, input, ?_, prepares⟩
            simp only [Table.find?_insertMissing,
              if_neg (different _ running)]
            exact running
          · refine .inr ⟨answer, ?_⟩
            simp only [Table.find?_insertMissing, if_neg (different _ ended)]
            exact ended
      | executed present =>
          exact preparesOrEnded_setSession present (.inl ⟨_, rfl, rfl⟩)
            prepares
      | rolledBack present =>
          exact preparesOrEnded_setSession present (.inr ⟨_, rfl⟩) prepares
      | @committed _ _ _ present =>
          exact @preparesOrEnded_setSession
            { calls with committed := _ } _ _ _ _ _ present (.inr ⟨_, rfl⟩)
            prepares
  | disconnected present =>
      exact preparesOrEnded_setSession present (.inr ⟨_, rfl⟩) prepares
  | answerLost present =>
      exact @preparesOrEnded_setSession
        { calls with committed := _ } _ _ _ _ _ present (.inr ⟨_, rfl⟩)
        prepares

/-- A preparation that changes the tables ends as prepared, unless its answer is
lost. -/
theorem RecoveryRun.prepared_of_changes {action : RecoveryAction}
    {session : SessionId} (run : RecoveryRun maximumAttempts state)
    (step : RecoveryCallStep maximumAttempts state action state')
    (prepares : PreparesOrEnded session state)
    (own : action.session = session)
    (changed : state'.calls.committed ≠ state.calls.committed)
    (answered : action ≠ .loseAnswer session) :
    ∃ prepared, state'.calls.sessions.find? session =
      some (.ended (.prepared (.prepared prepared))) := by
  rcases run.step_cases step with
    ⟨same, _⟩ | ⟨moved, call, answer, moves, running, seen, commit, _⟩
  · exact (changed same).elim
  · rw [own] at moves
    subst moves
    rcases seen with lost | ended
    · exact (answered lost).elim
    rcases prepares with ⟨before, input, present, parameter⟩ | ⟨_, present⟩
    · rw [running] at present
      cases present
      rw [parameter] at commit
      rcases commit.prepare with same | ⟨prepared, rfl⟩
      · exact (changed same).elim
      · exact ⟨prepared, ended⟩
    · rw [running] at present
      cases present

/-- The answer to the commit of a call is lost. -/
def LosesAnswer (session : SessionId) (_ : RecoveryState)
    (action : RecoveryAction) : Prop :=
  action = .loseAnswer session

theorem prepared_of_someStep {session : SessionId}
    (reached : (recoverySystem maximumAttempts initially).Reachable state)
    (prepares : PreparesOrEnded session state) {actions : List RecoveryAction}
    (ran : (recoverySystem maximumAttempts initially).run state actions =
      some state')
    (changes : (recoverySystem maximumAttempts initially).SomeStep
      (Changes (recoverySystem maximumAttempts initially) session) state
      actions)
    (answered : ¬ (recoverySystem maximumAttempts initially).SomeStep
      (LosesAnswer session) state actions) :
    ∃ prepared, state'.calls.sessions.find? session =
      some (.ended (.prepared (.prepared prepared))) := by
  refine (changes.and_not answered).holds_after
    (I := PreparesOrEnded session)
    (K := fun state => ∃ prepared, state.calls.sessions.find? session =
      some (.ended (.prepared (.prepared prepared)))) ?_ ?_ ?_ reached prepares
    ran
  · intro state action state' _ prepares taken
    exact (recoveryCallStep_of_next taken).preparesOrEnded prepares
  · rintro state action state' earlier prepares
      ⟨⟨own, next, steps, changed⟩, kept⟩ taken
    rw [taken] at steps
    cases steps
    exact (reachable_recoveryRun earlier).prepared_of_changes
      (recoveryCallStep_of_next taken) prepares own changed kept
  · rintro state action state' _ ⟨prepared, ended⟩ taken
    exact ⟨prepared, (recoveryCallStep_of_next taken).ended ended⟩

/-- A call whose answer was lost has failed. -/
theorem failed_of_losesAnswer {session : SessionId}
    (reached : (recoverySystem maximumAttempts initially).Reachable state)
    {actions : List RecoveryAction}
    (ran : (recoverySystem maximumAttempts initially).run state actions =
      some state')
    (lost : (recoverySystem maximumAttempts initially).SomeStep
      (LosesAnswer session) state actions) :
    ∃ failure, state'.calls.sessions.find? session =
      some (.ended (.failed failure)) := by
  refine lost.holds_after (I := fun _ => True)
    (K := fun state => ∃ failure, state.calls.sessions.find? session =
      some (.ended (.failed failure))) (fun _ _ _ _ _ _ => trivial) ?_ ?_
    reached trivial ran
  · rintro state action state' _ _ rfl taken
    cases recoveryCallStep_of_next taken with
    | answerLost present =>
        exact ⟨_, Sessions.find?_setSession_self present⟩
  · rintro state action state' _ ⟨failure, ended⟩ taken
    exact ⟨failure, (recoveryCallStep_of_next taken).ended ended⟩

/-- In every run the recoveries account one by one for the messages that were
returned from a terminal failure, each returned below the attempt limit and
with the error that its recovery names.  A recovery never changes except from
prepared to published.  A preparation changes no table if it is refused, or if
it fails and its commit was not carried out. -/
theorem delivery_recovery_audited
    (reached : (recoverySystem maximumAttempts
      (fun db => db.recoveries = .empty)).Reachable state) :
    Audited maximumAttempts state ∧
      ∀ actions state', (recoverySystem maximumAttempts
          (fun db => db.recoveries = .empty)).run state actions =
            some state' →
        (∀ recoveryId row,
          state.calls.committed.recoveries.find? recoveryId = some row →
          ∃ row', state'.calls.committed.recoveries.find? recoveryId =
            some row' ∧ row.Becomes row') ∧
        ∀ session call input answer,
          state.calls.sessions.find? session = some (.running call) →
          call.parameter = .prepare input →
          state'.calls.sessions.find? session = some (.ended answer) →
          ((∃ reason, answer = .prepared (.notRecoverable reason)) ∨
            (∃ failure, answer = .failed failure) ∧
              ¬ (recoverySystem maximumAttempts
                (fun db => db.recoveries = .empty)).SomeStep
                  (LosesAnswer session) state actions) →
          ¬ (recoverySystem maximumAttempts
            (fun db => db.recoveries = .empty)).SomeStep
              (Changes (recoverySystem maximumAttempts
                (fun db => db.recoveries = .empty)) session) state actions := by
  refine ⟨reachable_audited reached, ?_⟩
  intro actions state' ran
  constructor
  · intro recoveryId row found
    exact recoveries_become reached ran found
  · intro session call input answer running prepares ended refused changes
    have answered : ¬ (recoverySystem maximumAttempts
        (fun db => db.recoveries = .empty)).SomeStep (LosesAnswer session)
          state actions := by
      rcases refused with ⟨reason, rfl⟩ | ⟨_, kept⟩
      · intro lost
        obtain ⟨failure, failed⟩ := failed_of_losesAnswer reached ran lost
        rw [ended] at failed
        cases failed
      · exact kept
    obtain ⟨prepared, present⟩ := prepared_of_someStep reached
      (.inl ⟨call, input, running, prepares⟩) ran changes answered
    rw [ended] at present
    cases present
    rcases refused with ⟨reason, impossible⟩ | ⟨⟨failure, impossible⟩, _⟩
    · cases impossible
    · cases impossible

section Samples

/-- A reply that Telegram has rejected once. -/
def rejectedReply : OutboundMessageRow :=
  { inboundEventId := ⟨101⟩
    scope := none
    externalConversationId := ⟨"7001"⟩
    intent :=
      { purpose := .system
        content := .linkRequired
        actions := [.openWorkspace] }
    correlationId := ⟨9⟩
    status := .terminalFailure
    deliveryAttempts := 1
    lastErrorCode := some "telegram_http_400"
    terminalAt := some (.ofMillis 5001100) }

def rejectedReplyTables : ChannelDatabase :=
  { identity := sampleIdentityStart.database
    messages := Table.empty.insertMissing ⟨401⟩ rejectedReply
    outbox := Table.empty.insertMissing ⟨501⟩
      { inboundEventId := ⟨101⟩
        owner := none
        kind := .channelReplyRequested ⟨401⟩
        correlationId := ⟨9⟩
        createdAt := .ofMillis 5000100
        status := .published
        publishedAt := some (.ofMillis 5000100)
        nextPublishAttemptAt := .ofMillis 5000100 } }

def rejectedRecovery (recoveryId errorCode : String) :
    RecoverTelegramDeliveryInput :=
  { recoveryId := ⟨recoveryId⟩
    outboundMessageId := ⟨401⟩
    expectedErrorCode := errorCode
    reason := .recipientStateCorrected }

/-- A call that takes this many steps with no other one in between. -/
def runDeliveryCall (session : SessionId) (transaction : DeliveryTransaction)
    (steps : Nat) : List RecoveryAction :=
  .call (.start session transaction) ::
    List.replicate steps (.call (.step session))

/-- A recovery is published, its delivery is rejected again, and a second
recovery follows; a third one names another error. -/
def recoveredTwiceRun : List RecoveryAction :=
  runDeliveryCall 1
    (.prepare (rejectedRecovery "recovery-1" "telegram_http_400")) 5 ++
  runDeliveryCall 2 (.markPublished (channelClock 5002000) ⟨"recovery-1"⟩) 3 ++
  runDeliveryCall 3 (.claim (channelClock 5003000) 5003000
    defaultTelegramDeliveryPolicy ⟨601⟩ ⟨501⟩) 3 ++
  runDeliveryCall 4 (.complete (channelClock 5004000)
    { attemptId := ⟨601⟩
      outboundMessageId := ⟨401⟩
      outcome := .terminalFailure "telegram_http_403" }) 3 ++
  runDeliveryCall 5
    (.prepare (rejectedRecovery "recovery-2" "telegram_http_403")) 5 ++
  runDeliveryCall 6
    (.prepare (rejectedRecovery "recovery-3" "telegram_http_400")) 3

theorem delivery_recovery_audited_twice :
    ∃ state, (recoverySystem 3 (fun db => db.recoveries = .empty)).Reachable
        state ∧
      state.reopened.length = 2 ∧ Audited 3 state := by
  obtain ⟨state, reached, tested⟩ := System.exists_reachable_of_run
    recoveredTwiceRun (fun state => state.reopened.length = 2)
    (show (recoverySystem 3 (fun db => db.recoveries = .empty)).Initial
        { calls := { committed := rejectedReplyTables } } from ⟨_, rfl, rfl⟩)
    (by decide +kernel)
  exact ⟨state, reached, of_decide_eq_true tested,
    (delivery_recovery_audited reached).1⟩

/-- The answer with which a call has ended. -/
def RecoveryState.answer (state : RecoveryState) (session : SessionId) :
    Option DeliveryAnswer :=
  match state.calls.sessions.find? session with
  | some (.ended answer) => some answer
  | _ => none

theorem RecoveryState.ended_of_answer {state : RecoveryState}
    {session : SessionId} {answer : DeliveryAnswer}
    (answered : state.answer session = some answer) :
    state.calls.sessions.find? session = some (.ended answer) := by
  unfold RecoveryState.answer at answered
  split at answered
  · rename_i found
    cases answered
    exact found
  · cases answered

/-- The input of a preparation that is running. -/
def RecoveryState.preparing (state : RecoveryState) (session : SessionId) :
    Option RecoverTelegramDeliveryInput :=
  match state.calls.sessions.find? session with
  | some (.running call) =>
      match call.parameter with
      | .prepare input => some input
      | .markPublished _ _ | .claim _ _ _ _ _ | .complete _ _ | .other _ =>
          none
  | _ => none

/-- A preparation that has written everything and is about to commit. -/
def preparedRun : List RecoveryAction :=
  runDeliveryCall 1
    (.prepare (rejectedRecovery "recovery-1" "telegram_http_400")) 4

/-- The commit is carried out and its answer is lost: the preparation fails, and
the message was returned and the recovery recorded. -/
theorem failed_recovery_reopened :
    ∃ state state' failure row,
      (recoverySystem 3 (fun db => db.recoveries = .empty)).Reachable state ∧
        (recoverySystem 3 (fun db => db.recoveries = .empty)).next state
          (.loseAnswer 1) = some state' ∧
        state.preparing 1 =
          some (rejectedRecovery "recovery-1" "telegram_http_400") ∧
        state'.answer 1 = some (.failed failure) ∧
        state.calls.committed.messages.find? ⟨401⟩ = some row ∧
        row.status = .terminalFailure ∧
        state'.calls.committed.messages.find? ⟨401⟩ = some row.reopen ∧
        state.calls.committed.recoveries.find? ⟨"recovery-1"⟩ = none ∧
        (state'.calls.committed.recoveries.find? ⟨"recovery-1"⟩).isSome =
          true := by
  obtain ⟨state, reached, tested⟩ := System.exists_reachable_of_run
    preparedRun
    (fun state =>
      state.preparing 1 =
        some (rejectedRecovery "recovery-1" "telegram_http_400") &&
      state.calls.committed.messages.find? ⟨401⟩ = some rejectedReply &&
      (state.calls.committed.recoveries.find? ⟨"recovery-1"⟩).isNone &&
      (RecoveryState.next 3 state (.loseAnswer 1)).any (fun state' =>
        state'.answer 1 = some (.failed (.persistenceUnavailable
          .prepareTelegramDeliveryRecovery)) &&
        state'.calls.committed.messages.find? ⟨401⟩ =
          some rejectedReply.reopen &&
        (state'.calls.committed.recoveries.find? ⟨"recovery-1"⟩).isSome))
    (show (recoverySystem 3 (fun db => db.recoveries = .empty)).Initial
        { calls := { committed := rejectedReplyTables } } from ⟨_, rfl, rfl⟩)
    (by decide +kernel)
  simp only [Bool.and_eq_true, decide_eq_true_eq, Option.any_eq_true,
    Option.isNone_iff_eq_none] at tested
  obtain ⟨⟨⟨preparing, found⟩, absent⟩, state', taken, ⟨failed, returned⟩,
    recorded⟩ := tested
  exact ⟨state, state', _, rejectedReply, reached, taken, preparing, failed,
    found, rfl, returned, absent, recorded⟩

end Samples

end Runs

end XpensGo
