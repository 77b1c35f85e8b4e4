import XpensGo.Channel.RecoveryAudit

/-!
# Repeated recoveries

Any number of calls of `recoverTelegramDelivery` with one recovery identifier
and one input.  Their publications may fail, so a recorded publication follows
a preparation or does not.

A call looks for a recovery before it waits for the message.  As long as no
call gets the message after a recovery was created, all calls are answered
alike: until then they find nothing, and then they resume.
-/

namespace XpensGo

open Postgres Relational Transition ChannelDatabase

/-- What holds of the answers of the ended calls and of the phases of the
running ones. -/
structure CallsMeet (ended : DeliveryAnswer → Prop)
    (running : DeliveryPhase → Prop) (calls : DeliveryCalls) : Prop where
  ended : ∀ session answer,
    calls.sessions.find? session = some (.ended answer) → ended answer
  running : ∀ session call,
    calls.sessions.find? session = some (.running call) → running call.phase

section Repetition

variable (maximumAttempts : Nat) (input : RecoverTelegramDeliveryInput)

/-- The transactions of a call that recovers a delivery with this input. -/
def DeliveryTransaction.Repeats (transaction : DeliveryTransaction) : Prop :=
  transaction = .prepare input ∨
    ∃ clock, transaction = .markPublished clock input.recoveryId

/-- A step of these calls. -/
def RecoveryAction.Repeats : RecoveryAction → Prop
  | .call (.start _ transaction) => transaction.Repeats input
  | .call (.step _) => True
  | .disconnect _ | .loseAnswer _ => False

/-- A call that has found no recovery does not get the message after one was
created. -/
def LocksInTime (state : RecoveryState) (action : RecoveryAction) : Prop :=
  ∀ session call, action = .call (.step session) →
    state.calls.sessions.find? session = some (.running call) →
    call.phase = .lockingMessage →
    state.calls.committed.recoveries.find? input.recoveryId = none

/-- If a preparation was answered that it is prepared, every other one was, for
the same outbox message; there is one recovery and one message was reset. -/
def RepeatedSafely (start : ChannelDatabase) (state : RecoveryState) : Prop :=
  ∀ session prepared,
    state.calls.sessions.find? session =
      some (.ended (.prepared (.prepared prepared))) →
    (∀ other answer,
      state.calls.sessions.find? other = some (.ended answer) →
      (∃ outcome, answer = .marked outcome) ∨
        ∃ again, answer = .prepared (.prepared again) ∧
          again.outboxMessageId = prepared.outboxMessageId) ∧
    (∃ row, state.calls.committed.recoveries.rows =
        start.recoveries.rows ++ [(input.recoveryId, row)] ∧
      row.Records input prepared.outboxMessageId) ∧
    ∃ row, state.reopened =
      [{ outboundMessageId := input.outboundMessageId
         row := row }]

/-- The calls with one input on given tables. -/
def repetitionSystem (start : ChannelDatabase) :
    System RecoveryState RecoveryAction :=
  recoverySystem maximumAttempts (fun db => db = start)

/-- The message can be recovered. -/
def RecoveryEligible (start : ChannelDatabase) : Prop :=
  (start.replyOutbox input.outboundMessageId).isSome = true ∧
    ReplyReopenable maximumAttempts input start

/-- The phases before a recovery was created. -/
def DeliveryPhase.Seeks (start : ChannelDatabase) : DeliveryPhase → Prop
  | .starting | .lockingMessage => True
  | .resetting _ _ | .recording _ _
  | .committing (.prepared (.prepared _)) =>
      (start.replyOutbox input.outboundMessageId).isSome = true
  | .committing (.prepared (.notRecoverable _)) | .failing _ =>
      ¬ RecoveryEligible maximumAttempts input start
  | .committing (.marked outcome) => outcome = .notFound
  | .claiming _ _ | .completing | .marking | .committing (.claimed _)
  | .committing .completed | .committing .written
  | .committing (.failed _) => False

/-- The phases after a recovery was created. -/
def DeliveryPhase.Resumes (outboxMessageId : OutboxMessageId) :
    DeliveryPhase → Prop
  | .starting | .lockingMessage | .marking | .committing (.marked _) => True
  | .committing (.prepared (.prepared prepared)) =>
      prepared.outboxMessageId = outboxMessageId
  | .resetting _ _ | .recording _ _ | .failing _ | .claiming _ _
  | .completing | .committing (.prepared (.notRecoverable _))
  | .committing (.claimed _) | .committing .completed | .committing .written
  | .committing (.failed _) => False

/-- The answers before a recovery was created. -/
def DeliveryAnswer.Seeks (start : ChannelDatabase)
    (answer : DeliveryAnswer) : Prop :=
  answer = .marked .notFound ∨
    ((∀ prepared, answer ≠ .prepared (.prepared prepared)) ∧
      ¬ RecoveryEligible maximumAttempts input start)

/-- The answers after a recovery was created. -/
def DeliveryAnswer.Resumes (outboxMessageId : OutboxMessageId)
    (answer : DeliveryAnswer) : Prop :=
  (∃ outcome, answer = .marked outcome) ∨
    ∃ prepared, answer = .prepared (.prepared prepared) ∧
      prepared.outboxMessageId = outboxMessageId

/-- No recovery was created so far. -/
structure Seeking (start : ChannelDatabase) (state : RecoveryState) :
    Prop where
  committed : state.calls.committed = start
  reopened : state.reopened = []
  calls : CallsMeet (DeliveryAnswer.Seeks maximumAttempts input start)
    (DeliveryPhase.Seeks maximumAttempts input start) state.calls

/-- The recovery was created. -/
structure Resuming (start : ChannelDatabase)
    (outboxMessageId : OutboxMessageId) (state : RecoveryState) : Prop where
  recorded : ∃ row, state.calls.committed.recoveries.rows =
      start.recoveries.rows ++ [(input.recoveryId, row)] ∧
    row.Records input outboxMessageId
  pending : ∃ row,
    state.calls.committed.messages.find? input.outboundMessageId = some row ∧
      row.status = .pending
  reopened : ∃ row, state.reopened =
    [{ outboundMessageId := input.outboundMessageId
       row := row }]
  calls : CallsMeet (DeliveryAnswer.Resumes outboxMessageId)
    (DeliveryPhase.Resumes outboxMessageId) state.calls

/-- What holds of the calls in every run without a late lock. -/
structure Repeating (start : ChannelDatabase) (state : RecoveryState) :
    Prop where
  transactions : ∀ session call,
    state.calls.sessions.find? session = some (.running call) →
    call.parameter.Repeats input
  stage : Seeking maximumAttempts input start state ∨
    ∃ outboxMessageId, Resuming input start outboxMessageId state

end Repetition

theorem DeliveryTransaction.Repeats.undelivered
    {input : RecoverTelegramDeliveryInput} {transaction : DeliveryTransaction}
    (repeats : transaction.Repeats input) : transaction.delivers = false := by
  rcases repeats with rfl | ⟨clock, rfl⟩ <;> rfl

section Statements

variable {maximumAttempts : Nat} {input : RecoverTelegramDeliveryInput}
  {start committed : ChannelDatabase} {call : DeliveryCall}
  {lock : ChannelDatabase → Option DeliveryLock}
  {write : ChannelDatabase → ChannelDatabase}
  {next : ChannelDatabase → DeliveryPhase}

/-- A recordable message is recorded. -/
theorem insertRecovery_isSome {outboxMessageId : OutboxMessageId}
    {correlationId : CorrelationId}
    (reopenable : ReplyReopenable maximumAttempts input committed)
    (absent : committed.recoveries.find? input.recoveryId = none) :
    ((resetMessage input committed).insertRecovery input.recoveryId
      (newRecovery input outboxMessageId correlationId)).isSome = true := by
  have fresh := Table.find?_eq_none_iff.mp absent
  rw [resetMessage_eq reopenable,
    @insertRecovery_of_fresh (committed.setMessage _ _) input.recoveryId
      (newRecovery input outboxMessageId correlationId) rfl fresh]
  rfl

private theorem seeks_afterLock :
    (DeliveryPhase.afterLock maximumAttempts input
      (start.messages.find? input.outboundMessageId)
      (start.replyOutbox input.outboundMessageId)).Seeks maximumAttempts input
        start := by
  cases requested : start.replyOutbox input.outboundMessageId with
  | none =>
      have unavailable : ¬ RecoveryEligible maximumAttempts input start := by
        rintro ⟨available, _⟩
        rw [requested] at available
        cases available
      cases start.messages.find? input.outboundMessageId with
      | none => exact unavailable
      | some row => exact unavailable
  | some outbox =>
      cases found : start.messages.find? input.outboundMessageId with
      | none =>
          rintro ⟨_, row, present, _⟩
          rw [found] at present
          cases present
      | some row =>
          simp only [DeliveryPhase.afterLock]
          cases refused : notRecoverable input maximumAttempts row with
          | some reason =>
              rintro ⟨_, row', present, recoverable, _⟩
              rw [found] at present
              cases present
              rw [refused] at recoverable
              cases recoverable
          | none =>
              simp only [DeliveryPhase.Seeks, requested]
              rfl

private theorem seeks_afterReset {outboxMessageId : OutboxMessageId}
    {correlationId : CorrelationId}
    (requested : (start.replyOutbox input.outboundMessageId).isSome = true) :
    (if (start.updateMessage input.outboundMessageId
        OutboundMessageRow.reopen).isSome then
      DeliveryPhase.recording outboxMessageId correlationId
    else
      .failing (.persistenceUnavailable
        .prepareTelegramDeliveryRecovery)).Seeks maximumAttempts input
          start := by
  split
  · exact requested
  · rename_i violated
    rintro ⟨_, reopenable⟩
    rw [updateMessage_of_reopenable reopenable] at violated
    exact violated rfl

private theorem seeks_afterRecord {outboxMessageId : OutboxMessageId}
    {correlationId : CorrelationId}
    (unused : start.recoveries.find? input.recoveryId = none)
    (reopenable : ReplyReopenable maximumAttempts input start)
    (requested : (start.replyOutbox input.outboundMessageId).isSome = true) :
    (if ((resetMessage input start).insertRecovery input.recoveryId
        (newRecovery input outboxMessageId correlationId)).isSome then
      DeliveryPhase.committing (.prepared (.prepared
        { publicationStatus := .prepared
          outboxMessageId := outboxMessageId
          correlationId := correlationId }))
    else
      .failing (.persistenceUnavailable
        .prepareTelegramDeliveryRecovery)).Seeks maximumAttempts input
          start := by
  rw [if_pos (insertRecovery_isSome reopenable unused)]
  exact requested

/-- A statement of a call while there is no recovery. -/
theorem seeks_execute
    (unused : start.recoveries.find? input.recoveryId = none)
    (repeats : call.parameter.Repeats input)
    (orderly : OrderlyDelivery maximumAttempts start call)
    (seeks : call.phase.Seeks maximumAttempts input start)
    (instruction : (deliveryProgram maximumAttempts).instruction
      call.parameter call.phase = .statement lock write next) :
    (call.execute start lock write next).phase.Seeks maximumAttempts input
      start := by
  obtain ⟨transaction, phase, writes, locks⟩ := call
  cases orderly with
  | answered | failing | refused | resumed | recorded | unmarked | marked
  | claimed | completed | written => simp [deliveryProgram] at instruction
  | marking | claiming | completing => exact seeks.elim
  | starting =>
      rcases repeats with rfl | ⟨clock, rfl⟩
      · cases instruction
        simp only [Transaction.execute, Transaction.view, id, unused]
        trivial
      · cases instruction
        simp only [Transaction.execute, Transaction.view, id, unused]
        rfl
  | lockingMessage =>
      rcases repeats with same | ⟨clock, other⟩
      · cases same
        cases instruction
        exact seeks_afterLock
      · cases other
  | resetting locked recoverable =>
      rcases repeats with same | ⟨clock, other⟩
      · cases same
        cases instruction
        exact seeks_afterReset seeks
      · cases other
  | recording locked reopenable =>
      rcases repeats with same | ⟨clock, other⟩
      · cases same
        cases instruction
        exact seeks_afterRecord unused reopenable seeks
      · cases other

private theorem markPublished_isOk (clock : DatabaseClock)
    (recoveryId : TelegramDeliveryRecoveryId) :
    ∃ outcome db, markTelegramDeliveryRecoveryPublished clock recoveryId
      committed = .ok (outcome, db) := by
  unfold markTelegramDeliveryRecoveryPublished
  split
  · exact ⟨_, _, rfl⟩
  · split
    · exact ⟨_, _, rfl⟩
    · rw [Table.modify?_eq_some_iff.mpr ⟨fun _ _ => rfl, rfl⟩]
      exact ⟨_, _, rfl⟩

/-- A statement of a call after the recovery was created. -/
theorem resumes_execute {row : DeliveryRecoveryRow}
    {outboxMessageId : OutboxMessageId}
    (found : committed.recoveries.find? input.recoveryId = some row)
    (records : row.Records input outboxMessageId)
    (repeats : call.parameter.Repeats input)
    (orderly : OrderlyDelivery maximumAttempts committed call)
    (resumes : call.phase.Resumes outboxMessageId)
    (inTime : call.phase ≠ .lockingMessage)
    (instruction : (deliveryProgram maximumAttempts).instruction
      call.parameter call.phase = .statement lock write next) :
    (call.execute committed lock write next).phase.Resumes outboxMessageId := by
  obtain ⟨transaction, phase, writes, locks⟩ := call
  cases orderly with
  | answered | failing | refused | resumed | recorded | unmarked | marked
  | claimed | completed | written => simp [deliveryProgram] at instruction
  | claiming | completing | resetting | recording => exact resumes.elim
  | lockingMessage => exact (inTime rfl).elim
  | starting =>
      rcases repeats with rfl | ⟨clock, rfl⟩
      · cases instruction
        obtain ⟨message, errorCode, reason, outbox⟩ := records
        simp only [Transaction.execute, Transaction.view, id, found,
          DeliveryPhase.afterLookup, resumeRecovery, message, errorCode,
          reason]
        simpa [DeliveryPhase.Resumes] using outbox
      · cases instruction
        simp only [Transaction.execute, Transaction.view, id, found]
        trivial
  | @marking clock recoveryId =>
      cases instruction
      obtain ⟨outcome, db, ran⟩ := @markPublished_isOk committed clock recoveryId
      change DeliveryPhase.Resumes outboxMessageId (DeliveryPhase.after .marked
        (markTelegramDeliveryRecoveryPublished clock recoveryId committed))
      rw [ran]
      trivial

end Statements

section Runs

variable {maximumAttempts : Nat} {input : RecoverTelegramDeliveryInput}
  {start : ChannelDatabase} {state state' : RecoveryState}
  {session : SessionId} {call : DeliveryCall}

section Calls

variable {ended : DeliveryAnswer → Prop} {running : DeliveryPhase → Prop}
  {calls : DeliveryCalls}

theorem CallsMeet.insert {transaction : DeliveryTransaction}
    (meets : CallsMeet ended running calls)
    (absent : calls.sessions.find? session = none)
    (starting : running .starting) :
    CallsMeet ended running
      { calls with
        sessions := calls.sessions.insertMissing session (.running
          { parameter := transaction
            phase := .starting
            writes := id
            locks := [] }) } where
  ended := by
    intro other answer found
    rcases Sessions.find?_start absent found with ⟨_, same⟩ | ⟨_, before⟩
    · cases same
    · exact meets.ended other answer before
  running := by
    intro other call found
    rcases Sessions.find?_start absent found with ⟨_, same⟩ | ⟨_, before⟩
    · cases same
      exact starting
    · exact meets.running other call before

theorem CallsMeet.setRunning (meets : CallsMeet ended running calls)
    (met : running call.phase) :
    CallsMeet ended running (calls.setSession session (.running call)) where
  ended := by
    intro other answer found
    rcases Sessions.find?_setSession found with ⟨_, same⟩ | ⟨_, before⟩
    · cases same
    · exact meets.ended other answer before
  running := by
    intro other running found
    rcases Sessions.find?_setSession found with ⟨_, same⟩ | ⟨_, before⟩
    · cases same
      exact met
    · exact meets.running other running before

theorem CallsMeet.setEnded {answer : DeliveryAnswer}
    (meets : CallsMeet ended running calls) (met : ended answer) :
    CallsMeet ended running (calls.setSession session (.ended answer)) where
  ended := by
    intro other answer found
    rcases Sessions.find?_setSession found with ⟨_, same⟩ | ⟨_, before⟩
    · cases same
      exact met
    · exact meets.ended other answer before
  running := by
    intro other running found
    rcases Sessions.find?_setSession found with ⟨_, same⟩ | ⟨_, before⟩
    · cases same
    · exact meets.running other running before

theorem CallsMeet.commit {answer : DeliveryAnswer} {db : ChannelDatabase}
    (meets : CallsMeet ended running calls) (met : ended answer) :
    CallsMeet ended running (calls.commit session db answer) := by
  have written : CallsMeet ended running { calls with committed := db } :=
    ⟨meets.ended, meets.running⟩
  exact written.setEnded met

end Calls

/-- Before a recovery was created, a call that does not hold the message is at
a phase that suits a later recovery as well. -/
theorem resumes_of_seeks {outboxMessageId : OutboxMessageId}
    (unused : start.recoveries.find? input.recoveryId = none)
    (repeats : call.parameter.Repeats input)
    (orderly : OrderlyDelivery maximumAttempts start call)
    (eligible : RecoveryEligible maximumAttempts input start)
    (seeks : call.phase.Seeks maximumAttempts input start)
    (unlocked : .message input.outboundMessageId ∉ call.locks) :
    call.phase.Resumes outboxMessageId := by
  obtain ⟨transaction, phase, writes, locks⟩ := call
  have same : ∀ other, transaction = .prepare other → other = input := by
    rintro other rfl
    rcases repeats with same | ⟨clock, other⟩
    · cases same
      rfl
    · cases other
  have undelivered : transaction.delivers = false := repeats.undelivered
  cases orderly with
  | starting | lockingMessage | unmarked | marked | marking => trivial
  | answered delivers =>
      rw [undelivered] at delivers
      cases delivers
  | claiming | claimed | completing | completed => cases undelivered
  | written =>
      rcases repeats with other | ⟨clock, other⟩
      · cases other
      · cases other
  | failing | refused => exact (seeks eligible).elim
  | resumed found =>
      cases same _ rfl
      rw [unused] at found
      cases found
  | resetting locked | recording locked | recorded locked =>
      cases same _ rfl
      exact (unlocked locked).elim

/-- The preparation that creates the recovery. -/
theorem Seeking.record {outboxMessageId : OutboxMessageId}
    {correlationId : CorrelationId} {row : OutboundMessageRow}
    (seeking : Seeking maximumAttempts input start state)
    (run : RecoveryRun maximumAttempts state)
    (transactions : ∀ session call,
      state.calls.sessions.find? session = some (.running call) →
      call.parameter.Repeats input)
    (unused : start.recoveries.find? input.recoveryId = none)
    (present : state.calls.sessions.find? session = some (.running call))
    (recorded : call.phase = .committing (.prepared (.prepared
      { publicationStatus := .prepared
        outboxMessageId := outboxMessageId
        correlationId := correlationId })))
    (eligible : RecoveryEligible maximumAttempts input start)
    (locked : .message input.outboundMessageId ∈ call.locks)
    (found : start.messages.find? input.outboundMessageId = some row)
    (failed : row.status = .terminalFailure) {db : ChannelDatabase}
    (messages : db.messages = start.messages.modify input.outboundMessageId
      OutboundMessageRow.reopen)
    (recoveries : db.recoveries.rows = start.recoveries.rows ++
      [(input.recoveryId, newRecovery input outboxMessageId correlationId)]) :
    Resuming input start outboxMessageId
      { calls := state.calls.commit session db (.prepared (.prepared
          { publicationStatus := .prepared
            outboxMessageId := outboxMessageId
            correlationId := correlationId }))
        reopened := state.reopened ++ reopenings state.calls.committed db } where
  recorded := ⟨_, recoveries, rfl, rfl, rfl, rfl⟩
  pending := by
    refine ⟨row.reopen, ?_, rfl⟩
    change db.messages.find? _ = _
    rw [messages, Table.find?_modify_self, found]
    rfl
  reopened := by
    refine ⟨row, ?_⟩
    change state.reopened ++ reopenings state.calls.committed db = _
    rw [seeking.reopened, seeking.committed,
      reopenings_reopen found failed messages]
    rfl
  calls := by
    apply CallsMeet.setEnded
    · constructor
      · intro other answer ended
        rcases seeking.calls.ended other answer ended with
          rfl | ⟨_, ineligible⟩
        · exact .inl ⟨_, rfl⟩
        · exact (ineligible eligible).elim
      · intro other running found
        by_cases same : other = session
        · subst same
          change state.calls.sessions.find? _ = _ at found
          rw [present] at found
          cases found
          rw [recorded]
          rfl
        · have orderly := run.orderly other running found
          rw [seeking.committed] at orderly
          exact resumes_of_seeks unused (transactions other running found)
            orderly eligible (seeking.calls.running other running found)
            (run.exclusive session call _ present locked other running same
              found)
    · exact .inr ⟨_, rfl, rfl⟩

private theorem Seeking.commit {answer : DeliveryAnswer}
    (seeking : Seeking maximumAttempts input start state)
    (run : RecoveryRun maximumAttempts state)
    (transactions : ∀ session call,
      state.calls.sessions.find? session = some (.running call) →
      call.parameter.Repeats input)
    (unused : start.recoveries.find? input.recoveryId = none)
    (present : state.calls.sessions.find? session = some (.running call))
    (instruction : (deliveryProgram maximumAttempts).instruction
      call.parameter call.phase = .commit answer) :
    Seeking maximumAttempts input start
        { calls := state.calls.commit session
            (call.view state.calls.committed) answer
          reopened := state.reopened ++ reopenings state.calls.committed
            (call.view state.calls.committed) } ∨
      ∃ outboxMessageId, Resuming input start outboxMessageId
        { calls := state.calls.commit session
            (call.view state.calls.committed) answer
          reopened := state.reopened ++ reopenings state.calls.committed
            (call.view state.calls.committed) } := by
  have orderly := run.orderly session call present
  have phase := orderly.phase_of_commit instruction
  have seeks := seeking.calls.running session call present
  have commit := orderly.deliveryCommit instruction
  have repeats := transactions session call present
  have unchanged : call.view state.calls.committed = state.calls.committed →
      answer.Seeks maximumAttempts input start →
      Seeking maximumAttempts input start
        { calls := state.calls.commit session
            (call.view state.calls.committed) answer
          reopened := state.reopened ++ reopenings state.calls.committed
            (call.view state.calls.committed) } := by
    intro same answered
    rw [same, reopenings_self, List.append_nil]
    exact
      { committed := seeking.committed
        reopened := seeking.reopened
        calls := seeking.calls.setEnded answered }
  rw [phase] at seeks
  generalize view : call.view state.calls.committed = db at commit unchanged ⊢
  generalize parameter : call.parameter = transaction at commit repeats
  cases commit with
  | unchanged delivers | delivered delivers =>
      rw [repeats.undelivered] at delivers
      cases delivers
  | other =>
      rcases repeats with other | ⟨clock, other⟩
      · cases other
      · cases other
  | unmarked =>
      cases seeks
      exact .inl (unchanged rfl (.inl rfl))
  | refused =>
      refine .inl (unchanged rfl (.inr ⟨?_, seeks⟩))
      intro prepared
      simp
  | resumed found =>
      rcases repeats with same | ⟨clock, other⟩
      · cases same
        rw [seeking.committed, unused] at found
        cases found
      · cases other
  | published _ found =>
      rcases repeats with other | ⟨clock, same⟩
      · cases other
      · cases same
        rw [seeking.committed, unused] at found
        cases found
  | @reopened _ row outboxMessageId correlationId fresh locked reserved found
      recoverable legal =>
      rcases repeats with same | ⟨clock, other⟩
      · cases same
        rw [seeking.committed] at found
        have eligible : RecoveryEligible maximumAttempts input start :=
          ⟨seeks, row, found, recoverable, legal⟩
        have failed := (notRecoverable_eq_none.mp recoverable).1
        refine .inr ⟨outboxMessageId, seeking.record run transactions unused
          present phase eligible locked found failed ?_ ?_⟩
        · simp only [seeking.committed]
        · simp only [Table.push, seeking.committed]
      · cases other

/-- A step before a recovery was created. -/
theorem Seeking.next {action : RecoveryAction}
    (seeking : Seeking maximumAttempts input start state)
    (run : RecoveryRun maximumAttempts state)
    (transactions : ∀ session call,
      state.calls.sessions.find? session = some (.running call) →
      call.parameter.Repeats input)
    (unused : start.recoveries.find? input.recoveryId = none)
    (repeats : action.Repeats input)
    (step : RecoveryCallStep maximumAttempts state action state') :
    Seeking maximumAttempts input start state' ∨
      ∃ outboxMessageId, Resuming input start outboxMessageId state' := by
  have unreopened : state.reopened ++
      reopenings state.calls.committed state.calls.committed = [] := by
    rw [reopenings_self, seeking.reopened]
    rfl
  cases step with
  | called step =>
      cases step with
      | started absent =>
          exact .inl
            { committed := seeking.committed
              reopened := unreopened
              calls := seeking.calls.insert absent trivial }
      | @executed session call lock write next present instruction =>
          have orderly := run.orderly session call present
          have seeks := seeking.calls.running session call present
          rw [seeking.committed] at orderly
          have phase := seeks_execute unused
            (transactions session call present) orderly seeks instruction
          refine .inl
            { committed := seeking.committed
              reopened := unreopened
              calls := seeking.calls.setRunning ?_ }
          rw [seeking.committed]
          exact phase
      | @rolledBack session call answer present instruction =>
          obtain ⟨failure, phase, rfl⟩ :=
            (run.orderly session call present).phase_of_rollback instruction
          have seeks := seeking.calls.running session call present
          rw [phase] at seeks
          refine .inl
            { committed := seeking.committed
              reopened := unreopened
              calls := seeking.calls.setEnded (.inr ⟨?_, seeks⟩) }
          intro prepared
          simp
      | committed present instruction =>
          exact seeking.commit run transactions unused present instruction
  | disconnected | answerLost => exact repeats.elim

theorem Resuming.find? {outboxMessageId : OutboxMessageId}
    (resuming : Resuming input start outboxMessageId state) :
    ∃ row, state.calls.committed.recoveries.find? input.recoveryId =
      some row ∧ row.Records input outboxMessageId := by
  obtain ⟨row, rows, records⟩ := resuming.recorded
  refine ⟨row, Table.find?_eq_some_iff_mem.mpr ?_, records⟩
  rw [rows]
  simp

private theorem Resuming.publish {outboxMessageId : OutboxMessageId}
    (resuming : Resuming input start outboxMessageId state)
    (unused : start.recoveries.find? input.recoveryId = none)
    (clock : DatabaseClock) :
    ∃ row, (state.calls.committed.publishRecovery clock
        input.recoveryId).recoveries.rows =
          start.recoveries.rows ++ [(input.recoveryId, row)] ∧
      row.Records input outboxMessageId := by
  obtain ⟨row, rows, records⟩ := resuming.recorded
  refine ⟨_, Table.modify_rows _ rows ?_ (by simp), ?_⟩
  · rintro entry member same
    exact Table.find?_eq_none_iff.mp unused
      (List.mem_map.mpr ⟨entry, member, same⟩)
  · exact records

private theorem Resuming.commit {answer : DeliveryAnswer}
    {outboxMessageId : OutboxMessageId}
    (resuming : Resuming input start outboxMessageId state)
    (run : RecoveryRun maximumAttempts state)
    (transactions : ∀ session call,
      state.calls.sessions.find? session = some (.running call) →
      call.parameter.Repeats input)
    (unused : start.recoveries.find? input.recoveryId = none)
    (present : state.calls.sessions.find? session = some (.running call))
    (instruction : (deliveryProgram maximumAttempts).instruction
      call.parameter call.phase = .commit answer) :
    Resuming input start outboxMessageId
      { calls := state.calls.commit session (call.view state.calls.committed)
          answer
        reopened := state.reopened ++ reopenings state.calls.committed
          (call.view state.calls.committed) } := by
  have orderly := run.orderly session call present
  have phase := orderly.phase_of_commit instruction
  have resumes := resuming.calls.running session call present
  have commit := orderly.deliveryCommit instruction
  have repeats := transactions session call present
  obtain ⟨recovery, recorded, _⟩ := resuming.find?
  have quiet : ∀ db, db.messages = state.calls.committed.messages →
      (∃ row, db.recoveries.rows =
          start.recoveries.rows ++ [(input.recoveryId, row)] ∧
        row.Records input outboxMessageId) →
      answer.Resumes outboxMessageId →
      Resuming input start outboxMessageId
        { calls := state.calls.commit session db answer
          reopened := state.reopened ++
            reopenings state.calls.committed db } := by
    intro db messages recorded answered
    rw [reopenings_eq_nil_of_kept, List.append_nil]
    · refine
        { recorded := recorded
          pending := ?_
          reopened := resuming.reopened
          calls := resuming.calls.commit answered }
      change ∃ row, db.messages.find? _ = _ ∧ _
      rw [messages]
      exact resuming.pending
    · intro outboundMessageId row found _
      rw [messages]
      exact found
  rw [phase] at resumes
  generalize call.view state.calls.committed = db at commit ⊢
  generalize call.parameter = transaction at commit repeats
  cases commit with
  | unchanged delivers | delivered delivers =>
      rw [repeats.undelivered] at delivers
      cases delivers
  | other =>
      rcases repeats with other | ⟨clock, other⟩
      · cases other
      · cases other
  | refused => exact resumes.elim
  | unmarked => exact quiet _ rfl resuming.recorded (.inl ⟨_, rfl⟩)
  | resumed => exact quiet _ rfl resuming.recorded (.inr ⟨_, rfl, resumes⟩)
  | published =>
      rcases repeats with other | ⟨clock, same⟩
      · cases other
      · cases same
        exact quiet _ rfl (resuming.publish unused _) (.inl ⟨_, rfl⟩)
  | reopened fresh =>
      rcases repeats with same | ⟨clock, other⟩
      · cases same
        rw [Table.find?_eq_none_iff.mpr fresh] at recorded
        cases recorded
      · cases other

/-- A step after the recovery was created. -/
theorem Resuming.next {action : RecoveryAction}
    {outboxMessageId : OutboxMessageId}
    (resuming : Resuming input start outboxMessageId state)
    (run : RecoveryRun maximumAttempts state)
    (transactions : ∀ session call,
      state.calls.sessions.find? session = some (.running call) →
      call.parameter.Repeats input)
    (unused : start.recoveries.find? input.recoveryId = none)
    (repeats : action.Repeats input)
    (inTime : LocksInTime input state action)
    (step : RecoveryCallStep maximumAttempts state action state') :
    Resuming input start outboxMessageId state' := by
  obtain ⟨recovery, found, records⟩ := resuming.find?
  have unreopened : ∃ row, state.reopened ++
      reopenings state.calls.committed state.calls.committed =
        [{ outboundMessageId := input.outboundMessageId
           row := row }] := by
    rw [reopenings_self, List.append_nil]
    exact resuming.reopened
  cases step with
  | disconnected | answerLost => exact repeats.elim
  | called step =>
      cases step with
      | started absent =>
          exact
            { recorded := resuming.recorded
              pending := resuming.pending
              reopened := unreopened
              calls := resuming.calls.insert absent trivial }
      | @executed session call lock write next present instruction =>
          refine
            { recorded := resuming.recorded
              pending := resuming.pending
              reopened := unreopened
              calls := resuming.calls.setRunning ?_ }
          apply resumes_execute found records
            (transactions session call present)
            (run.orderly session call present)
            (resuming.calls.running session call present) ?_ instruction
          intro locking
          rw [inTime session call rfl present locking] at found
          cases found
      | @rolledBack session call answer present instruction =>
          obtain ⟨failure, phase, _⟩ :=
            (run.orderly session call present).phase_of_rollback instruction
          have resumes := resuming.calls.running session call present
          rw [phase] at resumes
          exact resumes.elim
      | committed present instruction =>
          exact resuming.commit run transactions unused present instruction

theorem repeats_next {action : RecoveryAction}
    (transactions : ∀ session call,
      state.calls.sessions.find? session = some (.running call) →
      call.parameter.Repeats input)
    (repeats : action.Repeats input)
    (step : RecoveryCallStep maximumAttempts state action state') :
    ∀ session call,
      state'.calls.sessions.find? session = some (.running call) →
      call.parameter.Repeats input := by
  intro session call found
  cases step with
  | disconnected | answerLost => exact repeats.elim
  | called step =>
      cases step with
      | started absent =>
          rcases Sessions.find?_start absent found with ⟨_, same⟩ | ⟨_, before⟩
          · cases same
            exact repeats
          · exact transactions session call before
      | executed present =>
          rcases Sessions.find?_setSession found with ⟨_, same⟩ | ⟨_, before⟩
          · cases same
            have earlier := transactions _ _ present
            exact earlier
          · exact transactions session call before
      | committed | rolledBack =>
          rcases Sessions.find?_setSession found with ⟨_, same⟩ | ⟨_, before⟩
          · cases same
          · exact transactions session call before

theorem reachable_repeating
    (unused : start.recoveries.find? input.recoveryId = none)
    (reached : (repetitionSystem maximumAttempts start).ReachableWhere
      (fun state action => action.Repeats input ∧
        LocksInTime input state action) state) :
    Repeating maximumAttempts input start state := by
  refine System.ReachableWhere.invariant ?_ ?_ reached
  · rintro state ⟨db, rfl, rfl⟩
    refine ⟨?_, .inl ⟨rfl, rfl, ?_, ?_⟩⟩
    · intro session call found
      cases found
    · intro session answer found
      cases found
    · intro session call found
      cases found
  · rintro state action state' earlier repeating ⟨repeats, inTime⟩ taken
    have run := reachable_recoveryRun earlier.reachable
    have step := recoveryCallStep_of_next taken
    refine ⟨repeats_next repeating.transactions repeats step, ?_⟩
    rcases repeating.stage with seeking | ⟨outboxMessageId, resuming⟩
    · exact seeking.next run repeating.transactions unused repeats step
    · exact .inr ⟨outboxMessageId, resuming.next run repeating.transactions
        unused repeats inTime step⟩

theorem Repeating.repeatedSafely
    (repeating : Repeating maximumAttempts input start state) :
    RepeatedSafely input start state := by
  intro session prepared ended
  rcases repeating.stage with seeking | ⟨outboxMessageId, resuming⟩
  · rcases seeking.calls.ended session _ ended with other | ⟨unprepared, _⟩
    · cases other
    · exact (unprepared prepared rfl).elim
  · rcases resuming.calls.ended session _ ended with
      ⟨outcome, other⟩ | ⟨again, same, outbox⟩
    · cases other
    · cases same
      subst outbox
      exact ⟨resuming.calls.ended, resuming.recorded, resuming.reopened⟩

/-- A preparation that gets the message after the recovery was created refuses
it. -/
private theorem refused_afterLock {row : OutboundMessageRow}
    {committed : ChannelDatabase}
    (found : committed.messages.find? input.outboundMessageId = some row)
    (pending : row.status = .pending) :
    ∃ reason, DeliveryPhase.afterLock maximumAttempts input
        (committed.messages.find? input.outboundMessageId)
        (committed.replyOutbox input.outboundMessageId) =
      .committing (.prepared (.notRecoverable reason)) := by
  rw [found]
  cases committed.replyOutbox input.outboundMessageId with
  | none => exact ⟨_, rfl⟩
  | some requested =>
      refine ⟨.notTerminalFailure, ?_⟩
      simp [DeliveryPhase.afterLock, notRecoverable, pending]

private theorem phase_of_lockingMessage {committed : ChannelDatabase}
    {lock : ChannelDatabase → Option DeliveryLock}
    {write : ChannelDatabase → ChannelDatabase}
    {next : ChannelDatabase → DeliveryPhase}
    (repeats : call.parameter.Repeats input)
    (orderly : OrderlyDelivery maximumAttempts committed call)
    (locking : call.phase = .lockingMessage)
    (instruction : (deliveryProgram maximumAttempts).instruction
      call.parameter call.phase = .statement lock write next) :
    (call.execute committed lock write next).phase =
      .afterLock maximumAttempts input
        (committed.messages.find? input.outboundMessageId)
        (committed.replyOutbox input.outboundMessageId) := by
  obtain ⟨transaction, phase, writes, locks⟩ := call
  cases orderly with
  | lockingMessage =>
      rcases repeats with same | ⟨clock, other⟩
      · cases same
        cases instruction
        rfl
      · cases other
  | starting | answered | failing | refused | resumed | resetting | recording
  | recorded | unmarked | marking | marked | claiming | claimed | completing
  | completed | written => cases locking

/-- The next step of a call that is about to commit. -/
theorem ends_of_committing {answer : DeliveryAnswer}
    (present : state.calls.sessions.find? session = some (.running call))
    (phase : call.phase = .committing answer) :
    ∃ last, (repetitionSystem maximumAttempts start).next state
        (.call (.step session)) = some last ∧
      last.calls.sessions.find? session = some (.ended answer) := by
  have commits : (deliveryProgram maximumAttempts).instruction call.parameter
      call.phase = .commit answer := by
    rw [phase]
    exact DeliveryTransaction.instruction_committing _ _ _
  have taken : (deliveryProgram maximumAttempts).next state.calls
      (.step session) = some (state.calls.commit session
        (call.view state.calls.committed) answer) := by
    simp only [Program.next, present, commits]
  refine ⟨_, congrArg (Option.map _) taken, ?_⟩
  exact Sessions.find?_setSession_self present

/-- A call that gets the message too late is answered that it is not
recoverable. -/
theorem Repeating.refused_of_late {action : RecoveryAction}
    (repeating : Repeating maximumAttempts input start state)
    (unused : start.recoveries.find? input.recoveryId = none)
    (run : RecoveryRun maximumAttempts state)
    (late : ¬ LocksInTime input state action)
    (taken : (repetitionSystem maximumAttempts start).next state action =
      some state') :
    ∃ session reason last, (repetitionSystem maximumAttempts start).next
        state' (.call (.step session)) = some last ∧
      last.calls.sessions.find? session =
        some (.ended (.prepared (.notRecoverable reason))) := by
  unfold LocksInTime at late
  simp only [not_forall] at late
  obtain ⟨session, call, rfl, present, locking, created⟩ := late
  rcases repeating.stage with seeking | ⟨outboxMessageId, resuming⟩
  · rw [seeking.committed] at created
    exact (created unused).elim
  · obtain ⟨row, found, pending⟩ := resuming.pending
    obtain ⟨reason, refused⟩ := @refused_afterLock maximumAttempts input row
      _ found pending
    have orderly := run.orderly session call present
    cases recoveryCallStep_of_next taken with
    | called step =>
        cases step with
        | @executed _ before lock write next running instruction =>
            rw [present] at running
            cases running
            have phase := phase_of_lockingMessage
              (repeating.transactions session call present) orderly locking
              instruction
            rw [refused] at phase
            obtain ⟨last, ended, answered⟩ := @ends_of_committing
              maximumAttempts start
              { calls := state.calls.setSession session
                  (.running (call.execute state.calls.committed lock write
                    next))
                reopened := state.reopened ++ reopenings state.calls.committed
                  state.calls.committed }
              session _ _ (Sessions.find?_setSession_self present) phase
            exact ⟨session, reason, last, ended, answered⟩
        | committed running instruction =>
            rw [present] at running
            cases running
            have phase := orderly.phase_of_commit instruction
            rw [locking] at phase
            cases phase
        | rolledBack running instruction =>
            rw [present] at running
            cases running
            obtain ⟨_, phase, _⟩ := orderly.phase_of_rollback instruction
            rw [locking] at phase
            cases phase

/-- Repeated recoveries are answered alike in every run in which no call gets
the message after the recovery was created; a call that does is answered that
the delivery is not recoverable. -/
theorem repeated_recovery_safe
    (unused : start.recoveries.find? input.recoveryId = none)
    (reached : (repetitionSystem maximumAttempts start).ReachableWhere
      (fun state action => action.Repeats input ∧
        LocksInTime input state action) state) :
    RepeatedSafely input start state ∧
      ∀ action state', action.Repeats input →
        ¬ LocksInTime input state action →
        (repetitionSystem maximumAttempts start).next state action =
          some state' →
        ∃ session reason last, (repetitionSystem maximumAttempts start).next
            state' (.call (.step session)) = some last ∧
          last.calls.sessions.find? session =
            some (.ended (.prepared (.notRecoverable reason))) := by
  have repeating := reachable_repeating unused reached
  refine ⟨repeating.repeatedSafely, ?_⟩
  intro action state' _ late taken
  exact repeating.refused_of_late unused
    (reachable_recoveryRun reached.reachable) late taken

section Samples

def repeatedRecovery : RecoverTelegramDeliveryInput :=
  rejectedRecovery "recovery-1" "telegram_http_400"

/-- Two calls after one another; the first one does not publish. -/
def repeatedInTurnRun : List RecoveryAction :=
  runDeliveryCall 1 (.prepare repeatedRecovery) 5 ++
  runDeliveryCall 2 (.prepare repeatedRecovery) 2 ++
  runDeliveryCall 3 (.markPublished (channelClock 5002000)
    repeatedRecovery.recoveryId) 3

/-- Two calls that have both looked for a recovery before one was created. -/
def repeatedAtOnceRun : List RecoveryAction :=
  [.call (.start 1 (.prepare repeatedRecovery)),
    .call (.start 2 (.prepare repeatedRecovery)),
    .call (.step 1), .call (.step 2)] ++
  List.replicate 4 (.call (.step 1)) ++ List.replicate 2 (.call (.step 2))

def RecoveryAction.repeats (input : RecoverTelegramDeliveryInput) :
    RecoveryAction → Bool
  | .call (.start _ (.prepare other)) => other = input
  | .call (.start _ (.markPublished _ recoveryId)) =>
      recoveryId = input.recoveryId
  | .call (.step _) => true
  | .call (.start _ (.claim _ _ _ _ _)) | .call (.start _ (.complete _ _))
  | .call (.start _ (.other _)) | .disconnect _ | .loseAnswer _ => false

theorem RecoveryAction.repeats_sound {input : RecoverTelegramDeliveryInput}
    {action : RecoveryAction} (repeats : action.repeats input = true) :
    action.Repeats input := by
  cases action with
  | disconnect | loseAnswer => cases repeats
  | call action =>
      cases action with
      | step => trivial
      | start session transaction =>
          cases transaction with
          | prepare other =>
              exact .inl (congrArg _ (of_decide_eq_true repeats))
          | markPublished clock recoveryId =>
              exact .inr ⟨clock, congrArg _ (of_decide_eq_true repeats)⟩
          | claim | complete | other => cases repeats

def DeliveryPhase.isLocking : DeliveryPhase → Bool
  | .lockingMessage => true
  | _ => false

def locksInTime (input : RecoverTelegramDeliveryInput)
    (state : RecoveryState) : RecoveryAction → Bool
  | .call (.step session) =>
      match state.calls.sessions.find? session with
      | some (.running call) => !call.phase.isLocking ||
          (state.calls.committed.recoveries.find? input.recoveryId).isNone
      | _ => true
  | _ => true

theorem locksInTime_sound {input : RecoverTelegramDeliveryInput}
    {state : RecoveryState} {action : RecoveryAction}
    (inTime : locksInTime input state action = true) :
    LocksInTime input state action := by
  rintro session call rfl present locking
  simpa [locksInTime, present, locking, DeliveryPhase.isLocking] using inTime

/-- The answer of the call that created the recovery. -/
def createdAnswer : DeliveryAnswer :=
  .prepared (.prepared
    { publicationStatus := .prepared
      outboxMessageId := ⟨501⟩
      correlationId := ⟨9⟩ })

theorem repeated_recovery_safe_in_turn :
    ∃ state, (repetitionSystem 3 rejectedReplyTables).ReachableWhere
        (fun state action => action.Repeats repeatedRecovery ∧
          LocksInTime repeatedRecovery state action) state ∧
      state.calls.sessions.find? 1 = some (.ended createdAnswer) ∧
      state.calls.sessions.find? 2 = some (.ended createdAnswer) ∧
      RepeatedSafely repeatedRecovery rejectedReplyTables state := by
  obtain ⟨state, reached, tested⟩ := System.exists_reachableWhere_of_run
    repeatedInTurnRun
    (fun state action => action.repeats repeatedRecovery &&
      locksInTime repeatedRecovery state action)
    (fun state => state.answer 1 = some createdAnswer &&
      state.answer 2 = some createdAnswer)
    (fun _ _ permitted =>
      And.intro
        (RecoveryAction.repeats_sound (Bool.and_eq_true_iff.mp permitted).1)
        (locksInTime_sound (Bool.and_eq_true_iff.mp permitted).2))
    (show (repetitionSystem 3 rejectedReplyTables).Initial
        { calls := { committed := rejectedReplyTables } } from ⟨_, rfl, rfl⟩)
    (by decide +kernel)
  simp only [Bool.and_eq_true, decide_eq_true_eq] at tested
  exact ⟨state, reached, RecoveryState.ended_of_answer tested.1,
    RecoveryState.ended_of_answer tested.2,
    (repeated_recovery_safe rfl reached).1⟩

/-- Two calls at once: the second one waits for the message and is answered
that the delivery has not failed. -/
theorem repeated_recovery_refused :
    ¬ ∀ state, (repetitionSystem 3 rejectedReplyTables).ReachableWhere
        (fun _ action => action.Repeats repeatedRecovery) state →
      RepeatedSafely repeatedRecovery rejectedReplyTables state := by
  intro safe
  obtain ⟨state, reached, tested⟩ := System.exists_reachableWhere_of_run
    repeatedAtOnceRun (fun _ action => action.repeats repeatedRecovery)
    (fun state => state.answer 1 = some createdAnswer &&
      state.answer 2 =
        some (.prepared (.notRecoverable .notTerminalFailure)))
    (fun _ _ => RecoveryAction.repeats_sound)
    (show (repetitionSystem 3 rejectedReplyTables).Initial
        { calls := { committed := rejectedReplyTables } } from ⟨_, rfl, rfl⟩)
    (by decide +kernel)
  simp only [Bool.and_eq_true, decide_eq_true_eq] at tested
  obtain ⟨alike, _⟩ := safe state reached 1 _
    (RecoveryState.ended_of_answer tested.1)
  rcases alike 2 _ (RecoveryState.ended_of_answer tested.2) with
    ⟨outcome, other⟩ | ⟨again, other, _⟩
  · cases other
  · cases other

end Samples

end Runs

end XpensGo
