import XpensGo.Model.Database

/-!
# The model-operation store

`prepare`, `claim`, `complete` and `restart` of the PostgreSQL store, each one
transaction over the tables.  Statements run in the order of the source and
abort the transaction when a row they write violates a constraint.  Identifiers
that the database generates and clock readings are arguments.
-/

namespace XpensGo

open EcmaScript Postgres Relational

inductive PrepareModelOperationOutcome where
  | prepared (operationId : ModelOperationId)
  | duplicate (operationId : ModelOperationId)
  deriving DecidableEq, Repr

inductive RestartModelOperationOutcome where
  | restarted (operationId : ModelOperationId)
  | duplicate (operationId : ModelOperationId)
  deriving DecidableEq, Repr

/-- Authority for one provider attempt. -/
structure ClaimedModelAttempt where
  attemptId : ModelAttemptId
  attemptOrdinal : Nat
  canonicalInput : JsString
  inputDigest : ModelInputDigest
  model : String
  operation : ModelOperationName
  operationId : ModelOperationId
  outputTokenLimit : Nat
  promptVersion : Nat
  provider : ModelProvider
  providerTimeoutMilliseconds : Int
  schemaVersion : Nat
  totalDeadlineMilliseconds : Int
  transientRateLimitRetryAvailable : Bool
  deriving DecidableEq

inductive ClaimModelOperationOutcome where
  | claimed (attempt : ClaimedModelAttempt)
  | completed (completion : ModelOperationCompletion)
  | rejected (completion : ModelOperationCompletion)
  | deferred (retryAfterMilliseconds : Int)
  deriving DecidableEq

structure CompleteModelOperationInput where
  attemptId : ModelAttemptId
  completion : ModelOperationCompletion
  operationId : ModelOperationId
  result : Option ModelGatewaySuccess

section RowUpdates

variable (clock : DatabaseClock)

def toRetryPlan (name : RetryPlanName) (retryAfterMilliseconds : Int) :
    ModelRetryPlan :=
  match name with
  | .scheduleTransient429 => .scheduleTransientRateLimit retryAfterMilliseconds
  | .none => .none

/-- Stored completion of a row; `workerNow` is `Date.now()`. -/
def ModelOperationRow.toCompletion (row : ModelOperationRow)
    (workerNow : Int) : Except ModelStoreFailure ModelOperationCompletion :=
  match row.completionDisposition with
  | none => .error .defect
  | some disposition =>
      let retryAfterMilliseconds :=
        match row.retryNotBefore with
        | none => 0
        | some notBefore => max 0 (notBefore.getTime - workerNow)
      .ok
        { disposition := disposition
          observedFailure := row.observedFailure
          retryPlan := toRetryPlan row.retryPlan retryAfterMilliseconds }

def isConservativelyBillableFailure (failure : Option ObservedFailure) :
    Bool :=
  failure = some .modelProviderRefusal ||
    failure = some .modelProviderTruncated ||
      failure = some .modelStructuredOutputDecodingFailed

/-- The remaining wait of a scheduled retry. -/
def ModelOperationRow.retryWait (row : ModelOperationRow) (now : Int) :
    Option Int :=
  match row.status, row.retryNotBefore with
  | .retryScheduled, some notBefore =>
      if notBefore.getTime > now then some (notBefore.getTime - now) else none
  | _, _ => none

/-- A terminal summary without a retry. -/
def finalCompletion (disposition : ModelCompletionDisposition)
    (failure : ObservedFailure) : ModelOperationCompletion :=
  { disposition := disposition
    observedFailure := some failure
    retryPlan := .none }

/-- Columns written when a claim finds an expired lease. -/
def ModelAttemptRow.expireLease (row : ModelAttemptRow) : ModelAttemptRow :=
  { row with
    status := .completed
    completionDisposition := some .outcomeUnknown
    observedFailure := some .modelAttemptLeaseExpired
    retryPlan := .none
    completedAt := some clock.currentTimestamp }

def ModelOperationRow.expireLease (row : ModelOperationRow) :
    ModelOperationRow :=
  { row with
    status := .outcomeUnknown
    completionDisposition := some .outcomeUnknown
    observedFailure := some .modelAttemptLeaseExpired
    retryPlan := .none
    retryNotBefore := none
    currentAttemptId := none
    currentLeaseUntil := none
    completedAt := some clock.currentTimestamp }

/-- Columns written by a refusal before dispatch.  Two of the four refusals
also clear the claim columns. -/
def ModelOperationRow.rejectBeforeDispatch (failure : ObservedFailure)
    (clearsClaim : Bool) (row : ModelOperationRow) : ModelOperationRow :=
  { row with
    status := .explicitlyRejected
    completionDisposition := some .explicitlyRejected
    observedFailure := some failure
    retryPlan := .none
    retryNotBefore := none
    currentAttemptId := if clearsClaim then none else row.currentAttemptId
    currentLeaseUntil := if clearsClaim then none else row.currentLeaseUntil
    reservedCostMicroUsd := 0
    completedAt := some clock.currentTimestamp }

def ModelOperationRow.dispatch (attemptId : ModelAttemptId)
    (row : ModelOperationRow) : ModelOperationRow :=
  { row with
    status := .dispatched
    completionDisposition := none
    observedFailure := none
    retryPlan := .none
    retryNotBefore := none
    currentAttemptId := some attemptId
    currentLeaseUntil := some (clock.currentTimestamp.addSeconds 30)
    httpDispatchCount := row.httpDispatchCount + 1 }

/-- The attempt inserted for a dispatch of `row`. -/
def ModelOperationRow.dispatchedAttempt (operationId : ModelOperationId)
    (row : ModelOperationRow) : ModelAttemptRow :=
  { operationId := operationId
    attemptOrdinal := row.httpDispatchCount + 1
    leasedUntil := clock.currentTimestamp.addSeconds 30
    startedAt := clock.currentTimestamp
    startedOn := clock.currentDate }

/-- What a successful claim returns, read from the row before the claim. -/
def ModelOperationRow.claimedAttempt (operationId : ModelOperationId)
    (attemptId : ModelAttemptId) (row : ModelOperationRow) :
    ClaimedModelAttempt :=
  let now := clock.currentTimestamp.getTime
  { attemptId := attemptId
    attemptOrdinal := row.httpDispatchCount + 1
    canonicalInput := row.canonicalInput
    inputDigest := row.inputDigest
    model := row.model
    operation := row.operation
    operationId := operationId
    outputTokenLimit := row.outputTokenLimit
    promptVersion := row.promptVersion
    provider := row.provider
    providerTimeoutMilliseconds :=
      min (row.providerTimeoutMilliseconds : Int)
        (max 1 (row.deadlineAt.getTime - now))
    schemaVersion := row.schemaVersion
    totalDeadlineMilliseconds := max 1 (row.deadlineAt.getTime - now)
    transientRateLimitRetryAvailable :=
      row.transientRateLimitRetriesUsed < row.transientRateLimitRetryLimit }

/-- The completion that is stored: a scheduled retry waits at least a second
and is dropped when it would start after the deadline. -/
def ModelOperationRow.effectiveCompletion (row : ModelOperationRow)
    (completion : ModelOperationCompletion) : ModelOperationCompletion :=
  match completion.retryPlan with
  | .none => completion
  | .scheduleTransientRateLimit providerRetryDelay =>
      let effectiveRetryDelay := max 1000 providerRetryDelay
      let retryFitsDeadline :=
        clock.currentTimestamp.getTime + effectiveRetryDelay ≤
          row.deadlineAt.getTime
      { completion with
        retryPlan :=
          if retryFitsDeadline then
            .scheduleTransientRateLimit effectiveRetryDelay
          else
            .none }

def ModelAttemptRow.complete (completion : ModelOperationCompletion)
    (result : Option ModelGatewaySuccess) (row : ModelAttemptRow) :
    ModelAttemptRow :=
  { row with
    status := .completed
    completionDisposition := some completion.disposition
    observedFailure := completion.observedFailure
    retryPlan := completion.retryPlan.name
    providerRequestId := result.bind (·.providerRequestId)
    inputTokens := result.map (·.usage.inputTokens)
    cachedInputTokens := result.map (·.usage.cachedInputTokens)
    outputTokens := result.map (·.usage.outputTokens)
    reasoningTokens := result.map (·.usage.reasoningTokens)
    costMicroUsd := result.map (·.costMicroUsd)
    completedAt := some clock.currentTimestamp }

def ModelOperationRow.scheduleRetry (completion : ModelOperationCompletion)
    (delayMilliseconds : Int) (row : ModelOperationRow) : ModelOperationRow :=
  { row with
    status := .retryScheduled
    completionDisposition := some .explicitlyRejected
    observedFailure := completion.observedFailure
    retryPlan := .scheduleTransient429
    retryNotBefore :=
      some (clock.currentTimestamp.addMilliseconds delayMilliseconds)
    currentAttemptId := none
    currentLeaseUntil := none
    transientRateLimitRetriesUsed := row.transientRateLimitRetriesUsed + 1 }

/-- The spend that a final completion settles. -/
def ModelOperationRow.settlement (row : ModelOperationRow)
    (completion : ModelOperationCompletion)
    (result : Option ModelGatewaySuccess) : Int :=
  match result with
  | some success => success.costMicroUsd
  | none =>
      if isConservativelyBillableFailure completion.observedFailure then
        row.reservedCostMicroUsd
      else
        0

def ModelOperationRow.settle (completion : ModelOperationCompletion)
    (result : Option ModelGatewaySuccess) (reservedCost settlement : Int)
    (row : ModelOperationRow) : ModelOperationRow :=
  { row with
    status := completion.disposition.status
    completionDisposition := some completion.disposition
    observedFailure := completion.observedFailure
    retryPlan := .none
    retryNotBefore := none
    currentAttemptId := none
    currentLeaseUntil := none
    reservedCostMicroUsd :=
      if completion.disposition = .outcomeUnknown then reservedCost else 0
    settledCostMicroUsd := row.settledCostMicroUsd + settlement
    resultJson :=
      if completion.disposition = .succeeded then
        result.bind (fun success => bindJson success.output)
      else
        none
    providerRequestId := result.bind (·.providerRequestId)
    inputTokens := result.map (·.usage.inputTokens)
    cachedInputTokens := result.map (·.usage.cachedInputTokens)
    outputTokens := result.map (·.usage.outputTokens)
    reasoningTokens := result.map (·.usage.reasoningTokens)
    completedAt := some clock.currentTimestamp }

/-- The row inserted by `prepare`. -/
def PrepareModelOperationStoreInput.preparedRow
    (input : PrepareModelOperationStoreInput) : ModelOperationRow :=
  { rootOperationId := input.operationId
    userId := input.userId
    operation := input.operation
    operationVersion := input.profile.operationVersion
    retryPolicyVersion := input.profile.retryPolicyVersion
    promptVersion := input.profile.promptVersion
    schemaVersion := input.profile.schemaVersion
    inputDigest := input.inputDigest
    canonicalInput := input.canonicalInput
    provider := input.provider
    model := input.profile.model
    deadlineAt := clock.currentTimestamp.addMilliseconds
      input.profile.totalDeadlineMilliseconds
    maximumHttpDispatches := input.profile.maximumHttpDispatches
    maximumInputUtf8Bytes := input.profile.maximumInputUtf8Bytes
    maximumPotentiallyBillableAttempts :=
      input.profile.maximumPotentiallyBillableAttempts
    transientRateLimitRetryLimit := input.profile.transientRateLimitRetryLimit
    explicitRestartLimit := input.explicitRestartLimit
    outputTokenLimit := input.profile.outputTokenLimit
    providerTimeoutMilliseconds := input.profile.providerTimeoutMilliseconds
    totalDeadlineMilliseconds := input.profile.totalDeadlineMilliseconds
    dailyDispatchLimit := input.dailyDispatchLimit
    budgetEnvironmentKey := input.environmentBudgetKey
    budgetPeriodStart := clock.currentDate.monthStart
    environmentMonthlyCeilingMicroUsd := input.environmentMonthlyCeilingMicroUsd
    userMonthlyCeilingMicroUsd := input.userMonthlyCeilingMicroUsd
    reservedCostMicroUsd := input.reservedCostMicroUsd }

/-- The row inserted by `restart`: the terms of its source with a new deadline
and a new budget period. -/
def ModelOperationRow.restartedRow (sourceOperationId : ModelOperationId)
    (reservation : Int) (source : ModelOperationRow) : ModelOperationRow :=
  { source.toModelOperationTerms with
    restartedFromOperationId := some sourceOperationId
    deadlineAt := clock.currentTimestamp.addMilliseconds
      source.totalDeadlineMilliseconds
    budgetPeriodStart := clock.currentDate.monthStart
    reservedCostMicroUsd := reservation }

end RowUpdates

namespace ModelDatabase

section Statements

def readOperationForUpdate (db : ModelDatabase)
    (operationId : ModelOperationId) :
    Except ModelStoreFailure ModelOperationRow :=
  require (.notFound operationId) (db.operations.find? operationId)

def updateOperation (db : ModelDatabase) (operationId : ModelOperationId)
    (set : ModelOperationRow → ModelOperationRow) : Option ModelDatabase := do
  let operations ← db.operations.modify? ModelOperationRow.accepted
    operationId set
  pure { db with operations := operations }

/-- `UPDATE model_attempts … WHERE id = … AND status = 'dispatched'`. -/
def updateDispatchedAttempt (db : ModelDatabase) (attemptId : ModelAttemptId)
    (set : ModelAttemptRow → ModelAttemptRow) : Option ModelDatabase := do
  let attempts ← db.attempts.updateWhere? ModelAttemptRow.check
    (fun key row => key = attemptId && row.status = .dispatched) set
  pure { db with attempts := attempts }

/-- Insert an operation of an existing user.  The references to the root and
to the restarted source hold by construction. -/
def insertOperation (db : ModelDatabase) (operationId : ModelOperationId)
    (row : ModelOperationRow) : Option ModelDatabase :=
  if row.userId ∈ db.users then do
    let operations ← db.operations.insert? ModelOperationRow.accepted
      operationId row
    pure { db with operations := operations }
  else
    none

/-- Insert an attempt whose ordinal is new for its operation. -/
def insertAttempt (db : ModelDatabase) (attemptId : ModelAttemptId)
    (row : ModelAttemptRow) : Option ModelDatabase :=
  if (db.attempts.select (fun _ other =>
      other.operationId = row.operationId &&
        other.attemptOrdinal = row.attemptOrdinal)).isEmpty then do
    let attempts ← db.attempts.insert? ModelAttemptRow.check attemptId row
    pure { db with attempts := attempts }
  else
    none

def insertBudgetAccounts (db : ModelDatabase) (charge : BudgetCharge)
    (environmentCeiling userCeiling : Nat) : ModelDatabase :=
  { db with
    accounts := db.accounts.insertAllMissing
      [(charge.environmentAccount, { ceilingMicroUsd := environmentCeiling }),
        (charge.userAccount, { ceilingMicroUsd := userCeiling })] }

def updateBudgetAccounts (db : ModelDatabase) (charge : BudgetCharge)
    (set : BudgetAccountRow → BudgetAccountRow) : Option ModelDatabase := do
  let accounts ← db.accounts.updateWhere? BudgetAccountRow.check
    (fun key _ => charge.covers key) set
  pure { db with accounts := accounts }

def recordBudgetThresholds (db : ModelDatabase) (charge : BudgetCharge) :
    ModelDatabase :=
  { db with
    alerts := db.alerts.insertAllMissing
      ((db.accounts.select (fun key _ => charge.covers key)).flatMap
        (fun entry => (budgetThresholds.filter entry.2.reaches).map
          (fun threshold => ((entry.1, threshold), ()))))
    accounts := db.accounts.updateWhere
      (fun key account => key = charge.environmentAccount && account.exhausted)
      (fun account => { account with killSwitch := true }) }

/-- The checks and updates that `prepare` and `restart` make on the accounts
they have just inserted or found. -/
def reserveBudget (db : ModelDatabase) (charge : BudgetCharge)
    (reservation : Int) (operation : ModelStoreOperation) :
    Except ModelStoreFailure ModelDatabase :=
  match db.accounts.find? charge.environmentAccount with
  | none => .error (.budgetExceeded .environmentMonth)
  | some environmentBudget =>
      if environmentBudget.killSwitch then
        .error (.killSwitchEngaged charge.environmentBudgetKey)
      else if environmentBudget.spend + reservation >
          environmentBudget.ceilingMicroUsd then
        .error (.budgetExceeded .environmentMonth)
      else
        match db.accounts.find? charge.userAccount with
        | none => .error (.budgetExceeded .userMonth)
        | some userBudget =>
            if userBudget.spend + reservation > userBudget.ceilingMicroUsd then
              .error (.budgetExceeded .userMonth)
            else do
              let reserved ← require (.persistenceUnavailable operation)
                (db.updateBudgetAccounts charge (fun account =>
                  { account with
                    reservedMicroUsd := account.reservedMicroUsd + reservation }))
              pure (reserved.recordBudgetThresholds charge)

/-- Replace a reservation by the spend it settles. -/
def releaseReservation (db : ModelDatabase) (row : ModelOperationRow)
    (settlement : Int) : Option ModelDatabase :=
  if row.provider = .deterministic ∨ row.reservedCostMicroUsd = 0 then
    some db
  else
    db.updateBudgetAccounts row.charge (fun account =>
      { account with
        reservedMicroUsd := account.reservedMicroUsd - row.reservedCostMicroUsd
        settledMicroUsd := account.settledMicroUsd + settlement })

/-- Upsert of the daily counter; `none` when the limit was reached. -/
def takeDailyDispatch (db : ModelDatabase) (userId : UserId)
    (dispatchDate : CalendarDate) (dailyDispatchLimit : Nat) :
    Option ModelDatabase :=
  match db.dispatchCounters.find? (userId, dispatchDate) with
  | none =>
      some { db with
        dispatchCounters :=
          db.dispatchCounters.insertMissing (userId, dispatchDate) 1 }
  | some dispatchCount =>
      if dispatchCount < dailyDispatchLimit then
        some { db with
          dispatchCounters := db.dispatchCounters.modify (userId, dispatchDate)
            (fun count => count + 1) }
      else
        none

end Statements

section Prepare

variable (clock : DatabaseClock) (input : PrepareModelOperationStoreInput)

/-- The answer to a request whose identifier is already in use. -/
def duplicatePrepare (db : ModelDatabase) :
    Option (Except ModelStoreFailure PrepareModelOperationOutcome) :=
  match db.operations.find? input.operationId with
  | none => none
  | some existing =>
      if existing.inputDigest ≠ input.inputDigest then
        some (.error (.inputConflict input.operationId))
      else
        some (.ok (.duplicate input.operationId))

def insertPrepared (db : ModelDatabase) :
    Except ModelStoreFailure (PrepareModelOperationOutcome × ModelDatabase) := do
  let inserted ← require (.persistenceUnavailable .prepare)
    (db.insertOperation input.operationId (input.preparedRow clock))
  pure (.prepared input.operationId, inserted)

def prepare (db : ModelDatabase) :
    Except ModelStoreFailure (PrepareModelOperationOutcome × ModelDatabase) :=
  match db.duplicatePrepare input with
  | some answer => answer.map (fun outcome => (outcome, db))
  | none =>
      if 0 < input.reservedCostMicroUsd then
        let charge : BudgetCharge :=
          { environmentBudgetKey := input.environmentBudgetKey
            userId := input.userId
            periodStart := clock.currentDate.monthStart }
        let funded := db.insertBudgetAccounts charge
          input.environmentMonthlyCeilingMicroUsd
          input.userMonthlyCeilingMicroUsd
        if (funded.accounts.find? charge.environmentAccount).isNone ||
            (funded.accounts.find? charge.userAccount).isNone then
          .error (.persistenceUnavailable .prepare)
        else
          match funded.duplicatePrepare input with
          | some answer => answer.map (fun outcome => (outcome, funded))
          | none => do
              let reserved ← funded.reserveBudget charge
                input.reservedCostMicroUsd .prepare
              reserved.insertPrepared clock input
      else
        db.insertPrepared clock input

end Prepare

section Claim

variable (clock : DatabaseClock) (operationId : ModelOperationId)

def expireLease (db : ModelDatabase) (attemptId : ModelAttemptId) :
    Option ModelDatabase := do
  let expired ← db.updateDispatchedAttempt attemptId
    (ModelAttemptRow.expireLease clock)
  expired.updateOperation operationId (ModelOperationRow.expireLease clock)

def rejectBeforeDispatch (db : ModelDatabase) (row : ModelOperationRow)
    (failure : ObservedFailure) (clearsClaim : Bool) :
    Except ModelStoreFailure (ClaimModelOperationOutcome × ModelDatabase) := do
  let released ← require (.persistenceUnavailable .claim)
    (db.releaseReservation row 0)
  let rejected ← require (.persistenceUnavailable .claim)
    (released.updateOperation operationId
      (ModelOperationRow.rejectBeforeDispatch clock failure clearsClaim))
  pure (.rejected (finalCompletion .explicitlyRejected failure), rejected)

def dispatchAttempt (db : ModelDatabase) (row : ModelOperationRow)
    (generated : ModelAttemptId) :
    Except ModelStoreFailure (ClaimModelOperationOutcome × ModelDatabase) := do
  let inserted ← require (.persistenceUnavailable .claim)
    (db.insertAttempt generated (row.dispatchedAttempt clock operationId))
  let dispatched ← require (.persistenceUnavailable .claim)
    (inserted.updateOperation operationId
      (ModelOperationRow.dispatch clock generated))
  pure (.claimed (row.claimedAttempt clock operationId generated), dispatched)

/-- The gates of `claim` for an operation that waits for no one. -/
def claimReady (db : ModelDatabase) (row : ModelOperationRow)
    (generated : ModelAttemptId) :
    Except ModelStoreFailure (ClaimModelOperationOutcome × ModelDatabase) :=
  if row.deadlineAt.getTime ≤ clock.currentTimestamp.getTime then
    db.rejectBeforeDispatch clock operationId row
      .modelRequestDeadlineExceededBeforeDispatch true
  else if row.maximumHttpDispatches ≤ row.httpDispatchCount then
    db.rejectBeforeDispatch clock operationId row
      .modelOperationDispatchLimitExceeded true
  else if row.provider = .openai then
    match db.accounts.find? row.charge.environmentAccount with
    | none => .error (.persistenceUnavailable .claim)
    | some control =>
        if control.killSwitch then
          db.rejectBeforeDispatch clock operationId row
            .modelOperationKillSwitchEngaged false
        else
          match db.takeDailyDispatch row.userId clock.currentDate
            row.dailyDispatchLimit with
          | none =>
              db.rejectBeforeDispatch clock operationId row
                .modelDailyDispatchLimitExceeded false
          | some counted =>
              counted.dispatchAttempt clock operationId row generated
  else
    db.dispatchAttempt clock operationId row generated

def claim (workerNow : Int) (generated : ModelAttemptId)
    (db : ModelDatabase) :
    Except ModelStoreFailure (ClaimModelOperationOutcome × ModelDatabase) := do
  let row ← db.readOperationForUpdate operationId
  let now := clock.currentTimestamp.getTime
  if row.status.isTerminal then
    let completion ← row.toCompletion workerNow
    pure (.completed completion, db)
  else if row.status = .dispatched then
    match row.currentAttemptId, row.currentLeaseUntil with
    | some attemptId, some leaseUntil =>
        if leaseUntil.getTime > now then
          pure (.deferred (max 1 (leaseUntil.getTime - now)), db)
        else
          let expired ← require (.persistenceUnavailable .claim)
            (db.expireLease clock operationId attemptId)
          pure (.completed
            (finalCompletion .outcomeUnknown .modelAttemptLeaseExpired), expired)
    | _, _ => .error (.persistenceUnavailable .claim)
  else
    match row.retryWait now with
    | some wait => pure (.deferred (max 1 wait), db)
    | none => db.claimReady clock operationId row generated

end Claim

section Complete

variable (clock : DatabaseClock) (input : CompleteModelOperationInput)

/-- The final branch of `complete`, for a completion without a retry. -/
def settle (db : ModelDatabase) (row : ModelOperationRow)
    (completion : ModelOperationCompletion) :
    Except ModelStoreFailure (ModelOperationCompletion × ModelDatabase) := do
  let settlement := row.settlement completion input.result
  let released ← require (.persistenceUnavailable .complete)
    (if completion.disposition = .outcomeUnknown then some db
      else db.releaseReservation row settlement)
  let settled ← require (.persistenceUnavailable .complete)
    (released.updateOperation input.operationId
      (ModelOperationRow.settle clock completion input.result
        row.reservedCostMicroUsd settlement))
  pure (completion, settled)

def complete (workerNow : Int) (db : ModelDatabase) :
    Except ModelStoreFailure (ModelOperationCompletion × ModelDatabase) := do
  let row ← db.readOperationForUpdate input.operationId
  if row.status ≠ .dispatched ∨
      row.currentAttemptId ≠ some input.attemptId then
    if row.status.isTerminal then
      let completion ← row.toCompletion workerNow
      pure (completion, db)
    else
      .error (.persistenceUnavailable .complete)
  else
    let completion := row.effectiveCompletion clock input.completion
    let answered ← require (.persistenceUnavailable .complete)
      (db.updateDispatchedAttempt input.attemptId
        (ModelAttemptRow.complete clock completion input.result))
    match completion.retryPlan with
    | .scheduleTransientRateLimit delayMilliseconds =>
        let scheduled ← require (.persistenceUnavailable .complete)
          (answered.updateOperation input.operationId
            (ModelOperationRow.scheduleRetry clock completion delayMilliseconds))
        pure (completion, scheduled)
    | .none => answered.settle clock input row completion

end Complete

section Restart

variable (clock : DatabaseClock) (input : RestartModelOperationStoreInput)

/-- Restarts already made anywhere in the lineage of a root. -/
def lineageRestarts (db : ModelDatabase) (root : ModelOperationId) :
    List (ModelOperationId × ModelOperationRow) :=
  db.operations.select (fun _ row => row.rootOperationId = root &&
    row.restartedFromOperationId.isSome)

/-- The second reservation that a restart takes in the current period. -/
def reserveRestart (db : ModelDatabase) (source : ModelOperationRow) :
    Except ModelStoreFailure ModelDatabase :=
  let reservation := source.reservedCostMicroUsd
  let charge : BudgetCharge :=
    { environmentBudgetKey := source.budgetEnvironmentKey
      userId := source.userId
      periodStart := clock.currentDate.monthStart }
  if source.provider = .openai ∧ 0 < reservation then
    (db.insertBudgetAccounts charge source.environmentMonthlyCeilingMicroUsd
      source.userMonthlyCeilingMicroUsd).reserveBudget charge reservation
        .restart
  else
    pure db

def restart (db : ModelDatabase) :
    Except ModelStoreFailure (RestartModelOperationOutcome × ModelDatabase) := do
  let source ← db.readOperationForUpdate input.sourceOperationId
  if source.userId ≠ input.userId then
    .error (.notFound input.sourceOperationId)
  else
    match db.operations.find? input.restartedOperationId with
    | some existing =>
        if existing.rootOperationId ≠ source.rootOperationId ∨
            existing.restartedFromOperationId ≠ some input.sourceOperationId ∨
              existing.userId ≠ input.userId then
          .error (.restartConflict input.restartedOperationId)
        else
          pure (.duplicate input.restartedOperationId, db)
    | none =>
        if source.status ≠ .outcomeUnknown then
          .error (.restartDenied .sourceNotOutcomeUnknown)
        else if source.explicitRestartLimit ≤
            (db.lineageRestarts source.rootOperationId).length then
          .error (.restartDenied .restartLimitExhausted)
        else
          let reserved ← db.reserveRestart clock source
          let inserted ← require (.persistenceUnavailable .restart)
            (reserved.insertOperation input.restartedOperationId
              (source.restartedRow clock input.sourceOperationId
                source.reservedCostMicroUsd))
          pure (.restarted input.restartedOperationId, inserted)

end Restart

end ModelDatabase

end XpensGo
