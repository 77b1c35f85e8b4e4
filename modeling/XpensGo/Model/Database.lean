import XpensGo.Model.Operation
import XpensGo.Postgres.ColumnValues
import XpensGo.Relational.Aggregate

/-!
# The durable model-operation tables

Rows, defaults and CHECK constraints of the migration that creates the budget
accounts, the alert events, the operations, the attempts and the daily dispatch
counters.  Columns that the runtime role may not update are collected in
`ModelOperationTerms`.
-/

namespace XpensGo

open EcmaScript Postgres Relational

inductive BudgetScope where
  | environment (key : ModelBudgetPolicyName)
  | user (userId : UserId)
  deriving DecidableEq, Repr

structure BudgetAccountKey where
  scope : BudgetScope
  periodStart : CalendarDate
  deriving DecidableEq, Repr

structure BudgetAccountRow where
  ceilingMicroUsd : Int
  reservedMicroUsd : Int := 0
  settledMicroUsd : Int := 0
  killSwitch : Bool := false
  deriving DecidableEq, Repr

/-- `model_budget_accounts_amounts_nonnegative`. -/
def BudgetAccountRow.check (row : BudgetAccountRow) : Bool :=
  0 ≤ row.ceilingMicroUsd && 0 ≤ row.reservedMicroUsd &&
    0 ≤ row.settledMicroUsd

/-- Reserved and settled spend together. -/
def BudgetAccountRow.spend (row : BudgetAccountRow) : Int :=
  row.reservedMicroUsd + row.settledMicroUsd

abbrev ThresholdPercent := Nat

/-- A positive ceiling of which a percentage is spent. -/
def BudgetAccountRow.reaches (row : BudgetAccountRow)
    (threshold : ThresholdPercent) : Bool :=
  0 < row.ceilingMicroUsd && row.ceilingMicroUsd * threshold ≤ row.spend * 100

/-- A positive ceiling that is spent in full. -/
def BudgetAccountRow.exhausted (row : BudgetAccountRow) : Bool :=
  0 < row.ceilingMicroUsd && row.ceilingMicroUsd ≤ row.spend

def budgetThresholds : List ThresholdPercent :=
  [50, 80, 90, 100]

inductive ModelOperationStatus where
  | prepared
  | dispatched
  | retryScheduled
  | succeeded
  | explicitlyRejected
  | invalidOutput
  | outcomeUnknown
  deriving DecidableEq, Repr

def ModelOperationStatus.isTerminal : ModelOperationStatus → Bool
  | .succeeded | .explicitlyRejected | .invalidOutput | .outcomeUnknown => true
  | .prepared | .dispatched | .retryScheduled => false

section Status

variable {status : ModelOperationStatus}

theorem ModelOperationStatus.isTerminal_eq_false_of_active
    (active : status = .prepared ∨ status = .retryScheduled) :
    status.isTerminal = false := by
  rcases active with rfl | rfl
  · rfl
  · rfl

theorem ModelOperationStatus.isTerminal_eq_false_of_dispatched
    (dispatched : status = .dispatched) : status.isTerminal = false := by
  rw [dispatched]
  rfl

theorem ModelOperationStatus.active_of_undispatched
    (unfinished : status.isTerminal = false)
    (undispatched : status ≠ .dispatched) :
    status = .prepared ∨ status = .retryScheduled := by
  cases status with
  | prepared => exact .inl rfl
  | retryScheduled => exact .inr rfl
  | dispatched => exact absurd rfl undispatched
  | succeeded | explicitlyRejected | invalidOutput | outcomeUnknown =>
      cases unfinished

theorem ModelOperationStatus.ne_dispatched_of_isTerminal
    (terminal : status.isTerminal = true) : status ≠ .dispatched := by
  rintro rfl
  cases terminal

end Status

/-- The terminal status stored for a disposition. -/
def ModelCompletionDisposition.status :
    ModelCompletionDisposition → ModelOperationStatus
  | .succeeded => .succeeded
  | .explicitlyRejected => .explicitlyRejected
  | .invalidOutput => .invalidOutput
  | .outcomeUnknown => .outcomeUnknown

inductive RetryPlanName where
  | none
  | scheduleTransient429
  deriving DecidableEq, Repr

def ModelRetryPlan.name : ModelRetryPlan → RetryPlanName
  | .none => .none
  | .scheduleTransientRateLimit _ => .scheduleTransient429

/-- Columns of `model_operations` that no statement updates. -/
structure ModelOperationTerms where
  rootOperationId : ModelOperationId
  restartedFromOperationId : Option ModelOperationId := none
  userId : UserId
  operation : ModelOperationName
  operationVersion : Nat
  retryPolicyVersion : Nat
  promptVersion : Nat
  schemaVersion : Nat
  inputDigest : ModelInputDigest
  canonicalInput : JsString
  provider : ModelProvider
  model : String
  deadlineAt : Timestamp
  maximumHttpDispatches : Nat
  maximumInputUtf8Bytes : Nat
  maximumPotentiallyBillableAttempts : Nat
  transientRateLimitRetryLimit : Nat
  explicitRestartLimit : Nat
  outputTokenLimit : Nat
  providerTimeoutMilliseconds : Nat
  totalDeadlineMilliseconds : Nat
  dailyDispatchLimit : Nat
  budgetEnvironmentKey : ModelBudgetPolicyName
  budgetPeriodStart : CalendarDate
  environmentMonthlyCeilingMicroUsd : Nat
  userMonthlyCeilingMicroUsd : Nat

structure ModelOperationRow extends ModelOperationTerms where
  status : ModelOperationStatus := .prepared
  completionDisposition : Option ModelCompletionDisposition := none
  observedFailure : Option ObservedFailure := none
  retryPlan : RetryPlanName := .none
  retryNotBefore : Option Timestamp := none
  currentAttemptId : Option ModelAttemptId := none
  currentLeaseUntil : Option Timestamp := none
  transientRateLimitRetriesUsed : Nat := 0
  httpDispatchCount : Nat := 0
  reservedCostMicroUsd : Int
  settledCostMicroUsd : Int := 0
  resultJson : Option JsValue := none
  providerRequestId : Option JsString := none
  inputTokens : Option Nat := none
  cachedInputTokens : Option Nat := none
  outputTokens : Option Nat := none
  reasoningTokens : Option Nat := none
  completedAt : Option Timestamp := none

namespace ModelOperationRow

/-- `model_operations_input_bounded`; `char_length` counts code points. -/
def inputBounded (row : ModelOperationRow) : Bool :=
  1 ≤ (JsString.codePoints row.canonicalInput).length &&
    (JsString.codePoints row.canonicalInput).length ≤ 32768

/-- `model_operations_counts_valid`. -/
def countsValid (row : ModelOperationRow) : Bool :=
  0 < row.operationVersion && 0 < row.retryPolicyVersion &&
    0 < row.promptVersion && 0 < row.schemaVersion &&
    0 < row.maximumHttpDispatches && 0 < row.maximumInputUtf8Bytes &&
    0 < row.maximumPotentiallyBillableAttempts &&
    row.transientRateLimitRetriesUsed ≤ row.transientRateLimitRetryLimit &&
    row.httpDispatchCount ≤ row.maximumHttpDispatches &&
    0 < row.outputTokenLimit && 0 < row.providerTimeoutMilliseconds &&
    0 < row.totalDeadlineMilliseconds && 0 < row.dailyDispatchLimit

/-- `model_operations_costs_nonnegative`. -/
def costsNonnegative (row : ModelOperationRow) : Bool :=
  0 ≤ row.reservedCostMicroUsd && 0 ≤ row.settledCostMicroUsd

/-- `model_operations_retry_schedule_complete`. -/
def retryScheduleComplete (row : ModelOperationRow) : Bool :=
  if row.status = .retryScheduled then
    row.retryPlan = .scheduleTransient429 && row.retryNotBefore.isSome
  else
    row.retryPlan = .none && row.retryNotBefore.isNone

/-- `model_operations_claim_complete`. -/
def claimComplete (row : ModelOperationRow) : Bool :=
  if row.status = .dispatched then
    row.currentAttemptId.isSome && row.currentLeaseUntil.isSome
  else
    row.currentAttemptId.isNone && row.currentLeaseUntil.isNone

/-- `model_operations_terminal_complete`.  A comparison with a null
disposition is unknown, which a CHECK constraint accepts. -/
def terminalComplete (row : ModelOperationRow) : Bool :=
  match row.status with
  | .prepared | .dispatched =>
      row.completionDisposition.isNone && row.completedAt.isNone &&
        row.resultJson.isNone
  | .retryScheduled =>
      row.completionDisposition.all (· = .explicitlyRejected) &&
        row.completedAt.isNone && row.resultJson.isNone
  | .succeeded =>
      row.completionDisposition.all (· = .succeeded) &&
        row.completedAt.isSome && row.resultJson.isSome
  | .explicitlyRejected | .invalidOutput | .outcomeUnknown =>
      row.completionDisposition.all (fun disposition =>
        disposition.status = row.status) &&
        row.completedAt.isSome && row.resultJson.isNone

def check (row : ModelOperationRow) : Bool :=
  row.inputBounded && row.countsValid && row.costsNonnegative &&
    row.retryScheduleComplete && row.claimComplete && row.terminalComplete

/-- The columns take the values of the row.  The other texts are names of the
program, digests and header values, which no column refuses. -/
def storable (row : ModelOperationRow) : Bool :=
  isText row.canonicalInput && row.resultJson.all isJsonb

/-- What a statement that writes the row runs into. -/
def accepted (row : ModelOperationRow) : Bool :=
  row.storable && row.check

end ModelOperationRow

inductive ModelAttemptStatus where
  | dispatched
  | completed
  deriving DecidableEq, Repr

/-- `startedOn` is the database date of the inserting transaction, which
`started_at` shows in the time zone of its session. -/
structure ModelAttemptRow where
  operationId : ModelOperationId
  attemptOrdinal : Nat
  status : ModelAttemptStatus := .dispatched
  leasedUntil : Timestamp
  completionDisposition : Option ModelCompletionDisposition := none
  observedFailure : Option ObservedFailure := none
  retryPlan : RetryPlanName := .none
  providerRequestId : Option JsString := none
  inputTokens : Option Nat := none
  cachedInputTokens : Option Nat := none
  outputTokens : Option Nat := none
  reasoningTokens : Option Nat := none
  costMicroUsd : Option Nat := none
  startedAt : Timestamp
  startedOn : CalendarDate
  completedAt : Option Timestamp := none
  deriving DecidableEq, Repr

/-- `model_attempts_ordinal_positive` and `model_attempts_completion_complete`;
token counts and costs are natural numbers. -/
def ModelAttemptRow.check (row : ModelAttemptRow) : Bool :=
  0 < row.attemptOrdinal &&
    match row.status with
    | .dispatched =>
        row.completionDisposition.isNone && row.completedAt.isNone
    | .completed =>
        row.completionDisposition.isSome && row.completedAt.isSome

structure ModelDatabase where
  users : List UserId
  accounts : Table BudgetAccountKey BudgetAccountRow := .empty
  alerts : Table (BudgetAccountKey × ThresholdPercent) Unit := .empty
  operations : Table ModelOperationId ModelOperationRow := .empty
  attempts : Table ModelAttemptId ModelAttemptRow := .empty
  dispatchCounters : Table (UserId × CalendarDate) Nat := .empty

inductive ModelStoreOperation where
  | claim
  | complete
  | prepare
  | restart
  deriving DecidableEq, Repr

inductive ModelBudgetDenial where
  | environmentMonth
  | userMonth
  deriving DecidableEq, Repr

inductive ModelRestartDenial where
  | sourceNotOutcomeUnknown
  | restartLimitExhausted
  deriving DecidableEq, Repr

/-- Failures of the store.  `defect` is the error that `toCompletion` throws
for a terminal row without a disposition. -/
inductive ModelStoreFailure where
  | budgetExceeded (scope : ModelBudgetDenial)
  | inputConflict (operationId : ModelOperationId)
  | killSwitchEngaged (budgetKey : ModelBudgetPolicyName)
  | notFound (operationId : ModelOperationId)
  | persistenceUnavailable (operation : ModelStoreOperation)
  | restartConflict (operationId : ModelOperationId)
  | restartDenied (reason : ModelRestartDenial)
  | defect
  deriving DecidableEq, Repr

/-- The values that select the two accounts of an operation. -/
structure BudgetCharge where
  environmentBudgetKey : ModelBudgetPolicyName
  userId : UserId
  periodStart : CalendarDate
  deriving DecidableEq, Repr

namespace BudgetCharge

def environmentAccount (charge : BudgetCharge) : BudgetAccountKey :=
  { scope := .environment charge.environmentBudgetKey
    periodStart := charge.periodStart }

def userAccount (charge : BudgetCharge) : BudgetAccountKey :=
  { scope := .user charge.userId
    periodStart := charge.periodStart }

/-- The WHERE clause shared by the statements on budget accounts. -/
def covers (charge : BudgetCharge) (key : BudgetAccountKey) : Bool :=
  key.periodStart = charge.periodStart &&
    (key.scope = .environment charge.environmentBudgetKey ||
      key.scope = .user charge.userId)

@[simp] theorem covers_environmentAccount (charge : BudgetCharge) :
    charge.covers charge.environmentAccount = true := by
  simp [covers, environmentAccount]

@[simp] theorem covers_userAccount (charge : BudgetCharge) :
    charge.covers charge.userAccount = true := by
  simp [covers, userAccount]

theorem covers_iff {charge : BudgetCharge} {key : BudgetAccountKey} :
    charge.covers key = true ↔
      key = charge.environmentAccount ∨ key = charge.userAccount := by
  obtain ⟨scope, periodStart⟩ := key
  simp only [covers, environmentAccount, userAccount, Bool.and_eq_true,
    Bool.or_eq_true, decide_eq_true_eq, BudgetAccountKey.mk.injEq]
  tauto

end BudgetCharge

def ModelOperationTerms.charge (terms : ModelOperationTerms) : BudgetCharge :=
  { environmentBudgetKey := terms.budgetEnvironmentKey
    userId := terms.userId
    periodStart := terms.budgetPeriodStart }

end XpensGo
