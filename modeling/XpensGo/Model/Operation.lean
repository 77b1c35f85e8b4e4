import XpensGo.Identity.Database
import XpensGo.Model.Gateway

/-!
# Registered model operations

The immutable registry of operation profiles and budget policies, the request
that an application may persist, and the validation of extracted dates before
a result is accepted.
-/

namespace XpensGo

open EcmaScript Postgres

abbrev ModelOperationId := Uuid

structure ModelOperationProfile where
  maximumCostMicroUsd : Nat
  maximumHttpDispatches : Nat
  maximumInputUtf8Bytes : Nat
  maximumPotentiallyBillableAttempts : Nat
  model : String
  operationVersion : Nat
  outputTokenLimit : Nat
  promptVersion : Nat
  providerTimeoutMilliseconds : Nat
  retryPolicyVersion : Nat
  schemaVersion : Nat
  totalDeadlineMilliseconds : Nat
  transientRateLimitRetryLimit : Nat
  deriving DecidableEq, Repr

def modelOperationProfiles : ModelOperationName → ModelOperationProfile
  | .querySlots =>
      { maximumCostMicroUsd := 480
        maximumHttpDispatches := 2
        maximumInputUtf8Bytes := 1200
        maximumPotentiallyBillableAttempts := 1
        model := "gpt-5.4-nano-2026-03-17"
        operationVersion := 1
        outputTokenLimit := 192
        promptVersion := 1
        providerTimeoutMilliseconds := 4000
        retryPolicyVersion := 1
        schemaVersion := 1
        totalDeadlineMilliseconds := 6000
        transientRateLimitRetryLimit := 1 }
  | .transactionExtract =>
      { maximumCostMicroUsd := 620
        maximumHttpDispatches := 2
        maximumInputUtf8Bytes := 1500
        maximumPotentiallyBillableAttempts := 1
        model := "gpt-5.4-nano-2026-03-17"
        operationVersion := 1
        outputTokenLimit := 256
        promptVersion := 1
        providerTimeoutMilliseconds := 3000
        retryPolicyVersion := 1
        schemaVersion := 1
        totalDeadlineMilliseconds := 4000
        transientRateLimitRetryLimit := 1 }
  | .transactionExtractMany =>
      { maximumCostMicroUsd := 3100
        maximumHttpDispatches := 2
        maximumInputUtf8Bytes := 7500
        maximumPotentiallyBillableAttempts := 1
        model := "gpt-5.4-nano-2026-03-17"
        operationVersion := 1
        outputTokenLimit := 1280
        promptVersion := 1
        providerTimeoutMilliseconds := 7000
        retryPolicyVersion := 1
        schemaVersion := 1
        totalDeadlineMilliseconds := 10000
        transientRateLimitRetryLimit := 1 }

inductive ModelBudgetPolicyName where
  | alpha
  | developmentStaging
  deriving DecidableEq, Repr

structure ModelBudgetPolicy where
  environmentMonthlyCeilingMicroUsd : Nat
  userMonthlyCeilingMicroUsd : Nat
  deriving DecidableEq, Repr

def modelBudgetPolicies : ModelBudgetPolicyName → ModelBudgetPolicy
  | .alpha =>
      { environmentMonthlyCeilingMicroUsd := 5000000
        userMonthlyCeilingMicroUsd := 250000 }
  | .developmentStaging =>
      { environmentMonthlyCeilingMicroUsd := 1000000
        userMonthlyCeilingMicroUsd := 1000000 }

/-- Immutable request handed to the store before any dispatch. -/
structure PrepareModelOperationStoreInput where
  canonicalInput : JsString
  dailyDispatchLimit : Nat
  environmentBudgetKey : ModelBudgetPolicyName
  environmentMonthlyCeilingMicroUsd : Nat
  explicitRestartLimit : Nat
  inputDigest : ModelInputDigest
  operation : ModelOperationName
  operationId : ModelOperationId
  profile : ModelOperationProfile
  provider : ModelProvider
  reservedCostMicroUsd : Nat
  userId : UserId
  userMonthlyCeilingMicroUsd : Nat

structure PrepareModelOperationRequest where
  budgetPolicy : Option ModelBudgetPolicyName
  canonicalInput : JsString
  inputDigest : JsString
  operation : ModelOperationName
  operationId : ModelOperationId
  provider : ModelProvider
  userId : UserId

inductive InvalidModelOperationRequest where
  | inputDigest
  | inputSize
  deriving DecidableEq, Repr

def utf8ByteLength (value : JsString) : Nat :=
  (JsString.codePoints value).foldl (fun length codePoint =>
    length +
      if codePoint ≤ 0x7f then 1
      else if codePoint ≤ 0x7ff then 2
      else if codePoint ≤ 0xffff then 3
      else 4) 0

/-- The store input built by `prepareModelOperation`. -/
def PrepareModelOperationRequest.storeInput
    (request : PrepareModelOperationRequest) :
    Except InvalidModelOperationRequest PrepareModelOperationStoreInput :=
  let profile := modelOperationProfiles request.operation
  if request.canonicalInput.length < 1 ∨
      utf8ByteLength request.canonicalInput > profile.maximumInputUtf8Bytes then
    .error .inputSize
  else if wellFormed : isSha256Hex request.inputDigest = true then
    let budgetPolicyName := request.budgetPolicy.getD .developmentStaging
    let budgetPolicy := modelBudgetPolicies budgetPolicyName
    .ok
      { canonicalInput := request.canonicalInput
        dailyDispatchLimit := 20
        environmentBudgetKey := budgetPolicyName
        environmentMonthlyCeilingMicroUsd :=
          budgetPolicy.environmentMonthlyCeilingMicroUsd
        explicitRestartLimit := 1
        inputDigest := ⟨request.inputDigest, wellFormed⟩
        operation := request.operation
        operationId := request.operationId
        profile := profile
        provider := request.provider
        reservedCostMicroUsd :=
          if request.provider = .openai then profile.maximumCostMicroUsd else 0
        userId := request.userId
        userMonthlyCeilingMicroUsd :=
          if request.provider = .openai then
            budgetPolicy.userMonthlyCeilingMicroUsd
          else
            0 }
  else
    .error .inputDigest

structure RestartModelOperationStoreInput where
  restartedOperationId : ModelOperationId
  sourceOperationId : ModelOperationId
  userId : UserId
  deriving DecidableEq, Repr

section ExtractedDates

variable (dates : DateBuiltins)

def isValidIsoCalendarDate (value : JsString) : Bool :=
  match dates.parse (value ++ JsString.ofString "T00:00:00.000Z") with
  | none => false
  | some parsed => (dates.toISOString parsed).take 10 = value

private def extractedOn (fields : List (JsString × JsValue)) :
    Option JsString :=
  match JsValue.property (JsString.ofString "_tag") fields,
    JsValue.property (JsString.ofString "occurredOn") fields with
  | some (.string tag), some (.string occurredOn) =>
      if tag = JsString.ofString "Extracted" then some occurredOn else none
  | _, _ => none

mutual

/-- The search for an extracted date that names no calendar day.  A suggestion
ends the search; otherwise `outcome` and `suggestions` are searched. -/
def containsInvalidExtractedDate : JsValue → Bool
  | .object fields =>
      match extractedOn fields with
      | some occurredOn => !isValidIsoCalendarDate dates occurredOn
      | none =>
          outcomeContainsInvalidExtractedDate fields ||
            suggestionsContainInvalidExtractedDate fields
  | _ => false

def outcomeContainsInvalidExtractedDate :
    List (JsString × JsValue) → Bool
  | [] => false
  | (name, value) :: fields =>
      if name = JsString.ofString "outcome" then
        containsInvalidExtractedDate value
      else
        outcomeContainsInvalidExtractedDate fields

def suggestionsContainInvalidExtractedDate :
    List (JsString × JsValue) → Bool
  | [] => false
  | (name, value) :: fields =>
      if name = JsString.ofString "suggestions" then
        elementsContainInvalidExtractedDate value
      else
        suggestionsContainInvalidExtractedDate fields

def elementsContainInvalidExtractedDate : JsValue → Bool
  | .array items => someContainsInvalidExtractedDate items
  | _ => false

def someContainsInvalidExtractedDate : List JsValue → Bool
  | [] => false
  | item :: items =>
      containsInvalidExtractedDate item ||
        someContainsInvalidExtractedDate items

end

end ExtractedDates

section Registry

theorem modelOperationProfiles_priced (operation : ModelOperationName) :
    20 * (modelOperationProfiles operation).maximumInputUtf8Bytes +
        125 * (modelOperationProfiles operation).outputTokenLimit =
      100 * (modelOperationProfiles operation).maximumCostMicroUsd := by
  cases operation <;> rfl

theorem modelOperationProfiles_cost_pos (operation : ModelOperationName) :
    0 < (modelOperationProfiles operation).maximumCostMicroUsd := by
  cases operation <;> decide

theorem modelOperationProfiles_billable (operation : ModelOperationName) :
    (modelOperationProfiles operation).maximumPotentiallyBillableAttempts =
      1 := by
  cases operation <;> rfl

/-- What an accepted request sends to the store. -/
structure PrepareModelOperationRequest.Accepted
    (request : PrepareModelOperationRequest)
    (input : PrepareModelOperationStoreInput) : Prop where
  canonicalInput : input.canonicalInput = request.canonicalInput
  operation : input.operation = request.operation
  provider : input.provider = request.provider
  userId : input.userId = request.userId
  nonempty : 1 ≤ input.canonicalInput.length
  bounded : utf8ByteLength input.canonicalInput ≤
    (modelOperationProfiles input.operation).maximumInputUtf8Bytes
  profile : input.profile = modelOperationProfiles input.operation
  reservedCostMicroUsd : input.reservedCostMicroUsd =
    if input.provider = .openai then
      (modelOperationProfiles input.operation).maximumCostMicroUsd
    else 0
  dailyDispatchLimit : input.dailyDispatchLimit = 20
  explicitRestartLimit : input.explicitRestartLimit = 1

theorem storeInput_eq_ok {request : PrepareModelOperationRequest}
    {input : PrepareModelOperationStoreInput}
    (accepted : request.storeInput = .ok input) : request.Accepted input := by
  simp only [PrepareModelOperationRequest.storeInput] at accepted
  split at accepted
  · cases accepted
  · rename_i size
    rw [not_or, Nat.not_lt, Nat.not_lt] at size
    split at accepted
    · cases accepted
      exact
        { canonicalInput := rfl
          operation := rfl
          provider := rfl
          userId := rfl
          nonempty := size.1
          bounded := size.2
          profile := rfl
          reservedCostMicroUsd := rfl
          dailyDispatchLimit := rfl
          explicitRestartLimit := rfl }
    · cases accepted

end Registry

end XpensGo
