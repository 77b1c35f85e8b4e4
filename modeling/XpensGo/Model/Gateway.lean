import Mathlib.Algebra.Order.Floor.Semiring
import Mathlib.Data.Rat.Floor
import XpensGo.EcmaScript.Value
import XpensGo.Postgres.Transaction

/-!
# The model gateway

Failures and successes of one provider attempt, their classification for the
durable store, and the price of a successful attempt.  The contextual fields
that every failure carries for the logs are left out: no decision reads them.
-/

namespace XpensGo

open EcmaScript Postgres

abbrev ModelAttemptId := Uuid

inductive ModelOperationName where
  | transactionExtract
  | transactionExtractMany
  | querySlots
  deriving DecidableEq, Repr

inductive ModelProvider where
  | deterministic
  | openai
  deriving DecidableEq, Repr

private def isLowercaseHexDigit (unit : CodeUnit) : Bool :=
  (0x30 ≤ unit && unit ≤ 0x39) || (0x61 ≤ unit && unit ≤ 0x66)

/-- `/^[a-f0-9]{64}$/`. -/
def isSha256Hex (text : JsString) : Bool :=
  text.length == 64 && text.all isLowercaseHexDigit

abbrev ModelInputDigest := { text : JsString // isSha256Hex text = true }

/-- Names under which a failure is stored beside its operation. -/
inductive ObservedFailure where
  | modelAttemptLeaseExpired
  | modelRequestDeadlineExceededBeforeDispatch
  | modelDailyDispatchLimitExceeded
  | modelFixtureMissing
  | modelProviderConnectionLost
  | modelProviderEmptyResponse
  | modelProviderHttp5xx
  | modelProviderMalformedResponse
  | modelProviderQuotaDenied
  | modelProviderRateLimited
  | modelProviderRefusal
  | modelProviderRequestRejected
  | modelProviderTruncated
  | modelRequestDeadlineExceeded
  | modelSchemaUnsupported
  | modelStructuredOutputDecodingFailed
  | modelOperationKillSwitchEngaged
  | modelOperationDomainValidationRejected
  | modelOperationDispatchLimitExceeded
  deriving DecidableEq, Repr

inductive RateLimitClassification where
  | transient
  | quota
  deriving DecidableEq, Repr

/-- `Schema.Int.pipe(Schema.between(0, 60_000))`. -/
abbrev RetryAfterMilliseconds := Fin 60001

inductive ModelGatewayError where
  | modelFixtureMissing
  | modelProviderConnectionLost
  | modelProviderEmptyResponse
  | modelProviderHttp5xx
  | modelProviderMalformedResponse
  | modelProviderQuotaDenied
  | modelProviderRateLimited (classification : RateLimitClassification)
      (retryAfterMilliseconds : RetryAfterMilliseconds)
  | modelProviderRefusal
  | modelProviderRequestRejected
  | modelProviderTruncated
  | modelRequestDeadlineExceeded
  | modelSchemaUnsupported
  | modelStructuredOutputDecodingFailed
  deriving DecidableEq, Repr

/-- The `_tag` of a gateway failure. -/
def ModelGatewayError.tag : ModelGatewayError → ObservedFailure
  | .modelFixtureMissing => .modelFixtureMissing
  | .modelProviderConnectionLost => .modelProviderConnectionLost
  | .modelProviderEmptyResponse => .modelProviderEmptyResponse
  | .modelProviderHttp5xx => .modelProviderHttp5xx
  | .modelProviderMalformedResponse => .modelProviderMalformedResponse
  | .modelProviderQuotaDenied => .modelProviderQuotaDenied
  | .modelProviderRateLimited _ _ => .modelProviderRateLimited
  | .modelProviderRefusal => .modelProviderRefusal
  | .modelProviderRequestRejected => .modelProviderRequestRejected
  | .modelProviderTruncated => .modelProviderTruncated
  | .modelRequestDeadlineExceeded => .modelRequestDeadlineExceeded
  | .modelSchemaUnsupported => .modelSchemaUnsupported
  | .modelStructuredOutputDecodingFailed => .modelStructuredOutputDecodingFailed

inductive ModelCompletionDisposition where
  | succeeded
  | explicitlyRejected
  | invalidOutput
  | outcomeUnknown
  deriving DecidableEq, Repr

inductive ModelRetryPlan where
  | none
  | scheduleTransientRateLimit (delayMilliseconds : Int)
  deriving DecidableEq, Repr

/-- Summary of a finished attempt, stored and returned to the caller. -/
structure ModelOperationCompletion where
  disposition : ModelCompletionDisposition
  observedFailure : Option ObservedFailure
  retryPlan : ModelRetryPlan
  deriving DecidableEq, Repr

def classifyModelGatewayFailure (failure : ModelGatewayError)
    (transientRateLimitRetryAvailable : Bool) : ModelOperationCompletion :=
  match failure with
  | .modelProviderRateLimited classification retryAfterMilliseconds =>
      let maySchedule := classification = .transient ∧
        retryAfterMilliseconds.val ≤ 1000 ∧
        transientRateLimitRetryAvailable = true
      { disposition := .explicitlyRejected
        observedFailure := some failure.tag
        retryPlan :=
          if maySchedule then
            .scheduleTransientRateLimit retryAfterMilliseconds.val
          else
            .none }
  | .modelRequestDeadlineExceeded | .modelProviderConnectionLost
  | .modelProviderEmptyResponse | .modelProviderMalformedResponse
  | .modelProviderHttp5xx =>
      { disposition := .outcomeUnknown
        observedFailure := some failure.tag
        retryPlan := .none }
  | .modelProviderTruncated | .modelStructuredOutputDecodingFailed =>
      { disposition := .invalidOutput
        observedFailure := some failure.tag
        retryPlan := .none }
  | _ =>
      { disposition := .explicitlyRejected
        observedFailure := some failure.tag
        retryPlan := .none }

structure ModelTokenUsage where
  cachedInputTokens : Nat
  inputTokens : Nat
  outputTokens : Nat
  reasoningTokens : Nat
  deriving DecidableEq, Repr

structure ModelGatewaySuccess where
  costMicroUsd : Nat
  output : JsValue
  providerRequestId : Option JsString
  usage : ModelTokenUsage

abbrev ModelGatewayResult := Except ModelGatewayError ModelGatewaySuccess

/-- Price of one successful call, read over the rationals. -/
def computeNanoCostMicroUsd
    (inputTokens cachedInputTokens outputTokens : Nat) : Nat :=
  let boundedCachedTokens := min inputTokens cachedInputTokens
  let uncachedInputTokens := inputTokens - boundedCachedTokens
  ⌈(uncachedInputTokens : ℚ) * (2 / 10) +
    (boundedCachedTokens : ℚ) * (2 / 100) +
    (outputTokens : ℚ) * (125 / 100)⌉₊

section Classification

variable {failure : ModelGatewayError} {available : Bool}

@[simp] theorem classifyModelGatewayFailure_observedFailure :
    (classifyModelGatewayFailure failure available).observedFailure =
      some failure.tag := by
  cases failure <;> rfl

theorem classifyModelGatewayFailure_ne_succeeded :
    (classifyModelGatewayFailure failure available).disposition ≠
      .succeeded := by
  cases failure <;> simp [classifyModelGatewayFailure]

/-- Only a transient rate limit with a retry left is ever scheduled again. -/
theorem classifyModelGatewayFailure_schedules {delay : Int}
    (scheduled : (classifyModelGatewayFailure failure available).retryPlan =
      .scheduleTransientRateLimit delay) :
    (classifyModelGatewayFailure failure available).disposition =
        .explicitlyRejected ∧
      failure.tag = .modelProviderRateLimited ∧
        available = true ∧ 0 ≤ delay ∧ delay ≤ 1000 := by
  cases failure with
  | modelProviderRateLimited classification retryAfter =>
      simp only [classifyModelGatewayFailure] at scheduled
      split at scheduled
      · rename_i allowed
        cases scheduled
        refine ⟨rfl, rfl, allowed.2.2, by omega, by omega⟩
      · cases scheduled
  | _ => simp [classifyModelGatewayFailure] at scheduled

/-- A failure whose outcome is unknown is not billed by the settlement. -/
theorem classifyModelGatewayFailure_outcomeUnknown
    (unknown : (classifyModelGatewayFailure failure available).disposition =
      .outcomeUnknown) :
    failure.tag ≠ .modelProviderRefusal ∧
      failure.tag ≠ .modelProviderTruncated ∧
        failure.tag ≠ .modelStructuredOutputDecodingFailed := by
  cases failure <;>
    simp [classifyModelGatewayFailure, ModelGatewayError.tag] at unknown ⊢

end Classification

section Price

/-- Cached tokens are the cheaper kind, so the price is largest when nothing
was cached. -/
theorem computeNanoCostMicroUsd_le
    {inputTokens cachedInputTokens outputTokens inputLimit outputLimit
      maximumCost : Nat}
    (inputBounded : inputTokens ≤ inputLimit)
    (outputBounded : outputTokens ≤ outputLimit)
    (priced : 20 * inputLimit + 125 * outputLimit ≤ 100 * maximumCost) :
    computeNanoCostMicroUsd inputTokens cachedInputTokens outputTokens ≤
      maximumCost := by
  unfold computeNanoCostMicroUsd
  rw [Nat.ceil_le]
  have cachedLe : min inputTokens cachedInputTokens ≤ inputTokens :=
    Nat.min_le_left _ _
  have split : ((inputTokens - min inputTokens cachedInputTokens : Nat) : ℚ) +
      (min inputTokens cachedInputTokens : Nat) = inputTokens := by
    rw [← Nat.cast_add, Nat.sub_add_cancel cachedLe]
  have inputRational : (inputTokens : ℚ) ≤ inputLimit := by
    exact_mod_cast inputBounded
  have outputRational : (outputTokens : ℚ) ≤ outputLimit := by
    exact_mod_cast outputBounded
  have pricedRational : (20 : ℚ) * inputLimit + 125 * outputLimit ≤
      100 * maximumCost := by
    exact_mod_cast priced
  have cachedNonnegative :
      (0 : ℚ) ≤ (min inputTokens cachedInputTokens : Nat) :=
    Nat.cast_nonneg _
  linarith

end Price

end XpensGo
