import XpensGo.EcmaScript.Number
import XpensGo.Model.Gateway

/-!
# Errors of the OpenAI gateway

`mapOpenAIError` turns what the SDK has thrown and the status that was observed
into a failure of the gateway, and `classifyModelGatewayFailure` plans a retry
for some rate limits.  A retry follows a header of a 429 response.  A blank
header asks for no wait, and a denial of quota is not read in a long body.
-/

namespace XpensGo

open EcmaScript JsString

/-- An object that was thrown, as the predicates of the SDK see it. -/
structure ThrownError where
  name : Option JsString := none
  isNoObjectGenerated : Bool := false
  isNoOutputGenerated : Bool := false
  isEmptyResponseBody : Bool := false
  isApiCall : Bool := false
  isInvalidResponseData : Bool := false
  isJsonParse : Bool := false
  isUnsupportedFunctionality : Bool := false
  finishReason : Option JsString := none
  statusCode : Option Int := none
  responseBody : Option JsString := none
  responseHeaders : Option (List (JsString × JsString)) := none

/-- Anything that can be thrown, with the chain of its causes. -/
inductive ThrownValue where
  | primitive
  | object (error : ThrownError) (cause : ThrownValue)

/-- The functions of the platform that the gateway calls. -/
structure GatewayPlatform where
  numbers : NumberBuiltins
  dates : DateBuiltins
  dateNow : Int
  jsonParse : JsString → Option JsValue

/-- The predicate holds of the error or of one of its first four causes. -/
def sdkCause (predicate : ThrownError → Bool) : Nat → ThrownValue → Bool
  | 0, _ | _, .primitive => false
  | depth + 1, .object error cause =>
      predicate error || sdkCause predicate depth cause

def namedCause (expectedName : JsString) : Nat → ThrownValue → Bool :=
  sdkCause (fun error => error.name = some expectedName)

def causeDepth : Nat := 5

inductive RetryHeader where
  | retryAfterMs
  | retryAfter
  deriving DecidableEq, Repr

def RetryHeader.name : RetryHeader → JsString
  | .retryAfterMs => ofString "retry-after-ms"
  | .retryAfter => ofString "retry-after"

/-- The last header whose name is this one in lower case. -/
def headerValue (headers : List (JsString × JsString))
    (header : RetryHeader) : Option JsString :=
  ((headers.filter (fun entry => toLowerCase entry.1 = header.name)).map
    Prod.snd).getLast?

section Platform

variable (platform : GatewayPlatform)

/-- The milliseconds that the value of a header asks for. -/
def GatewayPlatform.askedDelay (header : RetryHeader) (value : JsString) :
    JsNumber :=
  match header with
  | .retryAfterMs => platform.numbers.number value
  | .retryAfter =>
      if (platform.numbers.number value).isFinite then
        platform.numbers.multiply (platform.numbers.number value)
          (.finite 1000)
      else
        match platform.dates.parse value with
        | some instant => .finite (instant - platform.dateNow : Int)
        | none => .nan

private theorem ceil_lt_of_bounded {parsed : ℚ}
    (bounded : 0 ≤ parsed ∧ parsed ≤ 60000) : ⌈parsed⌉.toNat < 60001 := by
  have upper : ⌈parsed⌉ ≤ 60000 := Int.ceil_le.mpr bounded.2
  omega

/-- The whole number of milliseconds, if it is between 0 and 60,000. -/
def boundedDelay : JsNumber → Option RetryAfterMilliseconds
  | .finite parsed =>
      if bounded : 0 ≤ parsed ∧ parsed ≤ 60000 then
        some ⟨⌈parsed⌉.toNat, ceil_lt_of_bounded bounded⟩
      else
        none
  | .nan | .infinite _ => none

def parseRetryAfterMilliseconds
    (headers : Option (List (JsString × JsString))) :
    Option RetryAfterMilliseconds :=
  match headers with
  | none => none
  | some headers =>
      match headerValue headers .retryAfterMs,
        headerValue headers .retryAfter with
      | some milliseconds, _ =>
          boundedDelay (platform.askedDelay .retryAfterMs milliseconds)
      | none, some retryAfter =>
          boundedDelay (platform.askedDelay .retryAfter retryAfter)
      | none, none => none

/-- `error.code` and `error.type`, where they are strings. -/
def errorDetails : JsValue → List JsString
  | .object fields =>
      match JsValue.property (ofString "error") fields with
      | some (.object error) =>
          [ofString "code", ofString "type"].filterMap (fun name =>
            match JsValue.property name error with
            | some (.string detail) => some detail
            | _ => none)
      | _ => []
  | _ => []

def quotaMarkers : List JsString :=
  [ofString "quota", ofString "billing", ofString "credit", ofString "spend",
    ofString "action_required"]

def isQuotaOrActionRequired (responseBody : Option JsString) : Bool :=
  match responseBody with
  | none => false
  | some body =>
      if body.length > 16384 then
        false
      else
        match platform.jsonParse body with
        | none => false
        | some parsed =>
            let classification :=
              toLowerCase (List.intercalate (ofString ":") (errorDetails parsed))
            quotaMarkers.any (fun marker => includes classification marker)

def mapOpenAIError (thrown : ThrownValue) (observedHttpStatus : Option Int) :
    ModelGatewayError :=
  let unnamed :=
    if namedCause (ofString "TypeError") causeDepth thrown then
      .modelProviderConnectionLost
    else
      .modelProviderMalformedResponse
  let aborted := namedCause (ofString "TimeoutError") causeDepth thrown ||
    namedCause (ofString "AbortError") causeDepth thrown
  match thrown with
  | .primitive => .modelProviderMalformedResponse
  | .object error _ =>
      if error.isNoObjectGenerated then
        if error.finishReason = some (ofString "length") then
          .modelProviderTruncated
        else if error.finishReason = some (ofString "content-filter") then
          .modelProviderRefusal
        else
          .modelStructuredOutputDecodingFailed
      else if sdkCause (fun candidate => candidate.isNoOutputGenerated ||
          candidate.isEmptyResponseBody) causeDepth thrown then
        .modelProviderEmptyResponse
      else if error.isApiCall ∧ observedHttpStatus = some 200 ∧
          error.responseBody = some [] then
        .modelProviderEmptyResponse
      else if sdkCause (fun candidate => candidate.isInvalidResponseData ||
          candidate.isJsonParse) causeDepth thrown then
        .modelProviderMalformedResponse
      else if error.isUnsupportedFunctionality then
        .modelSchemaUnsupported
      else if error.isApiCall then
        if observedHttpStatus = some 200 then
          if error.responseBody = some [] then
            .modelProviderEmptyResponse
          else
            .modelProviderMalformedResponse
        else
          match observedHttpStatus.or error.statusCode with
          | some status =>
              if status = 429 then
                if isQuotaOrActionRequired platform error.responseBody then
                  .modelProviderQuotaDenied
                else
                  .modelProviderRateLimited .transient
                    ((parseRetryAfterMilliseconds platform
                      error.responseHeaders).getD ⟨60000, by omega⟩)
              else if status = 402 then
                .modelProviderQuotaDenied
              else if 500 ≤ status ∧ status ≤ 599 then
                .modelProviderHttp5xx
              else if 400 ≤ status ∧ status ≤ 599 then
                .modelProviderRequestRejected
              else if aborted then
                .modelRequestDeadlineExceeded
              else
                .modelProviderConnectionLost
          | none =>
              if aborted then
                .modelRequestDeadlineExceeded
              else
                .modelProviderConnectionLost
      else if aborted then
        .modelRequestDeadlineExceeded
      else
        unnamed

end Platform

section Denials

variable {platform : GatewayPlatform}

/-- The body is an object whose `error.code` or `error.type` speaks of quota or
of an action that is required. -/
def DeniesQuota (platform : GatewayPlatform) (body : JsString) : Prop :=
  ∃ parsed detail marker, platform.jsonParse body = some parsed ∧
    detail ∈ errorDetails parsed ∧ marker ∈ quotaMarkers ∧
    marker <:+: toLowerCase detail

private theorem quotaMarkers_apart :
    ∀ marker ∈ quotaMarkers, marker ≠ [] ∧ (0x3a : CodeUnit) ∉ marker := by
  decide

private theorem infix_intercalate_iff {marker : JsString} (nonempty : marker ≠ [])
    (apart : (0x3a : CodeUnit) ∉ marker) (details : List JsString) :
    marker <:+: toLowerCase (List.intercalate (ofString ":") details) ↔
      ∃ detail ∈ details, marker <:+: toLowerCase detail := by
  induction details with
  | nil => simp [toLowerCase, nonempty]
  | cons first details induction =>
      cases details with
      | nil => simp
      | cons second details =>
          have joined : toLowerCase (List.intercalate (ofString ":")
              (first :: second :: details)) =
              toLowerCase first ++ 0x3a ::
                toLowerCase (List.intercalate (ofString ":")
                  (second :: details)) := by
            rw [List.intercalate_cons_cons]
            simp [toLowerCase, ofString, lowerUnit]
          rw [joined, List.exists_mem_cons_iff, ← induction]
          constructor
          · exact infix_append_cons apart
          · rintro (left | right)
            · exact left.trans (List.prefix_append _ _).isInfix
            · apply right.trans
              exact (List.suffix_cons _ _).isInfix.trans
                (List.suffix_append _ _).isInfix

theorem isQuotaOrActionRequired_iff {body : JsString} :
    isQuotaOrActionRequired platform (some body) = true ↔
      body.length ≤ 16384 ∧ DeniesQuota platform body := by
  simp only [isQuotaOrActionRequired]
  split
  · rename_i long
    constructor
    · intro recognized
      cases recognized
    · rintro ⟨short, _⟩
      omega
  · rename_i short
    cases parsed : platform.jsonParse body with
    | none =>
        constructor
        · intro recognized
          cases recognized
        · rintro ⟨_, value, _, _, read, _⟩
          rw [parsed] at read
          cases read
    | some value =>
        simp only [List.any_eq_true, includes, decide_eq_true_eq]
        constructor
        · rintro ⟨marker, member, occurs⟩
          obtain ⟨nonempty, apart⟩ := quotaMarkers_apart marker member
          obtain ⟨detail, listed, found⟩ :=
            (infix_intercalate_iff nonempty apart _).mp occurs
          exact ⟨by omega, value, detail, marker, parsed, listed, member, found⟩
        · rintro ⟨_, read, detail, marker, same, listed, member, found⟩
          rw [parsed] at same
          cases same
          obtain ⟨nonempty, apart⟩ := quotaMarkers_apart marker member
          exact ⟨marker, member,
            (infix_intercalate_iff nonempty apart _).mpr
              ⟨detail, listed, found⟩⟩

end Denials

section Retries

variable {platform : GatewayPlatform} {thrown : ThrownValue}
  {observedHttpStatus : Option Int}

/-- A call error that the gateway judges by its status. -/
structure JudgedByStatus (thrown : ThrownValue) (error : ThrownError) :
    Prop where
  isObject : ∃ cause, thrown = .object error cause
  hasObject : error.isNoObjectGenerated = false
  hasOutput : sdkCause (fun candidate => candidate.isNoOutputGenerated ||
    candidate.isEmptyResponseBody) causeDepth thrown = false
  isWellFormed : sdkCause (fun candidate => candidate.isInvalidResponseData ||
    candidate.isJsonParse) causeDepth thrown = false
  isSupported : error.isUnsupportedFunctionality = false
  isApiCall : error.isApiCall = true

/-- A rate limit without a recognized denial and with a short wait. -/
structure ShortRateLimit (platform : GatewayPlatform) (thrown : ThrownValue)
    (observedHttpStatus : Option Int) (error : ThrownError)
    (delay : RetryAfterMilliseconds) : Prop where
  judged : JudgedByStatus thrown error
  status : observedHttpStatus.or error.statusCode = some 429
  unrecognized : isQuotaOrActionRequired platform error.responseBody = false
  waits : parseRetryAfterMilliseconds platform error.responseHeaders =
    some delay
  short : delay.val ≤ 1000

private theorem rateLimited_of_mapOpenAIError
    {classification : RateLimitClassification}
    {delay : RetryAfterMilliseconds}
    (mapped : mapOpenAIError platform thrown observedHttpStatus =
      .modelProviderRateLimited classification delay) :
    ∃ error, JudgedByStatus thrown error ∧
      observedHttpStatus.or error.statusCode = some 429 ∧
      isQuotaOrActionRequired platform error.responseBody = false ∧
      (parseRetryAfterMilliseconds platform error.responseHeaders).getD
        ⟨60000, by omega⟩ = delay := by
  cases thrown with
  | primitive => cases mapped
  | object error cause =>
      simp only [mapOpenAIError] at mapped
      by_cases noObject : error.isNoObjectGenerated = true
      · rw [if_pos noObject] at mapped
        split at mapped
        · cases mapped
        · split at mapped <;> cases mapped
      rw [if_neg noObject] at mapped
      by_cases hasOutput : sdkCause (fun candidate =>
        candidate.isNoOutputGenerated || candidate.isEmptyResponseBody)
          causeDepth (.object error cause) = true
      · rw [if_pos hasOutput] at mapped
        cases mapped
      rw [if_neg hasOutput] at mapped
      by_cases answered : error.isApiCall = true ∧
        observedHttpStatus = some 200 ∧ error.responseBody = some []
      · rw [if_pos answered] at mapped
        cases mapped
      rw [if_neg answered] at mapped
      by_cases isWellFormed : sdkCause (fun candidate =>
        candidate.isInvalidResponseData || candidate.isJsonParse)
          causeDepth (.object error cause) = true
      · rw [if_pos isWellFormed] at mapped
        cases mapped
      rw [if_neg isWellFormed] at mapped
      by_cases isSupported : error.isUnsupportedFunctionality = true
      · rw [if_pos isSupported] at mapped
        cases mapped
      rw [if_neg isSupported] at mapped
      split at mapped
      · rename_i isApiCall
        refine ⟨error, ⟨⟨cause, rfl⟩, by simpa using noObject,
          by simpa using hasOutput, by simpa using isWellFormed,
          by simpa using isSupported, isApiCall⟩, ?_⟩
        split at mapped
        · split at mapped <;> cases mapped
        split at mapped
        · rename_i status found
          split at mapped
          · rename_i limited
            split at mapped
            · cases mapped
            · rename_i unrecognized
              cases mapped
              exact ⟨by rw [found, limited], by simpa using unrecognized, rfl⟩
          · split at mapped
            · cases mapped
            · split at mapped
              · cases mapped
              · split at mapped
                · cases mapped
                · split at mapped <;> cases mapped
        · split at mapped <;> cases mapped
      · split at mapped
        · cases mapped
        · split at mapped <;> cases mapped

private theorem mapOpenAIError_of_judged {error : ThrownError}
    (judged : JudgedByStatus thrown error)
    (status : observedHttpStatus.or error.statusCode = some 429)
    (unrecognized : isQuotaOrActionRequired platform error.responseBody =
      false) :
    mapOpenAIError platform thrown observedHttpStatus =
      .modelProviderRateLimited .transient
        ((parseRetryAfterMilliseconds platform error.responseHeaders).getD
          ⟨60000, by omega⟩) := by
  obtain ⟨⟨cause, rfl⟩, hasObject, hasOutput, isWellFormed, isSupported,
    isApiCall⟩ := judged
  have failed : observedHttpStatus ≠ some 200 := by
    rintro rfl
    cases status
  simp only [mapOpenAIError, hasObject, hasOutput, isWellFormed, isSupported,
    isApiCall, failed, status, unrecognized, if_false, if_true,
    Bool.false_eq_true, false_and, and_false]

/-- A retry is planned for short rate limits, and for these only. -/
theorem plans_retry_iff {delayMilliseconds : Int} :
    (classifyModelGatewayFailure
        (mapOpenAIError platform thrown observedHttpStatus) true).retryPlan =
      .scheduleTransientRateLimit delayMilliseconds ↔
      ∃ error delay,
        ShortRateLimit platform thrown observedHttpStatus error delay ∧
          (delay.val : Int) = delayMilliseconds := by
  constructor
  · intro planned
    cases mapped : mapOpenAIError platform thrown observedHttpStatus with
    | modelProviderRateLimited classification delay =>
        obtain ⟨error, judged, status, unrecognized, waits⟩ :=
          rateLimited_of_mapOpenAIError mapped
        rw [mapped] at planned
        simp only [classifyModelGatewayFailure] at planned
        split at planned
        · rename_i allowed
          cases planned
          refine ⟨error, delay, ⟨judged, status, unrecognized, ?_,
            allowed.2.1⟩, rfl⟩
          cases parsed : parseRetryAfterMilliseconds platform
            error.responseHeaders with
          | some found =>
              rw [parsed] at waits
              exact congrArg some waits
          | none =>
              rw [parsed] at waits
              subst waits
              exact absurd allowed.2.1 (by decide)
        · cases planned
    | _ =>
        rw [mapped] at planned
        cases planned
  · rintro ⟨error, delay, ⟨judged, status, unrecognized, waits, short⟩, rfl⟩
    rw [mapOpenAIError_of_judged judged status unrecognized, waits]
    simp [classifyModelGatewayFailure, short]

end Retries

section RetriedErrors

variable {platform : GatewayPlatform} {thrown : ThrownValue}
  {observedHttpStatus : Option Int}

/-- What the value of a header asks for, as a number of milliseconds. -/
def Asks (platform : GatewayPlatform) (headers : List (JsString × JsString))
    (header : RetryHeader) (asked : Rat) : Prop :=
  ∃ value, headerValue headers header = some value ∧
    value.all isWhiteSpace = false ∧
    platform.askedDelay header value = .finite asked

/-- A retry that the provider has asked for. -/
structure RetryAllowed (platform : GatewayPlatform) (thrown : ThrownValue)
    (observedHttpStatus : Option Int) (delayMilliseconds : Int) : Prop where
  answered : ∃ error cause, thrown = .object error cause ∧
    observedHttpStatus.or error.statusCode = some 429 ∧
    (∀ body, error.responseBody = some body → ¬DeniesQuota platform body) ∧
    ∃ headers header asked, error.responseHeaders = some headers ∧
      Asks platform headers header asked ∧ asked ≤ delayMilliseconds
  nonnegative : 0 ≤ delayMilliseconds
  bounded : delayMilliseconds ≤ 1000

/-- Either no retry is planned or the provider has asked for it. -/
def RetriesSafely (platform : GatewayPlatform) (thrown : ThrownValue)
    (observedHttpStatus : Option Int) (plan : ModelRetryPlan) : Prop :=
  plan = .none ∨ ∃ delayMilliseconds,
    plan = .scheduleTransientRateLimit delayMilliseconds ∧
      RetryAllowed platform thrown observedHttpStatus delayMilliseconds

/-- The denial of quota is in a body that is too long to be read. -/
def DeniesUnread (platform : GatewayPlatform) (error : ThrownError) : Prop :=
  ∃ body, error.responseBody = some body ∧ 16384 < body.length ∧
    DeniesQuota platform body

/-- The header that is followed is not blank.  A blank `retry-after-ms` does no
harm beside a `retry-after` that asks for no wait. -/
def HeaderFilled (platform : GatewayPlatform) (error : ThrownError) : Prop :=
  ∃ headers, error.responseHeaders = some headers ∧
    match headerValue headers .retryAfterMs with
    | some milliseconds =>
        milliseconds.all isWhiteSpace = false ∨
          ∃ asked, Asks platform headers .retryAfter asked ∧ asked ≤ 0
    | none =>
        ∃ value, headerValue headers .retryAfter = some value ∧
          value.all isWhiteSpace = false

private theorem boundedDelay_eq_some {asked : JsNumber}
    {delay : RetryAfterMilliseconds}
    (bounded : boundedDelay asked = some delay) :
    ∃ parsed, asked = .finite parsed ∧ (delay.val : Int) = ⌈parsed⌉ := by
  cases asked with
  | nan | infinite => cases bounded
  | finite parsed =>
      simp only [boundedDelay] at bounded
      split at bounded
      · rename_i within
        cases bounded
        refine ⟨parsed, rfl, ?_⟩
        exact Int.toNat_of_nonneg (Int.ceil_nonneg within.1)
      · cases bounded

private theorem unread_of_shortRateLimit {error : ThrownError}
    {delay : RetryAfterMilliseconds} {body : JsString}
    (limited : ShortRateLimit platform thrown observedHttpStatus error delay)
    (found : error.responseBody = some body)
    (denies : DeniesQuota platform body) : DeniesUnread platform error := by
  refine ⟨body, found, ?_, denies⟩
  by_contra short
  have recognized := isQuotaOrActionRequired_iff.mpr ⟨by omega, denies⟩
  rw [← found, limited.unrecognized] at recognized
  cases recognized

private theorem asks_of_headerFilled {error : ThrownError}
    {delay : RetryAfterMilliseconds}
    (limited : ShortRateLimit platform thrown observedHttpStatus error delay)
    (filled : HeaderFilled platform error) :
    ∃ headers header asked, error.responseHeaders = some headers ∧
      Asks platform headers header asked ∧ asked ≤ (delay.val : Int) := by
  obtain ⟨headers, present, filled⟩ := filled
  have waits := limited.waits
  rw [present] at waits
  simp only [parseRetryAfterMilliseconds] at waits
  cases milliseconds : headerValue headers .retryAfterMs with
  | some value =>
      rw [milliseconds] at waits filled
      obtain ⟨parsed, asked, ceiling⟩ := boundedDelay_eq_some waits
      rcases filled with filled | ⟨none, asks, nonpositive⟩
      · refine ⟨headers, .retryAfterMs, parsed, present,
          ⟨value, milliseconds, filled, asked⟩, ?_⟩
        rw [ceiling]
        exact Int.le_ceil parsed
      · refine ⟨headers, .retryAfter, none, present, asks, ?_⟩
        have nonnegative : (0 : Rat) ≤ (delay.val : Int) := by
          exact_mod_cast Nat.zero_le delay.val
        exact nonpositive.trans nonnegative
  | none =>
      rw [milliseconds] at waits filled
      obtain ⟨value, found, filled⟩ := filled
      rw [found] at waits
      obtain ⟨parsed, asked, ceiling⟩ := boundedDelay_eq_some waits
      refine ⟨headers, .retryAfter, parsed, present,
        ⟨value, found, filled, asked⟩, ?_⟩
      rw [ceiling]
      exact Int.le_ceil parsed

private theorem headerFilled_of_asks {error : ThrownError}
    {delay : RetryAfterMilliseconds} {headers : List (JsString × JsString)}
    {header : RetryHeader} {asked : Rat}
    (limited : ShortRateLimit platform thrown observedHttpStatus error delay)
    (present : error.responseHeaders = some headers)
    (asks : Asks platform headers header asked)
    (enough : asked ≤ (delay.val : Int)) : HeaderFilled platform error := by
  refine ⟨headers, present, ?_⟩
  have waits := limited.waits
  rw [present] at waits
  simp only [parseRetryAfterMilliseconds] at waits
  obtain ⟨value, found, filled, parsed⟩ := asks
  cases milliseconds : headerValue headers .retryAfterMs with
  | some first =>
      simp only
      rw [milliseconds] at waits
      by_cases blank : first.all isWhiteSpace = true
      · apply Or.inr
        cases header with
        | retryAfterMs =>
            rw [milliseconds] at found
            cases found
            rw [blank] at filled
            cases filled
        | retryAfter =>
            -- The blank header was read as zero.
            obtain ⟨zero, read, ceiling⟩ := boundedDelay_eq_some waits
            have same : JsNumber.finite zero = .finite 0 :=
              read.symm.trans (platform.numbers.number_blank first blank)
            cases same
            rw [ceiling] at enough
            refine ⟨asked, ⟨value, found, filled, parsed⟩, ?_⟩
            simpa using enough
      · exact .inl (by simpa using blank)
  | none =>
      simp only
      cases header with
      | retryAfterMs =>
          rw [milliseconds] at found
          cases found
      | retryAfter => exact ⟨value, found, filled⟩

theorem readable_of_retriesSafely {error : ThrownError}
    {delay : RetryAfterMilliseconds}
    (safely : RetriesSafely platform thrown observedHttpStatus
      (classifyModelGatewayFailure
        (mapOpenAIError platform thrown observedHttpStatus) true).retryPlan)
    (limited : ShortRateLimit platform thrown observedHttpStatus error delay) :
    ¬DeniesUnread platform error ∧ HeaderFilled platform error := by
  have planned := plans_retry_iff.mpr ⟨error, delay, limited, rfl⟩
  rcases safely with none | ⟨delayMilliseconds, scheduled, allowed⟩
  · rw [none] at planned
    cases planned
  · rw [planned] at scheduled
    cases scheduled
    obtain ⟨other, cause, same, _, undenied, headers, header, asked,
      present, asks, enough⟩ := allowed.answered
    obtain ⟨cause', same'⟩ := limited.judged.isObject
    rw [same] at same'
    cases same'
    refine ⟨?_, headerFilled_of_asks limited present asks enough⟩
    rintro ⟨body, found, _, denies⟩
    exact undenied body found denies

/-- The plan is safe exactly if no short rate limit hides a denial of quota in
a long body or follows a blank header. -/
theorem retries_rate_limits_only :
    RetriesSafely platform thrown observedHttpStatus
        (classifyModelGatewayFailure
          (mapOpenAIError platform thrown observedHttpStatus)
            true).retryPlan ↔
      ∀ error delay,
        ShortRateLimit platform thrown observedHttpStatus error delay →
        ¬DeniesUnread platform error ∧ HeaderFilled platform error := by
  constructor
  · intro safely error delay limited
    exact readable_of_retriesSafely safely limited
  · intro readable
    cases plan : (classifyModelGatewayFailure
      (mapOpenAIError platform thrown observedHttpStatus) true).retryPlan with
    | none => exact .inl rfl
    | scheduleTransientRateLimit delayMilliseconds =>
        obtain ⟨error, delay, limited, rfl⟩ := plans_retry_iff.mp plan
        obtain ⟨unread, filled⟩ := readable error delay limited
        obtain ⟨cause, isObject⟩ := limited.judged.isObject
        obtain ⟨headers, header, asked, present, asks, enough⟩ :=
          asks_of_headerFilled limited filled
        refine .inr ⟨delay.val, rfl, ⟨error, cause, isObject, limited.status,
          ?_, headers, header, asked, present, asks, enough⟩, ?_, ?_⟩
        · intro body found denies
          exact unread (unread_of_shortRateLimit limited found denies)
        · exact Int.natCast_nonneg _
        · exact_mod_cast limited.short

def sampleDenial : JsString :=
  ofString "\x7b\"error\":\x7b\"code\":\"insufficient_quota\"\x7d\x7d"

/-- The numbers, dates and JSON texts of the samples. -/
def samplePlatform : GatewayPlatform :=
  { numbers :=
      { number := fun text =>
          if text.all isWhiteSpace then .finite 0
          else if text = ofString "1" then .finite 1
          else .nan
        multiply := fun _ _ => .nan
        number_blank := fun _ blank => if_pos blank }
    dates :=
      { parse := fun _ => none
        toISOString := fun _ => [] }
    dateNow := 0
    jsonParse := fun text =>
      if text.dropWhile isWhiteSpace = sampleDenial then
        some (.object [(ofString "error", .object
          [(ofString "code", .string (ofString "insufficient_quota"))])])
      else
        none }

/-- A 429 response with a header and a body. -/
def sampleRateLimit (retryAfterMs : JsString) (body : Option JsString) :
    ThrownError :=
  { name := some (ofString "AI_APICallError")
    isApiCall := true
    statusCode := some 429
    responseBody := body
    responseHeaders := some [(ofString "retry-after-ms", retryAfterMs)] }

/-- White space before a denial of quota, as JSON allows it. -/
def longDenial (spaces : Nat) : JsString :=
  List.replicate spaces 0x20 ++ sampleDenial

private theorem sampleRateLimit_short {value : JsString} {wait : Nat}
    {body : Option JsString}
    (unrecognized : isQuotaOrActionRequired samplePlatform body = false)
    (asked : samplePlatform.numbers.number value = .finite wait)
    (short : wait ≤ 1000) :
    ShortRateLimit samplePlatform
      (.object (sampleRateLimit value body) .primitive) (some 429)
      (sampleRateLimit value body) ⟨wait, by omega⟩ where
  judged := ⟨⟨_, rfl⟩, rfl, rfl, rfl, rfl, rfl⟩
  status := rfl
  unrecognized := unrecognized
  waits := by
    have found : headerValue [(ofString "retry-after-ms", value)]
        .retryAfterMs = some value := rfl
    have bounded : (0 : Rat) ≤ wait ∧ (wait : Rat) ≤ 60000 :=
      ⟨Nat.cast_nonneg wait, by exact_mod_cast (by omega : wait ≤ 60000)⟩
    simp [parseRetryAfterMilliseconds, sampleRateLimit, found,
      GatewayPlatform.askedDelay, asked, boundedDelay, bounded]
  short := short

private theorem longDenial_denies (spaces : Nat) :
    DeniesQuota samplePlatform (longDenial spaces) := by
  have trimmed : (longDenial spaces).dropWhile isWhiteSpace = sampleDenial := by
    unfold longDenial
    apply dropWhile_of_all
    · apply List.all_eq_true.mpr
      intro unit member
      rw [List.eq_of_mem_replicate member]
      rfl
    · intro unit head
      cases head
      rfl
  exact ⟨_, ofString "insufficient_quota", ofString "quota", if_pos trimmed,
    by decide, by decide, ofString "insufficient_", [], rfl⟩

private theorem longDenial_retried {spaces : Nat} (long : 16384 ≤ spaces) :
    ¬RetriesSafely samplePlatform
      (.object (sampleRateLimit (ofString "1") (some (longDenial spaces)))
        .primitive) (some 429)
      (classifyModelGatewayFailure (mapOpenAIError samplePlatform
        (.object (sampleRateLimit (ofString "1") (some (longDenial spaces)))
          .primitive) (some 429)) true).retryPlan := by
  have unread : 16384 < (longDenial spaces).length := by
    unfold longDenial
    rw [List.length_append, List.length_replicate]
    have nonempty : 0 < sampleDenial.length := by decide
    omega
  have unrecognized : isQuotaOrActionRequired samplePlatform
      (some (longDenial spaces)) = false := by
    by_contra recognized
    have short := (isQuotaOrActionRequired_iff.mp (by simpa using recognized)).1
    omega
  intro safely
  have limited := @sampleRateLimit_short (ofString "1") 1
    (some (longDenial spaces)) unrecognized rfl (by omega)
  exact (readable_of_retriesSafely safely limited).1
    ⟨longDenial spaces, rfl, unread, longDenial_denies spaces⟩

/-- A blank header is taken for a wait of no time, and a denial of quota after
16,384 code units of white space is taken for a transient limit. -/
theorem retries_beyond_rate_limits :
    ¬RetriesSafely samplePlatform
        (.object (sampleRateLimit [] none) .primitive) (some 429)
        (classifyModelGatewayFailure (mapOpenAIError samplePlatform
          (.object (sampleRateLimit [] none) .primitive) (some 429))
            true).retryPlan ∧
      ¬RetriesSafely samplePlatform
        (.object (sampleRateLimit (ofString "1") (some (longDenial 16384)))
          .primitive) (some 429)
        (classifyModelGatewayFailure (mapOpenAIError samplePlatform
          (.object (sampleRateLimit (ofString "1") (some (longDenial 16384)))
            .primitive) (some 429)) true).retryPlan := by
  constructor
  · intro safely
    have limited := @sampleRateLimit_short [] 0 none rfl rfl (by omega)
    obtain ⟨headers, present, filled⟩ :=
      (readable_of_retriesSafely safely limited).2
    cases present
    rcases filled with filled | ⟨asked, ⟨value, found, _⟩, _⟩
    · cases filled
    · cases found
  · exact longDenial_retried (Nat.le_refl 16384)

end RetriedErrors

end XpensGo
