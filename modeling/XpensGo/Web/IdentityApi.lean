import XpensGo.Channel.DeepLink
import XpensGo.EcmaScript.WhiteSpace
import XpensGo.Transition.System
import XpensGo.Web.Database

/-!
# The private identity API

Each request is authorized by its origin and by the session that the provider
of authentication finds for it, resolves the account of the session, and makes
the calls of its endpoint, each its own transaction.  Any number of requests
interleave with one another and with the commands of Telegram.

The correlation identifier of a request is the one of its header if that is
valid, and a generated one otherwise; bodies are the ones that their schemas
accept.
-/

namespace XpensGo

open EcmaScript JsString Postgres Relational Transition

section Requests

structure WebSessionUser where
  id : AuthUserId
  email : String
  name : String
  deriving DecidableEq, Repr

/-- The user of a session of the provider. -/
structure BetterAuthWebSession where
  user : WebSessionUser
  deriving DecidableEq, Repr

/-- The endpoints with their payloads. -/
inductive IdentityEndpoint where
  | overview
  | changeTimezone (timezone : JsString)
  | createTelegramLinkChallenge
  | createTelegramUnlinkChallenge (channelIdentityId : ChannelIdentityId)
  deriving DecidableEq

def IdentityEndpoint.method : IdentityEndpoint → String
  | .overview => "GET"
  | .changeTimezone _ => "PUT"
  | .createTelegramLinkChallenge | .createTelegramUnlinkChallenge _ => "POST"

/-- A request with its headers `origin` and `sec-fetch-site`. -/
structure IdentityRequest where
  endpoint : IdentityEndpoint
  origin : Option String
  fetchSite : Option String
  correlationId : CorrelationId

inductive IdentityApiError where
  | authenticationRequired
  | crossSiteRequestForbidden
  | invalidTimezone
  | invalidChannelIdentity
  | channelIdentityNotFound
  | challengeRateLimited (retryAfterSeconds : Int)
  | identityUnavailable
  deriving DecidableEq, Repr

namespace IdentityApiError

def status : IdentityApiError → Nat
  | .invalidTimezone | .invalidChannelIdentity => 400
  | .authenticationRequired => 401
  | .crossSiteRequestForbidden => 403
  | .channelIdentityNotFound => 404
  | .challengeRateLimited _ => 429
  | .identityUnavailable => 503

def code : IdentityApiError → String
  | .authenticationRequired => "authentication_required"
  | .crossSiteRequestForbidden => "cross_site_request_forbidden"
  | .invalidTimezone => "invalid_timezone"
  | .invalidChannelIdentity => "invalid_channel_identity"
  | .channelIdentityNotFound => "channel_identity_not_found"
  | .challengeRateLimited _ => "challenge_rate_limited"
  | .identityUnavailable => "identity_unavailable"

def message : IdentityApiError → String
  | .authenticationRequired => "Sign in to access this resource."
  | .crossSiteRequestForbidden => "The request origin is not allowed."
  | .invalidTimezone => "Provide a supported IANA timezone."
  | .invalidChannelIdentity => "The Telegram identity identifier is invalid."
  | .channelIdentityNotFound => "The Telegram identity is not available."
  | .challengeRateLimited _ =>
      "Too many Telegram verification challenges were requested."
  | .identityUnavailable =>
      "Identity services are temporarily unavailable."

end IdentityApiError

/-- `IdentityOverviewV1`. -/
structure IdentityOverviewReply where
  userId : UserId
  email : String
  name : String
  timezone : UserTimezone
  ledgerId : LedgerId
  telegramIdentities : List TelegramIdentitySummary

/-- `TelegramChallengeV1`. -/
structure TelegramChallengeReply where
  purpose : ChallengeCommand
  token : ChannelLinkChallengeToken
  deepLink : Option JsString
  expiresAtMillis : EpochMillis

inductive IdentityReply where
  | overview (overview : IdentityOverviewReply)
  | challenge (challenge : TelegramChallengeReply)
  | failed (error : IdentityApiError)

def IdentityReply.status : IdentityReply → Nat
  | .overview _ => 200
  | .challenge _ => 201
  | .failed error => error.status

/-- The configuration of an invocation, and what the runtime computes: the
digests and whether it supports a timezone. -/
structure IdentityApiConfig where
  trustedOrigin : String
  botUsername : Option TelegramBotUsername
  crypto : WebCrypto
  isSupportedIanaTimezone : JsString → Bool

end Requests

section Authorization

variable (config : IdentityApiConfig)

def isMutation (method : String) : Bool :=
  ["POST", "PUT", "PATCH", "DELETE"].contains method

/-- The refusal of `webSessionAuthorizationLayer` before it looks for a
session. -/
def IdentityRequest.isCrossSite (request : IdentityRequest) : Bool :=
  isMutation request.endpoint.method &&
    (request.origin ≠ some config.trustedOrigin ||
      request.fetchSite.any (fun site =>
        site ≠ "same-origin" && site ≠ "none"))

/-- `webSessionAuthorizationLayer`; `found` is `none` when the provider is not
available. -/
def authorizeWebSession (request : IdentityRequest)
    (found : Option (Option BetterAuthWebSession)) :
    Except IdentityApiError BetterAuthWebSession :=
  if request.isCrossSite config then
    .error .crossSiteRequestForbidden
  else
    match found with
    | none => .error .identityUnavailable
    | some none => .error .authenticationRequired
    | some (some session) => .ok session

/-- `UserTimezone`. -/
def decodeUserTimezone (text : JsString) : Option UserTimezone :=
  let trimmed := text.trim
  if 1 ≤ trimmed.length && trimmed.length ≤ 64 &&
      config.isSupportedIanaTimezone trimmed then
    some trimmed.toText
  else
    none

end Authorization

section Handlers

/-- What a request does next. -/
inductive ApiPhase where
  | resolving
  | changingTimezone (actor : WebActorContext) (timezone : UserTimezone)
  | listing (actor : WebActorContext)
  | creatingLink (actor : WebActorContext)
  | creatingUnlink (actor : WebActorContext)
      (channelIdentityId : ChannelIdentityId)
  | answered (reply : IdentityReply)

structure ApiCall where
  request : IdentityRequest
  found : Option (Option BetterAuthWebSession)
  phase : ApiPhase

variable (config : IdentityApiConfig)

def ApiCall.receive (request : IdentityRequest)
    (found : Option (Option BetterAuthWebSession)) : ApiCall :=
  { request := request
    found := found
    phase :=
      match authorizeWebSession config request found with
      | .error error => .answered (.failed error)
      | .ok _ => .resolving }

/-- After `resolveCurrentIdentity`. -/
def IdentityEndpoint.afterResolve (endpoint : IdentityEndpoint)
    (resolved : Except AccountFailure WebActorContext) : ApiPhase :=
  match resolved with
  | .error _ => .answered (.failed .identityUnavailable)
  | .ok actor =>
      match endpoint with
      | .overview => .listing actor
      | .changeTimezone text =>
          match decodeUserTimezone config text with
          | none => .answered (.failed .invalidTimezone)
          | some timezone => .changingTimezone actor timezone
      | .createTelegramLinkChallenge => .creatingLink actor
      | .createTelegramUnlinkChallenge channelIdentityId =>
          .creatingUnlink actor channelIdentityId

def afterChange (changed : Except AccountFailure WebActorContext) : ApiPhase :=
  match changed with
  | .error _ => .answered (.failed .identityUnavailable)
  | .ok actor => .listing actor

/-- The account of a session, with the identities that are linked to it. -/
def toIdentityOverview (session : BetterAuthWebSession)
    (actor : WebActorContext)
    (listed : Option (List TelegramIdentitySummary)) : IdentityReply :=
  match listed with
  | none => .failed .identityUnavailable
  | some telegramIdentities =>
      .overview
        { userId := actor.userId
          email := session.user.email
          name := session.user.name
          timezone := actor.timezone
          ledgerId := actor.ledgerId
          telegramIdentities := telegramIdentities }

/-- The refusals of `createTelegramLinkChallenge`. -/
def linkChallengeError : IdentityStoreFailure → IdentityApiError :=
  fun _ => .identityUnavailable

/-- The refusals of `createTelegramUnlinkChallenge`. -/
def unlinkChallengeError : IdentityStoreFailure → IdentityApiError
  | .channelIdentityNotFound | .identityAuthorityNotFound _ =>
      .channelIdentityNotFound
  | .identityPersistenceUnavailable _ => .identityUnavailable

/-- The reply of a handler that has created a challenge, or has not. -/
def challengeReply (purpose : ChallengeCommand)
    (token : ChannelLinkChallengeToken) (now : EpochMillis)
    (toError : IdentityStoreFailure → IdentityApiError)
    (created : Except IdentityStoreFailure
      PersistTelegramLinkChallengeOutcome) : IdentityReply :=
  match created with
  | .error failure => .failed (toError failure)
  | .ok (.rateLimited retryAfterSeconds) =>
      .failed (.challengeRateLimited retryAfterSeconds)
  | .ok .stored =>
      .challenge
        { purpose := purpose
          token := token
          deepLink := config.botUsername.map (fun botUsername =>
            telegramChallengeDeepLink botUsername purpose token)
          expiresAtMillis := now + challengeLifetimeMillis }

/-- A new token with its digest, from the bytes that `getRandomValues` filled
in. -/
def challengeMaterial (random : Option (Vector UInt8 32)) :
    Except LinkChallengeCryptoUnavailable
      (ChannelLinkChallengeToken × ChannelLinkChallengeDigest) := do
  let token ← generateToken random
  let tokenDigest ← webCryptoDigestToken config.crypto token
  pure (token, tokenDigest)

end Handlers

section Execution

abbrev ApiCallId := Nat

structure WebState where
  database : WebDatabase := {}
  calls : Table ApiCallId ApiCall := .empty

/-- The next call of a request. -/
inductive ApiAction where
  | resolve (fate : CallFate) (generatedUserId : UserId)
      (generatedLedgerId : LedgerId)
  | change (fate : CallFate)
  | list (available : Bool)
  | create (fate : CallFate) (random : Option (Vector UInt8 32))
      (now : EpochMillis)

/-- A request arrives or makes its next call, or a command of Telegram consumes
a challenge. -/
inductive WebAction where
  | request (call : ApiCallId) (request : IdentityRequest)
      (found : Option (Option BetterAuthWebSession))
  | step (call : ApiCallId) (action : ApiAction)
  | consumeLink (generated : ChannelIdentityId)
      (input : ConsumeTelegramChallengeStoreInput)
  | consumeUnlink (input : ConsumeTelegramChallengeStoreInput)

namespace WebState

variable (config : IdentityApiConfig)

def setPhase (state : WebState) (call : ApiCallId) (phase : ApiPhase) :
    WebState :=
  { state with
    calls := state.calls.modify call (fun current =>
      { current with phase := phase }) }

/-- Run a transaction for a request, which goes on with its result. -/
def run {ε α : Type} (state : WebState) (call : ApiCallId) (fate : CallFate)
    (unavailable : ε)
    (transaction : WebDatabase → Except ε (α × WebDatabase))
    (next : Except ε α → ApiPhase) : WebState :=
  let (result, database) :=
    state.database.call fate unavailable transaction
  { state with database := database }.setPhase call (next result)

/-- Run a transaction that answers Telegram. -/
def execute {ε α : Type} (state : WebState)
    (transaction : WebDatabase → Except ε (α × WebDatabase)) : WebState :=
  { state with database := (withTransaction transaction state.database).2 }

/-- The creation of a link challenge or of an unlink challenge. -/
def create (state : WebState) (call : ApiCallId) (fate : CallFate)
    (random : Option (Vector UInt8 32)) (now : EpochMillis)
    (phase : ApiPhase) : Option WebState :=
  match phase with
  | .creatingLink actor =>
      match challengeMaterial config random with
      | .error _ =>
          some (state.setPhase call (.answered (.failed .identityUnavailable)))
      | .ok (token, tokenDigest) =>
          some (state.run call fate
            (.identityPersistenceUnavailable .createTelegramLinkChallenge)
            (WebDatabase.onIdentity
              (IdentityDatabase.createTelegramLinkChallenge
                (challengeInput actor tokenDigest now)))
            (fun created => .answered (challengeReply config .link token now
              linkChallengeError created)))
  | .creatingUnlink actor channelIdentityId =>
      match challengeMaterial config random with
      | .error _ =>
          some (state.setPhase call (.answered (.failed .identityUnavailable)))
      | .ok (token, tokenDigest) =>
          some (state.run call fate
            (.identityPersistenceUnavailable .createTelegramUnlinkChallenge)
            (WebDatabase.onIdentity
              (IdentityDatabase.createTelegramUnlinkChallenge
                (unlinkChallengeInput actor channelIdentityId tokenDigest
                  now)))
            (fun created => .answered (challengeReply config .unlink token now
              unlinkChallengeError created)))
  | _ => none

/-- The step of a request that was authorized for this session. -/
def nextCall (state : WebState) (call : ApiCallId) (current : ApiCall)
    (session : BetterAuthWebSession) : ApiAction → Option WebState
  | .resolve fate generatedUserId generatedLedgerId =>
      match current.phase with
      | .resolving =>
          some (state.run call fate .identityPersistenceUnavailable
            (WebDatabase.onAccounts (fun accounts =>
              accounts.resolveWebActor
                { authUserId := session.user.id
                  correlationId := current.request.correlationId
                  generatedUserId := generatedUserId
                  generatedLedgerId := generatedLedgerId }))
            (current.request.endpoint.afterResolve config))
      | _ => none
  | .change fate =>
      match current.phase with
      | .changingTimezone actor timezone =>
          some (state.run call fate .identityPersistenceUnavailable
            (WebDatabase.onAccounts (fun accounts =>
              accounts.changeUserTimezone
                { actor := actor
                  timezone := timezone }))
            afterChange)
      | _ => none
  | .list available =>
      match current.phase with
      | .listing actor =>
          let listed :=
            if available then
              some (state.database.listTelegramIdentities actor)
            else
              none
          some (state.setPhase call
            (.answered (toIdentityOverview session actor listed)))
      | _ => none
  | .create fate random now =>
      state.create config call fate random now current.phase

def next (state : WebState) : WebAction → Option WebState
  | .request call request found =>
      if (state.calls.find? call).isSome then
        none
      else
        some { state with
          calls := state.calls.insertMissing call
            (.receive config request found) }
  | .step call action =>
      match state.calls.find? call with
      | none => none
      | some current =>
          match authorizeWebSession config current.request current.found with
          | .error _ => none
          | .ok session => state.nextCall config call current session action
  | .consumeLink generated input =>
      some (state.execute (WebDatabase.onIdentity
        (IdentityDatabase.consumeTelegramLinkChallenge generated input)))
  | .consumeUnlink input =>
      some (state.execute (WebDatabase.onIdentity
        (IdentityDatabase.consumeTelegramUnlinkChallenge input)))

end WebState

/-- No calls, and tables that are empty but for the principals. -/
def WebState.start (authUsers : List AuthUserId) : WebState :=
  { database := { accounts := { authUsers := authUsers } } }

def webSystem (config : IdentityApiConfig) : System WebState WebAction :=
  { Initial := fun state => ∃ authUsers, state = .start authUsers
    next := WebState.next config }

end Execution

end XpensGo
