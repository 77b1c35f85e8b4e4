import XpensGo.Channel.AcceptedUpdates
import XpensGo.Channel.ExactlyOnce
import XpensGo.Channel.SuppressedEvents

/-!
# The webhook endpoint

`runTelegramWebhookFetch` answers one request: it authenticates and decodes it,
stores its update in one transaction and then asks for a dispatch.  Any number
of requests, redeliveries of one update among them, run beside all other work
of the channel.  Telegram redelivers an update until it is answered with 200.
-/

namespace XpensGo

open EcmaScript JsString Schema Postgres Relational Transition ChannelDatabase

section Endpoint

/-- A request to the endpoint, with its method. -/
structure TelegramWebhookFetch extends TelegramWebhookRequest where
  method : JsString

/-- A response with its `allow` header; every response has the header
`cache-control: no-store`. -/
structure WebhookResponse where
  status : Nat
  allow : Option JsString := none
  body : Option JsValue

/-- A response, and whether `context.waitUntil(runScheduled(env))` was called
before it. -/
structure WebhookReply where
  response : WebhookResponse
  dispatches : Bool := false

/-- A response with a JSON body. -/
def telegramWebhookResponse (body : JsValue) (status : Nat) :
    WebhookResponse :=
  { status := status
    body := some body }

/-- `{ ok: false, error }`. -/
def webhookFailure (error : String) : JsValue :=
  .object [(ofString "ok", .boolean false),
    (ofString "error", .string (ofString error))]

/-- `{ ok: true, status }`. -/
def webhookSuccess (status : String) : JsValue :=
  .object [(ofString "ok", .boolean true),
    (ofString "status", .string (ofString status))]

/-- A character that a secret may have. -/
def isWebhookSecretUnit (unit : CodeUnit) : Bool :=
  isDigitUnit unit || (0x41 ≤ unit && unit ≤ 0x5a) ||
    (0x61 ≤ unit && unit ≤ 0x7a) || unit = 0x5f || unit = 0x2d

/-- `^[A-Za-z0-9_-]+$`. -/
def webhookSecretPattern : RegExp :=
  .repeated isWebhookSecretUnit 1 none

def TelegramWebhookSecret.decode : Decoder JsString :=
  Schema.string (fun text => 1 ≤ text.length && text.length ≤ 256 &&
    webhookSecretPattern.test text)

/-- The longest body of an update. -/
def telegramWebhookMaximumBodyBytes : Nat := 64 * 1024

/-- The response to a request that is refused. -/
def TelegramWebhookError.response : TelegramWebhookError → WebhookResponse
  | .unsupported _ => telegramWebhookResponse (webhookSuccess "ignored") 200
  | .unauthorized =>
      telegramWebhookResponse (webhookFailure "unauthorized") 401
  | .bodyTooLarge =>
      telegramWebhookResponse (webhookFailure "body_too_large") 413
  | .malformed =>
      telegramWebhookResponse (webhookFailure "malformed_update") 400
  | .unavailable _ =>
      telegramWebhookResponse (webhookFailure "unavailable") 503

/-- What a request comes to before the store is called. -/
inductive WebhookStep where
  | respond (response : WebhookResponse)
  | persist (input : PersistTelegramEventInput)

theorem secretMatch_of_receivedUpdate {platform : WebhookPlatform}
    {request : TelegramWebhookRequest} {config : TelegramWebhookConfig}
    {update : TelegramProviderUpdate}
    (received : receivedUpdate platform request config = .ok update) :
    timingSafeSecretMatch platform (request.secretToken.getD [])
      config.webhookSecret = some true := by
  unfold receivedUpdate at received
  split at received
  · cases received
  · cases received
  · assumption

variable (platform : WebhookPlatform) (secret : Option JsString)

/-- The part of `runTelegramWebhookFetch` before the transaction; `secret` is
`env.TELEGRAM_WEBHOOK_SECRET`. -/
def receiveTelegramWebhook (correlationId : CorrelationId)
    (request : TelegramWebhookFetch) : WebhookStep :=
  if request.method ≠ ofString "POST" then
    .respond
      { status := 405
        allow := some (ofString "POST")
        body := none }
  else
    match secret.bind (fun text =>
      TelegramWebhookSecret.decode (.string text)) with
    | none =>
        .respond (telegramWebhookResponse (webhookFailure "unavailable") 503)
    | some webhookSecret =>
        match verifyAndDecodeTelegramWebhook platform
          request.toTelegramWebhookRequest
          { webhookSecret := webhookSecret
            maximumBodyBytes := telegramWebhookMaximumBodyBytes } with
        | .error error => .respond error.response
        | .ok update =>
            match acceptTelegramEvent
              (webCryptoLinkChallenge platform.toWebCrypto) correlationId
              update with
            | .error _ =>
                .respond (telegramWebhookResponse
                  (webhookFailure "unavailable") 503)
            | .ok input => .persist input

/-- The part of `runTelegramWebhookFetch` after the transaction. -/
def persistedReply : Option AcceptTelegramEventOutcome → WebhookReply
  | none =>
      { response :=
          telegramWebhookResponse (webhookFailure "unavailable") 503 }
  | some (.accepted _ _) =>
      { response := telegramWebhookResponse (webhookSuccess "accepted") 200
        dispatches := true }
  | some .duplicate =>
      { response := telegramWebhookResponse (webhookSuccess "duplicate") 200
        dispatches := true }

/-- `persist` is the store of the invocation; its failures are `none`. -/
def runTelegramWebhookFetch (correlationId : CorrelationId)
    (persist : PersistTelegramEventInput → Option AcceptTelegramEventOutcome)
    (request : TelegramWebhookFetch) : WebhookReply :=
  match receiveTelegramWebhook platform secret correlationId request with
  | .respond response => { response := response }
  | .persist input => persistedReply (persist input)

/-- The request carries the secret, and its update is stored with the input. -/
structure AuthenticUpdate (correlationId : CorrelationId)
    (request : TelegramWebhookFetch) (input : PersistTelegramEventInput) :
    Prop where
  submitted : receiveTelegramWebhook platform secret correlationId request =
    .persist input
  post : request.method = ofString "POST"
  verified : ∃ webhookSecret update, secret = some webhookSecret ∧
    timingSafeSecretMatch platform (request.secretToken.getD [])
      webhookSecret = some true ∧
    verifyAndDecodeTelegramWebhook platform request.toTelegramWebhookRequest
      { webhookSecret := webhookSecret
        maximumBodyBytes := telegramWebhookMaximumBodyBytes } = .ok update ∧
    acceptTelegramEvent (webCryptoLinkChallenge platform.toWebCrypto)
      correlationId update = .ok input

theorem authenticUpdate_of_persist {correlationId : CorrelationId}
    {request : TelegramWebhookFetch} {input : PersistTelegramEventInput}
    (submitted : receiveTelegramWebhook platform secret correlationId request =
      .persist input) :
    AuthenticUpdate platform secret correlationId request input := by
  have received := submitted
  unfold receiveTelegramWebhook at received
  split at received
  · cases received
  · rename_i post
    split at received
    · cases received
    · rename_i webhookSecret configured
      split at received
      · cases received
      · rename_i update verified
        split at received
        · cases received
        · rename_i accepted
          cases received
          obtain ⟨text, present, decoded⟩ :=
            Option.bind_eq_some_iff.mp configured
          have same := (string_eq_some_iff.mp decoded).1
          cases same
          obtain ⟨provider, opened, _⟩ := bind_eq_ok.mp verified
          exact
            { submitted := submitted
              post := not_not.mp post
              verified := ⟨webhookSecret, update, present,
                secretMatch_of_receivedUpdate opened, verified, accepted⟩ }

end Endpoint

section Execution

abbrev WebhookCallId := Nat

/-- A request before and after its transaction, with what it saw of it.  A
request whose invocation did not survive the transaction is never answered. -/
inductive WebhookPhase where
  | persisting (input : PersistTelegramEventInput)
  | answered (seen : Option AcceptTelegramEventOutcome)
  | stopped

/-- The phase of a request whose transaction ended. -/
def settledPhase (survives : Bool)
    (seen : Option AcceptTelegramEventOutcome) : WebhookPhase :=
  if survives then .answered seen else .stopped

/-- A request, with its correlation identifier and how far it is. -/
structure WebhookCall where
  correlationId : CorrelationId
  request : TelegramWebhookFetch
  phase : WebhookPhase

/-- The channel, and the requests to the webhook. -/
structure WebhookState where
  channel : ChannelState
  calls : Table WebhookCallId WebhookCall := .empty

/-- A step of a request, or of the channel. -/
inductive WebhookAction where
  | request (call : WebhookCallId) (correlationId : CorrelationId)
      (request : TelegramWebhookFetch)
  | persist (call : WebhookCallId) (fate : CallFate) (survives : Bool)
      (clock : DatabaseClock) (inboundEventId : InboundEventId)
      (outboxMessageId : OutboxMessageId)
  | channel (action : ChannelAction)

/-- Events reach the channel through the endpoint only. -/
def ChannelAction.isReceive : ChannelAction → Bool
  | .receive .. => true
  | _ => false

variable (platform : WebhookPlatform) (secret : Option JsString)

/-- The answer to a request that was answered. -/
def WebhookCall.reply (call : WebhookCall) : Option WebhookReply :=
  match call.phase with
  | .answered seen => some (runTelegramWebhookFetch platform secret
      call.correlationId (fun _ => seen) call.request)
  | .persisting _ | .stopped => none

namespace WebhookState

/-- How far a request is. -/
def phaseOf (state : WebhookState) (call : WebhookCallId) :
    Option WebhookPhase :=
  (state.calls.find? call).map (fun current => current.phase)

/-- A request moves to a phase. -/
def setPhase (state : WebhookState) (call : WebhookCallId)
    (phase : WebhookPhase) : WebhookState :=
  { state with
    calls := state.calls.modify call (fun current =>
      { current with phase := phase }) }

/-- A request that is refused is answered at once. -/
def firstPhase (correlationId : CorrelationId)
    (request : TelegramWebhookFetch) : WebhookPhase :=
  match receiveTelegramWebhook platform secret correlationId request with
  | .respond _ => .answered none
  | .persist input => .persisting input

def next (state : WebhookState) : WebhookAction → Option WebhookState
  | .request call correlationId request =>
      if (state.calls.find? call).isSome then
        none
      else
        some { state with
          calls := state.calls.insertMissing call
            { correlationId := correlationId
              request := request
              phase := firstPhase platform secret correlationId request } }
  | .persist call fate survives clock inboundEventId outboxMessageId =>
      match state.phaseOf call with
      | some (.persisting input) =>
          let settlement := settle fate
            (persistTelegramEvent clock inboundEventId outboxMessageId input)
            state.channel.database
          some ({ state with
            channel := { state.channel with
              database := settlement.database } }.setPhase call
                (settledPhase survives settlement.seen))
      | _ => none
  | .channel action =>
      if action.isReceive then
        none
      else
        (state.channel.next action).map (fun channel =>
          { state with channel := channel })

/-- No request yet, and a channel before its first step. -/
def Initial (state : WebhookState) : Prop :=
  ∃ channel, channelSystem.Initial channel ∧ state = { channel := channel }

end WebhookState

/-- The webhook over the channel. -/
def webhookSystem : System WebhookState WebhookAction :=
  { Initial := WebhookState.Initial
    next := WebhookState.next platform secret }

end Execution

section Received

variable {db db' : ChannelDatabase}

/-- Every event was there before, with the columns that it was stored with. -/
def ReceivesNothing (db db' : ChannelDatabase) : Prop :=
  ∀ inboundEventId row', db'.events.find? inboundEventId = some row' →
    ∃ row, db.events.find? inboundEventId = some row ∧
      row'.toInboundEventTerms = row.toInboundEventTerms

theorem ReceivesNothing.of_events (same : db'.events = db.events) :
    ReceivesNothing db db' := by
  intro inboundEventId row found
  rw [same] at found
  exact ⟨row, found, rfl⟩

theorem ReceivesNothing.of_modify {inboundEventId : InboundEventId}
    {set : InboundEventRow → InboundEventRow}
    (modified : db'.events = db.events.modify inboundEventId set)
    (terms : ∀ row, (set row).toInboundEventTerms =
      row.toInboundEventTerms) : ReceivesNothing db db' := by
  intro other row' found
  rw [modified] at found
  rcases Table.find?_modify_cases found with
    ⟨rfl, row, present, rfl⟩ | ⟨_, unmoved⟩
  · exact ⟨row, present, terms row⟩
  · exact ⟨row', unmoved, rfl⟩

theorem settle_receivesNothing {ε α : Type} {fate : CallFate}
    {transaction : ChannelDatabase → Except ε (α × ChannelDatabase)}
    (committed : ∀ outcome db', transaction db = .ok (outcome, db') →
      ReceivesNothing db db') :
    ReceivesNothing db (settle fate transaction db).database := by
  rcases settle_cases fate transaction db with
    idle | ⟨outcome, db', _, ran, _, settled⟩
  · rw [idle]
    exact .of_events rfl
  · rw [settled]
    exact committed outcome db' ran

theorem EventClaimEffect.receivesNothing {clock : DatabaseClock}
    {workerNow : Int} {claimId : TelegramProcessingClaimId}
    {policy : TelegramProcessingPolicy} {outboxMessageId : OutboxMessageId}
    {outcome : ClaimTelegramEventOutcome}
    (effect : EventClaimEffect clock workerNow claimId policy outboxMessageId
      db outcome db') : ReceivesNothing db db' := by
  cases effect with
  | notFound | duplicate | deferred | refused => exact .of_events rfl
  | suppressed _ _ _ windows =>
      obtain ⟨_, rfl⟩ := windows
      exact .of_modify rfl (fun _ => rfl)
  | claimed _ _ _ windows =>
      obtain ⟨_, rfl⟩ := windows
      exact .of_modify rfl (fun _ => rfl)

theorem EnforceEffect.receivesNothing {clock : DatabaseClock}
    {input : EnforceTelegramUserLimitInput}
    {outcome : EnforceTelegramUserLimitOutcome}
    (effect : EnforceEffect clock input db outcome db') :
    ReceivesNothing db db' := by
  cases effect with
  | decided => exact .of_events rfl
  | allowed _ _ windows =>
      obtain ⟨_, rfl⟩ := windows
      exact .of_modify rfl (fun _ => rfl)
  | suppressed _ _ windows =>
      obtain ⟨_, rfl⟩ := windows
      exact .of_modify rfl (fun _ => rfl)

theorem CompleteEventEffect.receivesNothing {clock : DatabaseClock}
    {ids : CompletionIds} {input : CompleteTelegramEventInput}
    (effect : CompleteEventEffect clock ids input db db') :
    ReceivesNothing db db' := by
  cases effect with
  | completed => exact .of_modify rfl (fun _ => rfl)

theorem ReleaseEffect.receivesNothing {input : ReleaseTelegramEventInput}
    (effect : ReleaseEffect input db db') : ReceivesNothing db db' := by
  cases effect with
  | ignored => exact .of_events rfl
  | released => exact .of_modify rfl (fun _ => rfl)

theorem receivesNothing_of_nextJob {state state' : ChannelState} {job : JobId}
    {current : OutboxJob} {action : JobAction}
    (taken : state.nextJob job current action = some state') :
    ReceivesNothing state.database state'.database := by
  cases nextJob_commits taken with
  | elsewhere events | consumeLink events | consumeUnlink events =>
      exact .of_events events
  | claimEvent effect => exact EventClaimEffect.receivesNothing effect
  | enforceLimit _ _ ran =>
      exact EnforceEffect.receivesNothing (enforceTelegramUserLimit_eq_ok ran)
  | completeEvent effect => exact CompleteEventEffect.receivesNothing effect
  | releaseEvent effect => exact ReleaseEffect.receivesNothing effect

/-- Only `receive` stores an event. -/
theorem receivesNothing_of_next {state state' : ChannelState}
    {action : ChannelAction} (other : action.isReceive = false)
    (taken : state.next action = some state') :
    ReceivesNothing state.database state'.database := by
  cases action with
  | receive => cases other
  | job job action =>
      simp only [ChannelState.next] at taken
      split at taken
      · exact receivesNothing_of_nextJob taken
      · cases taken
  | createLink fate actor tokenDigest now
  | createUnlink fate actor channelIdentityId tokenDigest now =>
      cases taken
      apply settle_receivesNothing
      intro outcome db' ran
      obtain ⟨_, _, rfl⟩ := onIdentity_eq_ok ran
      exact .of_events rfl
  | dispatch fate clock generated =>
      cases taken
      apply settle_receivesNothing
      intro outcome db' ran
      obtain ⟨_, rfl, _⟩ := claimPendingOutbox_eq_ok ran
      exact .of_events rfl
  | publish claimId outcome =>
      simp only [ChannelState.next] at taken
      split at taken
      · have written := (Option.some.inj taken).symm
        subst written
        rw [ChannelState.enqueue_database]
        exact .of_events rfl
      · cases taken
  | reportPublication claimId fate clock =>
      simp only [ChannelState.next] at taken
      split at taken
      · cases taken
        apply settle_receivesNothing
        intro outcome db' ran
        obtain ⟨_, rfl, _⟩ := report_publicationOnly ran
        exact .of_events rfl
      · cases taken
  | recoverPublication fate clock outboxMessageId =>
      cases taken
      apply settle_receivesNothing
      intro outcome db' ran
      obtain ⟨_, rfl, _⟩ := recoverFailedOutboxPublication_eq_ok ran
      exact .of_events rfl
  | recoverDelivery call fate input =>
      simp only [ChannelState.next] at taken
      split at taken
      · cases taken
      · cases taken
        apply settle_receivesNothing
        intro outcome db' ran
        cases prepareTelegramDeliveryRecovery_eq_ok ran with
        | refused | existing | reopened => exact .of_events rfl
  | publishRecovery call outcome =>
      simp only [ChannelState.next] at taken
      split at taken
      · have written := (Option.some.inj taken).symm
        subst written
        rw [ChannelState.enqueue_database]
        exact .of_events rfl
      · cases taken
  | markRecovery call fate clock =>
      simp only [ChannelState.next] at taken
      split at taken
      · cases taken
        apply settle_receivesNothing
        intro outcome db' ran
        cases markTelegramDeliveryRecoveryPublished_eq_ok ran with
        | unchanged | published => exact .of_events rfl
      · cases taken
  | deliver job message =>
      simp only [ChannelState.next] at taken
      split at taken
      · cases taken
        exact .of_events rfl
      · cases taken
  | drop message =>
      cases taken
      exact .of_events rfl

/-- An event stays, with the columns that it was stored with. -/
theorem event_kept {state state' : ChannelState} {action : ChannelAction}
    {inboundEventId : InboundEventId} {row : InboundEventRow}
    (taken : channelSystem.next state action = some state')
    (found : state.database.events.find? inboundEventId = some row) :
    ∃ row', state'.database.events.find? inboundEventId = some row' ∧
      row'.toInboundEventTerms = row.toInboundEventTerms :=
  (ChannelChange.processing (channelChange_of_next taken)).event_kept found

end Received

section Invariant

variable {platform : WebhookPlatform} {secret : Option JsString}
  {state state' : WebhookState}

/-- The call may be the one that stored the event: it was told so, or it was
not told how its transaction ended. -/
def WebhookPhase.MayHaveStored (inboundEventId : InboundEventId) :
    WebhookPhase → Prop
  | .persisting _ => False
  | .answered none | .stopped => True
  | .answered (some (.accepted stored _)) => stored = inboundEventId
  | .answered (some .duplicate) => False

/-- The event is the one of an authentic request that may have stored it. -/
def WebhookState.Originates (platform : WebhookPlatform)
    (secret : Option JsString) (state : WebhookState)
    (inboundEventId : InboundEventId) (row : InboundEventRow) : Prop :=
  ∃ call run input, state.calls.find? call = some run ∧
    AuthenticUpdate platform secret run.correlationId run.request input ∧
    row.toInboundEventTerms = input.row.toInboundEventTerms ∧
    run.phase.MayHaveStored inboundEventId

/-- The update of the request is stored; if the request was the first, then as
the event that it was told. -/
def WebhookState.Holds (state : WebhookState)
    (input : PersistTelegramEventInput)
    (outcome : AcceptTelegramEventOutcome) : Prop :=
  ∃ inboundEventId row,
    state.channel.database.events.find? inboundEventId = some row ∧
      row.externalEventId = input.event.updateId ∧
      ∀ stored outboxMessageId, outcome = .accepted stored outboxMessageId →
        stored = inboundEventId ∧
          row.toInboundEventTerms = input.row.toInboundEventTerms

structure WebhookState.Sound (platform : WebhookPlatform)
    (secret : Option JsString) (state : WebhookState) : Prop where
  originates : ∀ inboundEventId row,
    state.channel.database.events.find? inboundEventId = some row →
    state.Originates platform secret inboundEventId row
  submitted : ∀ call run input, state.calls.find? call = some run →
    run.phase = .persisting input →
    AuthenticUpdate platform secret run.correlationId run.request input
  held : ∀ call run outcome, state.calls.find? call = some run →
    run.phase = .answered (some outcome) →
    ∃ input, AuthenticUpdate platform secret run.correlationId run.request
      input ∧ state.Holds input outcome
  distinct : ∀ call other run otherRun inboundEventId outboxMessageId
      otherOutbox, state.calls.find? call = some run →
    state.calls.find? other = some otherRun →
    run.phase = .answered (some (.accepted inboundEventId outboxMessageId)) →
    otherRun.phase = .answered (some (.accepted inboundEventId otherOutbox)) →
    call = other

/-- A step of the channel is no step of a request. -/
theorem WebhookState.Sound.channel {channel : ChannelState}
    (sound : state.Sound platform secret) {action : ChannelAction}
    (other : action.isReceive = false)
    (taken : state.channel.next action = some channel) :
    WebhookState.Sound platform secret
      { state with channel := channel } where
  originates := by
    intro inboundEventId row' found
    obtain ⟨row, present, terms⟩ :=
      receivesNothing_of_next other taken inboundEventId row' found
    obtain ⟨call, run, input, ran, authentic, same, stored⟩ :=
      sound.originates inboundEventId row present
    exact ⟨call, run, input, ran, authentic, terms.trans same, stored⟩
  submitted := sound.submitted
  held := by
    intro call run outcome ran answered
    obtain ⟨input, authentic, inboundEventId, row, found, update, told⟩ :=
      sound.held call run outcome ran answered
    obtain ⟨row', kept, terms⟩ := event_kept taken found
    have sameUpdate : row'.externalEventId = row.externalEventId :=
      congrArg InboundEventTerms.externalEventId terms
    refine ⟨input, authentic, inboundEventId, row', kept,
      sameUpdate.trans update, ?_⟩
    intro stored outboxMessageId accepted
    obtain ⟨same, written⟩ := told stored outboxMessageId accepted
    exact ⟨same, terms.trans written⟩
  distinct := sound.distinct

theorem firstPhase_cases (correlationId : CorrelationId)
    (request : TelegramWebhookFetch) :
    WebhookState.firstPhase platform secret correlationId request =
        .answered none ∨
      ∃ input, AuthenticUpdate platform secret correlationId request input ∧
        WebhookState.firstPhase platform secret correlationId request =
          .persisting input := by
  unfold WebhookState.firstPhase
  cases received : receiveTelegramWebhook platform secret correlationId
    request with
  | respond response => exact .inl rfl
  | persist input =>
      exact .inr ⟨input, authenticUpdate_of_persist _ _ received, rfl⟩

theorem WebhookState.Sound.request (sound : state.Sound platform secret)
    {call : WebhookCallId} {correlationId : CorrelationId}
    {request : TelegramWebhookFetch} {phase : WebhookPhase}
    (first : firstPhase platform secret correlationId request = phase)
    (unused : state.calls.find? call = none) :
    WebhookState.Sound platform secret
      { state with
        calls := state.calls.insertMissing call
          { correlationId := correlationId
            request := request
            phase := phase } } := by
  have phases := @firstPhase_cases platform secret correlationId request
  rw [first] at phases
  have unanswered : ∀ outcome, phase ≠ .answered (some outcome) := by
    intro outcome answered
    rcases phases with refused | ⟨input, _, persisting⟩
    · rw [refused] at answered
      cases answered
    · rw [persisting] at answered
      cases answered
  refine
    { originates := ?_
      submitted := ?_
      held := ?_
      distinct := ?_ }
  · intro inboundEventId row found
    obtain ⟨origin, run, input, ran, stored⟩ :=
      sound.originates inboundEventId row found
    refine ⟨origin, run, input, ?_, stored⟩
    have different : origin ≠ call := by
      intro same
      rw [same, unused] at ran
      cases ran
    rw [Table.find?_insertMissing, if_neg different]
    exact ran
  · intro other run input ran persisting
    rcases Table.find?_insertMissing_cases ran with
      earlier | ⟨_, _, rfl⟩
    · exact sound.submitted other run input earlier persisting
    · rcases phases with refused | ⟨submitted, authentic, begun⟩
      · cases refused.symm.trans persisting
      · cases begun.symm.trans persisting
        exact authentic
  · intro other run outcome ran answered
    rcases Table.find?_insertMissing_cases ran with
      earlier | ⟨_, _, rfl⟩
    · exact sound.held other run outcome earlier answered
    · exact (unanswered outcome answered).elim
  · intro one other run otherRun inboundEventId outboxMessageId otherOutbox
      ran otherRan accepted otherAccepted
    rcases Table.find?_insertMissing_cases ran with
      earlier | ⟨_, _, rfl⟩
    · rcases Table.find?_insertMissing_cases otherRan with
        otherEarlier | ⟨_, _, rfl⟩
      · exact sound.distinct one other run otherRun inboundEventId
          outboxMessageId otherOutbox earlier otherEarlier accepted
          otherAccepted
      · exact (unanswered _ otherAccepted).elim
    · exact (unanswered _ accepted).elim

/-- What the transaction of a request does to the events, and what the request
is told of it. -/
structure PersistSettles (db db' : ChannelDatabase)
    (input : PersistTelegramEventInput) (phase : WebhookPhase) : Prop where
  kept : ∀ inboundEventId row, db.events.find? inboundEventId = some row →
    db'.events.find? inboundEventId = some row
  grown : ∀ inboundEventId row,
    db'.events.find? inboundEventId = some row →
    db.events.find? inboundEventId = some row ∨
      (phase.MayHaveStored inboundEventId ∧
        row.toInboundEventTerms = input.row.toInboundEventTerms)
  told : ∀ outcome, phase = .answered (some outcome) →
    ∃ inboundEventId row, db'.events.find? inboundEventId = some row ∧
      row.externalEventId = input.event.updateId ∧
      ∀ stored outboxMessageId, outcome = .accepted stored outboxMessageId →
        stored = inboundEventId ∧ db.events.find? inboundEventId = none ∧
          row.toInboundEventTerms = input.row.toInboundEventTerms
  settled : ∀ submitted, phase ≠ .persisting submitted

theorem persistTelegramEvent_duplicate {db db' : ChannelDatabase}
    {clock : DatabaseClock} {inboundEventId : InboundEventId}
    {outboxMessageId : OutboxMessageId} {input : PersistTelegramEventInput}
    (ran : persistTelegramEvent clock inboundEventId outboxMessageId input db =
      .ok (.duplicate, db')) :
    ∃ present row, db.events.find? present = some row ∧
      row.externalEventId = input.event.updateId := by
  unfold persistTelegramEvent at ran
  dsimp only at ran
  split at ran
  · obtain ⟨_, _, rest⟩ := bind_eq_ok.mp ran
    obtain ⟨_, _, rest⟩ := bind_eq_ok.mp rest
    cases rest
  · rename_i known
    by_contra absent
    apply known
    apply Table.select_isEmpty_iff.mpr
    intro present row found
    apply decide_eq_false
    intro same
    exact absent ⟨present, row, found, same⟩

theorem settledPhase_ne_persisting {survives : Bool}
    {seen : Option AcceptTelegramEventOutcome}
    (input : PersistTelegramEventInput) :
    settledPhase survives seen ≠ .persisting input := by
  cases survives <;> exact nofun

/-- An answered request saw the outcome that it is told. -/
theorem seen_of_settledPhase {survives : Bool}
    {seen : Option AcceptTelegramEventOutcome}
    {outcome : AcceptTelegramEventOutcome}
    (answered : settledPhase survives seen = .answered (some outcome)) :
    seen = some outcome := by
  cases survives with
  | true =>
      cases answered
      rfl
  | false => cases answered

theorem persistSettles_unchanged {db : ChannelDatabase}
    {input : PersistTelegramEventInput} {survives : Bool}
    {seen : Option AcceptTelegramEventOutcome}
    (saw : ∀ outcome, seen = some outcome → outcome = .duplicate ∧
      ∃ present row, db.events.find? present = some row ∧
        row.externalEventId = input.event.updateId) :
    PersistSettles db db input (settledPhase survives seen) where
  kept := fun _ _ found => found
  grown := fun _ _ found => .inl found
  told := by
    intro outcome answered
    obtain ⟨rfl, present, row, found, update⟩ :=
      saw outcome (seen_of_settledPhase answered)
    exact ⟨present, row, found, update, nofun⟩
  settled := settledPhase_ne_persisting

theorem persistSettles_accepted {db : ChannelDatabase}
    {inboundEventId : InboundEventId} {outboxMessageId : OutboxMessageId}
    {input : PersistTelegramEventInput} {survives : Bool}
    {seen : Option AcceptTelegramEventOutcome} {db' : ChannelDatabase}
    (fresh : inboundEventId ∉ db.events.rows.map Prod.fst)
    (pushed : db'.events = db.events.push inboundEventId input.row fresh)
    (saw : Seen seen (.accepted inboundEventId outboxMessageId)) :
    PersistSettles db db' input (settledPhase survives seen) where
  kept := by
    intro other row found
    rw [pushed]
    exact Table.find?_push_of_some fresh found
  grown := by
    intro other row found
    rw [pushed, Table.find?_push] at found
    split at found
    · rename_i same
      subst same
      cases found
      refine .inr ⟨?_, rfl⟩
      cases survives with
      | false => trivial
      | true =>
          rcases saw with rfl | rfl
          · trivial
          · rfl
    · exact .inl found
  told := by
    intro outcome answered
    refine ⟨inboundEventId, input.row, ?_, rfl, ?_⟩
    · rw [pushed]
      exact Table.find?_push_self _ _ fresh
    · intro stored queued accepted
      rcases saw with unseen | shown
      · cases unseen.symm.trans (seen_of_settledPhase answered)
      · cases (seen_of_settledPhase answered).symm.trans shown
        cases accepted
        exact ⟨rfl, Table.find?_eq_none_iff.mpr fresh, rfl⟩
  settled := settledPhase_ne_persisting

theorem persistSettles (fate : CallFate) (survives : Bool)
    (clock : DatabaseClock) (inboundEventId : InboundEventId)
    (outboxMessageId : OutboxMessageId) (input : PersistTelegramEventInput)
    (db : ChannelDatabase) :
    let settlement := settle fate
      (persistTelegramEvent clock inboundEventId outboxMessageId input) db
    PersistSettles db settlement.database input
      (settledPhase survives settlement.seen) := by
  rcases settle_cases fate (persistTelegramEvent clock inboundEventId
    outboxMessageId input) db with
    idle | ⟨outcome, db', seen, ran, saw, committed⟩
  · rw [idle]
    exact persistSettles_unchanged nofun
  · rw [committed]
    cases outcome with
    | duplicate =>
        have known := persistTelegramEvent_duplicate ran
        cases persistTelegramEvent_eq_ok ran
        apply persistSettles_unchanged
        rintro outcome rfl
        rcases saw with unseen | shown
        · cases unseen
        · exact ⟨Option.some.inj shown, known⟩
    | accepted stored queued =>
        cases persistTelegramEvent_eq_ok ran with
        | accepted freshEvent =>
            exact persistSettles_accepted freshEvent rfl saw

theorem PersistSettles.fresh {db db' : ChannelDatabase}
    {input : PersistTelegramEventInput} {phase : WebhookPhase}
    {inboundEventId : InboundEventId} {outboxMessageId : OutboxMessageId}
    (settles : PersistSettles db db' input phase)
    (accepted : phase =
      .answered (some (.accepted inboundEventId outboxMessageId))) :
    db.events.find? inboundEventId = none := by
  obtain ⟨_, _, _, _, told⟩ := settles.told _ accepted
  obtain ⟨rfl, absent, _⟩ := told inboundEventId outboxMessageId rfl
  exact absent

theorem WebhookState.Sound.stored_of_accepted
    (sound : state.Sound platform secret)
    {call : WebhookCallId} {run : WebhookCall}
    {inboundEventId : InboundEventId} {outboxMessageId : OutboxMessageId}
    (ran : state.calls.find? call = some run)
    (accepted : run.phase =
      .answered (some (.accepted inboundEventId outboxMessageId))) :
    state.channel.database.events.find? inboundEventId ≠ none := by
  obtain ⟨_, _, _, _, found, _, told⟩ := sound.held call run _ ran accepted
  obtain ⟨rfl, _⟩ := told inboundEventId outboxMessageId rfl
  simp [found]

theorem WebhookState.Sound.persist (sound : state.Sound platform secret)
    {call : WebhookCallId} {run : WebhookCall}
    {input : PersistTelegramEventInput} {phase : WebhookPhase}
    {db' : ChannelDatabase} (ran : state.calls.find? call = some run)
    (persisting : run.phase = .persisting input)
    (settles : PersistSettles state.channel.database db' input phase) :
    WebhookState.Sound platform secret
      ({ state with
        channel := { state.channel with database := db' } }.setPhase call
          phase) := by
  have authentic := sound.submitted call run input ran persisting
  have moved : (state.calls.modify call (fun current =>
      { current with phase := phase })).find? call =
      some { run with phase := phase } := by
    rw [Table.find?_modify_self, ran]
    rfl
  refine
    { originates := ?_
      submitted := ?_
      held := ?_
      distinct := ?_ }
  · intro inboundEventId row found
    rcases settles.grown inboundEventId row found with
      earlier | ⟨stored, terms⟩
    · obtain ⟨origin, originRun, submitted, present, authentic, terms,
        stored⟩ := sound.originates inboundEventId row earlier
      refine ⟨origin, originRun, submitted, ?_, authentic, terms, stored⟩
      have different : origin ≠ call := by
        intro same
        rw [same, ran] at present
        cases present
        rw [persisting] at stored
        exact stored
      exact (Table.find?_modify_of_ne _ _ different).trans present
    · exact ⟨call, { run with phase := phase }, input, moved, authentic, terms,
        stored⟩
  · intro other otherRun submitted found waiting
    rcases Table.find?_modify_cases found with
      ⟨_, earlier, _, rfl⟩ | ⟨_, unmoved⟩
    · exact (settles.settled submitted waiting).elim
    · exact sound.submitted other otherRun submitted unmoved waiting
  · intro other otherRun outcome found answered
    rcases Table.find?_modify_cases found with
      ⟨rfl, earlier, present, rfl⟩ | ⟨_, unmoved⟩
    · cases ran.symm.trans present
      obtain ⟨inboundEventId, row, stored, update, told⟩ :=
        settles.told outcome answered
      refine ⟨input, authentic, inboundEventId, row, stored, update, ?_⟩
      intro first outboxMessageId accepted
      obtain ⟨same, _, terms⟩ := told first outboxMessageId accepted
      exact ⟨same, terms⟩
    · obtain ⟨submitted, genuine, inboundEventId, row, stored, update, told⟩ :=
        sound.held other otherRun outcome unmoved answered
      exact ⟨submitted, genuine, inboundEventId, row,
        settles.kept inboundEventId row stored, update, told⟩
  · intro one other oneRun otherRun inboundEventId outboxMessageId otherOutbox
      oneFound otherFound accepted otherAccepted
    rcases Table.find?_modify_cases oneFound with
      ⟨rfl, _, _, rfl⟩ | ⟨_, oneUnmoved⟩
    · rcases Table.find?_modify_cases otherFound with
        ⟨same, _⟩ | ⟨_, otherUnmoved⟩
      · exact same.symm
      · exact (sound.stored_of_accepted otherUnmoved otherAccepted
          (settles.fresh accepted)).elim
    · rcases Table.find?_modify_cases otherFound with
        ⟨rfl, _, _, rfl⟩ | ⟨_, otherUnmoved⟩
      · exact (sound.stored_of_accepted oneUnmoved accepted
          (settles.fresh otherAccepted)).elim
      · exact sound.distinct one other oneRun otherRun inboundEventId
          outboxMessageId otherOutbox oneUnmoved otherUnmoved accepted
          otherAccepted

theorem sound_of_next {action : WebhookAction}
    (sound : state.Sound platform secret)
    (taken : (webhookSystem platform secret).next state action =
      some state') : state'.Sound platform secret := by
  change state.next platform secret action = some state' at taken
  cases action with
  | request call correlationId request =>
      simp only [WebhookState.next] at taken
      split at taken
      · cases taken
      · rename_i unused
        cases taken
        exact sound.request rfl (by simpa using unused)
  | persist call fate survives clock inboundEventId outboxMessageId =>
      simp only [WebhookState.next] at taken
      split at taken
      · rename_i input waiting
        cases taken
        obtain ⟨run, ran, persisting⟩ := Option.map_eq_some_iff.mp waiting
        exact sound.persist ran persisting (persistSettles fate survives clock
          inboundEventId outboxMessageId input state.channel.database)
      · cases taken
  | channel action =>
      simp only [WebhookState.next] at taken
      split at taken
      · cases taken
      · rename_i other
        obtain ⟨channel, moved, rfl⟩ := Option.map_eq_some_iff.mp taken
        exact sound.channel (by simpa using other) moved

theorem reachable_sound
    (reached : (webhookSystem platform secret).Reachable state) :
    state.Sound platform secret := by
  refine System.Reachable.invariant ?_ ?_ reached
  · rintro state ⟨channel, ⟨users, ledgers, rfl⟩, rfl⟩
    refine
      { originates := ?_
        submitted := ?_
        held := ?_
        distinct := ?_ }
    · intro inboundEventId row found
      cases (Table.find?_empty inboundEventId).symm.trans found
    · intro call run input ran
      cases (Table.find?_empty call).symm.trans ran
    · intro call run outcome ran
      cases (Table.find?_empty call).symm.trans ran
    · intro call other run otherRun inboundEventId outboxMessageId otherOutbox
        ran
      cases (Table.find?_empty call).symm.trans ran
  · intro state action state' _ sound taken
    exact sound_of_next sound taken

theorem AuthenticUpdate.persisted {correlationId : CorrelationId}
    {request : TelegramWebhookFetch} {input : PersistTelegramEventInput}
    (authentic : AuthenticUpdate platform secret correlationId request input) :
    ∃ event, input = persistTelegramEventInput correlationId event := by
  obtain ⟨_, _, _, _, _, built⟩ := authentic.verified
  obtain ⟨content, _, rest⟩ := bind_eq_ok.mp built
  cases rest
  exact ⟨_, rfl⟩

theorem AuthenticUpdate.unique {correlationId : CorrelationId}
    {request : TelegramWebhookFetch} {input other : PersistTelegramEventInput}
    (authentic : AuthenticUpdate platform secret correlationId request input)
    (again : AuthenticUpdate platform secret correlationId request other) :
    input = other := by
  cases authentic.submitted.symm.trans again.submitted
  rfl

theorem reachable_channel
    (reached : (webhookSystem platform secret).Reachable state) :
    channelSystem.Reachable state.channel := by
  refine System.Reachable.simulate WebhookState.channel ?_ ?_ reached
  · rintro state ⟨channel, initial, rfl⟩
    exact initial
  · intro state action state' earlier taken
    have sound := reachable_sound earlier
    change state.next platform secret action = some state' at taken
    cases action with
    | request call correlationId request =>
        simp only [WebhookState.next] at taken
        split at taken
        · cases taken
        · cases taken
          exact .inl rfl
    | persist call fate survives clock inboundEventId outboxMessageId =>
        simp only [WebhookState.next] at taken
        split at taken
        · rename_i input waiting
          cases taken
          obtain ⟨run, ran, persisting⟩ := Option.map_eq_some_iff.mp waiting
          obtain ⟨event, rfl⟩ :=
            (sound.submitted call run input ran persisting).persisted
          exact .inr ⟨.receive fate clock inboundEventId outboxMessageId
            run.correlationId event, rfl⟩
        · cases taken
    | channel action =>
        simp only [WebhookState.next] at taken
        split at taken
        · cases taken
        · obtain ⟨channel, moved, rfl⟩ := Option.map_eq_some_iff.mp taken
          exact .inr ⟨action, moved⟩

end Invariant

section Ingress

variable {platform : WebhookPlatform} {secret : Option JsString}
  {state : WebhookState}

/-- The request was told that it was the first one with its update. -/
def WebhookCall.Accepted (run : WebhookCall) : Prop :=
  ∃ inboundEventId outboxMessageId,
    run.phase = .answered (some (.accepted inboundEventId outboxMessageId))

/-- Only a request that was told the outcome of its transaction asks for a
dispatch. -/
theorem outcome_of_dispatches {correlationId : CorrelationId}
    {request : TelegramWebhookFetch}
    {seen : Option AcceptTelegramEventOutcome} {reply : WebhookReply}
    (replied : runTelegramWebhookFetch platform secret correlationId
      (fun _ => seen) request = reply)
    (dispatches : reply.dispatches = true) :
    ∃ outcome, seen = some outcome := by
  subst replied
  unfold runTelegramWebhookFetch at dispatches
  split at dispatches
  · cases dispatches
  · cases seen with
    | none => cases dispatches
    | some outcome => exact ⟨outcome, rfl⟩

/-- Every stored event is announced by one outbox message and is the event of an
authentic request, which was told so or does not know it.  A request that is
acknowledged finds its update stored, by itself or by another request, and at
most one request with an update is told that it was the first.  No other reply
asks for a dispatch. -/
theorem updates_ingested_once
    (reached : (webhookSystem platform secret).Reachable state) :
    (∀ inboundEventId row,
      state.channel.database.events.find? inboundEventId = some row →
      (∃! outboxMessageId, state.channel.database.Announces outboxMessageId
        inboundEventId) ∧
      state.Originates platform secret inboundEventId row) ∧
    (∀ call run outcome, state.calls.find? call = some run →
      run.phase = .answered (some outcome) →
      run.reply platform secret = some (persistedReply (some outcome)) ∧
      ∃ input inboundEventId row,
        AuthenticUpdate platform secret run.correlationId run.request input ∧
        state.channel.database.events.find? inboundEventId = some row ∧
        row.externalEventId = input.event.updateId ∧
        (outcome = .duplicate → ∃ other otherRun, other ≠ call ∧
          state.calls.find? other = some otherRun ∧
          otherRun.phase.MayHaveStored inboundEventId)) ∧
    (∀ call other run otherRun input otherInput,
      state.calls.find? call = some run →
      state.calls.find? other = some otherRun →
      AuthenticUpdate platform secret run.correlationId run.request input →
      AuthenticUpdate platform secret otherRun.correlationId otherRun.request
        otherInput →
      input.event.updateId = otherInput.event.updateId →
      run.Accepted → otherRun.Accepted → call = other) ∧
    ∀ call run reply, state.calls.find? call = some run →
      run.reply platform secret = some reply → reply.dispatches = true →
      ∃ outcome, run.phase = .answered (some outcome) := by
  have sound := reachable_sound reached
  have consistent := reachable_processing (reachable_channel reached)
  refine ⟨?_, ?_, ?_, ?_⟩
  · intro inboundEventId row found
    exact ⟨announced_once consistent found,
      sound.originates inboundEventId row found⟩
  · intro call run outcome ran answered
    obtain ⟨input, authentic, inboundEventId, row, found, update, told⟩ :=
      sound.held call run outcome ran answered
    refine ⟨?_, input, inboundEventId, row, authentic, found, update, ?_⟩
    · simp only [WebhookCall.reply, answered, runTelegramWebhookFetch,
        authentic.submitted]
    · rintro rfl
      obtain ⟨other, otherRun, _, otherRan, _, _, stored⟩ :=
        sound.originates inboundEventId row found
      refine ⟨other, otherRun, ?_, otherRan, stored⟩
      rintro rfl
      cases ran.symm.trans otherRan
      rw [answered] at stored
      exact stored
  · rintro call other run otherRun input otherInput ran otherRan authentic
      otherAuthentic sameUpdate ⟨first, outboxMessageId, accepted⟩
      ⟨second, otherOutbox, otherAccepted⟩
    obtain ⟨held, genuine, firstId, firstRow, firstFound, firstUpdate, told⟩ :=
      sound.held call run _ ran accepted
    obtain ⟨otherHeld, otherGenuine, secondId, secondRow, secondFound,
      secondUpdate, otherTold⟩ :=
      sound.held other otherRun _ otherRan otherAccepted
    cases genuine.unique authentic
    cases otherGenuine.unique otherAuthentic
    obtain ⟨rfl, _⟩ := told first outboxMessageId rfl
    obtain ⟨rfl, _⟩ := otherTold second otherOutbox rfl
    have sameEvent := consistent.distinctUpdates first second firstRow
      secondRow firstFound secondFound
      (firstUpdate.trans (sameUpdate.trans secondUpdate.symm))
    subst sameEvent
    exact sound.distinct call other run otherRun first outboxMessageId
      otherOutbox ran otherRan accepted otherAccepted
  · intro call run reply ran replied dispatches
    unfold WebhookCall.reply at replied
    split at replied
    · rename_i seen answered
      obtain ⟨outcome, rfl⟩ :=
        outcome_of_dispatches (Option.some.inj replied) dispatches
      exact ⟨outcome, answered⟩
    · cases replied
    · cases replied

/-- The request was told that its update is known. -/
def isDuplicate : WebhookPhase → Bool
  | .answered (some .duplicate) => true
  | _ => false

/-- The answer to the first delivery of an update is lost, and Telegram
delivers it again. -/
def redeliveredUpdateRun : List WebhookAction :=
  let request : TelegramWebhookFetch :=
    { messageRequest 1767225600 with method := ofString "POST" }
  [.request 1 ⟨9⟩ request,
    .persist 1 .lost false (channelClock 5000000) ⟨101⟩ ⟨201⟩,
    .request 2 ⟨10⟩ request,
    .persist 2 .answered true (channelClock 5100000) ⟨102⟩ ⟨202⟩]

theorem updates_ingested_once_redelivered :
    ∃ state run otherRun call,
      (webhookSystem (messagePlatform 1767225600)
        (some (ofString "secret"))).Reachable state ∧
      state.calls.find? 2 = some run ∧
      run.phase = .answered (some .duplicate) ∧ call ≠ 2 ∧
      state.calls.find? call = some otherRun ∧
      ∃ inboundEventId row,
        state.channel.database.events.find? inboundEventId = some row ∧
        otherRun.phase.MayHaveStored inboundEventId := by
  have initial : (webhookSystem (messagePlatform 1767225600)
      (some (ofString "secret"))).Initial
        { channel := sampleChannelStart } :=
    ⟨_, sampleChannelStart_initial, rfl⟩
  obtain ⟨state, reached, tested⟩ := System.exists_reachable_of_run
    redeliveredUpdateRun
    (fun state => (state.calls.find? 2).any (fun run =>
      isDuplicate run.phase)) initial (by decide +kernel)
  obtain ⟨run, ran, duplicate⟩ := (Option.any_eq_true _ _).mp tested
  have answered : run.phase = .answered (some .duplicate) := by
    unfold isDuplicate at duplicate
    split at duplicate
    · assumption
    · cases duplicate
  obtain ⟨_, input, inboundEventId, row, _, found, _, another⟩ :=
    (updates_ingested_once reached).2.1 2 run .duplicate ran answered
  obtain ⟨call, otherRun, different, otherRan, stored⟩ := another rfl
  exact ⟨state, run, otherRun, call, reached, ran, answered, different,
    otherRan, inboundEventId, row, found, stored⟩

end Ingress

end XpensGo
