import XpensGo.Channel.Steps

/-!
# What a job answers

`Answer` says which reply `processTelegramEvent` gives after which answers of
the identity store.  A job that holds a claim is always on its way to one of
these replies, whatever the other jobs and the stores do.
-/

namespace XpensGo

open EcmaScript Postgres Relational Transition ChannelDatabase

/-- The reply to an event, given what the identity store has answered. -/
inductive Answer (event : PersistedTelegramEventV1) :
    List ProcessingRecord → TelegramEventCompletion → Prop where
  | invalidCommand {command : ChallengeCommand} :
      event.content = .invalidCommand command →
      Answer event [] (rejectedChallenge command .invalidCommand)
  | linkRequired {text : JsString} :
      event.content = .text text →
      Answer event [.resolved none]
        (.unscopedReply (intent .linkRequired .system))
  | textAccepted {text : JsString} {actor : ChannelActorContext} :
      event.content = .text text →
      Answer event [.resolved (some actor)]
        (.linkedTextAccepted actor text (intent .captureUnavailable .reply))
  | linked {tokenDigest : ChannelLinkChallengeDigest}
      {channelIdentityId : ChannelIdentityId} {actor : ChannelActorContext} :
      event.content = .linkCommand tokenDigest →
      Answer event
        [.linkPresented (.telegramIdentityLinked channelIdentityId actor)]
        (linkSucceeded actor)
  | linkRepeated {tokenDigest : ChannelLinkChallengeDigest}
      {actor : ChannelActorContext} :
      event.content = .linkCommand tokenDigest →
      Answer event
        [.linkPresented .challengeAlreadyConsumed, .resolved (some actor)]
        (linkSucceeded actor)
  | linkRejected {tokenDigest : ChannelLinkChallengeDigest}
      {records : List ProcessingRecord} {reason : ChallengeRejectionReason} :
      event.content = .linkCommand tokenDigest →
      Answer event records (rejectedChallenge .link reason)
  | unlinked {tokenDigest : ChannelLinkChallengeDigest}
      {priorActor : Option ChannelActorContext}
      {channelIdentityId : ChannelIdentityId} :
      event.content = .unlinkCommand tokenDigest →
      Answer event
        [.resolved priorActor,
          .unlinkPresented (.telegramIdentityUnlinked channelIdentityId)]
        (unlinkSucceeded priorActor)
  | unlinkRepeated {tokenDigest : ChannelLinkChallengeDigest} :
      event.content = .unlinkCommand tokenDigest →
      Answer event
        [.resolved none, .unlinkPresented .challengeAlreadyConsumed]
        (unlinkSucceeded none)
  | unlinkRejected {tokenDigest : ChannelLinkChallengeDigest}
      {records : List ProcessingRecord} {reason : ChallengeRejectionReason} :
      event.content = .unlinkCommand tokenDigest →
      Answer event records (rejectedChallenge .unlink reason)

/-- What the identity store has answered when a job comes to a step. -/
def ProcessingStep.Reached (event : PersistedTelegramEventV1)
    (records : List ProcessingRecord) : ProcessingStep → Prop
  | .resolving (.text text) => event.content = .text text ∧ records = []
  | .resolving .linkReplay =>
      ∃ tokenDigest, event.content = .linkCommand tokenDigest ∧
        records = [.linkPresented .challengeAlreadyConsumed]
  | .resolving (.priorToUnlink tokenDigest) =>
      event.content = .unlinkCommand tokenDigest ∧ records = []
  | .consumingLink tokenDigest =>
      event.content = .linkCommand tokenDigest ∧ records = []
  | .enforcing _ (.complete completion) => Answer event records completion
  | .enforcing actor (.consumeUnlink tokenDigest) =>
      event.content = .unlinkCommand tokenDigest ∧
        records = [.resolved (some actor)]
  | .consumingUnlink tokenDigest priorActor =>
      event.content = .unlinkCommand tokenDigest ∧
        records = [.resolved priorActor]
  | .completing completion => Answer event records completion
  | .releasing => True

namespace ProcessingStep

variable {event : PersistedTelegramEventV1}

theorem first_reached : (first event).Reached event [] := by
  cases content : event.content with
  | invalidCommand command =>
      simp only [first, content]
      exact .invalidCommand content
  | text text =>
      simp only [first, content]
      exact ⟨content, rfl⟩
  | linkCommand tokenDigest =>
      simp only [first, content]
      exact ⟨content, rfl⟩
  | unlinkCommand tokenDigest =>
      simp only [first, content]
      exact ⟨content, rfl⟩

theorem afterResolution_reached {records : List ProcessingRecord}
    {purpose : ResolutionPurpose} (resolved : Option ChannelActorContext)
    (reached : (resolving purpose).Reached event records) :
    (afterResolution resolved purpose).Reached event
      (records ++ [.resolved resolved]) := by
  cases purpose with
  | text text =>
      obtain ⟨content, rfl⟩ := reached
      cases resolved with
      | none => exact .linkRequired content
      | some actor => exact Answer.textAccepted content
  | linkReplay =>
      obtain ⟨tokenDigest, content, rfl⟩ := reached
      cases resolved with
      | none => exact .linkRejected content
      | some actor => exact Answer.linkRepeated content
  | priorToUnlink tokenDigest =>
      obtain ⟨content, rfl⟩ := reached
      cases resolved with
      | none => exact ⟨content, rfl⟩
      | some actor => exact ⟨content, rfl⟩

theorem afterLink_reached {tokenDigest : ChannelLinkChallengeDigest}
    {records : List ProcessingRecord}
    (outcome : ConsumeTelegramLinkChallengeStoreOutcome)
    (reached : (consumingLink tokenDigest).Reached event records) :
    (afterLink outcome).Reached event
      (records ++ [.linkPresented outcome]) := by
  obtain ⟨content, rfl⟩ := reached
  cases outcome with
  | telegramIdentityLinked channelIdentityId actor =>
      exact Answer.linked content
  | challengeAlreadyConsumed => exact ⟨tokenDigest, content, rfl⟩
  | challengeNotFound | challengeExpired | telegramIdentityAlreadyLinked =>
      exact .linkRejected content

theorem afterUnlink_reached {tokenDigest : ChannelLinkChallengeDigest}
    {priorActor : Option ChannelActorContext}
    {records : List ProcessingRecord}
    (outcome : ConsumeTelegramUnlinkChallengeStoreOutcome)
    (reached : (consumingUnlink tokenDigest priorActor).Reached event
      records) :
    (afterUnlink priorActor outcome).Reached event
      (records ++ [.unlinkPresented outcome]) := by
  obtain ⟨content, rfl⟩ := reached
  cases outcome with
  | telegramIdentityUnlinked channelIdentityId => exact .unlinked content
  | challengeAlreadyConsumed =>
      cases priorActor with
      | none => exact .unlinkRepeated content
      | some actor => exact .unlinkRejected content
  | challengeNotFound | challengeExpired
  | telegramIdentityDoesNotMatchChallenge | channelIdentityNotFound =>
      exact .unlinkRejected content

theorem limited_reached {actor : ChannelActorContext} {next : LimitedStep}
    {records : List ProcessingRecord}
    (reached : (enforcing actor next).Reached event records) :
    (next.step actor).Reached event records := by
  cases next with
  | complete completion => exact reached
  | consumeUnlink tokenDigest => exact reached

end ProcessingStep

end XpensGo
