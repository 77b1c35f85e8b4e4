import XpensGo.Channel.ReplyTruth

/-!
# Challenges spent for an event

The trace of a job tells whether the identity store wrote anything for the
event of the job: an identity is created or unlinked only together with
`consumed_at` of the presented challenge.
-/

namespace XpensGo

open EcmaScript Postgres Relational Transition ChannelDatabase

/-- The identity store consumed the presented challenge. -/
def ProcessingRecord.spends : ProcessingRecord → Bool
  | .linkPresented outcome =>
      match outcome with
      | .telegramIdentityLinked _ _ | .challengeExpired
      | .telegramIdentityAlreadyLinked => true
      | .challengeNotFound | .challengeAlreadyConsumed => false
  | .unlinkPresented outcome =>
      match outcome with
      | .telegramIdentityUnlinked _ | .challengeExpired
      | .channelIdentityNotFound => true
      | .challengeNotFound | .challengeAlreadyConsumed
      | .telegramIdentityDoesNotMatchChallenge => false
  | .claimed _ | .resolved _ | .completed _ => false

namespace OutboxJob

/-- The event that the job has claimed. -/
def claimedEvent (current : OutboxJob) : Option InboundEventId :=
  match current.trace with
  | .claimed claim :: _ => some claim.inboundEventId
  | _ => none

def spent (current : OutboxJob) : Bool :=
  current.trace.any (·.spends)

end OutboxJob

/-- Some processing of the event has consumed a challenge. -/
def ChannelState.SpentBy (state : ChannelState)
    (inboundEventId : InboundEventId) : Prop :=
  ∃ job current, state.jobs.find? job = some current ∧
    current.claimedEvent = some inboundEventId ∧ current.spent = true

namespace IdentityDatabase

/-- A command to link consumes the challenge that it presents. -/
def LinkSpendable (db : IdentityDatabase)
    (input : ConsumeTelegramChallengeStoreInput) : Prop :=
  ∃ challenge, db.challenges.find? input.tokenDigest = some challenge ∧
    challenge.purpose = .link ∧ challenge.consumedAt = none

/-- A command to unlink consumes the challenge that it presents: as long as its
identity can be unlinked, that is an identity of the account. -/
def UnlinkSpendable (db : IdentityDatabase)
    (input : ConsumeTelegramChallengeStoreInput) : Prop :=
  ∃ challenge target, db.challenges.find? input.tokenDigest = some challenge ∧
    challenge.purpose = .unlink target ∧ challenge.consumedAt = none ∧
      ∀ identity, db.identities.find? target = some identity →
        input.consumedAtMillis < challenge.expiresAt.getTime →
        identity.unlinkedAt = none →
        identity.externalAccountId = input.externalAccountId

variable {db db' : IdentityDatabase}
  {input : ConsumeTelegramChallengeStoreInput}

private theorem consumeChallenge_ne {challenge : ChannelLinkChallengeRow}
    (same : db'.challenges = db.challenges)
    (found : db.challenges.find? input.tokenDigest = some challenge)
    (pending : challenge.consumedAt = none) :
    db'.consumeChallenge input ≠ db := by
  intro unchanged
  have read : (db'.consumeChallenge input).challenges.find?
      input.tokenDigest = some { challenge with
        consumedAt := some (.ofMillis input.consumedAtMillis) } := by
    change (Table.modify _ _ _).find? _ = _
    rw [Table.find?_modify_self, same, found]
    rfl
  rw [unchanged, found] at read
  have consumed := congrArg ChannelLinkChallengeRow.consumedAt
    (Option.some.inj read)
  rw [pending] at consumed
  cases consumed

theorem LinkEffect.spends_iff {generated : ChannelIdentityId}
    {outcome : ConsumeTelegramLinkChallengeStoreOutcome}
    (effect : LinkEffect generated input db outcome db') :
    (ProcessingRecord.linkPresented outcome).spends = true ↔ db' ≠ db := by
  cases effect with
  | notFound | alreadyConsumed => simp [ProcessingRecord.spends]
  | expired found _ pending | alreadyLinked found _ pending =>
      simpa [ProcessingRecord.spends] using
        consumeChallenge_ne rfl found pending
  | @linked challenge actor fresh found _ pending =>
      have written : ({ db with
          identities := db.identities.push generated
            (challenge.linkedIdentity input) fresh }.consumeChallenge
              input) ≠ db := consumeChallenge_ne rfl found pending
      simpa [ProcessingRecord.spends] using written

theorem UnlinkEffect.spends_iff
    {outcome : ConsumeTelegramUnlinkChallengeStoreOutcome}
    (effect : UnlinkEffect input db outcome db') :
    (ProcessingRecord.unlinkPresented outcome).spends = true ↔ db' ≠ db := by
  cases effect with
  | notFound | alreadyConsumed | mismatched => simp [ProcessingRecord.spends]
  | expired found _ pending | gone found _ pending =>
      simpa [ProcessingRecord.spends] using
        consumeChallenge_ne rfl found pending
  | @unlinked challenge target identity found _ pending =>
      have written : ((db.unlinkIdentity target input).consumeChallenge
          input) ≠ db := consumeChallenge_ne rfl found pending
      simpa [ProcessingRecord.spends] using written

theorem LinkEffect.spendable {generated : ChannelIdentityId}
    {outcome : ConsumeTelegramLinkChallengeStoreOutcome}
    (effect : LinkEffect generated input db outcome db')
    (spends : (ProcessingRecord.linkPresented outcome).spends = true) :
    db.LinkSpendable input := by
  cases effect with
  | notFound | alreadyConsumed => cases spends
  | expired found link pending | alreadyLinked found link pending
  | linked _ found link pending => exact ⟨_, found, link, pending⟩

theorem UnlinkEffect.spendable
    {outcome : ConsumeTelegramUnlinkChallengeStoreOutcome}
    (effect : UnlinkEffect input db outcome db')
    (spends : (ProcessingRecord.unlinkPresented outcome).spends = true) :
    db.UnlinkSpendable input := by
  cases effect with
  | notFound | alreadyConsumed | mismatched => cases spends
  | expired found purpose pending late =>
      refine ⟨_, _, found, purpose, pending, ?_⟩
      intro identity _ early
      exact (Int.not_lt.mpr late early).elim
  | gone found purpose pending identityFound ended =>
      refine ⟨_, _, found, purpose, pending, ?_⟩
      intro identity present _ active
      cases Option.some.inj (identityFound.symm.trans present)
      rw [active] at ended
      cases ended
  | unlinked found purpose pending _ identityFound _ _ _ matching =>
      refine ⟨_, _, found, purpose, pending, ?_⟩
      intro identity present _ _
      cases Option.some.inj (identityFound.symm.trans present)
      exact matching

end IdentityDatabase

section Traces

variable {state state' : ChannelState} {inboundEventId : InboundEventId}

private theorem spent_append {current : OutboxJob} {phase : JobPhase}
    {records : List ProcessingRecord}
    (claimed : ({ current with
      phase := phase
      trace := current.trace ++ records } : OutboxJob).claimedEvent =
        some inboundEventId)
    (spent : ({ current with
      phase := phase
      trace := current.trace ++ records } : OutboxJob).spent = true) :
    (current.claimedEvent = some inboundEventId ∧ current.spent = true) ∨
      records.any (·.spends) = true := by
  obtain ⟨message, earlier, trace⟩ := current
  simp only [OutboxJob.spent, List.any_append, Bool.or_eq_true] at spent
  rcases spent with before | last
  · left
    cases trace with
    | nil => cases before
    | cons record trace =>
        cases record with
        | claimed claim => exact ⟨claimed, before⟩
        | resolved | linkPresented | unlinkPresented | completed =>
            cases claimed
  · exact .inr last

/-- A job that moves spends nothing but what it records. -/
theorem spentBy_of_setJob {database : ChannelDatabase} {job : JobId}
    {phase : JobPhase} {records : List ProcessingRecord}
    {sent : List TelegramSend}
    (spent : ({ state with
      database := database
      sent := sent }.setJob job phase records).SpentBy inboundEventId) :
    state.SpentBy inboundEventId ∨
      records.any (·.spends) = true ∧
        ∃ current, state.jobs.find? job = some current ∧
          ({ current with
            phase := phase
            trace := current.trace ++ records } : OutboxJob).claimedEvent =
              some inboundEventId := by
  obtain ⟨other, running, present, claimed, paid⟩ := spent
  rcases ChannelState.find?_setJob present with
    ⟨_, earlier, found, rfl⟩ | ⟨_, unmoved⟩
  · rcases spent_append claimed paid with ⟨before, spentBefore⟩ | last
    · exact .inl ⟨job, earlier, found, before, spentBefore⟩
    · exact .inr ⟨last, earlier, found, claimed⟩
  · exact .inl ⟨other, running, unmoved, claimed, paid⟩

/-- A job in the middle of processing holds a claim on the event that its trace
names. -/
theorem claimedEvent_of_processing (reached : channelSystem.Reachable state)
    {job : JobId} {current : OutboxJob} {claim : TelegramEventClaimed}
    {step : ProcessingStep} (found : state.jobs.find? job = some current)
    (phase : current.phase = .processing claim step) (next : JobPhase)
    (records : List ProcessingRecord) :
    ({ current with
      phase := next
      trace := current.trace ++ records } : OutboxJob).claimedEvent =
        some claim.inboundEventId := by
  have follows := (reachable_truthful reached job current found).follows
  rw [phase] at follows
  obtain ⟨earlier, trace, _⟩ := follows
  simp only [OutboxJob.claimedEvent, trace, List.cons_append]

end Traces

end XpensGo
