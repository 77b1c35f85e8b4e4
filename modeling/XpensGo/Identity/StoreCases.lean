import XpensGo.Identity.Store

/-!
# What a committed identity transaction can do

Each transaction of the identity store has a few committed outcomes, listed
with their conditions and with the tables they leave.
-/

namespace XpensGo

open Postgres Relational

namespace IdentityDatabase

section Updates

def consumeChallenge (db : IdentityDatabase)
    (input : ConsumeTelegramChallengeStoreInput) : IdentityDatabase :=
  { db with
    challenges := db.challenges.modify input.tokenDigest (fun row =>
      { row with consumedAt := some (.ofMillis input.consumedAtMillis) }) }

def unlinkIdentity (db : IdentityDatabase)
    (channelIdentityId : ChannelIdentityId)
    (input : ConsumeTelegramChallengeStoreInput) : IdentityDatabase :=
  { db with
    identities := db.identities.modify channelIdentityId (fun row =>
      { row with unlinkedAt := some (.ofMillis input.consumedAtMillis) }) }

variable {db db' : IdentityDatabase}
  {input : ConsumeTelegramChallengeStoreInput}

@[simp] theorem consumeChallenge_identities :
    (db.consumeChallenge input).identities = db.identities := rfl

@[simp] theorem unlinkIdentity_challenges {target : ChannelIdentityId} :
    (db.unlinkIdentity target input).challenges = db.challenges := rfl

theorem consumeChallenge?_eq_some
    (consumed : db.consumeChallenge? input = some db') :
    db' = db.consumeChallenge input := by
  simp only [consumeChallenge?, Option.bind_eq_bind, Option.bind_eq_some_iff]
    at consumed
  obtain ⟨challenges, modified, rest⟩ := consumed
  obtain ⟨_, rfl⟩ := Table.modify?_eq_some_iff.mp modified
  exact (Option.some.inj rest).symm

theorem consumed_of_bind {α : Type} {failure : IdentityStoreFailure}
    {rest : IdentityDatabase → Except IdentityStoreFailure α} {result : α}
    (ran : (require failure (db.consumeChallenge? input) >>= rest) =
      .ok result) : rest (db.consumeChallenge input) = .ok result := by
  obtain ⟨consumed, updated, further⟩ := bind_eq_ok.mp ran
  have written := consumeChallenge?_eq_some (require_eq_ok.mp updated)
  subst written
  exact further

theorem unlinkIdentity?_eq_some {target : ChannelIdentityId}
    (unlinked : db.unlinkIdentity? target input = some db') :
    db' = db.unlinkIdentity target input := by
  simp only [unlinkIdentity?, Option.bind_eq_bind, Option.bind_eq_some_iff]
    at unlinked
  obtain ⟨identities, modified, rest⟩ := unlinked
  obtain ⟨_, rfl⟩ := Table.modify?_eq_some_iff.mp modified
  exact (Option.some.inj rest).symm

theorem insertChallenge_eq_some {tokenDigest : ChannelLinkChallengeDigest}
    {row : ChannelLinkChallengeRow}
    (inserted : db.insertChallenge tokenDigest row = some db') :
    ∃ fresh : tokenDigest ∉ db.challenges.rows.map Prod.fst,
      db' = { db with
        challenges := db.challenges.push tokenDigest row fresh } := by
  simp only [insertChallenge, Option.bind_eq_bind, Option.bind_eq_some_iff]
    at inserted
  obtain ⟨challenges, pushed, rest⟩ := inserted
  obtain ⟨_, fresh, rfl⟩ := Table.insert?_eq_some_iff.mp pushed
  exact ⟨fresh, (Option.some.inj rest).symm⟩

theorem insertIdentity_eq_some {channelIdentityId : ChannelIdentityId}
    {row : ChannelIdentityRow}
    (inserted : db.insertIdentity channelIdentityId row = some db') :
    db.owns row.userId row.ledgerId = true ∧
      ∃ fresh : channelIdentityId ∉ db.identities.rows.map Prod.fst,
        db' = { db with
          identities := db.identities.push channelIdentityId row fresh } := by
  unfold insertIdentity at inserted
  split at inserted
  · rename_i owned
    simp only [Option.bind_eq_bind, Option.bind_eq_some_iff] at inserted
    obtain ⟨identities, pushed, rest⟩ := inserted
    obtain ⟨_, fresh, rfl⟩ := Table.insert?_eq_some_iff.mp pushed
    exact ⟨owned, fresh, (Option.some.inj rest).symm⟩
  · cases inserted

theorem activeIdentities_eq_nil_iff
    {externalAccountId : TelegramExternalAccountId} :
    db.activeIdentities externalAccountId = [] ↔
      ∀ channelIdentityId row,
        db.identities.find? channelIdentityId = some row →
        row.externalAccountId = externalAccountId → row.unlinkedAt ≠ none := by
  rw [List.eq_nil_iff_forall_not_mem]
  constructor
  · intro none channelIdentityId row found account active
    exact none (channelIdentityId, row)
      (Table.mem_select.mpr ⟨found, by
        simp [ChannelIdentityRow.links, account, active]⟩)
  · intro unlinked entry member
    obtain ⟨found, links⟩ := Table.mem_select.mp member
    simp only [ChannelIdentityRow.links, Bool.and_eq_true, decide_eq_true_eq,
      Option.isNone_iff_eq_none] at links
    exact unlinked entry.1 entry.2 found links.1 links.2

theorem challengedIdentity_eq_some {challenge : ChannelLinkChallengeRow}
    {target : ChannelIdentityId} {identity : ChannelIdentityRow}
    (joined : db.challengedIdentity challenge = some (target, identity)) :
    challenge.purpose = .unlink target ∧
      db.identities.find? target = some identity ∧
        identity.userId = challenge.userId ∧
          identity.ledgerId = challenge.ledgerId := by
  unfold challengedIdentity at joined
  split at joined
  · cases joined
  · rename_i purpose
    split at joined
    · cases joined
    · rename_i found
      split at joined
      · rename_i owner
        cases joined
        exact ⟨purpose, found, owner⟩
      · cases joined

end Updates

section Creation

/-- A creation that was not refused for lack of authority. -/
inductive CreateEffect (input : PersistTelegramLinkChallengeInput)
    (purpose : ChallengePurpose) (db : IdentityDatabase) :
    PersistTelegramLinkChallengeOutcome → IdentityDatabase → Prop where
  | rateLimited {retryAfterSeconds : Int} :
      db.challengeRateLimit input = some retryAfterSeconds →
      CreateEffect input purpose db (.rateLimited retryAfterSeconds) db
  | stored (fresh : input.tokenDigest ∉ db.challenges.rows.map Prod.fst) :
      db.challengeRateLimit input = none →
      CreateEffect input purpose db .stored
        { db with
          challenges := db.challenges.push input.tokenDigest
            (input.row purpose) fresh }

variable {db db' : IdentityDatabase}
  {outcome : PersistTelegramLinkChallengeOutcome}

theorem storeChallenge_eq_ok {operation : IdentityOperation}
    {input : PersistTelegramLinkChallengeInput} {purpose : ChallengePurpose}
    (ran : db.storeChallenge operation input purpose = .ok (outcome, db')) :
    CreateEffect input purpose db outcome db' := by
  unfold storeChallenge at ran
  split at ran
  · rename_i retryAfterSeconds limited
    cases ran
    exact .rateLimited limited
  · rename_i unlimited
    obtain ⟨stored, inserted, rest⟩ := bind_eq_ok.mp ran
    obtain ⟨fresh, rfl⟩ := insertChallenge_eq_some (require_eq_ok.mp inserted)
    cases rest
    exact .stored fresh unlimited

theorem createTelegramLinkChallenge_eq_ok
    {input : PersistTelegramLinkChallengeInput}
    (ran : createTelegramLinkChallenge input db = .ok (outcome, db')) :
    db.owns input.actor.userId input.actor.ledgerId = true ∧
      CreateEffect input .link db outcome db' := by
  unfold createTelegramLinkChallenge at ran
  split at ran
  · rename_i owned
    exact ⟨owned, storeChallenge_eq_ok ran⟩
  · cases ran

theorem createTelegramUnlinkChallenge_eq_ok
    {input : PersistTelegramUnlinkChallengeInput}
    (ran : createTelegramUnlinkChallenge input db = .ok (outcome, db')) :
    db.owns input.actor.userId input.actor.ledgerId = true ∧
      (∃ row, db.identities.find? input.channelIdentityId = some row ∧
        row.userId = input.actor.userId ∧ row.ledgerId = input.actor.ledgerId ∧
          row.unlinkedAt = none) ∧
      CreateEffect input.toPersistTelegramLinkChallengeInput
        (.unlink input.channelIdentityId) db outcome db' := by
  unfold createTelegramUnlinkChallenge at ran
  split at ran
  · rename_i owned
    split at ran
    · rename_i targeted
      obtain ⟨row, found, matching⟩ := (Option.any_eq_true _ _).mp targeted
      simp only [Bool.and_eq_true, decide_eq_true_eq,
        Option.isNone_iff_eq_none] at matching
      exact ⟨owned, ⟨row, found, matching.1.1, matching.1.2, matching.2⟩,
        storeChallenge_eq_ok ran⟩
    · cases ran
  · cases ran

end Creation

section Consumption

/-- The committed outcomes of `consumeTelegramLinkChallenge`. -/
inductive LinkEffect (generated : ChannelIdentityId)
    (input : ConsumeTelegramChallengeStoreInput) (db : IdentityDatabase) :
    ConsumeTelegramLinkChallengeStoreOutcome → IdentityDatabase → Prop where
  | notFound :
      (∀ challenge, db.challenges.find? input.tokenDigest = some challenge →
        challenge.purpose ≠ .link) →
      LinkEffect generated input db .challengeNotFound db
  | alreadyConsumed {challenge : ChannelLinkChallengeRow} :
      db.challenges.find? input.tokenDigest = some challenge →
      challenge.purpose = .link →
      challenge.consumedAt.isSome = true →
      LinkEffect generated input db .challengeAlreadyConsumed db
  | expired {challenge : ChannelLinkChallengeRow} :
      db.challenges.find? input.tokenDigest = some challenge →
      challenge.purpose = .link →
      challenge.consumedAt = none →
      challenge.expiresAt.getTime ≤ input.consumedAtMillis →
      LinkEffect generated input db .challengeExpired
        (db.consumeChallenge input)
  | alreadyLinked {challenge : ChannelLinkChallengeRow} :
      db.challenges.find? input.tokenDigest = some challenge →
      challenge.purpose = .link →
      challenge.consumedAt = none →
      db.activeIdentities input.externalAccountId ≠ [] →
      LinkEffect generated input db .telegramIdentityAlreadyLinked
        (db.consumeChallenge input)
  | linked {challenge : ChannelLinkChallengeRow}
      {actor : ChannelActorContext}
      (fresh : generated ∉ db.identities.rows.map Prod.fst) :
      db.challenges.find? input.tokenDigest = some challenge →
      challenge.purpose = .link →
      challenge.consumedAt = none →
      input.consumedAtMillis < challenge.expiresAt.getTime →
      db.activeIdentities input.externalAccountId = [] →
      db.owns challenge.userId challenge.ledgerId = true →
      db.joinActor input.correlationId
        (generated, challenge.linkedIdentity input) = some actor →
      LinkEffect generated input db (.telegramIdentityLinked generated actor)
        ({ db with
          identities := db.identities.push generated
            (challenge.linkedIdentity input) fresh }.consumeChallenge input)

/-- The committed outcomes of `consumeTelegramUnlinkChallenge`. -/
inductive UnlinkEffect (input : ConsumeTelegramChallengeStoreInput)
    (db : IdentityDatabase) :
    ConsumeTelegramUnlinkChallengeStoreOutcome → IdentityDatabase → Prop where
  | notFound :
      (∀ challenge, db.challenges.find? input.tokenDigest = some challenge →
        db.challengedIdentity challenge = none) →
      UnlinkEffect input db .challengeNotFound db
  | alreadyConsumed {challenge : ChannelLinkChallengeRow}
      {target : ChannelIdentityId} :
      db.challenges.find? input.tokenDigest = some challenge →
      challenge.purpose = .unlink target →
      challenge.consumedAt.isSome = true →
      UnlinkEffect input db .challengeAlreadyConsumed db
  | expired {challenge : ChannelLinkChallengeRow}
      {target : ChannelIdentityId} :
      db.challenges.find? input.tokenDigest = some challenge →
      challenge.purpose = .unlink target →
      challenge.consumedAt = none →
      challenge.expiresAt.getTime ≤ input.consumedAtMillis →
      UnlinkEffect input db .challengeExpired (db.consumeChallenge input)
  | gone {challenge : ChannelLinkChallengeRow} {target : ChannelIdentityId}
      {identity : ChannelIdentityRow} :
      db.challenges.find? input.tokenDigest = some challenge →
      challenge.purpose = .unlink target →
      challenge.consumedAt = none →
      db.identities.find? target = some identity →
      identity.unlinkedAt.isSome = true →
      UnlinkEffect input db .channelIdentityNotFound
        (db.consumeChallenge input)
  | mismatched {challenge : ChannelLinkChallengeRow}
      {target : ChannelIdentityId} {identity : ChannelIdentityRow} :
      db.challenges.find? input.tokenDigest = some challenge →
      challenge.purpose = .unlink target →
      db.identities.find? target = some identity →
      identity.externalAccountId ≠ input.externalAccountId →
      UnlinkEffect input db .telegramIdentityDoesNotMatchChallenge db
  | unlinked {challenge : ChannelLinkChallengeRow}
      {target : ChannelIdentityId} {identity : ChannelIdentityRow} :
      db.challenges.find? input.tokenDigest = some challenge →
      challenge.purpose = .unlink target →
      challenge.consumedAt = none →
      input.consumedAtMillis < challenge.expiresAt.getTime →
      db.identities.find? target = some identity →
      identity.userId = challenge.userId →
      identity.ledgerId = challenge.ledgerId →
      identity.unlinkedAt = none →
      identity.externalAccountId = input.externalAccountId →
      UnlinkEffect input db (.telegramIdentityUnlinked target)
        ((db.unlinkIdentity target input).consumeChallenge input)

variable {db db' : IdentityDatabase}
  {input : ConsumeTelegramChallengeStoreInput}

theorem consumeTelegramLinkChallenge_eq_ok {generated : ChannelIdentityId}
    {outcome : ConsumeTelegramLinkChallengeStoreOutcome}
    (ran : consumeTelegramLinkChallenge generated input db =
      .ok (outcome, db')) :
    LinkEffect generated input db outcome db' := by
  unfold consumeTelegramLinkChallenge at ran
  dsimp only at ran
  split at ran
  · rename_i absent
    cases ran
    exact .notFound (by simp [absent])
  · rename_i challenge found
    split at ran
    · rename_i purpose
      cases ran
      refine .notFound ?_
      intro other present
      cases Option.some.inj (found.symm.trans present)
      exact purpose
    · rename_i purpose
      have link : challenge.purpose = .link := by simpa using purpose
      split at ran
      · rename_i consumed
        cases ran
        exact .alreadyConsumed found link consumed
      · rename_i unconsumed
        have pending : challenge.consumedAt = none := by
          simpa using unconsumed
        split at ran
        · rename_i late
          cases consumed_of_bind ran
          exact .expired found link pending late
        · rename_i early
          split at ran
          · rename_i unlinked
            obtain ⟨inserted, pushed, rest⟩ := bind_eq_ok.mp ran
            obtain ⟨owned, fresh, rfl⟩ :=
              insertIdentity_eq_some (require_eq_ok.mp pushed)
            obtain ⟨actor, joined, rest⟩ :=
              bind_eq_ok.mp (consumed_of_bind rest)
            cases rest
            exact .linked fresh found link pending (by omega)
              (by simpa using unlinked) owned (require_eq_ok.mp joined)
          · rename_i linked
            cases consumed_of_bind ran
            exact .alreadyLinked found link pending (by simpa using linked)

theorem consumeTelegramUnlinkChallenge_eq_ok
    {outcome : ConsumeTelegramUnlinkChallengeStoreOutcome}
    (ran : consumeTelegramUnlinkChallenge input db = .ok (outcome, db')) :
    UnlinkEffect input db outcome db' := by
  unfold consumeTelegramUnlinkChallenge at ran
  dsimp only at ran
  split at ran
  · rename_i absent
    cases ran
    exact .notFound (by simp [absent])
  · rename_i challenge found
    split at ran
    · rename_i untargeted
      cases ran
      refine .notFound ?_
      intro other present
      cases Option.some.inj (found.symm.trans present)
      exact untargeted
    · rename_i target identity joined
      obtain ⟨purpose, identityFound, sameUser, sameLedger⟩ :=
        challengedIdentity_eq_some joined
      split at ran
      · rename_i consumed
        cases ran
        exact .alreadyConsumed found purpose consumed
      · rename_i unconsumed
        have pending : challenge.consumedAt = none := by
          simpa using unconsumed
        split at ran
        · rename_i late
          cases consumed_of_bind ran
          exact .expired found purpose pending late
        · rename_i early
          split at ran
          · rename_i gone
            cases consumed_of_bind ran
            exact .gone found purpose pending identityFound gone
          · rename_i present
            split at ran
            · rename_i foreign
              cases ran
              exact .mismatched found purpose identityFound foreign
            · rename_i matching
              obtain ⟨unlinked, modified, rest⟩ := bind_eq_ok.mp ran
              have written :=
                unlinkIdentity?_eq_some (require_eq_ok.mp modified)
              subst written
              cases consumed_of_bind rest
              exact .unlinked found purpose pending (by omega) identityFound
                sameUser sameLedger (by simpa using present)
                (by simpa using matching)

end Consumption

end IdentityDatabase

end XpensGo
