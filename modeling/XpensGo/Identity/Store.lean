import XpensGo.Identity.Database

/-!
# The identity store

Creation and consumption of link and unlink challenges, each one transaction
over the identity tables, and the resolution of a linked account.  The
identifier of a new identity is an argument, and so are the clock readings that
the callers pass in.
-/

namespace XpensGo

open Postgres Relational

structure PersistTelegramLinkChallengeInput where
  actor : WebActorContext
  tokenDigest : ChannelLinkChallengeDigest
  createdAtMillis : EpochMillis
  expiresAtMillis : EpochMillis
  rateLimitSinceMillis : EpochMillis
  maximumChallenges : Nat

structure PersistTelegramUnlinkChallengeInput extends
    PersistTelegramLinkChallengeInput where
  channelIdentityId : ChannelIdentityId

def challengeLifetimeMillis : EpochMillis :=
  10 * 60 * 1000

def challengeRateLimitWindowMillis : EpochMillis :=
  60 * 60 * 1000

def maximumChallengesPerWindow : Nat :=
  5

/-- What both creations persist for a token generated at `now`; the start of
the window is cut off at the epoch by natural subtraction. -/
def challengeInput (actor : WebActorContext)
    (tokenDigest : ChannelLinkChallengeDigest) (now : EpochMillis) :
    PersistTelegramLinkChallengeInput :=
  { actor := actor
    tokenDigest := tokenDigest
    createdAtMillis := now
    expiresAtMillis := now + challengeLifetimeMillis
    rateLimitSinceMillis := now - challengeRateLimitWindowMillis
    maximumChallenges := maximumChallengesPerWindow }

def unlinkChallengeInput (actor : WebActorContext)
    (channelIdentityId : ChannelIdentityId)
    (tokenDigest : ChannelLinkChallengeDigest) (now : EpochMillis) :
    PersistTelegramUnlinkChallengeInput :=
  { challengeInput actor tokenDigest now with
    channelIdentityId := channelIdentityId }

inductive PersistTelegramLinkChallengeOutcome where
  | stored
  | rateLimited (retryAfterSeconds : Int)
  deriving DecidableEq, Repr

structure ConsumeTelegramChallengeStoreInput where
  tokenDigest : ChannelLinkChallengeDigest
  externalAccountId : TelegramExternalAccountId
  correlationId : CorrelationId
  consumedAtMillis : EpochMillis

inductive ConsumeTelegramLinkChallengeStoreOutcome where
  | telegramIdentityLinked (channelIdentityId : ChannelIdentityId)
      (actor : ChannelActorContext)
  | challengeNotFound
  | challengeExpired
  | challengeAlreadyConsumed
  | telegramIdentityAlreadyLinked
  deriving DecidableEq, Repr

inductive ConsumeTelegramUnlinkChallengeStoreOutcome where
  | telegramIdentityUnlinked (channelIdentityId : ChannelIdentityId)
  | challengeNotFound
  | challengeExpired
  | challengeAlreadyConsumed
  | telegramIdentityDoesNotMatchChallenge
  | channelIdentityNotFound
  deriving DecidableEq, Repr

/-- `Math.max(1, Math.ceil(milliseconds / 1_000))`. -/
def secondsToWait (milliseconds : Int) : Int :=
  max 1 (-(-milliseconds / 1000))

/-- The columns of a new challenge. -/
def PersistTelegramLinkChallengeInput.row
    (input : PersistTelegramLinkChallengeInput) (purpose : ChallengePurpose) :
    ChannelLinkChallengeRow :=
  { userId := input.actor.userId
    ledgerId := input.actor.ledgerId
    purpose := purpose
    createdAt := .ofMillis input.createdAtMillis
    expiresAt := .ofMillis input.expiresAtMillis }

/-- The columns of the identity that consuming a link challenge creates. -/
def ChannelLinkChallengeRow.linkedIdentity (challenge : ChannelLinkChallengeRow)
    (input : ConsumeTelegramChallengeStoreInput) : ChannelIdentityRow :=
  { userId := challenge.userId
    ledgerId := challenge.ledgerId
    externalAccountId := input.externalAccountId
    linkedAt := .ofMillis input.consumedAtMillis }

def ChannelIdentityRow.actor (row : ChannelIdentityRow)
    (channelIdentityId : ChannelIdentityId) (user : UserRow)
    (correlationId : CorrelationId) : ChannelActorContext :=
  { userId := row.userId
    ledgerId := row.ledgerId
    timezone := user.timezone
    correlationId := correlationId
    channelIdentityId := channelIdentityId }

namespace IdentityDatabase

section Statements

def insertChallenge (db : IdentityDatabase)
    (tokenDigest : ChannelLinkChallengeDigest) (row : ChannelLinkChallengeRow) :
    Option IdentityDatabase := do
  let challenges ← db.challenges.insert? ChannelLinkChallengeRow.check
    tokenDigest row
  pure { db with challenges := challenges }

/-- `UPDATE channel_link_challenges SET consumed_at … WHERE token_hash = …`. -/
def consumeChallenge? (db : IdentityDatabase)
    (input : ConsumeTelegramChallengeStoreInput) : Option IdentityDatabase := do
  let challenges ← db.challenges.modify? ChannelLinkChallengeRow.check
    input.tokenDigest (fun row =>
      { row with consumedAt := some (.ofMillis input.consumedAtMillis) })
  pure { db with challenges := challenges }

/-- Insert an identity of an existing owner; the caller has looked for an
active identity of the same account. -/
def insertIdentity (db : IdentityDatabase)
    (channelIdentityId : ChannelIdentityId) (row : ChannelIdentityRow) :
    Option IdentityDatabase :=
  if db.owns row.userId row.ledgerId then do
    let identities ← db.identities.insert? ChannelIdentityRow.check
      channelIdentityId row
    pure { db with identities := identities }
  else
    none

def unlinkIdentity? (db : IdentityDatabase)
    (channelIdentityId : ChannelIdentityId)
    (input : ConsumeTelegramChallengeStoreInput) : Option IdentityDatabase := do
  let identities ← db.identities.modify? ChannelIdentityRow.check
    channelIdentityId (fun row =>
      { row with unlinkedAt := some (.ofMillis input.consumedAtMillis) })
  pure { db with identities := identities }

/-- Challenges that count against the rate limit of a user. -/
def recentChallenges (db : IdentityDatabase) (userId : UserId)
    (since : EpochMillis) :
    List (ChannelLinkChallengeDigest × ChannelLinkChallengeRow) :=
  db.challenges.select (fun _ row =>
    row.userId = userId && Timestamp.ofMillis since ≤ row.createdAt)

/-- `min(created_at)` of the counted challenges. -/
def oldestCreatedAt
    (challenges : List (ChannelLinkChallengeDigest × ChannelLinkChallengeRow)) :
    Option Timestamp :=
  (challenges.map (fun entry => entry.2.createdAt)).min?

/-- The refusal of a user who has created too many challenges. -/
def challengeRateLimit (db : IdentityDatabase)
    (input : PersistTelegramLinkChallengeInput) : Option Int :=
  let recent := db.recentChallenges input.actor.userId
    input.rateLimitSinceMillis
  if input.maximumChallenges ≤ recent.length then
    let oldestMillis :=
      match oldestCreatedAt recent with
      | some createdAt => createdAt.getTime
      | none => input.createdAtMillis
    let windowMillis : Int :=
      input.createdAtMillis - input.rateLimitSinceMillis
    some (secondsToWait (oldestMillis + windowMillis - input.createdAtMillis))
  else
    none

end Statements

/-- The common end of the two creations. -/
def storeChallenge (db : IdentityDatabase) (operation : IdentityOperation)
    (input : PersistTelegramLinkChallengeInput) (purpose : ChallengePurpose) :
    Except IdentityStoreFailure
      (PersistTelegramLinkChallengeOutcome × IdentityDatabase) :=
  match db.challengeRateLimit input with
  | some retryAfterSeconds => pure (.rateLimited retryAfterSeconds, db)
  | none => do
      let stored ← require (.identityPersistenceUnavailable operation)
        (db.insertChallenge input.tokenDigest (input.row purpose))
      pure (.stored, stored)

def createTelegramLinkChallenge (input : PersistTelegramLinkChallengeInput)
    (db : IdentityDatabase) :
    Except IdentityStoreFailure
      (PersistTelegramLinkChallengeOutcome × IdentityDatabase) :=
  if db.owns input.actor.userId input.actor.ledgerId then
    db.storeChallenge .createTelegramLinkChallenge input .link
  else
    .error (.identityAuthorityNotFound .createTelegramLinkChallenge)

/-- The active identity that an unlink challenge may target. -/
def unlinkTarget (db : IdentityDatabase)
    (input : PersistTelegramUnlinkChallengeInput) : Bool :=
  (db.identities.find? input.channelIdentityId).any (fun row =>
    row.userId = input.actor.userId && row.ledgerId = input.actor.ledgerId &&
      row.unlinkedAt.isNone)

def createTelegramUnlinkChallenge (input : PersistTelegramUnlinkChallengeInput)
    (db : IdentityDatabase) :
    Except IdentityStoreFailure
      (PersistTelegramLinkChallengeOutcome × IdentityDatabase) :=
  if db.owns input.actor.userId input.actor.ledgerId then
    if db.unlinkTarget input then
      db.storeChallenge .createTelegramUnlinkChallenge
        input.toPersistTelegramLinkChallengeInput
        (.unlink input.channelIdentityId)
    else
      .error .channelIdentityNotFound
  else
    .error (.identityAuthorityNotFound .createTelegramUnlinkChallenge)

/-- The identity and the user that a resolution joins. -/
def joinActor (db : IdentityDatabase) (correlationId : CorrelationId)
    (entry : ChannelIdentityId × ChannelIdentityRow) :
    Option ChannelActorContext :=
  (db.users.find? entry.2.userId).map (fun user =>
    entry.2.actor entry.1 user correlationId)

def consumeTelegramLinkChallenge (generated : ChannelIdentityId)
    (input : ConsumeTelegramChallengeStoreInput) (db : IdentityDatabase) :
    Except IdentityStoreFailure
      (ConsumeTelegramLinkChallengeStoreOutcome × IdentityDatabase) :=
  let unavailable : IdentityStoreFailure :=
    .identityPersistenceUnavailable .consumeTelegramLinkChallenge
  match db.challenges.find? input.tokenDigest with
  | none => pure (.challengeNotFound, db)
  | some challenge =>
      if challenge.purpose ≠ .link then
        pure (.challengeNotFound, db)
      else if challenge.consumedAt.isSome then
        pure (.challengeAlreadyConsumed, db)
      else if challenge.expiresAt.getTime ≤ input.consumedAtMillis then do
        let consumed ← require unavailable (db.consumeChallenge? input)
        pure (.challengeExpired, consumed)
      else if (db.activeIdentities input.externalAccountId).isEmpty then do
        let row := challenge.linkedIdentity input
        let inserted ← require unavailable (db.insertIdentity generated row)
        let consumed ← require unavailable (inserted.consumeChallenge? input)
        let actor ← require unavailable
          (consumed.joinActor input.correlationId (generated, row))
        pure (.telegramIdentityLinked generated actor, consumed)
      else do
        let consumed ← require unavailable (db.consumeChallenge? input)
        pure (.telegramIdentityAlreadyLinked, consumed)

/-- The target of an unlink challenge joined with its identity. -/
def challengedIdentity (db : IdentityDatabase)
    (challenge : ChannelLinkChallengeRow) :
    Option (ChannelIdentityId × ChannelIdentityRow) :=
  match challenge.purpose with
  | .link => none
  | .unlink target =>
      match db.identities.find? target with
      | none => none
      | some identity =>
          if identity.userId = challenge.userId ∧
              identity.ledgerId = challenge.ledgerId then
            some (target, identity)
          else
            none

/-- The row was locked with its challenge, so the conditional update of an
active identity changes exactly that row. -/
def consumeTelegramUnlinkChallenge (input : ConsumeTelegramChallengeStoreInput)
    (db : IdentityDatabase) :
    Except IdentityStoreFailure
      (ConsumeTelegramUnlinkChallengeStoreOutcome × IdentityDatabase) :=
  let unavailable : IdentityStoreFailure :=
    .identityPersistenceUnavailable .consumeTelegramUnlinkChallenge
  match db.challenges.find? input.tokenDigest with
  | none => pure (.challengeNotFound, db)
  | some challenge =>
      match db.challengedIdentity challenge with
      | none => pure (.challengeNotFound, db)
      | some (target, identity) =>
          if challenge.consumedAt.isSome then
            pure (.challengeAlreadyConsumed, db)
          else if challenge.expiresAt.getTime ≤ input.consumedAtMillis then do
            let consumed ← require unavailable (db.consumeChallenge? input)
            pure (.challengeExpired, consumed)
          else if identity.unlinkedAt.isSome then do
            let consumed ← require unavailable (db.consumeChallenge? input)
            pure (.channelIdentityNotFound, consumed)
          else if identity.externalAccountId ≠ input.externalAccountId then
            pure (.telegramIdentityDoesNotMatchChallenge, db)
          else do
            let unlinked ← require unavailable
              (db.unlinkIdentity? target input)
            let consumed ← require unavailable
              (unlinked.consumeChallenge? input)
            pure (.telegramIdentityUnlinked target, consumed)

/-- The actor of the one active identity of an account, if there is one. -/
def resolveTelegramActor (db : IdentityDatabase)
    (externalAccountId : TelegramExternalAccountId)
    (correlationId : CorrelationId) : Option ChannelActorContext :=
  match (db.activeIdentities externalAccountId).filter
    (fun entry => db.owns entry.2.userId entry.2.ledgerId) with
  | [entry] => db.joinActor correlationId entry
  | _ => none

end IdentityDatabase

end XpensGo
