import XpensGo.Postgres.Transaction
import XpensGo.Relational.Aggregate

/-!
# Users, channel identities and challenges

The identity tables and their CHECK constraints.  A challenge is stored under
the digest of its token, which the table keeps unique; the purpose of a
challenge carries the identity that an unlink challenge targets.
-/

namespace XpensGo

open Postgres Relational

abbrev UserId := Uuid

abbrev LedgerId := Uuid

abbrev ChannelIdentityId := Uuid

abbrev CorrelationId := Uuid

abbrev UserTimezone := String

/-- Milliseconds since the epoch; readings before the epoch are rejected. -/
abbrev EpochMillis := Nat

/-- The account number that Telegram assigned to a user. -/
structure TelegramExternalAccountId where
  digits : String
  deriving DecidableEq, Repr

/-- SHA-256 digest of a challenge token. -/
structure ChannelLinkChallengeDigest where
  hex : String
  deriving DecidableEq, Repr

/-- Trusted authority of one verified web request. -/
structure WebActorContext where
  userId : UserId
  ledgerId : LedgerId
  timezone : UserTimezone
  correlationId : CorrelationId
  deriving DecidableEq, Repr

/-- Trusted authority of one linked Telegram account. -/
structure ChannelActorContext where
  userId : UserId
  ledgerId : LedgerId
  timezone : UserTimezone
  correlationId : CorrelationId
  channelIdentityId : ChannelIdentityId
  deriving DecidableEq, Repr

structure UserRow where
  timezone : UserTimezone := "Asia/Kolkata"
  deriving DecidableEq, Repr

structure LedgerRow where
  ownerUserId : UserId
  deriving DecidableEq, Repr

structure ChannelIdentityRow where
  userId : UserId
  ledgerId : LedgerId
  externalAccountId : TelegramExternalAccountId
  linkedAt : Timestamp
  unlinkedAt : Option Timestamp := none
  deriving DecidableEq, Repr

/-- `channel_identities_unlink_order`. -/
def ChannelIdentityRow.check (row : ChannelIdentityRow) : Bool :=
  row.unlinkedAt.all (fun unlinkedAt => row.linkedAt ≤ unlinkedAt)

/-- An identity that links `externalAccountId` now. -/
def ChannelIdentityRow.links (row : ChannelIdentityRow)
    (externalAccountId : TelegramExternalAccountId) : Bool :=
  row.externalAccountId = externalAccountId && row.unlinkedAt.isNone

inductive ChallengePurpose where
  | link
  | unlink (targetChannelIdentityId : ChannelIdentityId)
  deriving DecidableEq, Repr

structure ChannelLinkChallengeRow where
  userId : UserId
  ledgerId : LedgerId
  purpose : ChallengePurpose
  createdAt : Timestamp
  expiresAt : Timestamp
  consumedAt : Option Timestamp := none
  deriving DecidableEq, Repr

/-- `channel_link_challenges_expiry_order` and
`channel_link_challenges_consumption_order`. -/
def ChannelLinkChallengeRow.check (row : ChannelLinkChallengeRow) : Bool :=
  row.createdAt < row.expiresAt &&
    row.consumedAt.all (fun consumedAt => row.createdAt ≤ consumedAt)

structure IdentityDatabase where
  users : Table UserId UserRow := .empty
  ledgers : Table LedgerId LedgerRow := .empty
  identities : Table ChannelIdentityId ChannelIdentityRow := .empty
  challenges : Table ChannelLinkChallengeDigest ChannelLinkChallengeRow :=
    .empty

namespace IdentityDatabase

/-- A user row joined with a ledger that the user owns. -/
def owns (db : IdentityDatabase) (userId : UserId) (ledgerId : LedgerId) :
    Bool :=
  (db.users.find? userId).isSome &&
    (db.ledgers.find? ledgerId).any (fun ledger => ledger.ownerUserId = userId)

/-- The rows of the index that is unique for active identities. -/
def activeIdentities (db : IdentityDatabase)
    (externalAccountId : TelegramExternalAccountId) :
    List (ChannelIdentityId × ChannelIdentityRow) :=
  db.identities.select (fun _ row => row.links externalAccountId)

end IdentityDatabase

inductive IdentityOperation where
  | createTelegramLinkChallenge
  | consumeTelegramLinkChallenge
  | createTelegramUnlinkChallenge
  | consumeTelegramUnlinkChallenge
  deriving DecidableEq, Repr

inductive IdentityStoreFailure where
  | identityAuthorityNotFound (operation : IdentityOperation)
  | channelIdentityNotFound
  | identityPersistenceUnavailable (operation : IdentityOperation)
  deriving DecidableEq, Repr

end XpensGo
