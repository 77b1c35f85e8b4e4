import XpensGo.Channel.Execution
import XpensGo.Identity.SerialProvisioning

/-!
# The tables behind the web API

The accounts of web principals together with the identities and challenges of
Telegram.  The transactions on challenges read the users and the ledgers and
write neither.
-/

namespace XpensGo

open Postgres Relational

structure WebDatabase where
  accounts : AccountDatabase := {}
  identities : Table ChannelIdentityId ChannelIdentityRow := .empty
  challenges : Table ChannelLinkChallengeDigest ChannelLinkChallengeRow :=
    .empty

/-- A row of `listTelegramIdentities`. -/
structure TelegramIdentitySummary where
  channelIdentityId : ChannelIdentityId
  linkedAtMillis : Int
  deriving DecidableEq, Repr

namespace WebDatabase

/-- The columns that the transactions on challenges see. -/
def identity (db : WebDatabase) : IdentityDatabase :=
  { users := db.accounts.users.mapRows (fun row =>
      { timezone := row.timezone })
    ledgers := db.accounts.ledgers
    identities := db.identities
    challenges := db.challenges }

def onAccounts {ε α : Type}
    (transaction : AccountDatabase → Except ε (α × AccountDatabase))
    (db : WebDatabase) : Except ε (α × WebDatabase) :=
  match transaction db.accounts with
  | .ok (outcome, accounts) => .ok (outcome, { db with accounts := accounts })
  | .error failure => .error failure

def onIdentity {ε α : Type}
    (transaction : IdentityDatabase → Except ε (α × IdentityDatabase))
    (db : WebDatabase) : Except ε (α × WebDatabase) :=
  match transaction db.identity with
  | .ok (outcome, identity) =>
      .ok (outcome, { db with
        identities := identity.identities
        challenges := identity.challenges })
  | .error failure => .error failure

/-- A call of a store; without an answer it fails as `unavailable`. -/
def call {ε α : Type} (fate : CallFate) (unavailable : ε)
    (transaction : WebDatabase → Except ε (α × WebDatabase))
    (db : WebDatabase) : Except ε α × WebDatabase :=
  match fate with
  | .answered => withTransaction transaction db
  | .refused => (.error unavailable, db)
  | .lost => (.error unavailable, (withTransaction transaction db).2)

/-- `ORDER BY linked_at, id`. -/
def linkedBefore (first second : ChannelIdentityId × ChannelIdentityRow) :
    Bool :=
  first.2.linkedAt < second.2.linkedAt ||
    (first.2.linkedAt = second.2.linkedAt &&
      first.1.number ≤ second.1.number)

def listTelegramIdentities (db : WebDatabase) (actor : WebActorContext) :
    List TelegramIdentitySummary :=
  ((db.identities.select (fun _ row =>
      row.userId = actor.userId && row.ledgerId = actor.ledgerId &&
        row.unlinkedAt.isNone)).mergeSort linkedBefore).map (fun entry =>
    { channelIdentityId := entry.1
      linkedAtMillis := entry.2.linkedAt.getTime })

section Calls

variable {ε α : Type} {db db' : WebDatabase}

theorem onAccounts_eq_ok {outcome : α}
    {transaction : AccountDatabase → Except ε (α × AccountDatabase)}
    (ran : onAccounts transaction db = .ok (outcome, db')) :
    ∃ accounts, transaction db.accounts = .ok (outcome, accounts) ∧
      db' = { db with accounts := accounts } := by
  unfold onAccounts at ran
  split at ran
  · rename_i found accounts committed
    cases ran
    exact ⟨accounts, committed, rfl⟩
  · cases ran

theorem onIdentity_eq_ok {outcome : α}
    {transaction : IdentityDatabase → Except ε (α × IdentityDatabase)}
    (ran : onIdentity transaction db = .ok (outcome, db')) :
    ∃ identity, transaction db.identity = .ok (outcome, identity) ∧
      db' = { db with
        identities := identity.identities
        challenges := identity.challenges } := by
  unfold onIdentity at ran
  split at ran
  · rename_i found identity committed
    cases ran
    exact ⟨identity, committed, rfl⟩
  · cases ran

/-- A call leaves the tables alone, or its transaction committed. -/
theorem call_cases (fate : CallFate) (unavailable : ε)
    (transaction : WebDatabase → Except ε (α × WebDatabase))
    (db : WebDatabase) :
    (∃ failure, call fate unavailable transaction db = (.error failure, db)) ∨
      ∃ outcome db' result, transaction db = .ok (outcome, db') ∧
        call fate unavailable transaction db = (result, db') ∧
        (result = .ok outcome ∨ result = .error unavailable) := by
  rcases withTransaction_cases transaction db with
    ⟨failure, _, rolledBack⟩ | ⟨outcome, db', ran, committed⟩
  · left
    cases fate with
    | answered => exact ⟨failure, rolledBack⟩
    | refused => exact ⟨unavailable, rfl⟩
    | lost => exact ⟨unavailable, by rw [call, rolledBack]⟩
  · cases fate with
    | answered =>
        exact .inr ⟨outcome, db', _, ran, committed, .inl rfl⟩
    | refused => exact .inl ⟨unavailable, rfl⟩
    | lost =>
        exact .inr ⟨outcome, db', _, ran, by rw [call, committed], .inr rfl⟩

/-- Every listed identity is one of the actor. -/
theorem listTelegramIdentities_owned {actor : WebActorContext}
    {summary : TelegramIdentitySummary}
    (listed : summary ∈ db.listTelegramIdentities actor) :
    ∃ row, db.identities.find? summary.channelIdentityId = some row ∧
      row.userId = actor.userId ∧ row.ledgerId = actor.ledgerId := by
  obtain ⟨⟨channelIdentityId, row⟩, member, rfl⟩ := List.mem_map.mp listed
  obtain ⟨found, own⟩ :=
    Table.mem_select.mp (List.mem_mergeSort.mp member)
  simp only [Bool.and_eq_true, decide_eq_true_eq] at own
  exact ⟨row, found, own.1.1, own.1.2⟩

end Calls

end WebDatabase

end XpensGo
