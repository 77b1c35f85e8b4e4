import XpensGo.Identity.Database
import XpensGo.Postgres.ReadCommitted

/-!
# Accounts of web principals

`resolveWebActor` provides the user and the ledger of a verified principal when
they are first observed, and `changeUserTimezone` rewrites the timezone of a
user that still owns its ledger.  Both are modelled as whole transactions and
statement by statement.

An `INSERT … ON CONFLICT DO NOTHING` first looks for the conflicting row: a
committed row ends the statement, and a row that another transaction is
inserting makes it wait.  Only then is the new row entered under its generated
key, which must be unused.
-/

namespace XpensGo

open Postgres Relational

abbrev AuthUserId := Uuid

structure WebUserRow where
  authUserId : Option AuthUserId
  timezone : UserTimezone := "Asia/Kolkata"
  deriving DecidableEq, Repr

/-- The users and ledgers; `auth_user_id` and `owner_user_id` are unique. -/
structure AccountDatabase where
  /-- The keys of `auth_user`, which these calls do not change. -/
  authUsers : List AuthUserId := []
  users : Table UserId WebUserRow := .empty
  ledgers : Table LedgerId LedgerRow := .empty

/-- `resolveWebActor` with the identifiers that the database generates. -/
structure ResolveWebActorInput where
  authUserId : AuthUserId
  correlationId : CorrelationId
  generatedUserId : UserId
  generatedLedgerId : LedgerId
  deriving DecidableEq, Repr

structure ChangeUserTimezoneInput where
  actor : WebActorContext
  timezone : UserTimezone
  deriving DecidableEq, Repr

inductive AccountFailure where
  | identityPersistenceUnavailable
  | identityAuthorityNotFound
  deriving DecidableEq, Repr

/-- A row of the join that `resolveWebActor` reads. -/
structure WebActorRow where
  userId : UserId
  ledgerId : LedgerId
  timezone : UserTimezone
  deriving DecidableEq, Repr

section Tables

namespace AccountDatabase

variable (db : AccountDatabase)

/-- The rows of `users_auth_user_unique`. -/
def usersOf (authUserId : AuthUserId) : List (UserId × WebUserRow) :=
  db.users.select (fun _ row => row.authUserId = some authUserId)

/-- The rows of `ledgers_one_personal_ledger_per_owner`. -/
def ledgersOf (userId : UserId) : List (LedgerId × LedgerRow) :=
  db.ledgers.select (fun _ row => row.ownerUserId = userId)

def userOf (authUserId : AuthUserId) : Option UserId :=
  (db.usersOf authUserId).head?.map Prod.fst

def ledgerOf (userId : UserId) : Option LedgerId :=
  (db.ledgersOf userId).head?.map Prod.fst

def insertUser (userId : UserId) (authUserId : AuthUserId) :
    Option AccountDatabase :=
  (db.users.insert? (fun row => row.authUserId.all (· ∈ db.authUsers)) userId
    { authUserId := some authUserId }).map (fun users =>
      { db with users := users })

def insertLedger (ledgerId : LedgerId) (ownerUserId : UserId) :
    Option AccountDatabase :=
  (db.ledgers.insert? (fun _ => true) ledgerId
    { ownerUserId := ownerUserId }).map (fun ledgers =>
      { db with ledgers := ledgers })

/-- The users of a principal joined with their ledgers. -/
def webActorRows (authUserId : AuthUserId) : List WebActorRow :=
  (db.usersOf authUserId).flatMap (fun user =>
    (db.ledgersOf user.1).map (fun ledger =>
      { userId := user.1
        ledgerId := ledger.1
        timezone := user.2.timezone }))

def setTimezone (userId : UserId) (timezone : UserTimezone) :
    AccountDatabase :=
  { db with
    users := db.users.modify userId (fun row =>
      { row with timezone := timezone }) }

/-- The condition of the update in `changeUserTimezone`. -/
def ownsLedger (userId : UserId) (ledgerId : LedgerId) : Bool :=
  (db.users.find? userId).isSome &&
    (db.ledgers.find? ledgerId).any (fun ledger =>
      ledger.ownerUserId = userId)

end AccountDatabase

def WebActorRow.actor (row : WebActorRow) (correlationId : CorrelationId) :
    WebActorContext :=
  { userId := row.userId
    ledgerId := row.ledgerId
    timezone := row.timezone
    correlationId := correlationId }

end Tables

section Transactions

namespace AccountDatabase

variable (db : AccountDatabase)

/-- The first statement of `resolveWebActor`. -/
def provideUser (input : ResolveWebActorInput) : Option AccountDatabase :=
  match db.userOf input.authUserId with
  | some _ => some db
  | none => db.insertUser input.generatedUserId input.authUserId

/-- The second statement of `resolveWebActor`. -/
def provideLedger (input : ResolveWebActorInput) : Option AccountDatabase :=
  match db.userOf input.authUserId with
  | none => some db
  | some userId =>
      match db.ledgerOf userId with
      | some _ => some db
      | none => db.insertLedger input.generatedLedgerId userId

def resolveWebActor (input : ResolveWebActorInput) :
    Except AccountFailure (WebActorContext × AccountDatabase) :=
  match db.provideUser input with
  | none => .error .identityPersistenceUnavailable
  | some provided =>
      match provided.provideLedger input with
      | none => .error .identityPersistenceUnavailable
      | some provided =>
          match (provided.webActorRows input.authUserId).head? with
          | none => .error .identityPersistenceUnavailable
          | some row => .ok (row.actor input.correlationId, provided)

def changeUserTimezone (input : ChangeUserTimezoneInput) :
    Except AccountFailure (WebActorContext × AccountDatabase) :=
  if db.ownsLedger input.actor.userId input.actor.ledgerId then
    .ok ({ input.actor with timezone := input.timezone },
      db.setTimezone input.actor.userId input.timezone)
  else
    .error .identityAuthorityNotFound

end AccountDatabase

end Transactions

section Statements

/-- Index entries and rows that a transaction keeps to itself. -/
inductive AccountLock where
  | authUser (authUserId : AuthUserId)
  | user (userId : UserId)
  | userRow (userId : UserId)
  | owner (userId : UserId)
  | ledger (ledgerId : LedgerId)
  deriving DecidableEq, Repr

inductive AccountCall where
  | resolve (input : ResolveWebActorInput)
  | changeTimezone (input : ChangeUserTimezoneInput)
  deriving DecidableEq, Repr

abbrev AccountAnswer := Except AccountFailure WebActorContext

inductive AccountPhase where
  | starting
  | enteringUser
  | providingLedger
  | enteringLedger (userId : UserId)
  | selecting
  | committing (actor : WebActorContext)
  | failing (failure : AccountFailure)
  deriving DecidableEq, Repr

abbrev AccountInstruction :=
  Instruction AccountDatabase AccountLock AccountPhase AccountAnswer

def AccountPhase.afterSelect (input : ResolveWebActorInput)
    (rows : List WebActorRow) : AccountPhase :=
  match rows.head? with
  | none => .failing .identityPersistenceUnavailable
  | some row => .committing (row.actor input.correlationId)

def resolveInstruction (input : ResolveWebActorInput) :
    AccountPhase → AccountInstruction
  | .starting =>
      .statement
        (fun db =>
          if (db.userOf input.authUserId).isNone then
            some (.authUser input.authUserId)
          else
            none)
        id
        (fun db =>
          if (db.userOf input.authUserId).isNone then .enteringUser
          else .providingLedger)
  | .enteringUser =>
      .statement (fun _ => some (.user input.generatedUserId))
        (fun db =>
          (db.insertUser input.generatedUserId input.authUserId).getD db)
        (fun db =>
          if (db.insertUser input.generatedUserId input.authUserId).isSome then
            .providingLedger
          else
            .failing .identityPersistenceUnavailable)
  | .providingLedger =>
      .statement
        (fun db => (db.userOf input.authUserId).bind (fun userId =>
          if (db.ledgerOf userId).isNone then some (.owner userId)
          else none))
        id
        (fun db =>
          match db.userOf input.authUserId with
          | none => .selecting
          | some userId =>
              if (db.ledgerOf userId).isNone then .enteringLedger userId
              else .selecting)
  | .enteringLedger userId =>
      .statement (fun _ => some (.ledger input.generatedLedgerId))
        (fun db =>
          (db.insertLedger input.generatedLedgerId userId).getD db)
        (fun db =>
          if (db.insertLedger input.generatedLedgerId userId).isSome then
            .selecting
          else
            .failing .identityPersistenceUnavailable)
  | .selecting =>
      .statement (fun _ => none) id
        (fun db => .afterSelect input (db.webActorRows input.authUserId))
  | .committing actor => .commit (.ok actor)
  | .failing failure => .rollback (.error failure)

def changeInstruction (input : ChangeUserTimezoneInput) :
    AccountPhase → AccountInstruction
  | .starting =>
      .statement
        (fun db =>
          if db.ownsLedger input.actor.userId input.actor.ledgerId then
            some (.userRow input.actor.userId)
          else
            none)
        (fun db =>
          if db.ownsLedger input.actor.userId input.actor.ledgerId then
            db.setTimezone input.actor.userId input.timezone
          else
            db)
        (fun db =>
          if db.ownsLedger input.actor.userId input.actor.ledgerId then
            .committing { input.actor with timezone := input.timezone }
          else
            .failing .identityAuthorityNotFound)
  | .committing actor => .commit (.ok actor)
  | .failing failure => .rollback (.error failure)
  | .enteringUser | .providingLedger | .enteringLedger _ | .selecting =>
      .rollback (.error .identityPersistenceUnavailable)

def accountProgram :
    Program AccountDatabase AccountLock AccountCall AccountPhase
      AccountAnswer :=
  { start := .starting
    instruction := fun call =>
      match call with
      | .resolve input => resolveInstruction input
      | .changeTimezone input => changeInstruction input }

abbrev AccountSessions :=
  Sessions AccountDatabase AccountLock AccountCall AccountPhase AccountAnswer

end Statements

end XpensGo
