import XpensGo.Identity.StoreCases
import XpensGo.Postgres.ReadCommitted
import XpensGo.RateLimit.SlidingWindow

/-!
# The statements of a challenge creation

The creation of a link or unlink challenge as a program of single statements:
the authority of the actor, read with a lock on the row of the user, the target
of an unlink challenge, the count of recent challenges and the insertion.  A
call has read its clock before its transaction starts.

Other transactions may run in between.  Of these only matters that they neither
create challenges nor change when a challenge was created.
-/

namespace XpensGo

open Postgres Relational Transition

namespace IdentityDatabase

/-- When the challenges of a user were created. -/
def challengeTimes (db : IdentityDatabase) (userId : UserId) :
    List Timestamp :=
  (db.challenges.select (fun _ row => row.userId = userId)).map
    (fun entry => entry.2.createdAt)

end IdentityDatabase

/-- The change of the identity tables by a transaction of another kind. -/
structure OtherChange where
  write : IdentityDatabase → IdentityDatabase
  kept : ∀ db userId, (write db).challengeTimes userId =
    db.challengeTimes userId

section Consumptions

private theorem challengeTimes_consumeChallenge (db : IdentityDatabase)
    (input : ConsumeTelegramChallengeStoreInput) (userId : UserId) :
    (db.consumeChallenge input).challengeTimes userId =
      db.challengeTimes userId := by
  apply Table.map_select_update db.challenges (fun tokenDigest row =>
    if decide (tokenDigest = input.tokenDigest) = true then
      { row with consumedAt := some (.ofMillis input.consumedAtMillis) }
    else
      row)
  · intro tokenDigest row
    split <;> rfl
  · intro tokenDigest row
    split <;> rfl

/-- The consumption of a link challenge. -/
def OtherChange.consumeLink (generated : ChannelIdentityId)
    (input : ConsumeTelegramChallengeStoreInput) : OtherChange where
  write := fun db => (withTransaction
    (IdentityDatabase.consumeTelegramLinkChallenge generated input) db).2
  kept := by
    intro db userId
    rcases withTransaction_cases
      (IdentityDatabase.consumeTelegramLinkChallenge generated input) db with
      ⟨_, _, failed⟩ | ⟨outcome, db', ran, committed⟩
    · rw [failed]
    · rw [committed]
      cases IdentityDatabase.consumeTelegramLinkChallenge_eq_ok ran with
      | notFound | alreadyConsumed => rfl
      | expired | alreadyLinked | linked =>
          exact challengeTimes_consumeChallenge _ input userId

/-- The consumption of an unlink challenge. -/
def OtherChange.consumeUnlink
    (input : ConsumeTelegramChallengeStoreInput) : OtherChange where
  write := fun db => (withTransaction
    (IdentityDatabase.consumeTelegramUnlinkChallenge input) db).2
  kept := by
    intro db userId
    rcases withTransaction_cases
      (IdentityDatabase.consumeTelegramUnlinkChallenge input) db with
      ⟨_, _, failed⟩ | ⟨outcome, db', ran, committed⟩
    · rw [failed]
    · rw [committed]
      cases IdentityDatabase.consumeTelegramUnlinkChallenge_eq_ok ran with
      | notFound | alreadyConsumed | mismatched => rfl
      | expired | gone | unlinked =>
          exact challengeTimes_consumeChallenge _ input userId

end Consumptions

/-- Rows and keys that one transaction keeps from the others. -/
inductive IdentityLock where
  | user (userId : UserId)
  | challenge (tokenDigest : ChannelLinkChallengeDigest)
  deriving DecidableEq, Repr

inductive IdentityTransaction where
  | createLink (actor : WebActorContext)
      (tokenDigest : ChannelLinkChallengeDigest) (now : EpochMillis)
  | createUnlink (actor : WebActorContext)
      (channelIdentityId : ChannelIdentityId)
      (tokenDigest : ChannelLinkChallengeDigest) (now : EpochMillis)
  | other (change : OtherChange)

inductive CreationPhase where
  | starting
  | checkingTarget
  | counting
  | inserting
  | committing (outcome : PersistTelegramLinkChallengeOutcome)
  | failing (failure : IdentityStoreFailure)
  | written

/-- The answer of a creation, and nothing for other transactions. -/
abbrev CreationAnswer :=
  Option (Except IdentityStoreFailure PersistTelegramLinkChallengeOutcome)

/-- The creation that stores challenges of this purpose. -/
def ChallengePurpose.operation : ChallengePurpose → IdentityOperation
  | .link => .createTelegramLinkChallenge
  | .unlink _ => .createTelegramUnlinkChallenge

section Program

variable (input : PersistTelegramLinkChallengeInput)
  (purpose : ChallengePurpose)

/-- The phase after the authority was found. -/
def CreationPhase.afterAuthority : ChallengePurpose → CreationPhase
  | .link => .counting
  | .unlink _ => .checkingTarget

/-- The target of an unlink challenge is active; a link challenge has none. -/
def ChallengePurpose.targetFound (db : IdentityDatabase) :
    ChallengePurpose → Bool
  | .link => true
  | .unlink target => db.unlinkTarget
      { input with channelIdentityId := target }

def CreationPhase.afterCount : Option Int → CreationPhase
  | some retryAfterSeconds => .committing (.rateLimited retryAfterSeconds)
  | none => .inserting

def creationInstruction :
    CreationPhase →
      Instruction IdentityDatabase IdentityLock CreationPhase CreationAnswer
  | .starting =>
      .statement
        (fun db =>
          if db.owns input.actor.userId input.actor.ledgerId then
            some (.user input.actor.userId)
          else
            none)
        id
        (fun db =>
          if db.owns input.actor.userId input.actor.ledgerId then
            .afterAuthority purpose
          else
            .failing (.identityAuthorityNotFound purpose.operation))
  | .checkingTarget =>
      .statement (fun _ => none) id
        (fun db =>
          if purpose.targetFound input db then .counting
          else .failing .channelIdentityNotFound)
  | .counting =>
      .statement (fun _ => none) id
        (fun db => .afterCount (db.challengeRateLimit input))
  | .inserting =>
      .statement (fun _ => some (.challenge input.tokenDigest))
        (fun db => (db.insertChallenge input.tokenDigest
          (input.row purpose)).getD db)
        (fun db =>
          if (db.insertChallenge input.tokenDigest
              (input.row purpose)).isSome then
            .committing .stored
          else
            .failing (.identityPersistenceUnavailable purpose.operation))
  | .committing outcome => .commit (some (.ok outcome))
  | .failing failure => .rollback (some (.error failure))
  | .written => .commit none

end Program

namespace IdentityTransaction

/-- What a creation stores; the other transactions store no challenge. -/
def creation : IdentityTransaction →
    Option (PersistTelegramLinkChallengeInput × ChallengePurpose)
  | .createLink actor tokenDigest now =>
      some (challengeInput actor tokenDigest now, .link)
  | .createUnlink actor channelIdentityId tokenDigest now =>
      some (challengeInput actor tokenDigest now, .unlink channelIdentityId)
  | .other _ => none

def instruction (transaction : IdentityTransaction) :
    CreationPhase →
      Instruction IdentityDatabase IdentityLock CreationPhase CreationAnswer :=
  match transaction with
  | .createLink actor tokenDigest now =>
      creationInstruction (challengeInput actor tokenDigest now) .link
  | .createUnlink actor channelIdentityId tokenDigest now =>
      creationInstruction (challengeInput actor tokenDigest now)
        (.unlink channelIdentityId)
  | .other change => fun
      | .starting =>
          .statement (fun _ => none) change.write (fun _ => .written)
      | _ => .commit none

end IdentityTransaction

def challengeProgram :
    Program IdentityDatabase IdentityLock IdentityTransaction CreationPhase
      CreationAnswer :=
  { start := .starting
    instruction := IdentityTransaction.instruction }

/-- Any number of creations and of other transactions, on tables of any users
and links without challenges. -/
def challengeSystem :
    System
      (Sessions IdentityDatabase IdentityLock IdentityTransaction CreationPhase
        CreationAnswer)
      (SessionAction IdentityTransaction) :=
  challengeProgram.system (fun db => db.challenges = .empty)

section Alone

variable {actor : WebActorContext} {tokenDigest : ChannelLinkChallengeDigest}
  {now : EpochMillis} {start : IdentityDatabase}

/-- The answer of a transaction that ran as a whole, with the tables it left;
it started from the given ones. -/
def creationEnding (start : IdentityDatabase) :
    Except IdentityStoreFailure
      (PersistTelegramLinkChallengeOutcome × IdentityDatabase) →
    CreationAnswer × IdentityDatabase
  | .ok (outcome, committed) => (some (.ok outcome), committed)
  | .error failure => (some (.error failure), start)

/-- From its count on, a creation that nothing disturbs is `storeChallenge`. -/
private theorem runAlone_counting {transaction : IdentityTransaction}
    {input : PersistTelegramLinkChallengeInput} {purpose : ChallengePurpose}
    (instruction : transaction.instruction =
      creationInstruction input purpose) :
    challengeProgram.runAlone transaction start 3 .counting start =
      some (creationEnding start
        (start.storeChallenge purpose.operation input purpose)) := by
  simp only [Program.runAlone, challengeProgram, instruction,
    creationInstruction, IdentityDatabase.storeChallenge, id]
  cases start.challengeRateLimit input with
  | some retryAfterSeconds => rfl
  | none =>
      simp only [CreationPhase.afterCount]
      cases start.insertChallenge input.tokenDigest (input.row purpose) with
      | none => rfl
      | some stored => rfl

/-- A creation of a link challenge that nothing disturbs is the transaction
`createTelegramLinkChallenge`. -/
theorem challengeProgram_runAlone_createLink :
    challengeProgram.runAlone (.createLink actor tokenDigest now) start 4
        .starting start =
      some (creationEnding start
        (IdentityDatabase.createTelegramLinkChallenge
          (challengeInput actor tokenDigest now) start)) := by
  have counted := @runAlone_counting start
    (.createLink actor tokenDigest now)
    (challengeInput actor tokenDigest now) .link rfl
  unfold IdentityDatabase.createTelegramLinkChallenge
  by_cases owned : start.owns (challengeInput actor tokenDigest now).actor.userId
      (challengeInput actor tokenDigest now).actor.ledgerId = true
  · rw [if_pos owned]
    refine Eq.trans ?_ counted
    simp [Program.runAlone, challengeProgram, IdentityTransaction.instruction,
      creationInstruction, owned, CreationPhase.afterAuthority]
  · rw [if_neg owned]
    simp [Program.runAlone, challengeProgram, IdentityTransaction.instruction,
      creationInstruction, owned, ChallengePurpose.operation, creationEnding]

theorem challengeProgram_runAlone_createUnlink
    {channelIdentityId : ChannelIdentityId} :
    challengeProgram.runAlone
        (.createUnlink actor channelIdentityId tokenDigest now) start 5
        .starting start =
      some (creationEnding start
        (IdentityDatabase.createTelegramUnlinkChallenge
          (unlinkChallengeInput actor channelIdentityId tokenDigest now)
          start)) := by
  have counted := @runAlone_counting start
    (.createUnlink actor channelIdentityId tokenDigest now)
    (challengeInput actor tokenDigest now) (.unlink channelIdentityId) rfl
  unfold IdentityDatabase.createTelegramUnlinkChallenge
  change _ = some (creationEnding start
    (if start.owns (challengeInput actor tokenDigest now).actor.userId
        (challengeInput actor tokenDigest now).actor.ledgerId then
      if ChallengePurpose.targetFound (challengeInput actor tokenDigest now)
          start (.unlink channelIdentityId) then _ else _
    else _))
  by_cases owned : start.owns (challengeInput actor tokenDigest now).actor.userId
      (challengeInput actor tokenDigest now).actor.ledgerId = true
  · by_cases targeted : ChallengePurpose.targetFound
        (challengeInput actor tokenDigest now) start
        (.unlink channelIdentityId) = true
    · rw [if_pos owned, if_pos targeted]
      refine Eq.trans ?_ counted
      simp [Program.runAlone, challengeProgram,
        IdentityTransaction.instruction, creationInstruction, owned,
        CreationPhase.afterAuthority, targeted]
    · rw [if_pos owned, if_neg targeted]
      simp [Program.runAlone, challengeProgram,
        IdentityTransaction.instruction, creationInstruction, owned,
        CreationPhase.afterAuthority, targeted, creationEnding]
  · rw [if_neg owned]
    simp [Program.runAlone, challengeProgram, IdentityTransaction.instruction,
      creationInstruction, owned, ChallengePurpose.operation, creationEnding]

variable {session : SessionId}
  {state : Sessions IdentityDatabase IdentityLock IdentityTransaction
    CreationPhase CreationAnswer}

/-- A transaction that starts when no other is in progress can run to its end,
which is the one that it has alone. -/
theorem exists_run_challenge {fuel : Nat} {transaction : IdentityTransaction}
    {answer : CreationAnswer} {committed : IdentityDatabase}
    (absent : state.sessions.find? session = none)
    (alone : ∀ other running,
      state.sessions.find? other ≠ some (.running running))
    (ran : challengeProgram.runAlone transaction state.committed fuel
      .starting state.committed = some (answer, committed)) :
    ∃ labels state', challengeSystem.run state
        (.start session transaction :: labels) = some state' ∧
      state'.committed = committed ∧
        state'.sessions.find? session = some (.ended answer) :=
  exists_run_of_start absent
    (fun _ other running _ found => (alone other running found).elim) ran

/-- So a creation of a link challenge that is not disturbed commits and answers
what the transaction `createTelegramLinkChallenge` does. -/
theorem exists_run_createLink
    (absent : state.sessions.find? session = none)
    (alone : ∀ other running,
      state.sessions.find? other ≠ some (.running running)) :
    ∃ labels state', challengeSystem.run state
        (.start session (.createLink actor tokenDigest now) :: labels) =
          some state' ∧
      state'.committed = (creationEnding state.committed
          (IdentityDatabase.createTelegramLinkChallenge
            (challengeInput actor tokenDigest now) state.committed)).2 ∧
        state'.sessions.find? session = some (.ended
          (creationEnding state.committed
            (IdentityDatabase.createTelegramLinkChallenge
              (challengeInput actor tokenDigest now)
              state.committed)).1) :=
  exists_run_challenge absent alone challengeProgram_runAlone_createLink

theorem exists_run_createUnlink {channelIdentityId : ChannelIdentityId}
    (absent : state.sessions.find? session = none)
    (alone : ∀ other running,
      state.sessions.find? other ≠ some (.running running)) :
    ∃ labels state', challengeSystem.run state
        (.start session (.createUnlink actor channelIdentityId tokenDigest
          now) :: labels) = some state' ∧
      state'.committed = (creationEnding state.committed
          (IdentityDatabase.createTelegramUnlinkChallenge
            (unlinkChallengeInput actor channelIdentityId tokenDigest now)
            state.committed)).2 ∧
        state'.sessions.find? session = some (.ended
          (creationEnding state.committed
            (IdentityDatabase.createTelegramUnlinkChallenge
              (unlinkChallengeInput actor channelIdentityId tokenDigest now)
              state.committed)).1) :=
  exists_run_challenge absent alone challengeProgram_runAlone_createUnlink

end Alone

end XpensGo
