import XpensGo.Identity.ChallengeCreation
import XpensGo.Identity.System

/-!
# The limit on challenges

A creation counts the challenges of its user while it holds the row of the
user, so the count stays right until it commits.  It counts from one hour
before its own clock reading, in whatever order the readings and the
transactions come; this is a sliding window.
-/

namespace XpensGo

open Postgres Relational Transition RateLimit

abbrev ChallengeCalls :=
  Sessions IdentityDatabase IdentityLock IdentityTransaction CreationPhase
    CreationAnswer

abbrev ChallengeCall :=
  Transaction IdentityDatabase IdentityLock IdentityTransaction CreationPhase

namespace CreationPhase

/-- The call holds the row of its user. -/
def locked : CreationPhase → Bool
  | .checkingTarget | .counting | .inserting | .committing _ => true
  | .starting | .failing _ | .written => false

/-- The call has found room for another challenge. -/
def counted : CreationPhase → Bool
  | .inserting | .committing .stored => true
  | .starting | .checkingTarget | .counting | .committing (.rateLimited _)
  | .failing _ | .written => false

/-- The call has written nothing. -/
def unwritten : CreationPhase → Bool
  | .starting | .checkingTarget | .counting | .inserting
  | .committing (.rateLimited _) => true
  | .committing .stored | .failing _ | .written => false

end CreationPhase

section Tables

variable {db : IdentityDatabase} {input : PersistTelegramLinkChallengeInput}

theorem length_recentChallenges (userId : UserId) (since : EpochMillis) :
    (db.recentChallenges userId since).length =
      countSince (db.challengeTimes userId) (.ofMillis since) := by
  unfold IdentityDatabase.recentChallenges IdentityDatabase.challengeTimes
    countSince Table.select
  rw [List.countP_map, ← List.countP_eq_length_filter, List.countP_filter]
  apply List.countP_congr
  intro entry _
  simp [and_comm]

theorem room_of_challengeRateLimit
    (unlimited : db.challengeRateLimit input = none) :
    countSince (db.challengeTimes input.actor.userId)
      (.ofMillis input.rateLimitSinceMillis) < input.maximumChallenges := by
  rw [← length_recentChallenges]
  unfold IdentityDatabase.challengeRateLimit at unlimited
  dsimp only at unlimited
  split at unlimited
  · cases unlimited
  · rename_i room
    exact Nat.not_le.mp room

/-- What an insertion does to the times of a user. -/
theorem challengeTimes_insertChallenge {purpose : ChallengePurpose}
    (userId : UserId) :
    ((db.insertChallenge input.tokenDigest (input.row purpose)).getD
        db).challengeTimes userId = db.challengeTimes userId ∨
      input.actor.userId = userId ∧
        ((db.insertChallenge input.tokenDigest (input.row purpose)).getD
            db).challengeTimes userId =
          db.challengeTimes userId ++ [.ofMillis input.createdAtMillis] := by
  cases inserted : db.insertChallenge input.tokenDigest
      (input.row purpose) with
  | none => exact .inl rfl
  | some written =>
      obtain ⟨fresh, rfl⟩ := IdentityDatabase.insertChallenge_eq_some inserted
      simp only [Option.getD_some, IdentityDatabase.challengeTimes]
      by_cases same : input.actor.userId = userId
      · right
        refine ⟨same, ?_⟩
        rw [Table.select_push_of_true _ fresh (decide_eq_true same),
          List.map_append]
        rfl
      · left
        rw [Table.select_push_of_false _ fresh (decide_eq_false same)]

end Tables

section Calls

variable {committed : IdentityDatabase} {call : ChallengeCall}
  {input : PersistTelegramLinkChallengeInput} {purpose : ChallengePurpose}
  {transaction : IdentityTransaction}

theorem instruction_of_creation
    (creation : transaction.creation = some (input, purpose)) :
    transaction.instruction = creationInstruction input purpose := by
  cases transaction with
  | createLink | createUnlink =>
      cases creation
      rfl
  | other => cases creation

theorem creation_eq_challengeInput
    (creation : transaction.creation = some (input, purpose)) :
    ∃ actor tokenDigest now,
      input = challengeInput actor tokenDigest now := by
  cases transaction with
  | createLink | createUnlink =>
      cases creation
      exact ⟨_, _, _, rfl⟩
  | other => cases creation

/-- What a running creation holds, has written and has counted. -/
structure OrderlyCreation (committed : IdentityDatabase)
    (call : ChallengeCall) (input : PersistTelegramLinkChallengeInput)
    (purpose : ChallengePurpose) : Prop where
  locked : call.phase.locked = true →
    .user input.actor.userId ∈ call.locks
  unwritten : call.phase.unwritten = true → call.writes = id
  stored : call.phase = .committing .stored → call.writes =
    fun db => (db.insertChallenge input.tokenDigest (input.row purpose)).getD db
  room : call.phase.counted = true →
    countSince (committed.challengeTimes input.actor.userId)
      (.ofMillis input.rateLimitSinceMillis) < input.maximumChallenges
  creating : call.phase ≠ .written

/-- What holds of a running transaction. -/
structure OrderlyChallengeCall (committed : IdentityDatabase)
    (call : ChallengeCall) : Prop where
  creates : ∀ input purpose, call.parameter.creation = some (input, purpose) →
    OrderlyCreation committed call input purpose
  keeps : call.parameter.creation = none → ∀ db userId,
    (call.writes db).challengeTimes userId = db.challengeTimes userId

theorem OrderlyChallengeCall.start (transaction : IdentityTransaction) :
    OrderlyChallengeCall committed
      { parameter := transaction
        phase := .starting
        writes := id
        locks := [] } where
  creates := fun _ _ _ =>
    { locked := fun locked => by cases locked
      unwritten := fun _ => rfl
      stored := fun stored => by cases stored
      room := fun counted => by cases counted
      creating := by simp }
  keeps := fun _ _ _ => rfl

/-- Another transaction has committed; it created no challenge of a user whose
row this call holds. -/
theorem OrderlyChallengeCall.commit {committed' : IdentityDatabase}
    (orderly : OrderlyChallengeCall committed call)
    (kept : ∀ userId, .user userId ∈ call.locks →
      committed'.challengeTimes userId = committed.challengeTimes userId) :
    OrderlyChallengeCall committed' call where
  creates := by
    intro input purpose creation
    have creates := orderly.creates input purpose creation
    refine
      { locked := creates.locked
        unwritten := creates.unwritten
        stored := creates.stored
        room := ?_
        creating := creates.creating }
    intro counted
    have held : .user input.actor.userId ∈ call.locks := by
      apply creates.locked
      cases phase : call.phase with
      | inserting | committing => rfl
      | starting | checkingTarget | counting | failing | written =>
          rw [phase] at counted
          cases counted
    rw [kept _ held]
    exact creates.room counted
  keeps := orderly.keeps

/-- The challenges that a commit adds. -/
theorem OrderlyChallengeCall.view_challengeTimes
    (orderly : OrderlyChallengeCall committed call)
    {answer : CreationAnswer}
    (instruction : challengeProgram.instruction call.parameter call.phase =
      .commit answer) (userId : UserId) :
    (call.view committed).challengeTimes userId =
        committed.challengeTimes userId ∨
      ∃ input purpose, call.parameter.creation = some (input, purpose) ∧
        call.phase = .committing .stored ∧ input.actor.userId = userId ∧
          (call.view committed).challengeTimes userId =
            committed.challengeTimes userId ++
              [.ofMillis input.createdAtMillis] := by
  cases creation : call.parameter.creation with
  | none => exact .inl (orderly.keeps creation committed userId)
  | some stored =>
      obtain ⟨input, purpose⟩ := stored
      have creates := orderly.creates input purpose creation
      change call.parameter.instruction call.phase = _ at instruction
      rw [instruction_of_creation creation] at instruction
      cases phase : call.phase with
      | starting | checkingTarget | counting | inserting | failing =>
          rw [phase] at instruction
          cases instruction
      | written => exact (creates.creating phase).elim
      | committing outcome =>
          cases outcome with
          | rateLimited =>
              left
              rw [Transaction.view, creates.unwritten (by rw [phase]; rfl)]
              rfl
          | stored =>
              rw [Transaction.view, creates.stored phase]
              rcases @challengeTimes_insertChallenge committed input purpose
                userId with same | ⟨owner, added⟩
              · exact .inl same
              · exact .inr ⟨input, purpose, rfl, rfl, owner, added⟩

private theorem OrderlyCreation.read
    (creates : OrderlyCreation committed call input purpose)
    (unwritten : call.phase.unwritten = true)
    {lock : IdentityDatabase → Option IdentityLock}
    {next : IdentityDatabase → CreationPhase}
    (held : (next committed).locked = true →
      call.phase.locked = true ∨
        lock committed = some (.user input.actor.userId))
    (room : (next committed).counted = true →
      countSince (committed.challengeTimes input.actor.userId)
        (.ofMillis input.rateLimitSinceMillis) < input.maximumChallenges)
    (quiet : next committed ≠ .committing .stored ∧
      next committed ≠ .written) :
    OrderlyCreation committed (call.execute committed lock id next) input
      purpose := by
  have view : call.view committed = committed := by
    rw [Transaction.view, creates.unwritten unwritten]
    rfl
  have phase : (call.execute committed lock id next).phase =
      next committed := by
    rw [Transaction.execute, view]
  refine
    { locked := ?_
      unwritten := fun _ => creates.unwritten unwritten
      stored := ?_
      room := ?_
      creating := ?_ }
  · intro locked
    rw [phase] at locked
    apply List.mem_append.mpr
    rcases held locked with old | new
    · exact .inr (creates.locked old)
    · rw [view]
      exact .inl (Option.mem_toList.mpr new)
  · intro stored
    rw [phase] at stored
    exact (quiet.1 stored).elim
  · intro counted
    rw [phase] at counted
    exact room counted
  · rw [phase]
    exact quiet.2

theorem OrderlyCreation.execute
    (creates : OrderlyCreation committed call input purpose)
    {lock : IdentityDatabase → Option IdentityLock}
    {write : IdentityDatabase → IdentityDatabase}
    {next : IdentityDatabase → CreationPhase}
    (instruction : creationInstruction input purpose call.phase =
      .statement lock write next) :
    OrderlyCreation committed (call.execute committed lock write next) input
      purpose := by
  cases phase : call.phase with
  | committing | failing | written =>
      rw [phase] at instruction
      cases instruction
  | starting =>
      rw [phase] at instruction
      cases instruction
      apply creates.read (by rw [phase]; rfl)
      · intro locked
        split at locked
        · rename_i owned
          exact .inr (if_pos owned)
        · cases locked
      · intro counted
        split at counted
        · cases purpose with
          | link | unlink => cases counted
        · cases counted
      · split
        · cases purpose with
          | link | unlink => simp [CreationPhase.afterAuthority]
        · simp
  | checkingTarget =>
      rw [phase] at instruction
      cases instruction
      apply creates.read (by rw [phase]; rfl)
      · intro _
        exact .inl (by rw [phase]; rfl)
      · intro counted
        split at counted <;> cases counted
      · split <;> simp
  | counting =>
      rw [phase] at instruction
      cases instruction
      apply creates.read (by rw [phase]; rfl)
      · intro _
        exact .inl (by rw [phase]; rfl)
      · intro counted
        cases limit : committed.challengeRateLimit input with
        | some retryAfterSeconds =>
            rw [limit] at counted
            cases counted
        | none => exact room_of_challengeRateLimit limit
      · cases committed.challengeRateLimit input with
        | some retryAfterSeconds => simp [CreationPhase.afterCount]
        | none => simp [CreationPhase.afterCount]
  | inserting =>
      have unwritten := creates.unwritten (by rw [phase]; rfl)
      have held := creates.locked (by rw [phase]; rfl)
      have room := creates.room (by rw [phase]; rfl)
      rw [phase] at instruction
      cases instruction
      refine
        { locked := fun _ => List.mem_append_right _ held
          unwritten := ?_
          stored := ?_
          room := fun _ => room
          creating := ?_ }
      · intro quiet
        simp only [Transaction.execute] at quiet
        split at quiet <;> cases quiet
      · intro _
        rw [Transaction.execute, unwritten]
        rfl
      · simp only [Transaction.execute]
        split <;> simp

theorem OrderlyChallengeCall.execute
    (orderly : OrderlyChallengeCall committed call)
    {lock : IdentityDatabase → Option IdentityLock}
    {write : IdentityDatabase → IdentityDatabase}
    {next : IdentityDatabase → CreationPhase}
    (instruction : challengeProgram.instruction call.parameter call.phase =
      .statement lock write next) :
    OrderlyChallengeCall committed (call.execute committed lock write next) where
  creates := by
    intro input purpose creation
    apply (orderly.creates input purpose creation).execute
    rw [← instruction_of_creation creation]
    exact instruction
  keeps := by
    intro creation db userId
    have kept := orderly.keeps creation db userId
    change call.parameter.instruction call.phase = _ at instruction
    change (write (call.writes db)).challengeTimes userId = _
    cases parameter : call.parameter with
    | createLink | createUnlink =>
        rw [Transaction.execute, parameter] at creation
        cases creation
    | other change =>
        rw [parameter] at instruction
        cases phase : call.phase with
        | starting =>
            rw [phase] at instruction
            cases instruction
            rw [change.kept, kept]
        | checkingTarget | counting | inserting | committing | failing
        | written =>
            rw [phase] at instruction
            cases instruction

end Calls

section Runs

variable {state : ChallengeCalls}

/-- The limit holds of every window, and no challenge is older than the
epoch. -/
structure ChallengesLimited (db : IdentityDatabase) : Prop where
  windows : ∀ userId, Limited maximumChallengesPerWindow
    (Timestamp.ofMillis challengeRateLimitWindowMillis)
    (db.challengeTimes userId)
  nonnegative : ∀ userId, ∀ time ∈ db.challengeTimes userId, 0 ≤ time

/-- A creation that has counted keeps the limit. -/
theorem ChallengesLimited.add {db db' : IdentityDatabase}
    (limited : ChallengesLimited db) {actor : WebActorContext}
    {tokenDigest : ChannelLinkChallengeDigest} {now : EpochMillis}
    {userId : UserId}
    (room : countSince (db.challengeTimes userId)
      (.ofMillis (challengeInput actor tokenDigest now).rateLimitSinceMillis) <
        maximumChallengesPerWindow)
    (added : db'.challengeTimes userId =
      db.challengeTimes userId ++ [.ofMillis now]) :
    Limited maximumChallengesPerWindow
        (Timestamp.ofMillis challengeRateLimitWindowMillis)
        (db'.challengeTimes userId) ∧
      ∀ time ∈ db'.challengeTimes userId, 0 ≤ time := by
  rw [added]
  constructor
  · apply (limited.windows userId).append _ room
    intro time member recent
    -- The start of the count is cut off at the epoch, where all times begin.
    have positive : (0 : Int) ≤ time :=
      limited.nonnegative userId time member
    change (now : Int) * 1000 - ((60 * 60 * 1000 : Nat) : Int) * 1000 ≤
      (time : Int) at recent
    change ((now - 60 * 60 * 1000 : Nat) : Int) * 1000 ≤ (time : Int)
    omega
  · intro time member
    rcases List.mem_append.mp member with earlier | last
    · exact limited.nonnegative userId time earlier
    · rw [List.mem_singleton.mp last]
      change (0 : Int) ≤ (now : Int) * 1000
      omega

/-- The commit of a call keeps the limit. -/
theorem OrderlyChallengeCall.limited {committed : IdentityDatabase}
    {call : ChallengeCall} {answer : CreationAnswer}
    (orderly : OrderlyChallengeCall committed call)
    (limited : ChallengesLimited committed)
    (instruction : challengeProgram.instruction call.parameter call.phase =
      .commit answer) : ChallengesLimited (call.view committed) := by
  have kept : ∀ userId,
      Limited maximumChallengesPerWindow
          (Timestamp.ofMillis challengeRateLimitWindowMillis)
          ((call.view committed).challengeTimes userId) ∧
        ∀ time ∈ (call.view committed).challengeTimes userId, 0 ≤ time := by
    intro userId
    rcases orderly.view_challengeTimes instruction userId with
      same | ⟨input, purpose, creation, phase, owner, added⟩
    · rw [same]
      exact ⟨limited.windows userId, limited.nonnegative userId⟩
    · have room := (orderly.creates input purpose creation).room
        (by rw [phase]; rfl)
      obtain ⟨actor, tokenDigest, now, rfl⟩ :=
        creation_eq_challengeInput creation
      subst owner
      exact limited.add room added
  exact ⟨fun userId => (kept userId).1, fun userId => (kept userId).2⟩

/-- What holds in every run. -/
structure ChallengesSound (state : ChallengeCalls) : Prop where
  limited : ChallengesLimited state.committed
  calls : ∀ session call,
    state.sessions.find? session = some (.running call) →
    OrderlyChallengeCall state.committed call

theorem reachable_challengesSound
    (reached : challengeSystem.Reachable state) : ChallengesSound state := by
  refine System.Reachable.invariant ?_ ?_ reached
  · rintro state ⟨rows, none, rfl⟩
    refine ⟨⟨?_, ?_⟩, ?_⟩
    · intro userId
      simp only [IdentityDatabase.challengeTimes, none]
      exact Limited.nil
    · intro userId time member
      simp [IdentityDatabase.challengeTimes, none] at member
    · intro session call found
      cases found
  · intro state action state' earlier sound taken
    have step := sessionStep_of_next taken
    refine ⟨?_, ?_⟩
    · cases step with
      | started | executed | rolledBack => exact sound.limited
      | committed present instruction =>
          exact (sound.calls _ _ present).limited sound.limited instruction
    · apply Sessions.RunningMeet.step (J := OrderlyChallengeCall) sound.calls
        (reachable_locksExclusive earlier) OrderlyChallengeCall.start ?_ ?_ step
      · intro call lock write next orderly instruction
        exact orderly.execute instruction
      · intro ending call answer ended instruction orderly apart
        apply orderly.commit
        intro userId held
        rcases ended.view_challengeTimes instruction userId with
          same | ⟨input, purpose, creation, phase, owner, _⟩
        · exact same
        · subst owner
          have own := (ended.creates input purpose creation).locked
            (by rw [phase]; rfl)
          exact (apart _ held own).elim

/-- The challenges of a user that were created in a closed window of 60
minutes. -/
def IdentityDatabase.challengesWithin (db : IdentityDatabase)
    (userId : UserId) (first : Timestamp) :
    List (ChannelLinkChallengeDigest × ChannelLinkChallengeRow) :=
  db.challenges.select (fun _ row =>
    row.userId = userId && first ≤ row.createdAt &&
      row.createdAt ≤ first.addSeconds 3600)

theorem length_challengesWithin (db : IdentityDatabase) (userId : UserId)
    (first : Timestamp) :
    (db.challengesWithin userId first).length =
      countWithin (db.challengeTimes userId) first
        (first + Timestamp.ofMillis challengeRateLimitWindowMillis) := by
  unfold IdentityDatabase.challengesWithin IdentityDatabase.challengeTimes
    countWithin Table.select
  rw [List.countP_map, ← List.countP_eq_length_filter, List.countP_filter]
  apply List.countP_congr
  intro entry _
  change _ ↔ ((first ≤ entry.2.createdAt && entry.2.createdAt ≤
    first.addSeconds 3600) && entry.2.userId = userId) = true
  simp only [Bool.and_eq_true, decide_eq_true_eq]
  tauto

/-- In every run no closed window of 60 minutes holds more than five
challenges of a user. -/
theorem challenges_within_limit (reached : challengeSystem.Reachable state)
    (userId : UserId) (first : Timestamp) :
    (state.committed.challengesWithin userId first).length ≤ 5 := by
  rw [length_challengesWithin]
  exact (reachable_challengesSound reached).limited.windows userId first

/-- A session that takes this many steps with no other one in between. -/
def runSession (session : SessionId) (transaction : IdentityTransaction)
    (steps : Nat) : List (SessionAction IdentityTransaction) :=
  .start session transaction :: List.replicate steps (.step session)

/-- Five creations of one user whose clocks are not in order, two of them at
the same time, and the refusal of a sixth. -/
def fiveChallengesRun : List (SessionAction IdentityTransaction) :=
  runSession 1 (.createLink sampleOwner (sampleDigest 'a') 5000000) 4 ++
  runSession 2 (.other (.consumeLink ⟨5⟩
    { tokenDigest := sampleDigest 'a'
      externalAccountId := sampleAccount
      correlationId := ⟨9⟩
      consumedAtMillis := 5000100 })) 2 ++
  runSession 3 (.createUnlink sampleOwner ⟨5⟩ (sampleDigest 'b') 4000000) 1 ++
  [.start 4 (.createLink sampleOwner (sampleDigest 'c') 7000000)] ++
  List.replicate 4 (.step 3) ++ List.replicate 4 (.step 4) ++
  runSession 5 (.createLink sampleOwner (sampleDigest 'd') 6000000) 4 ++
  runSession 6 (.createLink sampleOwner (sampleDigest 'e') 5500000) 4 ++
  runSession 7 (.createLink sampleOwner (sampleDigest 'f') 4500000) 3

theorem challenges_within_limit_five :
    ∃ state, challengeSystem.Reachable state ∧
      (state.committed.challengesWithin sampleOwner.userId
        (.ofMillis 4000000)).length = 5 := by
  obtain ⟨state, reached, tested⟩ := System.exists_reachable_of_run
    fiveChallengesRun
    (fun state => 5 ≤ (state.committed.challengesWithin sampleOwner.userId
      (.ofMillis 4000000)).length)
    (show challengeSystem.Initial
        { committed := sampleIdentityStart.database } from ⟨_, rfl, rfl⟩)
    (by decide +kernel)
  exact ⟨state, reached,
    Nat.le_antisymm (challenges_within_limit reached _ _)
      (of_decide_eq_true tested)⟩

end Runs

end XpensGo
