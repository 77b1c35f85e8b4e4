import XpensGo.Identity.ChallengeLimit
import XpensGo.Postgres.Serializability

/-!
# Serial creations of challenges

Any creations of link and unlink challenges, statement by statement, answer and
commit as creations that are made one after the other.  A creation holds the row
of its user from its first statement on, so that nothing it has read changes
before it ends.
-/

namespace XpensGo

open Postgres Relational Transition

/-- A request for a challenge, with the clock that it has read. -/
structure ChallengeCreation where
  actor : WebActorContext
  tokenDigest : ChannelLinkChallengeDigest
  now : EpochMillis
  purpose : ChallengePurpose

namespace ChallengeCreation

variable (creation : ChallengeCreation)

def input : PersistTelegramLinkChallengeInput :=
  challengeInput creation.actor creation.tokenDigest creation.now

/-- The creation as one transaction. -/
def whole (db : IdentityDatabase) :
    Except IdentityStoreFailure
      (PersistTelegramLinkChallengeOutcome × IdentityDatabase) :=
  match creation.purpose with
  | .link => db.createTelegramLinkChallenge creation.input
  | .unlink channelIdentityId =>
      db.createTelegramUnlinkChallenge
        (unlinkChallengeInput creation.actor channelIdentityId
          creation.tokenDigest creation.now)

def owned (db : IdentityDatabase) : Bool :=
  db.owns creation.actor.userId creation.actor.ledgerId

def targeted (db : IdentityDatabase) : Bool :=
  creation.purpose.targetFound creation.input db

def inserted (db : IdentityDatabase) : Option IdentityDatabase :=
  db.insertChallenge creation.tokenDigest
    (creation.input.row creation.purpose)

end ChallengeCreation

def creationProgram :
    Program IdentityDatabase IdentityLock ChallengeCreation CreationPhase
      CreationAnswer :=
  { start := .starting
    instruction := fun creation =>
      creationInstruction creation.input creation.purpose }

/-- A creation ends as the whole transaction does. -/
def CreationAllows (creation : ChallengeCreation) (db : IdentityDatabase)
    (answer : CreationAnswer) (db' : IdentityDatabase) : Prop :=
  creationEnding db (creation.whole db) = (answer, db')

/-- What the commit of another creation leaves alone. -/
structure OtherCreation (locks : List IdentityLock)
    (db db' : IdentityDatabase) : Prop where
  users : db'.users = db.users
  ledgers : db'.ledgers = db.ledgers
  identities : db'.identities = db.identities
  kept : ∀ tokenDigest row, db.challenges.find? tokenDigest = some row →
    db'.challenges.find? tokenDigest = some row
  unused : ∀ tokenDigest, .challenge tokenDigest ∈ locks →
    db.challenges.find? tokenDigest = none →
    db'.challenges.find? tokenDigest = none
  recent : ∀ userId, .user userId ∈ locks → ∀ since,
    db'.recentChallenges userId since = db.recentChallenges userId since

section Reads

variable {creation : ChallengeCreation} {db db' : IdentityDatabase}
  {locks : List IdentityLock}

theorem OtherCreation.owned (other : OtherCreation locks db db') :
    creation.owned db' = creation.owned db := by
  unfold ChallengeCreation.owned IdentityDatabase.owns
  rw [other.users, other.ledgers]

theorem OtherCreation.targeted (other : OtherCreation locks db db') :
    creation.targeted db' = creation.targeted db := by
  unfold ChallengeCreation.targeted ChallengePurpose.targetFound
  cases creation.purpose with
  | link => rfl
  | unlink target =>
      unfold IdentityDatabase.unlinkTarget
      rw [other.identities]

theorem OtherCreation.limited (other : OtherCreation locks db db')
    (locked : .user creation.actor.userId ∈ locks) :
    db'.challengeRateLimit creation.input =
      db.challengeRateLimit creation.input := by
  unfold IdentityDatabase.challengeRateLimit
  have same := other.recent creation.input.actor.userId locked
    creation.input.rateLimitSinceMillis
  rw [same]

theorem ChallengeCreation.inserted_isSome_iff :
    (creation.inserted db).isSome = true ↔
      (creation.input.row creation.purpose).check = true ∧
        db.challenges.find? creation.tokenDigest = none := by
  unfold ChallengeCreation.inserted IdentityDatabase.insertChallenge
  constructor
  · intro present
    obtain ⟨written, inserted⟩ := Option.isSome_iff_exists.mp present
    simp only [Option.bind_eq_bind, Option.bind_eq_some_iff] at inserted
    obtain ⟨challenges, pushed, _⟩ := inserted
    obtain ⟨valid, fresh, _⟩ := Table.insert?_eq_some_iff.mp pushed
    exact ⟨valid, Table.find?_eq_none_iff.mpr fresh⟩
  · rintro ⟨valid, absent⟩
    have pushed := Table.insert?_eq_some_iff.mpr
      ⟨valid, Table.find?_eq_none_iff.mp absent, rfl⟩
    rw [pushed]
    rfl

/-- Up to its insertion a creation that may store a challenge is decided by
what it reads. -/
theorem ChallengeCreation.whole_eq :
    creation.whole db =
      if creation.owned db then
        if creation.targeted db then
          db.storeChallenge creation.purpose.operation creation.input
            creation.purpose
        else
          .error .channelIdentityNotFound
      else
        .error (.identityAuthorityNotFound creation.purpose.operation) := by
  obtain ⟨actor, tokenDigest, now, purpose⟩ := creation
  cases purpose with
  | link => rfl
  | unlink target => rfl

end Reads

section Calls

variable (db : IdentityDatabase) (creation : ChallengeCreation)
  (locks : List IdentityLock)

/-- A creation that has found its authority keeps the row of its user. -/
structure Authorized : Prop where
  locked : .user creation.actor.userId ∈ locks
  owned : creation.owned db = true

/-- Why a creation fails. -/
inductive CreationFails : IdentityStoreFailure → Prop where
  | unowned :
      creation.owned db = false →
      CreationFails (.identityAuthorityNotFound creation.purpose.operation)
  | untargeted :
      creation.owned db = true →
      creation.targeted db = false →
      CreationFails .channelIdentityNotFound
  | uninserted :
      Authorized db creation locks →
      creation.targeted db = true →
      db.challengeRateLimit creation.input = none →
      (creation.inserted db).isSome = false →
      CreationFails
        (.identityPersistenceUnavailable creation.purpose.operation)

/-- What is known of a running creation when these tables are committed. -/
inductive CreationMoves :
    CreationPhase → (IdentityDatabase → IdentityDatabase) → Prop where
  | starting : CreationMoves .starting id
  | checkingTarget :
      Authorized db creation locks →
      CreationMoves .checkingTarget id
  | counting :
      Authorized db creation locks →
      creation.targeted db = true →
      CreationMoves .counting id
  | inserting :
      Authorized db creation locks →
      creation.targeted db = true →
      db.challengeRateLimit creation.input = none →
      CreationMoves .inserting id
  | rateLimited {retryAfterSeconds : Int} :
      Authorized db creation locks →
      creation.targeted db = true →
      db.challengeRateLimit creation.input = some retryAfterSeconds →
      CreationMoves (.committing (.rateLimited retryAfterSeconds)) id
  | stored :
      Authorized db creation locks →
      creation.targeted db = true →
      db.challengeRateLimit creation.input = none →
      .challenge creation.tokenDigest ∈ locks →
      (creation.inserted db).isSome = true →
      CreationMoves (.committing .stored)
        (fun db => (creation.inserted db).getD db)
  | failing {failure : IdentityStoreFailure}
      {writes : IdentityDatabase → IdentityDatabase} :
      CreationFails db creation locks failure →
      CreationMoves (.failing failure) writes

end Calls

section Steps

variable {db db' : IdentityDatabase} {creation : ChallengeCreation}
  {locks : List IdentityLock} {phase : CreationPhase}
  {writes : IdentityDatabase → IdentityDatabase}
  {failure : IdentityStoreFailure}

theorem Authorized.after (authorized : Authorized db creation locks)
    (other : OtherCreation locks db db') :
    Authorized db' creation locks where
  locked := authorized.locked
  owned := by
    rw [other.owned]
    exact authorized.owned

private theorem OtherCreation.uninserted
    (other : OtherCreation locks db db')
    (refused : (creation.inserted db).isSome = false) :
    (creation.inserted db').isSome = false := by
  rw [Bool.eq_false_iff] at refused ⊢
  intro inserted
  obtain ⟨valid, absent⟩ :=
    ChallengeCreation.inserted_isSome_iff.mp inserted
  apply refused
  refine ChallengeCreation.inserted_isSome_iff.mpr ⟨valid, ?_⟩
  refine Option.eq_none_iff_forall_ne_some.mpr ?_
  intro row found
  rw [other.kept _ row found] at absent
  cases absent

theorem CreationFails.after (fails : CreationFails db creation locks failure)
    (other : OtherCreation locks db db') :
    CreationFails db' creation locks failure := by
  cases fails with
  | unowned unowned => exact .unowned (other.owned.trans unowned)
  | untargeted owned untargeted =>
      exact .untargeted (other.owned.trans owned)
        (other.targeted.trans untargeted)
  | uninserted authorized targeted unlimited refused =>
      exact .uninserted (authorized.after other)
        (other.targeted.trans targeted)
        ((other.limited authorized.locked).trans unlimited)
        (other.uninserted refused)

theorem CreationMoves.after
    (moves : CreationMoves db creation locks phase writes)
    (other : OtherCreation locks db db') :
    CreationMoves db' creation locks phase writes := by
  cases moves with
  | starting => exact .starting
  | checkingTarget authorized =>
      exact .checkingTarget (authorized.after other)
  | counting authorized targeted =>
      exact .counting (authorized.after other)
        (other.targeted.trans targeted)
  | inserting authorized targeted unlimited =>
      exact .inserting (authorized.after other)
        (other.targeted.trans targeted)
        ((other.limited authorized.locked).trans unlimited)
  | rateLimited authorized targeted limited =>
      exact .rateLimited (authorized.after other)
        (other.targeted.trans targeted)
        ((other.limited authorized.locked).trans limited)
  | stored authorized targeted unlimited locked inserted =>
      obtain ⟨valid, absent⟩ :=
        ChallengeCreation.inserted_isSome_iff.mp inserted
      refine .stored (authorized.after other)
        (other.targeted.trans targeted)
        ((other.limited authorized.locked).trans unlimited) locked ?_
      exact ChallengeCreation.inserted_isSome_iff.mpr
        ⟨valid, other.unused _ locked absent⟩
  | failing fails => exact .failing (fails.after other)

/-- A statement keeps what is known of its creation. -/
theorem CreationMoves.execute
    {lock : IdentityDatabase → Option IdentityLock}
    {write : IdentityDatabase → IdentityDatabase}
    {next : IdentityDatabase → CreationPhase}
    (moves : CreationMoves db creation locks phase writes)
    (instruction : creationInstruction creation.input creation.purpose phase =
      .statement lock write next) :
    CreationMoves db creation ((lock (writes db)).toList ++ locks)
      (next (writes db)) (fun rows => write (writes rows)) := by
  cases moves with
  | rateLimited | stored | failing => cases instruction
  | starting =>
      cases instruction
      dsimp only [id]
      by_cases owned : creation.owned db = true
      · have found : db.owns creation.input.actor.userId
            creation.input.actor.ledgerId = true := owned
        rw [if_pos found, if_pos found]
        have authorized : Authorized db creation
            ((some (IdentityLock.user
              creation.input.actor.userId)).toList ++ locks) :=
          ⟨List.mem_append_left _ (Option.mem_toList.mpr rfl), owned⟩
        cases purpose : creation.purpose with
        | link =>
            refine .counting authorized ?_
            rw [ChallengeCreation.targeted, purpose]
            rfl
        | unlink target => exact .checkingTarget authorized
      · have missing : ¬db.owns creation.input.actor.userId
            creation.input.actor.ledgerId = true := owned
        rw [if_neg missing, if_neg missing]
        exact .failing (.unowned (by simpa using owned))
  | checkingTarget authorized =>
      cases instruction
      dsimp only [id]
      split
      · rename_i targeted
        exact .counting authorized targeted
      · rename_i untargeted
        exact .failing (.untargeted authorized.owned (by
          simpa [ChallengeCreation.targeted] using untargeted))
  | counting authorized targeted =>
      cases instruction
      dsimp only [id]
      cases limited : db.challengeRateLimit creation.input with
      | none => exact .inserting authorized targeted limited
      | some retryAfterSeconds =>
          exact .rateLimited authorized targeted limited
  | inserting authorized targeted unlimited =>
      cases instruction
      have kept : Authorized db creation
          ((some (IdentityLock.challenge
            creation.input.tokenDigest)).toList ++ locks) :=
        ⟨List.mem_append_right _ authorized.locked, authorized.owned⟩
      change CreationMoves db creation _
        (if (creation.inserted db).isSome then .committing .stored
        else .failing
          (.identityPersistenceUnavailable creation.purpose.operation))
        (fun db => (creation.inserted db).getD db)
      split
      · rename_i inserted
        exact .stored kept targeted unlimited
          (List.mem_append_left _ (Option.mem_toList.mpr rfl)) inserted
      · rename_i refused
        exact .failing (.uninserted kept targeted unlimited (by
          simpa using refused))

/-- A commit leaves alone what the other creations hold. -/
theorem CreationMoves.commit {held : List IdentityLock}
    {outcome : PersistTelegramLinkChallengeOutcome}
    (moves : CreationMoves db creation locks (.committing outcome) writes)
    (apart : ∀ lock ∈ held, lock ∉ locks) :
    OtherCreation held db (writes db) := by
  cases moves with
  | rateLimited =>
      exact ⟨rfl, rfl, rfl, fun _ _ found => found, fun _ _ absent => absent,
        fun _ _ _ => rfl⟩
  | stored authorized targeted unlimited locked inserted =>
      obtain ⟨written, statement⟩ := Option.isSome_iff_exists.mp inserted
      obtain ⟨fresh, pushed⟩ :=
        IdentityDatabase.insertChallenge_eq_some statement
      beta_reduce
      rw [statement]
      subst pushed
      refine ⟨rfl, rfl, rfl, ?_, ?_, ?_⟩
      · intro tokenDigest row found
        exact Table.find?_push_of_some fresh found
      · intro tokenDigest holding absent
        have different : tokenDigest ≠ creation.tokenDigest := by
          rintro rfl
          exact apart _ holding locked
        simpa [Table.find?_push, different] using absent
      · intro userId holding since
        have different : creation.actor.userId ≠ userId := by
          rintro rfl
          exact apart _ holding authorized.locked
        apply Table.select_push_of_false _ fresh
        rw [Bool.and_eq_false_iff]
        exact .inl (decide_eq_false different)

theorem CreationFails.allows
    (fails : CreationFails db creation locks failure) :
    CreationAllows creation db (some (.error failure)) db := by
  unfold CreationAllows
  rw [ChallengeCreation.whole_eq]
  cases fails with
  | unowned unowned =>
      rw [unowned]
      rfl
  | untargeted owned untargeted =>
      rw [owned, untargeted]
      rfl
  | uninserted authorized targeted unlimited refused =>
      have unwritten : creation.inserted db = none := by simpa using refused
      have statement : db.insertChallenge creation.input.tokenDigest
          (creation.input.row creation.purpose) = none := unwritten
      rw [authorized.owned, targeted]
      simp only [if_true, IdentityDatabase.storeChallenge, unlimited,
        statement]
      rfl

theorem CreationMoves.allows
    {outcome : PersistTelegramLinkChallengeOutcome}
    (moves : CreationMoves db creation locks (.committing outcome) writes) :
    CreationAllows creation db (some (.ok outcome)) (writes db) := by
  unfold CreationAllows
  rw [ChallengeCreation.whole_eq]
  cases moves with
  | rateLimited authorized targeted limited =>
      rw [authorized.owned, targeted]
      simp only [if_true, IdentityDatabase.storeChallenge, limited]
      rfl
  | stored authorized targeted unlimited locked inserted =>
      obtain ⟨written, statement⟩ := Option.isSome_iff_exists.mp inserted
      have stored : db.insertChallenge creation.input.tokenDigest
          (creation.input.row creation.purpose) = some written := statement
      beta_reduce
      rw [authorized.owned, targeted, statement]
      simp only [if_true, IdentityDatabase.storeChallenge, unlimited, stored]
      rfl

end Steps

section Runs

abbrev Creations :=
  Sessions IdentityDatabase IdentityLock ChallengeCreation CreationPhase
    CreationAnswer

/-- What is known of a running creation. -/
def CreationHolds (db : IdentityDatabase)
    (call : Transaction IdentityDatabase IdentityLock ChallengeCreation
      CreationPhase) : Prop :=
  CreationMoves db call.parameter call.locks call.phase call.writes

theorem creationProgram_maintains :
    creationProgram.Maintains CreationHolds where
  starts := fun _ _ => .starting
  keeps := fun moves instruction => CreationMoves.execute moves instruction
  survives := by
    intro db ending call answer ended instruction moves apart
    obtain ⟨creation, phase, writes, locks⟩ := ending
    cases phase with
    | committing outcome => exact moves.after (ended.commit apart)
    | written => cases ended
    | _ => cases instruction

theorem creationProgram_endsAllowed :
    EndsAllowed creationProgram CreationAllows CreationHolds where
  committed := by
    intro db call answer moves instruction
    obtain ⟨creation, phase, writes, locks⟩ := call
    cases phase with
    | committing outcome =>
        cases instruction
        exact moves.allows
    | written => cases moves
    | _ => cases instruction
  rolledBack := by
    intro db call answer moves instruction
    obtain ⟨creation, phase, writes, locks⟩ := call
    cases phase with
    | failing failure =>
        cases instruction
        cases moves with
        | failing fails => exact fails.allows
    | _ => cases instruction

/-- In every interleaving of their statements, any creations of challenges
commit and answer what the transactions do one after the other. -/
theorem creations_serialized {rows : IdentityDatabase}
    {actions : List (SessionAction ChallengeCreation)} {state : Creations}
    (ran : (creationProgram.system (fun _ => True)).run { committed := rows }
      actions = some state) :
    Serialized creationProgram CreationAllows rows actions state :=
  creationProgram_maintains.serialized creationProgram_endsAllowed trivial ran

def otherOwner : WebActorContext :=
  { sampleOwner with
    userId := ⟨3⟩
    ledgerId := ⟨4⟩ }

def twoOwners : IdentityDatabase :=
  { users := sampleIdentityStart.database.users.insertMissing ⟨3⟩ {}
    ledgers :=
      sampleIdentityStart.database.ledgers.insertMissing ⟨4⟩ ⟨⟨3⟩⟩ }

/-- Two users draw one digest, and the second one finds it taken only when it
inserts. -/
def oneDigestRun : List (SessionAction ChallengeCreation) :=
  [.start 0 ⟨sampleOwner, sampleDigest 'a', 5000000, .link⟩,
    .start 1 ⟨otherOwner, sampleDigest 'a', 4000000, .link⟩,
    .step 0, .step 1, .step 1, .step 0, .step 0, .step 0, .step 1, .step 1]

def findsDigestTaken (session : SessionId) (state : Creations) : Bool :=
  match state.sessions.find? session with
  | some (.ended (some (.error failure))) =>
      failure = .identityPersistenceUnavailable .createTelegramLinkChallenge
  | _ => false

theorem creations_serialized_one_digest :
    ∃ state, findsDigestTaken 1 state = true ∧
      Serialized creationProgram CreationAllows twoOwners oneDigestRun
        state := by
  have ran : ((creationProgram.system (fun _ => True)).run
      { committed := twoOwners } oneDigestRun).any (findsDigestTaken 1) =
        true := by
    decide +kernel
  obtain ⟨state, ran, taken⟩ := (Option.any_eq_true _ _).mp ran
  exact ⟨state, taken, creations_serialized ran⟩

end Runs

end XpensGo
