import XpensGo.Identity.ChallengeLimit

/-!
# The advertised wait

A refused creation reports after how many whole seconds the oldest counted
challenge is an hour old.  A challenge of exactly that age still counts, so the
wait falls short whenever that age is reached at the end of a whole second, and
also when the challenges that remain are too many, which takes clocks that are
not in order.
-/

namespace XpensGo

open Postgres Relational Transition RateLimit

/-- The start of the window that a creation counts. -/
def windowStart (now : EpochMillis) : Int :=
  (now - challengeRateLimitWindowMillis : Nat)

namespace IdentityDatabase

/-- The creation of a challenge of either purpose. -/
def createChallenge (db : IdentityDatabase) (actor : WebActorContext)
    (purpose : ChallengePurpose) (tokenDigest : ChannelLinkChallengeDigest)
    (now : EpochMillis) :
    Except IdentityStoreFailure
      (PersistTelegramLinkChallengeOutcome × IdentityDatabase) :=
  match purpose with
  | .link =>
      db.createTelegramLinkChallenge (challengeInput actor tokenDigest now)
  | .unlink target =>
      db.createTelegramUnlinkChallenge
        (unlinkChallengeInput actor target tokenDigest now)

/-- The answer of a creation. -/
def creationAnswer (db : IdentityDatabase) (actor : WebActorContext)
    (purpose : ChallengePurpose) (tokenDigest : ChannelLinkChallengeDigest)
    (now : EpochMillis) :
    Except IdentityStoreFailure PersistTelegramLinkChallengeOutcome :=
  (db.createChallenge actor purpose tokenDigest now).map Prod.fst

/-- The creation gets as far as the count. -/
def permits (db : IdentityDatabase) (actor : WebActorContext)
    (purpose : ChallengePurpose) (tokenDigest : ChannelLinkChallengeDigest)
    (now : EpochMillis) : Bool :=
  db.owns actor.userId actor.ledgerId &&
    purpose.targetFound (challengeInput actor tokenDigest now) db

end IdentityDatabase

/-- The oldest challenge that a creation counts. -/
structure OldestCounted (times : List Timestamp) (now : EpochMillis)
    (oldest : Timestamp) : Prop where
  member : oldest ∈ times
  counted : .ofMillis (windowStart now) ≤ oldest
  least : ∀ time ∈ times, .ofMillis (windowStart now) ≤ time → oldest ≤ time

theorem OldestCounted.unique {times : List Timestamp} {now : EpochMillis}
    {oldest other : Timestamp} (isOldest : OldestCounted times now oldest)
    (isOther : OldestCounted times now other) : oldest = other :=
  le_antisymm (isOldest.least other isOther.member isOther.counted)
    (isOther.least oldest isOldest.member isOldest.counted)

/-- How long the oldest counted challenge still counts. -/
def remaining (now : EpochMillis) (oldest : Timestamp) : Int :=
  oldest.getTime - windowStart now

/-- The oldest counted challenge does not leave the window at the end of a whole
second, and fewer challenges than the limit outlast its last second. -/
structure LeavesInTime (times : List Timestamp) (now : EpochMillis)
    (oldest : Timestamp) : Prop where
  isOldest : OldestCounted times now oldest
  between : remaining now oldest = 0 ∨ remaining now oldest % 1000 ≠ 0
  fewer : countSince times (.ofMillis (now - challengeRateLimitWindowMillis +
    (remaining now oldest / 1000 + 1) * 1000)) < maximumChallengesPerWindow

/-- A user who waits as long as a refusal says is not refused again, and is if
the wait was a second shorter. -/
structure WaitHonoured (db : IdentityDatabase) (userId : UserId)
    (now : EpochMillis) (retryAfterSeconds : Int) : Prop where
  enough : ∀ (later : IdentityDatabase) (actor : WebActorContext)
    (purpose : ChallengePurpose) (tokenDigest : ChannelLinkChallengeDigest)
    (clock : EpochMillis),
    later.challengeTimes userId = db.challengeTimes userId →
    actor.userId = userId →
    now + 1000 * retryAfterSeconds ≤ clock →
    ∀ wait, later.creationAnswer actor purpose tokenDigest clock ≠
      .ok (.rateLimited wait)
  needed : 1 < retryAfterSeconds →
    ∀ (later : IdentityDatabase) (actor : WebActorContext)
      (purpose : ChallengePurpose) (tokenDigest : ChannelLinkChallengeDigest)
      (clock : EpochMillis),
      later.challengeTimes userId = db.challengeTimes userId →
      actor.userId = userId →
      later.permits actor purpose tokenDigest clock = true →
      clock ≤ now + 1000 * (retryAfterSeconds - 1) - 1 →
      ∃ wait, later.creationAnswer actor purpose tokenDigest clock =
        .ok (.rateLimited wait)

section Answers

variable {db : IdentityDatabase} {actor : WebActorContext}
  {purpose : ChallengePurpose} {tokenDigest : ChannelLinkChallengeDigest}
  {now : EpochMillis} {retryAfterSeconds : Int}

private theorem storeChallenge_eq_rateLimited_iff
    {operation : IdentityOperation} {input : PersistTelegramLinkChallengeInput} :
    (db.storeChallenge operation input purpose).map Prod.fst =
        .ok (.rateLimited retryAfterSeconds) ↔
      db.challengeRateLimit input = some retryAfterSeconds := by
  unfold IdentityDatabase.storeChallenge
  cases db.challengeRateLimit input with
  | some wait =>
      simp [Except.map, pure, Except.pure]
  | none =>
      cases db.insertChallenge input.tokenDigest (input.row purpose) with
      | some stored =>
          simp [require, Except.map, bind, Except.bind, pure, Except.pure]
      | none => simp [require, Except.map, bind, Except.bind]

/-- A creation is refused by its count if it gets that far. -/
theorem creationAnswer_eq_rateLimited_iff :
    db.creationAnswer actor purpose tokenDigest now =
        .ok (.rateLimited retryAfterSeconds) ↔
      db.permits actor purpose tokenDigest now = true ∧
        db.challengeRateLimit (challengeInput actor tokenDigest now) =
          some retryAfterSeconds := by
  unfold IdentityDatabase.creationAnswer IdentityDatabase.createChallenge
  rw [IdentityDatabase.permits, Bool.and_eq_true]
  cases purpose with
  | link =>
      by_cases owned : db.owns actor.userId actor.ledgerId = true
      · have stores : db.createTelegramLinkChallenge
            (challengeInput actor tokenDigest now) =
              db.storeChallenge .createTelegramLinkChallenge
                (challengeInput actor tokenDigest now) .link :=
          if_pos owned
        simp only [stores]
        rw [storeChallenge_eq_rateLimited_iff]
        exact ⟨fun limited => ⟨⟨owned, rfl⟩, limited⟩, And.right⟩
      · have fails : db.createTelegramLinkChallenge
            (challengeInput actor tokenDigest now) = .error
              (.identityAuthorityNotFound .createTelegramLinkChallenge) :=
          if_neg owned
        simp only [fails]
        simp [owned, Except.map]
  | unlink target =>
      have refused : ¬(db.owns actor.userId actor.ledgerId = true ∧
          ChallengePurpose.targetFound (challengeInput actor tokenDigest now)
            db (.unlink target) = true) →
          ∃ failure, db.createTelegramUnlinkChallenge
            (unlinkChallengeInput actor target tokenDigest now) =
              .error failure := by
        intro unpermitted
        by_cases owned : db.owns actor.userId actor.ledgerId = true
        · exact ⟨_, (if_pos owned).trans
            (if_neg (fun targeted => unpermitted ⟨owned, targeted⟩))⟩
        · exact ⟨_, if_neg owned⟩
      by_cases permitted : db.owns actor.userId actor.ledgerId = true ∧
          ChallengePurpose.targetFound (challengeInput actor tokenDigest now)
            db (.unlink target) = true
      · have stores : db.createTelegramUnlinkChallenge
            (unlinkChallengeInput actor target tokenDigest now) =
              db.storeChallenge .createTelegramUnlinkChallenge
                (challengeInput actor tokenDigest now) (.unlink target) :=
          (if_pos permitted.1).trans (if_pos permitted.2)
        simp only [stores]
        rw [storeChallenge_eq_rateLimited_iff]
        exact ⟨fun limited => ⟨permitted, limited⟩, And.right⟩
      · obtain ⟨failure, fails⟩ := refused permitted
        simp only [fails]
        simp [permitted, Except.map]

theorem ofMillis_le_iff {millis : Int} {time : Timestamp} :
    .ofMillis millis ≤ time ↔ millis ≤ time.getTime := by
  change millis * 1000 ≤ (time : Int) ↔ millis ≤ (time : Int) / 1000
  omega

private theorem oldestCreatedAt_eq_some_iff {oldest : Timestamp} :
    IdentityDatabase.oldestCreatedAt (db.recentChallenges actor.userId
        (now - challengeRateLimitWindowMillis)) = some oldest ↔
      OldestCounted (db.challengeTimes actor.userId) now oldest := by
  have times : (db.recentChallenges actor.userId
      (now - challengeRateLimitWindowMillis)).map (·.2.createdAt) =
        (db.challengeTimes actor.userId).filter
          (.ofMillis (windowStart now) ≤ ·) := by
    unfold IdentityDatabase.recentChallenges IdentityDatabase.challengeTimes
      Table.select
    rw [List.filter_map, List.filter_filter]
    congr 1
    apply List.filter_congr
    intro entry _
    exact Bool.and_comm _ _
  unfold IdentityDatabase.oldestCreatedAt
  rw [times, List.min?_eq_some_iff]
  simp only [List.mem_filter, decide_eq_true_eq]
  constructor
  · rintro ⟨⟨member, counted⟩, least⟩
    exact
      { member := member
        counted := counted
        least := fun time present recent => least time ⟨present, recent⟩ }
  · intro isOldest
    exact ⟨⟨isOldest.member, isOldest.counted⟩,
      fun time recent => isOldest.least time recent.1 recent.2⟩

private theorem length_counted :
    (db.recentChallenges actor.userId
        (now - challengeRateLimitWindowMillis)).length =
      countSince (db.challengeTimes actor.userId)
        (.ofMillis (windowStart now)) :=
  length_recentChallenges actor.userId (now - challengeRateLimitWindowMillis)

theorem challengeRateLimit_eq_none_iff :
    db.challengeRateLimit (challengeInput actor tokenDigest now) = none ↔
      countSince (db.challengeTimes actor.userId)
        (.ofMillis (windowStart now)) < maximumChallengesPerWindow := by
  rw [← length_counted]
  unfold IdentityDatabase.challengeRateLimit
  dsimp only
  split
  · rename_i full
    constructor
    · intro limited
      cases limited
    · intro room
      exact absurd room (Nat.not_lt.mpr full)
  · rename_i room
    exact ⟨fun _ => Nat.not_le.mp room, fun _ => rfl⟩

/-- What a refusal has counted and what it reports. -/
theorem challengeRateLimit_eq_some_iff :
    db.challengeRateLimit (challengeInput actor tokenDigest now) =
        some retryAfterSeconds ↔
      maximumChallengesPerWindow ≤ countSince
          (db.challengeTimes actor.userId) (.ofMillis (windowStart now)) ∧
        ∃ oldest, OldestCounted (db.challengeTimes actor.userId) now oldest ∧
          retryAfterSeconds = secondsToWait (remaining now oldest) := by
  by_cases room : maximumChallengesPerWindow ≤ countSince
      (db.challengeTimes actor.userId) (.ofMillis (windowStart now))
  · have full : maximumChallengesPerWindow ≤ (db.recentChallenges actor.userId
        (now - challengeRateLimitWindowMillis)).length := by
      rw [length_counted]
      exact room
    cases first : IdentityDatabase.oldestCreatedAt (db.recentChallenges
        actor.userId (now - challengeRateLimitWindowMillis)) with
    | none =>
        have empty := List.map_eq_nil_iff.mp (List.min?_eq_none_iff.mp first)
        rw [empty] at full
        exact absurd full (by decide)
    | some oldest =>
        have isOldest := oldestCreatedAt_eq_some_iff.mp first
        have waits : oldest.getTime + (now - windowStart now) - now =
            remaining now oldest := by
          unfold remaining
          omega
        have reports : db.challengeRateLimit
            (challengeInput actor tokenDigest now) =
              some (secondsToWait (remaining now oldest)) := by
          refine (if_pos full).trans ?_
          dsimp only [challengeInput]
          rw [first, ← waits]
          rfl
        rw [reports]
        constructor
        · intro same
          exact ⟨room, oldest, isOldest, (Option.some.inj same).symm⟩
        · rintro ⟨_, other, isOther, rfl⟩
          have agree : some oldest = some other :=
            first.symm.trans (oldestCreatedAt_eq_some_iff.mpr isOther)
          rw [Option.some.inj agree]
  · have admits := (@challengeRateLimit_eq_none_iff db actor tokenDigest
      now).mpr (Nat.not_le.mp room)
    rw [admits]
    constructor
    · intro limited
      cases limited
    · rintro ⟨counted, _⟩
      exact (room counted).elim

end Answers

section Waits

variable {times : List Timestamp} {now clock : EpochMillis}
  {oldest : Timestamp}

private theorem windowStart_eq :
    windowStart now = max 0 ((now : Int) - challengeRateLimitWindowMillis) := by
  unfold windowStart challengeRateLimitWindowMillis
  omega

theorem windowStart_mono (later : (now : Int) ≤ clock) :
    windowStart now ≤ windowStart clock := by
  rw [windowStart_eq, windowStart_eq]
  omega

private theorem remaining_nonneg (isOldest : OldestCounted times now oldest) :
    0 ≤ remaining now oldest := by
  have counted := ofMillis_le_iff.mp isOldest.counted
  unfold remaining
  omega

private theorem full_of_le (isOldest : OldestCounted times now oldest)
    (full : maximumChallengesPerWindow ≤
      countSince times (.ofMillis (windowStart now)))
    (early : windowStart clock ≤ oldest.getTime) :
    maximumChallengesPerWindow ≤
      countSince times (.ofMillis (windowStart clock)) := by
  apply full.trans
  apply countSince_le
  intro time member counted
  exact (ofMillis_le_iff.mpr early).trans (isOldest.least time member counted)

/-- At the end of the wait, the count admits a creation exactly if the oldest
counted challenge leaves in time. -/
private theorem admitted_iff (isOldest : OldestCounted times now oldest)
    (full : maximumChallengesPerWindow ≤
      countSince times (.ofMillis (windowStart now)))
    (waited : (clock : Int) =
      now + 1000 * secondsToWait (remaining now oldest)) :
    countSince times (.ofMillis (windowStart clock)) <
        maximumChallengesPerWindow ↔
      LeavesInTime times now oldest := by
  have aged := remaining_nonneg isOldest
  constructor
  · intro admitted
    have between : remaining now oldest = 0 ∨
        remaining now oldest % 1000 ≠ 0 := by
      by_contra boundary
      have early : windowStart clock ≤ oldest.getTime := by
        unfold secondsToWait remaining at *
        rw [windowStart_eq] at *
        omega
      exact absurd admitted
        (Nat.not_lt.mpr (full_of_le isOldest full early))
    refine ⟨isOldest, between, ?_⟩
    -- The window may begin at the epoch still, and then it has lost nothing.
    by_cases moved : 0 ≤ (now : Int) - challengeRateLimitWindowMillis +
        (remaining now oldest / 1000 + 1) * 1000
    · have same : windowStart clock = (now : Int) -
          challengeRateLimitWindowMillis +
            (remaining now oldest / 1000 + 1) * 1000 := by
        unfold secondsToWait at waited
        rw [windowStart_eq]
        omega
      rw [← same]
      exact admitted
    · have early : windowStart clock ≤ oldest.getTime := by
        unfold secondsToWait remaining at *
        rw [windowStart_eq] at *
        omega
      exact absurd admitted
        (Nat.not_lt.mpr (full_of_le isOldest full early))
  · intro leaves
    have waits := leaves.between
    apply Nat.lt_of_le_of_lt _ leaves.fewer
    apply countSince_antitone
    rw [ofMillis_le_iff, Timestamp.getTime_ofMillis]
    unfold secondsToWait at waited
    rw [windowStart_eq]
    omega

end Waits

section Honoured

variable {db : IdentityDatabase} {actor : WebActorContext}
  {purpose : ChallengePurpose} {tokenDigest : ChannelLinkChallengeDigest}
  {now clock : EpochMillis} {oldest : Timestamp} {retryAfterSeconds : Int}

private theorem permits_at (clock' : EpochMillis) :
    db.permits actor purpose tokenDigest clock' =
      db.permits actor purpose tokenDigest clock := by
  cases purpose <;> rfl

/-- A creation that gets as far as the count is refused exactly if the count is
full. -/
private theorem exists_rateLimited_iff
    (permitted : db.permits actor purpose tokenDigest clock = true) :
    (∃ wait, db.creationAnswer actor purpose tokenDigest clock =
        .ok (.rateLimited wait)) ↔
      maximumChallengesPerWindow ≤ countSince
        (db.challengeTimes actor.userId) (.ofMillis (windowStart clock)) := by
  constructor
  · rintro ⟨wait, refused⟩
    have limited := (creationAnswer_eq_rateLimited_iff.mp refused).2
    exact (challengeRateLimit_eq_some_iff.mp limited).1
  · intro full
    cases limited : db.challengeRateLimit
        (challengeInput actor tokenDigest clock) with
    | none =>
        have room := challengeRateLimit_eq_none_iff.mp limited
        exact absurd room (Nat.not_lt.mpr full)
    | some wait =>
        exact ⟨wait,
          creationAnswer_eq_rateLimited_iff.mpr ⟨permitted, limited⟩⟩

private theorem not_rateLimited
    (room : countSince (db.challengeTimes actor.userId)
      (.ofMillis (windowStart clock)) < maximumChallengesPerWindow)
    (wait : Int) : db.creationAnswer actor purpose tokenDigest clock ≠
      .ok (.rateLimited wait) := by
  intro refused
  have limited := (creationAnswer_eq_rateLimited_iff.mp refused).2
  have counted := (challengeRateLimit_eq_some_iff.mp limited).1
  omega

/-- The wait of a refusal is honoured exactly if the oldest counted challenge
leaves in time. -/
theorem waitHonoured_iff
    (refused : db.creationAnswer actor purpose tokenDigest now =
      .ok (.rateLimited retryAfterSeconds)) :
    WaitHonoured db actor.userId now retryAfterSeconds ↔
      ∃ oldest, LeavesInTime (db.challengeTimes actor.userId) now oldest := by
  obtain ⟨permitted, limited⟩ := creationAnswer_eq_rateLimited_iff.mp refused
  obtain ⟨full, oldest, isOldest, rfl⟩ :=
    challengeRateLimit_eq_some_iff.mp limited
  have positive : 1 ≤ secondsToWait (remaining now oldest) := by
    unfold secondsToWait
    omega
  obtain ⟨clock, waited⟩ : ∃ clock : EpochMillis, (clock : Int) =
      now + 1000 * secondsToWait (remaining now oldest) :=
    ⟨(now + 1000 * secondsToWait (remaining now oldest)).toNat, by omega⟩
  have admitted := admitted_iff isOldest full waited
  constructor
  · intro honoured
    refine ⟨oldest, admitted.mp ?_⟩
    by_contra crowded
    obtain ⟨wait, again⟩ :=
      (exists_rateLimited_iff ((permits_at clock).trans permitted)).mpr
        (Nat.not_lt.mp crowded)
    exact honoured.enough db actor purpose tokenDigest clock rfl rfl waited.ge
      wait again
  · rintro ⟨other, leaves⟩
    have same := leaves.isOldest.unique isOldest
    subst same
    have room := admitted.mpr leaves
    refine { enough := ?_, needed := ?_ }
    · intro later actor' purpose' tokenDigest' clock' kept owner late wait
      apply not_rateLimited
      rw [owner, kept]
      apply Nat.lt_of_le_of_lt _ room
      apply countSince_antitone
      rw [ofMillis_le_iff, Timestamp.getTime_ofMillis]
      exact windowStart_mono (by omega)
    · intro long later actor' purpose' tokenDigest' clock' kept owner
        permitted' early
      apply (exists_rateLimited_iff permitted').mpr
      rw [owner, kept]
      apply full_of_le isOldest full
      unfold secondsToWait remaining at *
      rw [windowStart_eq] at *
      omega

end Honoured

section Runs

variable {state : ChallengeCalls} {actor : WebActorContext}
  {purpose : ChallengePurpose} {tokenDigest : ChannelLinkChallengeDigest}
  {userId : UserId} {now : EpochMillis} {oldest : Timestamp}
  {retryAfterSeconds : Int}

/-- With clocks in order no more challenges than the limit are counted, so that
room is left as soon as the oldest leaves. -/
theorem leavesInTime_of_ordered (reached : challengeSystem.Reachable state)
    (started : challengeRateLimitWindowMillis ≤ (now : Int))
    (ordered : ∀ time ∈ state.committed.challengeTimes userId,
      time ≤ .ofMillis now)
    (isOldest : OldestCounted (state.committed.challengeTimes userId) now
      oldest)
    (between : remaining now oldest = 0 ∨ remaining now oldest % 1000 ≠ 0) :
    LeavesInTime (state.committed.challengeTimes userId) now oldest := by
  refine ⟨isOldest, between, ?_⟩
  have window : Timestamp.ofMillis (windowStart now) +
      Timestamp.ofMillis challengeRateLimitWindowMillis = .ofMillis now := by
    change windowStart now * 1000 +
      (challengeRateLimitWindowMillis : Int) * 1000 = (now : Int) * 1000
    rw [windowStart_eq]
    omega
  have limited := (reachable_challengesSound reached).limited.windows userId
    (.ofMillis (windowStart now))
  rw [window, ← countSince_eq_countWithin ordered] at limited
  have leaves : oldest < .ofMillis (now - challengeRateLimitWindowMillis +
      (remaining now oldest / 1000 + 1) * 1000) := by
    rw [← not_le, ofMillis_le_iff]
    unfold remaining
    rw [windowStart_eq]
    omega
  exact Nat.lt_of_lt_of_le
    (countSince_lt isOldest.member isOldest.counted leaves) limited

/-- In every run the wait of a refusal is honoured exactly if the oldest counted
challenge leaves in time.  While the clocks are in order, that is exactly if it
does not leave at the end of a whole second. -/
theorem advertised_wait_honoured_iff
    (reached : challengeSystem.Reachable state)
    (refused : state.committed.creationAnswer actor purpose tokenDigest now =
      .ok (.rateLimited retryAfterSeconds)) :
    (WaitHonoured state.committed actor.userId now retryAfterSeconds ↔
        ∃ oldest, LeavesInTime
          (state.committed.challengeTimes actor.userId) now oldest) ∧
      (challengeRateLimitWindowMillis ≤ (now : Int) →
        (∀ time ∈ state.committed.challengeTimes actor.userId,
          time ≤ .ofMillis now) →
        (WaitHonoured state.committed actor.userId now retryAfterSeconds ↔
          ∀ oldest, OldestCounted
            (state.committed.challengeTimes actor.userId) now oldest →
            remaining now oldest = 0 ∨ remaining now oldest % 1000 ≠ 0)) := by
  have honoured := waitHonoured_iff refused
  refine ⟨honoured, ?_⟩
  intro started ordered
  rw [honoured]
  constructor
  · rintro ⟨other, leaves⟩ oldest isOldest
    rw [isOldest.unique leaves.isOldest]
    exact leaves.between
  · intro between
    have limited := (creationAnswer_eq_rateLimited_iff.mp refused).2
    obtain ⟨_, oldest, isOldest, _⟩ :=
      challengeRateLimit_eq_some_iff.mp limited
    exact ⟨oldest, leavesInTime_of_ordered reached started ordered isOldest
      (between oldest isOldest)⟩

/-- Five challenges at one clock reading. -/
def equalTimesRun : List (SessionAction IdentityTransaction) :=
  runSession 1 (.createLink sampleOwner (sampleDigest 'a') 5000000) 4 ++
  runSession 2 (.createLink sampleOwner (sampleDigest 'b') 5000000) 4 ++
  runSession 3 (.createLink sampleOwner (sampleDigest 'c') 5000000) 4 ++
  runSession 4 (.createLink sampleOwner (sampleDigest 'd') 5000000) 4 ++
  runSession 5 (.createLink sampleOwner (sampleDigest 'e') 5000000) 4

/-- Whoever waits for exactly the reported hour is refused once more. -/
theorem advertised_wait_refused :
    ∃ state : ChallengeCalls, challengeSystem.Reachable state ∧
      state.committed.creationAnswer sampleOwner .link (sampleDigest 'f')
          5000000 = .ok (.rateLimited 3600) ∧
        state.committed.creationAnswer sampleOwner .link (sampleDigest 'f')
          (5000000 + 1000 * 3600) = .ok (.rateLimited 1) ∧
        ¬WaitHonoured state.committed sampleOwner.userId 5000000 3600 := by
  obtain ⟨state, reached, tested⟩ := System.exists_reachable_of_run
    equalTimesRun
    (fun state =>
      state.committed.owns sampleOwner.userId sampleOwner.ledgerId &&
        state.committed.challengeRateLimit (challengeInput sampleOwner
          (sampleDigest 'f') 5000000) == some 3600 &&
        state.committed.challengeRateLimit (challengeInput sampleOwner
          (sampleDigest 'f') (5000000 + 1000 * 3600)) == some 1)
    (show challengeSystem.Initial
        { committed := sampleIdentityStart.database } from ⟨_, rfl, rfl⟩)
    (by decide +kernel)
  simp only [Bool.and_eq_true, beq_iff_eq] at tested
  have permitted : ∀ clock, state.committed.permits sampleOwner .link
      (sampleDigest 'f') clock = true := by
    intro clock
    rw [IdentityDatabase.permits, tested.1.1]
    rfl
  have refused := creationAnswer_eq_rateLimited_iff.mpr
    ⟨permitted 5000000, tested.1.2⟩
  have again := creationAnswer_eq_rateLimited_iff.mpr
    ⟨permitted (5000000 + 1000 * 3600), tested.2⟩
  refine ⟨state, reached, refused, again, ?_⟩
  intro honoured
  exact honoured.enough state.committed sampleOwner .link (sampleDigest 'f')
    (5000000 + 1000 * 3600) rfl rfl (by decide) 1 again

/-- Half a second later the reported hour is long enough. -/
theorem advertised_wait_honoured_between :
    ∃ state : ChallengeCalls, challengeSystem.Reachable state ∧
      WaitHonoured state.committed sampleOwner.userId 5000500 3600 := by
  obtain ⟨state, reached, tested⟩ := System.exists_reachable_of_run
    equalTimesRun
    (fun state =>
      state.committed.owns sampleOwner.userId sampleOwner.ledgerId &&
        state.committed.challengeRateLimit (challengeInput sampleOwner
          (sampleDigest 'f') 5000500) == some 3600 &&
        state.committed.challengeTimes sampleOwner.userId ==
          List.replicate 5 (.ofMillis 5000000))
    (show challengeSystem.Initial
        { committed := sampleIdentityStart.database } from ⟨_, rfl, rfl⟩)
    (by decide +kernel)
  simp only [Bool.and_eq_true, beq_iff_eq] at tested
  have permitted : state.committed.permits sampleOwner .link
      (sampleDigest 'f') 5000500 = true := by
    rw [IdentityDatabase.permits, tested.1.1]
    rfl
  have refused := creationAnswer_eq_rateLimited_iff.mpr
    ⟨permitted, tested.1.2⟩
  have honoured := (advertised_wait_honoured_iff reached refused).2
    (by decide) (by rw [tested.2]; decide)
  refine ⟨state, reached, honoured.mpr ?_⟩
  intro oldest isOldest
  have member := isOldest.member
  rw [tested.2] at member
  rw [List.eq_of_mem_replicate member]
  decide

end Runs

end XpensGo
