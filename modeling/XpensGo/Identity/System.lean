import XpensGo.Identity.StoreCases
import XpensGo.Transition.System

/-!
# Creations and consumptions of challenges

Any number of creations and consumptions of challenges, in any order and with
any clock readings.  The history of the system records the events that matter
for authority: which challenges were created and which of them linked or
unlinked an identity.
-/

namespace XpensGo

open Postgres Relational Transition IdentityDatabase

inductive IdentityEvent where
  | challengeCreated (tokenDigest : ChannelLinkChallengeDigest)
      (purpose : ChallengePurpose)
  | linked (tokenDigest : ChannelLinkChallengeDigest)
      (channelIdentityId : ChannelIdentityId)
      (externalAccountId : TelegramExternalAccountId)
  | unlinked (tokenDigest : ChannelLinkChallengeDigest)
      (channelIdentityId : ChannelIdentityId)
      (externalAccountId : TelegramExternalAccountId)
  deriving DecidableEq, Repr

namespace IdentityEvent

def links (channelIdentityId : ChannelIdentityId) : IdentityEvent → Bool
  | .linked _ linkedId _ => linkedId = channelIdentityId
  | .challengeCreated _ _ | .unlinked _ _ _ => false

def unlinks (channelIdentityId : ChannelIdentityId) : IdentityEvent → Bool
  | .unlinked _ unlinkedId _ => unlinkedId = channelIdentityId
  | .challengeCreated _ _ | .linked _ _ _ => false

/-- The event changed identities through this challenge. -/
def spends (tokenDigest : ChannelLinkChallengeDigest) : IdentityEvent → Bool
  | .linked spent _ _ | .unlinked spent _ _ => spent = tokenDigest
  | .challengeCreated _ _ => false

end IdentityEvent

structure IdentityState where
  database : IdentityDatabase
  history : List IdentityEvent := []

inductive IdentityAction where
  | createLink (input : PersistTelegramLinkChallengeInput)
  | createUnlink (input : PersistTelegramUnlinkChallengeInput)
  | consumeLink (generated : ChannelIdentityId)
      (input : ConsumeTelegramChallengeStoreInput)
  | consumeUnlink (input : ConsumeTelegramChallengeStoreInput)

/-- What a committed creation adds to the history. -/
def PersistTelegramLinkChallengeOutcome.events
    (tokenDigest : ChannelLinkChallengeDigest) (purpose : ChallengePurpose) :
    PersistTelegramLinkChallengeOutcome → List IdentityEvent
  | .stored => [.challengeCreated tokenDigest purpose]
  | .rateLimited _ => []

def ConsumeTelegramLinkChallengeStoreOutcome.events
    (input : ConsumeTelegramChallengeStoreInput) :
    ConsumeTelegramLinkChallengeStoreOutcome → List IdentityEvent
  | .telegramIdentityLinked channelIdentityId _ =>
      [.linked input.tokenDigest channelIdentityId input.externalAccountId]
  | .challengeNotFound | .challengeExpired | .challengeAlreadyConsumed
  | .telegramIdentityAlreadyLinked => []

def ConsumeTelegramUnlinkChallengeStoreOutcome.events
    (input : ConsumeTelegramChallengeStoreInput) :
    ConsumeTelegramUnlinkChallengeStoreOutcome → List IdentityEvent
  | .telegramIdentityUnlinked channelIdentityId =>
      [.unlinked input.tokenDigest channelIdentityId input.externalAccountId]
  | .challengeNotFound | .challengeExpired | .challengeAlreadyConsumed
  | .telegramIdentityDoesNotMatchChallenge | .channelIdentityNotFound => []

namespace IdentityState

/-- Run a transaction and record its events if it commits. -/
def run {α : Type} (state : IdentityState)
    (transaction : IdentityDatabase →
      Except IdentityStoreFailure (α × IdentityDatabase))
    (events : α → List IdentityEvent) : IdentityState :=
  match withTransaction transaction state.database with
  | (.ok outcome, database) =>
      { database := database
        history := state.history ++ events outcome }
  | (.error _, database) => { state with database := database }

def next (state : IdentityState) : IdentityAction → Option IdentityState
  | .createLink input =>
      some (state.run (createTelegramLinkChallenge input)
        (·.events input.tokenDigest .link))
  | .createUnlink input =>
      some (state.run (createTelegramUnlinkChallenge input)
        (·.events input.tokenDigest (.unlink input.channelIdentityId)))
  | .consumeLink generated input =>
      some (state.run (consumeTelegramLinkChallenge generated input)
        (·.events input))
  | .consumeUnlink input =>
      some (state.run (consumeTelegramUnlinkChallenge input)
        (·.events input))

/-- Any users and ledgers, and no links yet. -/
def Initial (state : IdentityState) : Prop :=
  ∃ users ledgers, state = { database :=
    { users := users
      ledgers := ledgers } }

end IdentityState

def identitySystem : System IdentityState IdentityAction :=
  { Initial := IdentityState.Initial
    next := IdentityState.next }

/-- What one transition can do to the tables and to the history. -/
inductive IdentityChange (state : IdentityState) : IdentityState → Prop where
  | unchanged : IdentityChange state state
  | challengeCreated {input : PersistTelegramLinkChallengeInput}
      {purpose : ChallengePurpose}
      (fresh : input.tokenDigest ∉
        state.database.challenges.rows.map Prod.fst) :
      (∀ target, purpose = .unlink target → ∃ row,
        state.database.identities.find? target = some row ∧
          row.userId = input.actor.userId ∧
            row.ledgerId = input.actor.ledgerId ∧ row.unlinkedAt = none) →
      IdentityChange state
        { database := { state.database with
            challenges := state.database.challenges.push input.tokenDigest
              (input.row purpose) fresh }
          history := state.history ++
            [.challengeCreated input.tokenDigest purpose] }
  | challengeWasted {input : ConsumeTelegramChallengeStoreInput}
      {challenge : ChannelLinkChallengeRow} :
      state.database.challenges.find? input.tokenDigest = some challenge →
      challenge.consumedAt = none →
      IdentityChange state
        { state with database := state.database.consumeChallenge input }
  | linked {input : ConsumeTelegramChallengeStoreInput}
      {generated : ChannelIdentityId} {challenge : ChannelLinkChallengeRow}
      (fresh : generated ∉ state.database.identities.rows.map Prod.fst) :
      state.database.challenges.find? input.tokenDigest = some challenge →
      challenge.purpose = .link →
      challenge.consumedAt = none →
      input.consumedAtMillis < challenge.expiresAt.getTime →
      state.database.activeIdentities input.externalAccountId = [] →
      state.database.owns challenge.userId challenge.ledgerId = true →
      IdentityChange state
        { database := { state.database with
            identities := state.database.identities.push generated
              (challenge.linkedIdentity input) fresh }.consumeChallenge input
          history := state.history ++
            [.linked input.tokenDigest generated input.externalAccountId] }
  | unlinked {input : ConsumeTelegramChallengeStoreInput}
      {target : ChannelIdentityId} {challenge : ChannelLinkChallengeRow}
      {identity : ChannelIdentityRow} :
      state.database.challenges.find? input.tokenDigest = some challenge →
      challenge.purpose = .unlink target →
      challenge.consumedAt = none →
      input.consumedAtMillis < challenge.expiresAt.getTime →
      state.database.identities.find? target = some identity →
      identity.userId = challenge.userId →
      identity.ledgerId = challenge.ledgerId →
      identity.unlinkedAt = none →
      identity.externalAccountId = input.externalAccountId →
      IdentityChange state
        { database :=
            (state.database.unlinkIdentity target input).consumeChallenge input
          history := state.history ++
            [.unlinked input.tokenDigest target input.externalAccountId] }

section Changes

variable {state state' : IdentityState} {database : IdentityDatabase}

theorem IdentityState.run_cases {α : Type} (state : IdentityState)
    (transaction : IdentityDatabase →
      Except IdentityStoreFailure (α × IdentityDatabase))
    (events : α → List IdentityEvent) :
    state.run transaction events = state ∨
      ∃ outcome database, transaction state.database = .ok (outcome, database) ∧
        state.run transaction events =
          { database := database
            history := state.history ++ events outcome } := by
  unfold IdentityState.run
  rcases withTransaction_cases transaction state.database with
    ⟨failure, _, rolledBack⟩ | ⟨outcome, database, ran, committed⟩
  · rw [rolledBack]
    exact .inl rfl
  · rw [committed]
    exact .inr ⟨outcome, database, ran, rfl⟩

theorem identityChange_of_create
    {input : PersistTelegramLinkChallengeInput} {purpose : ChallengePurpose}
    {outcome : PersistTelegramLinkChallengeOutcome}
    (targeted : ∀ target, purpose = .unlink target → ∃ row,
      state.database.identities.find? target = some row ∧
        row.userId = input.actor.userId ∧
          row.ledgerId = input.actor.ledgerId ∧ row.unlinkedAt = none)
    (created : CreateEffect input purpose state.database outcome database) :
    IdentityChange state
      { database := database
        history := state.history ++
          outcome.events input.tokenDigest purpose } := by
  cases created with
  | rateLimited =>
      simpa [PersistTelegramLinkChallengeOutcome.events] using
        IdentityChange.unchanged
  | stored fresh => exact .challengeCreated fresh targeted

theorem identityChange_of_link {generated : ChannelIdentityId}
    {input : ConsumeTelegramChallengeStoreInput}
    {outcome : ConsumeTelegramLinkChallengeStoreOutcome}
    (consumed : LinkEffect generated input state.database outcome database) :
    IdentityChange state
      { database := database
        history := state.history ++ outcome.events input } := by
  cases consumed with
  | notFound | alreadyConsumed =>
      simpa [ConsumeTelegramLinkChallengeStoreOutcome.events] using
        IdentityChange.unchanged
  | expired found _ pending | alreadyLinked found _ pending =>
      simpa [ConsumeTelegramLinkChallengeStoreOutcome.events] using
        IdentityChange.challengeWasted found pending
  | linked fresh found purpose pending early inactive owned =>
      exact .linked fresh found purpose pending early inactive owned

theorem identityChange_of_unlink
    {input : ConsumeTelegramChallengeStoreInput}
    {outcome : ConsumeTelegramUnlinkChallengeStoreOutcome}
    (consumed : UnlinkEffect input state.database outcome database) :
    IdentityChange state
      { database := database
        history := state.history ++ outcome.events input } := by
  cases consumed with
  | notFound | alreadyConsumed | mismatched =>
      simpa [ConsumeTelegramUnlinkChallengeStoreOutcome.events] using
        IdentityChange.unchanged
  | expired found _ pending | gone found _ pending =>
      simpa [ConsumeTelegramUnlinkChallengeStoreOutcome.events] using
        IdentityChange.challengeWasted found pending
  | unlinked found purpose pending early identityFound sameUser sameLedger
      active account =>
      exact .unlinked found purpose pending early identityFound sameUser
        sameLedger active account

theorem identityChange_of_next {action : IdentityAction}
    (taken : identitySystem.next state action = some state') :
    IdentityChange state state' := by
  change state.next action = some state' at taken
  cases action with
  | createLink input =>
      have written := Option.some.inj taken
      subst written
      rcases IdentityState.run_cases state
        (createTelegramLinkChallenge input)
        (·.events input.tokenDigest .link) with
        same | ⟨outcome, database, ran, committed⟩
      · rw [same]
        exact .unchanged
      · rw [committed]
        obtain ⟨_, created⟩ := createTelegramLinkChallenge_eq_ok ran
        refine identityChange_of_create ?_ created
        intro target impossible
        cases impossible
  | createUnlink input =>
      have written := Option.some.inj taken
      subst written
      rcases IdentityState.run_cases state
        (createTelegramUnlinkChallenge input)
        (·.events input.tokenDigest (.unlink input.channelIdentityId)) with
        same | ⟨outcome, database, ran, committed⟩
      · rw [same]
        exact .unchanged
      · rw [committed]
        obtain ⟨_, target, created⟩ := createTelegramUnlinkChallenge_eq_ok ran
        refine identityChange_of_create ?_ created
        intro other same
        cases same
        exact target
  | consumeLink generated input =>
      have written := Option.some.inj taken
      subst written
      rcases IdentityState.run_cases state
        (consumeTelegramLinkChallenge generated input) (·.events input) with
        same | ⟨outcome, database, ran, committed⟩
      · rw [same]
        exact .unchanged
      · rw [committed]
        exact identityChange_of_link (consumeTelegramLinkChallenge_eq_ok ran)
  | consumeUnlink input =>
      have written := Option.some.inj taken
      subst written
      rcases IdentityState.run_cases state
        (consumeTelegramUnlinkChallenge input) (·.events input) with
        same | ⟨outcome, database, ran, committed⟩
      · rw [same]
        exact .unchanged
      · rw [committed]
        exact identityChange_of_unlink
          (consumeTelegramUnlinkChallenge_eq_ok ran)

end Changes

section Persistence

/-- Identities keep their columns, and unlinked ones are never written again;
challenges keep their columns, and consumed ones are never written again. -/
structure LinksPersist (db db' : IdentityDatabase) : Prop where
  identities : ∀ channelIdentityId row,
    db.identities.find? channelIdentityId = some row →
    ∃ unlinkedAt, db'.identities.find? channelIdentityId =
      some { row with unlinkedAt := unlinkedAt } ∧
        (row.unlinkedAt ≠ none → unlinkedAt = row.unlinkedAt)
  challenges : ∀ tokenDigest row,
    db.challenges.find? tokenDigest = some row →
    ∃ consumedAt, db'.challenges.find? tokenDigest =
      some { row with consumedAt := consumedAt } ∧
        (row.consumedAt ≠ none → consumedAt = row.consumedAt)

variable {db : IdentityDatabase} {state state' : IdentityState}

theorem LinksPersist.refl : LinksPersist db db :=
  { identities := fun _ row found => ⟨row.unlinkedAt, found, fun _ => rfl⟩
    challenges := fun _ row found => ⟨row.consumedAt, found, fun _ => rfl⟩ }

theorem LinksPersist.trans {db' db'' : IdentityDatabase}
    (first : LinksPersist db db') (second : LinksPersist db' db'') :
    LinksPersist db db'' := by
  constructor
  · intro channelIdentityId row found
    obtain ⟨middle, present, kept⟩ := first.identities _ _ found
    obtain ⟨last, later, unchanged⟩ := second.identities _ _ present
    refine ⟨last, later, ?_⟩
    intro unlinked
    rw [← kept unlinked]
    exact unchanged (by rw [kept unlinked]; exact unlinked)
  · intro tokenDigest row found
    obtain ⟨middle, present, kept⟩ := first.challenges _ _ found
    obtain ⟨last, later, unchanged⟩ := second.challenges _ _ present
    refine ⟨last, later, ?_⟩
    intro consumed
    rw [← kept consumed]
    exact unchanged (by rw [kept consumed]; exact consumed)

/-- Consuming a challenge that was not consumed leaves all others alone. -/
theorem consumeChallenge_persists
    {input : ConsumeTelegramChallengeStoreInput}
    {challenge : ChannelLinkChallengeRow}
    (found : db.challenges.find? input.tokenDigest = some challenge)
    (pending : challenge.consumedAt = none)
    (tokenDigest : ChannelLinkChallengeDigest) (row : ChannelLinkChallengeRow)
    (present : db.challenges.find? tokenDigest = some row) :
    ∃ consumedAt, (db.consumeChallenge input).challenges.find? tokenDigest =
      some { row with consumedAt := consumedAt } ∧
        (row.consumedAt ≠ none → consumedAt = row.consumedAt) := by
  change ∃ _, (db.challenges.modify input.tokenDigest _).find? tokenDigest = _ ∧ _
  by_cases same : tokenDigest = input.tokenDigest
  · subst same
    cases Option.some.inj (found.symm.trans present)
    rw [Table.find?_modify_self, found]
    exact ⟨_, rfl, fun consumed => (consumed pending).elim⟩
  · rw [Table.find?_modify_of_ne _ _ same]
    exact ⟨row.consumedAt, present, fun _ => rfl⟩

theorem IdentityChange.linksPersist (change : IdentityChange state state') :
    LinksPersist state.database state'.database := by
  cases change with
  | unchanged => exact .refl
  | challengeCreated fresh =>
      refine { identities := LinksPersist.refl.identities, challenges := ?_ }
      intro tokenDigest row found
      exact ⟨row.consumedAt, Table.find?_push_of_some fresh found,
        fun _ => rfl⟩
  | challengeWasted found pending =>
      exact
        { identities := LinksPersist.refl.identities
          challenges := consumeChallenge_persists found pending }
  | linked fresh found _ pending =>
      refine
        { identities := ?_
          challenges := consumeChallenge_persists found pending }
      intro channelIdentityId row present
      exact ⟨row.unlinkedAt, Table.find?_push_of_some fresh present,
        fun _ => rfl⟩
  | @unlinked input target _ identity found _ pending _ identityFound _ _
      active =>
      refine
        { identities := ?_
          challenges := consumeChallenge_persists found pending }
      intro channelIdentityId row present
      change ∃ _, (Table.modify _ target _).find? channelIdentityId = _ ∧ _
      by_cases same : channelIdentityId = target
      · subst same
        cases Option.some.inj (identityFound.symm.trans present)
        rw [Table.find?_modify_self, identityFound]
        exact ⟨_, rfl, fun unlinked => (unlinked active).elim⟩
      · rw [Table.find?_modify_of_ne _ _ same]
        exact ⟨row.unlinkedAt, present, fun _ => rfl⟩

/-- What one transition of the identity store can do to the tables. -/
def TablesChange (db db' : IdentityDatabase) : Prop :=
  ∃ state state', IdentityChange state state' ∧ state.database = db ∧
    state'.database = db'

theorem TablesChange.linksPersist {db' : IdentityDatabase}
    (changed : TablesChange db db') : LinksPersist db db' := by
  obtain ⟨state, state', change, rfl, rfl⟩ := changed
  exact change.linksPersist

end Persistence

section Samples

def sampleOwner : WebActorContext :=
  { userId := ⟨1⟩
    ledgerId := ⟨2⟩
    timezone := "Asia/Kolkata"
    correlationId := ⟨9⟩ }

def sampleAccount : TelegramExternalAccountId :=
  { digits := "7001" }

def sampleDigest (digit : Char) : ChannelLinkChallengeDigest :=
  { hex := String.ofList (List.replicate 64 digit) }

def sampleIdentityStart : IdentityState :=
  { database :=
      { users := Table.empty.insertMissing ⟨1⟩ {}
        ledgers := Table.empty.insertMissing ⟨2⟩ ⟨⟨1⟩⟩ } }

end Samples

end XpensGo
