import XpensGo.Identity.System

/-!
# Linking authority

Every link and every unlink of a Telegram account is traced to one challenge
that authorised it.  The tables alone do not say when a challenge was created or
what it was spent on, so the statements relate them to the recorded history.
-/

namespace XpensGo

open Postgres Relational Transition IdentityDatabase

section Authority

/-- The link challenge `tokenDigest` created the identity. -/
structure LinkedBy (state : IdentityState)
    (channelIdentityId : ChannelIdentityId) (row : ChannelIdentityRow)
    (tokenDigest : ChannelLinkChallengeDigest)
    (challenge : ChannelLinkChallengeRow) : Prop where
  found : state.database.challenges.find? tokenDigest = some challenge
  purpose : challenge.purpose = .link
  sameUser : challenge.userId = row.userId
  sameLedger : challenge.ledgerId = row.ledgerId
  consumed : challenge.consumedAt = some row.linkedAt
  unexpired : row.linkedAt.getTime < challenge.expiresAt.getTime
  recorded : state.history.filter (·.links channelIdentityId) =
    [.linked tokenDigest channelIdentityId row.externalAccountId]

/-- The challenge was created when its target was linked and not unlinked. -/
def CreatedWhileActive (history : List IdentityEvent)
    (tokenDigest : ChannelLinkChallengeDigest)
    (target : ChannelIdentityId) : Prop :=
  ∃ earlier later, history =
      earlier ++ .challengeCreated tokenDigest (.unlink target) :: later ∧
    (earlier.filter (·.links target)).length = 1 ∧
      earlier.filter (·.unlinks target) = []

/-- The unlink challenge `tokenDigest` ended the identity. -/
structure UnlinkedBy (state : IdentityState)
    (channelIdentityId : ChannelIdentityId) (row : ChannelIdentityRow)
    (unlinkedAt : Timestamp) (tokenDigest : ChannelLinkChallengeDigest)
    (challenge : ChannelLinkChallengeRow) : Prop where
  found : state.database.challenges.find? tokenDigest = some challenge
  purpose : challenge.purpose = .unlink channelIdentityId
  sameUser : challenge.userId = row.userId
  sameLedger : challenge.ledgerId = row.ledgerId
  consumed : challenge.consumedAt = some unlinkedAt
  unexpired : unlinkedAt.getTime < challenge.expiresAt.getTime
  recorded : state.history.filter (·.unlinks channelIdentityId) =
    [.unlinked tokenDigest channelIdentityId row.externalAccountId]
  createdWhileActive :
    CreatedWhileActive state.history tokenDigest channelIdentityId

/-- Who may link and unlink a Telegram account. -/
structure LinkingAuthority (state : IdentityState) : Prop where
  singleActive : ∀ left right leftRow rightRow,
    state.database.identities.find? left = some leftRow →
    state.database.identities.find? right = some rightRow →
    leftRow.unlinkedAt = none → rightRow.unlinkedAt = none →
    leftRow.externalAccountId = rightRow.externalAccountId → left = right
  linked : ∀ channelIdentityId row,
    state.database.identities.find? channelIdentityId = some row →
    ∃ tokenDigest challenge,
      LinkedBy state channelIdentityId row tokenDigest challenge
  unlinked : ∀ channelIdentityId row unlinkedAt,
    state.database.identities.find? channelIdentityId = some row →
    row.unlinkedAt = some unlinkedAt →
    ∃ tokenDigest challenge, UnlinkedBy state channelIdentityId row unlinkedAt
      tokenDigest challenge
  spentOnce : ∀ tokenDigest,
    (state.history.filter (·.spends tokenDigest)).length ≤ 1

/-- The history and the tables agree about what has not happened yet. -/
structure HistoryComplete (state : IdentityState) : Prop where
  active : ∀ channelIdentityId row,
    state.database.identities.find? channelIdentityId = some row →
    row.unlinkedAt = none →
    state.history.filter (·.unlinks channelIdentityId) = []
  absent : ∀ channelIdentityId,
    state.database.identities.find? channelIdentityId = none →
    state.history.filter (·.links channelIdentityId) = [] ∧
      state.history.filter (·.unlinks channelIdentityId) = []
  targeted : ∀ tokenDigest challenge target,
    state.database.challenges.find? tokenDigest = some challenge →
    challenge.purpose = .unlink target →
    CreatedWhileActive state.history tokenDigest target
  unspent : ∀ tokenDigest,
    (∀ challenge,
      state.database.challenges.find? tokenDigest = some challenge →
      challenge.consumedAt = none) →
    state.history.filter (·.spends tokenDigest) = []

variable {state state' : IdentityState}

theorem IdentityChange.history (change : IdentityChange state state') :
    ∃ later, state'.history = state.history ++ later := by
  cases change with
  | unchanged | challengeWasted => exact ⟨[], by simp⟩
  | challengeCreated | linked | unlinked => exact ⟨_, rfl⟩

/-- No event of a transition links an identity that exists already. -/
theorem IdentityChange.links_kept (change : IdentityChange state state')
    {channelIdentityId : ChannelIdentityId} {row : ChannelIdentityRow}
    (found : state.database.identities.find? channelIdentityId = some row) :
    state'.history.filter (·.links channelIdentityId) =
      state.history.filter (·.links channelIdentityId) := by
  cases change with
  | unchanged | challengeWasted => rfl
  | challengeCreated | unlinked =>
      simp [List.filter_append, IdentityEvent.links]
  | @linked _ generated _ fresh =>
      have different : generated ≠ channelIdentityId := by
        intro same
        subst same
        rw [Table.find?_eq_none_iff.mpr fresh] at found
        cases found
      simp [List.filter_append, IdentityEvent.links, different]

/-- No event of a transition unlinks an identity that is unlinked already. -/
theorem IdentityChange.unlinks_kept (change : IdentityChange state state')
    {channelIdentityId : ChannelIdentityId} {row : ChannelIdentityRow}
    (found : state.database.identities.find? channelIdentityId = some row)
    (unlinked : row.unlinkedAt ≠ none) :
    state'.history.filter (·.unlinks channelIdentityId) =
      state.history.filter (·.unlinks channelIdentityId) := by
  cases change with
  | unchanged | challengeWasted => rfl
  | challengeCreated | linked =>
      simp [List.filter_append, IdentityEvent.unlinks]
  | @unlinked _ target _ _ _ _ _ _ identityFound _ _ active =>
      have different : target ≠ channelIdentityId := by
        intro same
        subst same
        cases Option.some.inj (identityFound.symm.trans found)
        exact unlinked active
      simp [List.filter_append, IdentityEvent.unlinks, different]

theorem CreatedWhileActive.append {history later : List IdentityEvent}
    {tokenDigest : ChannelLinkChallengeDigest} {target : ChannelIdentityId}
    (created : CreatedWhileActive history tokenDigest target) :
    CreatedWhileActive (history ++ later) tokenDigest target := by
  obtain ⟨earlier, rest, split, active⟩ := created
  exact ⟨earlier, rest ++ later, by simp [split], active⟩

/-- The creation of an identity stays recorded. -/
theorem LinkedBy.kept {channelIdentityId : ChannelIdentityId}
    {row : ChannelIdentityRow} {tokenDigest : ChannelLinkChallengeDigest}
    {challenge : ChannelLinkChallengeRow} (unlinkedAt : Option Timestamp)
    (change : IdentityChange state state')
    (found : state.database.identities.find? channelIdentityId = some row)
    (linked : LinkedBy state channelIdentityId row tokenDigest challenge) :
    LinkedBy state' channelIdentityId { row with unlinkedAt := unlinkedAt }
      tokenDigest challenge := by
  obtain ⟨consumedAt, present, unchanged⟩ :=
    change.linksPersist.challenges _ _ linked.found
  rw [unchanged (by simp [linked.consumed])] at present
  exact
    { found := present
      purpose := linked.purpose
      sameUser := linked.sameUser
      sameLedger := linked.sameLedger
      consumed := linked.consumed
      unexpired := linked.unexpired
      recorded := by rw [change.links_kept found, linked.recorded] }

/-- The end of an identity stays recorded. -/
theorem UnlinkedBy.kept {channelIdentityId : ChannelIdentityId}
    {row : ChannelIdentityRow} {unlinkedAt : Timestamp}
    {tokenDigest : ChannelLinkChallengeDigest}
    {challenge : ChannelLinkChallengeRow}
    (change : IdentityChange state state')
    (found : state.database.identities.find? channelIdentityId = some row)
    (ended : row.unlinkedAt = some unlinkedAt)
    (unlinked : UnlinkedBy state channelIdentityId row unlinkedAt tokenDigest
      challenge) :
    UnlinkedBy state' channelIdentityId row unlinkedAt tokenDigest
      challenge := by
  obtain ⟨consumedAt, present, unchanged⟩ :=
    change.linksPersist.challenges _ _ unlinked.found
  rw [unchanged (by simp [unlinked.consumed])] at present
  obtain ⟨later, appended⟩ := change.history
  exact
    { found := present
      purpose := unlinked.purpose
      sameUser := unlinked.sameUser
      sameLedger := unlinked.sameLedger
      consumed := unlinked.consumed
      unexpired := unlinked.unexpired
      recorded := by
        rw [change.unlinks_kept found (by simp [ended]), unlinked.recorded]
      createdWhileActive := by
        rw [appended]
        exact unlinked.createdWhileActive.append }

/-- A new identity is linked by the challenge that was just consumed. -/
theorem linkedBy_of_linked {input : ConsumeTelegramChallengeStoreInput}
    {generated : ChannelIdentityId} {challenge : ChannelLinkChallengeRow}
    (complete : HistoryComplete state)
    (fresh : generated ∉ state.database.identities.rows.map Prod.fst)
    (found : state.database.challenges.find? input.tokenDigest =
      some challenge)
    (purpose : challenge.purpose = .link)
    (early : input.consumedAtMillis < challenge.expiresAt.getTime) :
    LinkedBy
      { database := { state.database with
          identities := state.database.identities.push generated
            (challenge.linkedIdentity input) fresh }.consumeChallenge input
        history := state.history ++
          [.linked input.tokenDigest generated input.externalAccountId] }
      generated (challenge.linkedIdentity input) input.tokenDigest
      { challenge with
        consumedAt := some (.ofMillis input.consumedAtMillis) } := by
  have unrecorded :=
    (complete.absent generated (Table.find?_eq_none_iff.mpr fresh)).1
  exact
    { found := by
        change (Table.modify _ _ _).find? _ = _
        rw [Table.find?_modify_self, found]
        rfl
      purpose := purpose
      sameUser := rfl
      sameLedger := rfl
      consumed := rfl
      unexpired := by
        simpa [ChannelLinkChallengeRow.linkedIdentity] using early
      recorded := by
        rw [List.filter_append, unrecorded]
        simp [IdentityEvent.links, ChannelLinkChallengeRow.linkedIdentity] }

/-- An identity that is unlinked was ended by the challenge that was just
consumed. -/
theorem unlinkedBy_of_unlinked {input : ConsumeTelegramChallengeStoreInput}
    {target : ChannelIdentityId} {challenge : ChannelLinkChallengeRow}
    {identity : ChannelIdentityRow} (complete : HistoryComplete state)
    (found : state.database.challenges.find? input.tokenDigest =
      some challenge)
    (purpose : challenge.purpose = .unlink target)
    (early : input.consumedAtMillis < challenge.expiresAt.getTime)
    (identityFound : state.database.identities.find? target = some identity)
    (sameUser : identity.userId = challenge.userId)
    (sameLedger : identity.ledgerId = challenge.ledgerId)
    (active : identity.unlinkedAt = none)
    (account : identity.externalAccountId = input.externalAccountId) :
    UnlinkedBy
      { database :=
          (state.database.unlinkIdentity target input).consumeChallenge input
        history := state.history ++
          [.unlinked input.tokenDigest target input.externalAccountId] }
      target
      { identity with unlinkedAt := some (.ofMillis input.consumedAtMillis) }
      (.ofMillis input.consumedAtMillis) input.tokenDigest
      { challenge with
        consumedAt := some (.ofMillis input.consumedAtMillis) } := by
  have unrecorded := complete.active target identity identityFound active
  exact
    { found := by
        change (Table.modify _ _ _).find? _ = _
        rw [Table.find?_modify_self, unlinkIdentity_challenges, found]
        rfl
      purpose := purpose
      sameUser := sameUser.symm
      sameLedger := sameLedger.symm
      consumed := rfl
      unexpired := by simpa using early
      recorded := by
        rw [List.filter_append, unrecorded]
        simp [IdentityEvent.unlinks, account]
      createdWhileActive :=
        (complete.targeted _ _ _ found purpose).append }

/-- What a row was before a transition that did not create it. -/
theorem IdentityChange.found_before (change : IdentityChange state state')
    {channelIdentityId : ChannelIdentityId} {row row' : ChannelIdentityRow}
    (before : state.database.identities.find? channelIdentityId = some row)
    (after : state'.database.identities.find? channelIdentityId = some row') :
    ∃ unlinkedAt, row' = { row with unlinkedAt := unlinkedAt } ∧
      (row.unlinkedAt ≠ none → unlinkedAt = row.unlinkedAt) := by
  obtain ⟨unlinkedAt, present, kept⟩ :=
    change.linksPersist.identities _ _ before
  exact ⟨unlinkedAt, Option.some.inj (after.symm.trans present), kept⟩

theorem IdentityChange.linked_preserved (change : IdentityChange state state')
    (authority : LinkingAuthority state) (complete : HistoryComplete state)
    (channelIdentityId : ChannelIdentityId) (row : ChannelIdentityRow)
    (found : state'.database.identities.find? channelIdentityId = some row) :
    ∃ tokenDigest challenge,
      LinkedBy state' channelIdentityId row tokenDigest challenge := by
  cases earlier : state.database.identities.find? channelIdentityId with
  | some before =>
      obtain ⟨tokenDigest, challenge, linked⟩ :=
        authority.linked _ _ earlier
      obtain ⟨unlinkedAt, rfl, _⟩ := change.found_before earlier found
      exact ⟨tokenDigest, challenge, linked.kept unlinkedAt change earlier⟩
  | none =>
      cases change with
      | unchanged | challengeCreated | challengeWasted =>
          have present : state.database.identities.find? channelIdentityId =
              some row := found
          rw [earlier] at present
          cases present
      | @linked input generated challenge fresh challengeFound purpose _
          early =>
          have pushed : (state.database.identities.push generated
            (challenge.linkedIdentity input) fresh).find? channelIdentityId =
              some row := found
          rw [Table.find?_push, earlier] at pushed
          split at pushed
          · rename_i same
            cases pushed
            subst same
            exact ⟨_, _, linkedBy_of_linked complete fresh challengeFound
              purpose early⟩
          · cases pushed
      | @unlinked _ target =>
          have modified : (state.database.identities.modify target _).find?
            channelIdentityId = some row := found
          rw [Table.find?_modify, earlier] at modified
          split at modified <;> cases modified

theorem IdentityChange.unlinked_preserved
    (change : IdentityChange state state')
    (authority : LinkingAuthority state) (complete : HistoryComplete state)
    (channelIdentityId : ChannelIdentityId) (row : ChannelIdentityRow)
    (unlinkedAt : Timestamp)
    (found : state'.database.identities.find? channelIdentityId = some row)
    (ended : row.unlinkedAt = some unlinkedAt) :
    ∃ tokenDigest challenge, UnlinkedBy state' channelIdentityId row
      unlinkedAt tokenDigest challenge := by
  have kept : ∀ before : ChannelIdentityRow,
      state.database.identities.find? channelIdentityId = some before →
      before.unlinkedAt ≠ none → ∃ tokenDigest challenge,
        UnlinkedBy state' channelIdentityId row unlinkedAt tokenDigest
          challenge := by
    intro before earlier unlinked
    obtain ⟨_, rfl, same⟩ := change.found_before earlier found
    have identical := same unlinked
    subst identical
    obtain ⟨tokenDigest, challenge, recorded⟩ :=
      authority.unlinked _ _ _ earlier ended
    exact ⟨tokenDigest, challenge, recorded.kept change earlier ended⟩
  cases change with
  | unchanged | challengeCreated | challengeWasted =>
      exact kept row found (by simp [ended])
  | @linked input generated challenge fresh =>
      have pushed : (state.database.identities.push generated
        (challenge.linkedIdentity input) fresh).find? channelIdentityId =
          some row := found
      rw [Table.find?_push] at pushed
      split at pushed
      · cases pushed
        cases ended
      · exact kept row pushed (by simp [ended])
  | @unlinked input target challenge identity challengeFound purpose _ early
      identityFound sameUser sameLedger active account =>
      have modified : (state.database.identities.modify target _).find?
        channelIdentityId = some row := found
      rcases Table.find?_modify_cases modified with
        ⟨rfl, before, present, rfl⟩ | ⟨_, unmodified⟩
      · cases identityFound.symm.trans present
        cases ended
        exact ⟨_, _, unlinkedBy_of_unlinked complete challengeFound purpose
          early identityFound sameUser sameLedger active account⟩
      · exact kept row unmodified (by simp [ended])

/-- No account has two active identities. -/
def SingleActive (db : IdentityDatabase) : Prop :=
  ∀ left right leftRow rightRow,
    db.identities.find? left = some leftRow →
    db.identities.find? right = some rightRow →
    leftRow.unlinkedAt = none → rightRow.unlinkedAt = none →
    leftRow.externalAccountId = rightRow.externalAccountId → left = right

/-- A link is refused while its account has an active identity. -/
theorem IdentityChange.singleActive_preserved
    (change : IdentityChange state state')
    (single : SingleActive state.database)
    (left right : ChannelIdentityId) (leftRow rightRow : ChannelIdentityRow)
    (leftFound : state'.database.identities.find? left = some leftRow)
    (rightFound : state'.database.identities.find? right = some rightRow)
    (leftActive : leftRow.unlinkedAt = none)
    (rightActive : rightRow.unlinkedAt = none)
    (account : leftRow.externalAccountId = rightRow.externalAccountId) :
    left = right := by
  cases change with
  | unchanged | challengeCreated | challengeWasted =>
      exact single _ _ _ _ leftFound rightFound leftActive
        rightActive account
  | @linked input generated challenge fresh _ _ _ _ inactive =>
      have unlinked := activeIdentities_eq_nil_iff.mp inactive
      have leftPushed : (state.database.identities.push generated
        (challenge.linkedIdentity input) fresh).find? left = some leftRow :=
          leftFound
      have rightPushed : (state.database.identities.push generated
        (challenge.linkedIdentity input) fresh).find? right =
          some rightRow := rightFound
      rw [Table.find?_push] at leftPushed rightPushed
      split at leftPushed
      · rename_i leftNew
        split at rightPushed
        · rename_i rightNew
          rw [leftNew, rightNew]
        · cases leftPushed
          exact (unlinked _ _ rightPushed account.symm rightActive).elim
      · split at rightPushed
        · cases rightPushed
          exact (unlinked _ _ leftPushed account leftActive).elim
        · exact single _ _ _ _ leftPushed rightPushed
            leftActive rightActive account
  | @unlinked input target _ identity _ _ _ _ identityFound =>
      have unmodified : ∀ candidate row,
          (state.database.identities.modify target
            (fun row => { row with
              unlinkedAt := some (.ofMillis input.consumedAtMillis) })).find?
                candidate = some row →
          row.unlinkedAt = none →
          state.database.identities.find? candidate = some row := by
        intro candidate row modified active
        rcases Table.find?_modify_cases modified with
          ⟨_, before, _, rfl⟩ | ⟨_, unmodified⟩
        · cases active
        · exact unmodified
      exact single _ _ _ _
        (unmodified _ _ leftFound leftActive)
        (unmodified _ _ rightFound rightActive) leftActive rightActive account

/-- Only a challenge that was pending can change an identity. -/
theorem IdentityChange.spentOnce_preserved
    (change : IdentityChange state state')
    (authority : LinkingAuthority state) (complete : HistoryComplete state)
    (tokenDigest : ChannelLinkChallengeDigest) :
    (state'.history.filter (·.spends tokenDigest)).length ≤ 1 := by
  have once := authority.spentOnce tokenDigest
  cases change with
  | unchanged | challengeWasted => exact once
  | challengeCreated =>
      simpa [List.filter_append, IdentityEvent.spends] using once
  | @linked input _ _ _ found _ pending
  | @unlinked input _ _ _ found _ pending =>
      rw [List.filter_append]
      by_cases same : input.tokenDigest = tokenDigest
      · subst same
        rw [complete.unspent input.tokenDigest (by
          intro challenge present
          cases Option.some.inj (found.symm.trans present)
          exact pending)]
        simp [IdentityEvent.spends]
      · simpa [IdentityEvent.spends, same] using once

theorem IdentityChange.authority_preserved
    (change : IdentityChange state state')
    (authority : LinkingAuthority state) (complete : HistoryComplete state) :
    LinkingAuthority state' :=
  { singleActive := change.singleActive_preserved authority.singleActive
    linked := change.linked_preserved authority complete
    unlinked := change.unlinked_preserved authority complete
    spentOnce := change.spentOnce_preserved authority complete }

theorem IdentityChange.active_preserved (change : IdentityChange state state')
    (complete : HistoryComplete state)
    (channelIdentityId : ChannelIdentityId) (row : ChannelIdentityRow)
    (found : state'.database.identities.find? channelIdentityId = some row)
    (active : row.unlinkedAt = none) :
    state'.history.filter (·.unlinks channelIdentityId) = [] := by
  cases change with
  | unchanged | challengeWasted => exact complete.active _ _ found active
  | challengeCreated =>
      simpa [List.filter_append, IdentityEvent.unlinks] using
        complete.active _ _ found active
  | @linked input generated challenge fresh =>
      have pushed : (state.database.identities.push generated
        (challenge.linkedIdentity input) fresh).find? channelIdentityId =
          some row := found
      rw [List.filter_append]
      rw [Table.find?_push] at pushed
      split at pushed
      · rename_i same
        subst same
        rw [(complete.absent _ (Table.find?_eq_none_iff.mpr fresh)).2]
        simp [IdentityEvent.unlinks]
      · rw [complete.active _ _ pushed active]
        simp [IdentityEvent.unlinks]
  | @unlinked input target _ identity _ _ _ _ identityFound =>
      have modified : (state.database.identities.modify target _).find?
        channelIdentityId = some row := found
      rcases Table.find?_modify_cases modified with
        ⟨_, before, _, rfl⟩ | ⟨different, unmodified⟩
      · cases active
      · rw [List.filter_append, complete.active _ _ unmodified active]
        simp [IdentityEvent.unlinks, Ne.symm different]

theorem IdentityChange.absent_preserved (change : IdentityChange state state')
    (complete : HistoryComplete state)
    (channelIdentityId : ChannelIdentityId)
    (missing : state'.database.identities.find? channelIdentityId = none) :
    state'.history.filter (·.links channelIdentityId) = [] ∧
      state'.history.filter (·.unlinks channelIdentityId) = [] := by
  have before : state.database.identities.find? channelIdentityId = none := by
    cases earlier : state.database.identities.find? channelIdentityId with
    | none => rfl
    | some row =>
        obtain ⟨_, present, _⟩ := change.linksPersist.identities _ _ earlier
        rw [missing] at present
        cases present
  obtain ⟨unlinks, links⟩ := complete.absent _ before
  cases change with
  | unchanged | challengeWasted => exact ⟨unlinks, links⟩
  | challengeCreated =>
      rw [List.filter_append, List.filter_append, unlinks, links]
      simp [IdentityEvent.links, IdentityEvent.unlinks]
  | @linked input generated challenge fresh =>
      have different : generated ≠ channelIdentityId := by
        intro same
        subst same
        have present : (state.database.identities.push generated
          (challenge.linkedIdentity input) fresh).find? generated = none :=
            missing
        rw [Table.find?_push_self] at present
        cases present
      rw [List.filter_append, List.filter_append, unlinks, links]
      simp [IdentityEvent.links, IdentityEvent.unlinks, different]
  | @unlinked _ target _ _ _ _ _ _ identityFound =>
      have different : target ≠ channelIdentityId := by
        intro same
        subst same
        rw [identityFound] at before
        cases before
      rw [List.filter_append, List.filter_append, unlinks, links]
      simp [IdentityEvent.links, IdentityEvent.unlinks, different]

theorem IdentityChange.targeted_preserved
    (change : IdentityChange state state')
    (authority : LinkingAuthority state) (complete : HistoryComplete state)
    (tokenDigest : ChannelLinkChallengeDigest)
    (challenge : ChannelLinkChallengeRow) (target : ChannelIdentityId)
    (found : state'.database.challenges.find? tokenDigest = some challenge)
    (purpose : challenge.purpose = .unlink target) :
    CreatedWhileActive state'.history tokenDigest target := by
  cases before : state.database.challenges.find? tokenDigest with
  | some earlier =>
      obtain ⟨consumedAt, present, _⟩ :=
        change.linksPersist.challenges _ _ before
      cases Option.some.inj (found.symm.trans present)
      obtain ⟨later, appended⟩ := change.history
      rw [appended]
      exact (complete.targeted _ _ _ before purpose).append
  | none =>
      cases change with
      | unchanged =>
          rw [before] at found
          cases found
      | @challengeCreated input created fresh targeted =>
          have pushed : (state.database.challenges.push input.tokenDigest
            (input.row created) fresh).find? tokenDigest =
              some challenge := found
          rw [Table.find?_push, before] at pushed
          split at pushed
          · rename_i same
            cases pushed
            subst same
            have unlinks : created = .unlink target := purpose
            subst unlinks
            obtain ⟨row, present, _, _, active⟩ := targeted target rfl
            obtain ⟨_, _, linked⟩ := authority.linked _ _ present
            exact ⟨state.history, [], rfl, by simp [linked.recorded],
              complete.active _ _ present active⟩
          · cases pushed
      | @challengeWasted input _ present | @linked input _ _ _ present
      | @unlinked input _ _ _ present =>
          have modified : (state.database.challenges.modify input.tokenDigest
            _).find? tokenDigest = some challenge := found
          rw [Table.find?_modify, before] at modified
          split at modified <;> cases modified

theorem IdentityChange.unspent_preserved (change : IdentityChange state state')
    (complete : HistoryComplete state)
    (tokenDigest : ChannelLinkChallengeDigest)
    (pending : ∀ challenge,
      state'.database.challenges.find? tokenDigest = some challenge →
      challenge.consumedAt = none) :
    state'.history.filter (·.spends tokenDigest) = [] := by
  have before : state.history.filter (·.spends tokenDigest) = [] := by
    apply complete.unspent
    intro challenge found
    obtain ⟨consumedAt, present, kept⟩ :=
      change.linksPersist.challenges _ _ found
    by_contra consumed
    have same := kept consumed
    subst same
    exact consumed (pending _ present)
  cases change with
  | unchanged | challengeWasted => exact before
  | challengeCreated =>
      rw [List.filter_append, before]
      simp [IdentityEvent.spends]
  | @linked input _ _ _ found | @unlinked input _ _ _ found =>
      have different : input.tokenDigest ≠ tokenDigest := by
        intro same
        subst same
        have impossible := pending _ (by
          change (Table.modify _ _ _).find? _ = _
          rw [Table.find?_modify_self]
          exact congrArg _ found)
        cases impossible
      rw [List.filter_append, before]
      simp [IdentityEvent.spends, different]

theorem IdentityChange.complete_preserved
    (change : IdentityChange state state')
    (authority : LinkingAuthority state) (complete : HistoryComplete state) :
    HistoryComplete state' :=
  { active := change.active_preserved complete
    absent := change.absent_preserved complete
    targeted := change.targeted_preserved authority complete
    unspent := change.unspent_preserved complete }

theorem linkingAuthority_initially (initial : identitySystem.Initial state) :
    LinkingAuthority state ∧ HistoryComplete state := by
  obtain ⟨users, ledgers, rfl⟩ := initial
  constructor
  · exact
      { singleActive := by simp
        linked := by simp
        unlinked := by simp
        spentOnce := by simp }
  · exact
      { active := by simp
        absent := by simp
        targeted := by simp
        unspent := by simp }

theorem reachable_linkingAuthority
    (reached : identitySystem.Reachable state) :
    LinkingAuthority state ∧ HistoryComplete state := by
  refine System.Reachable.invariant
    (I := fun state => LinkingAuthority state ∧ HistoryComplete state)
    ?_ ?_ reached
  · intro state initial
    exact linkingAuthority_initially initial
  · intro state action state' _ holds taken
    obtain ⟨authority, complete⟩ := holds
    have change := identityChange_of_next taken
    exact ⟨change.authority_preserved authority complete,
      change.complete_preserved authority complete⟩

/-- The challenge that a consumption presents. -/
def IdentityAction.presented :
    IdentityAction → Option ChannelLinkChallengeDigest
  | .consumeLink _ input | .consumeUnlink input => some input.tokenDigest
  | .createLink _ | .createUnlink _ => none

theorem consumed_challenge_inert {action : IdentityAction}
    {tokenDigest : ChannelLinkChallengeDigest}
    {challenge : ChannelLinkChallengeRow}
    (taken : identitySystem.next state action = some state')
    (presented : action.presented = some tokenDigest)
    (found : state.database.challenges.find? tokenDigest = some challenge)
    (consumed : challenge.consumedAt ≠ none) : state' = state := by
  change state.next action = some state' at taken
  cases action with
  | createLink | createUnlink => cases presented
  | consumeLink generated input =>
      have written := Option.some.inj taken
      subst written
      cases presented
      rcases IdentityState.run_cases state
        (consumeTelegramLinkChallenge generated input) (·.events input) with
        same | ⟨outcome, database, ran, committed⟩
      · exact same
      · rw [committed]
        cases consumeTelegramLinkChallenge_eq_ok ran with
        | notFound | alreadyConsumed =>
            simp [ConsumeTelegramLinkChallengeStoreOutcome.events]
        | expired present _ pending | alreadyLinked present _ pending
        | linked _ present _ pending =>
            cases Option.some.inj (found.symm.trans present)
            exact (consumed pending).elim
  | consumeUnlink input =>
      have written := Option.some.inj taken
      subst written
      cases presented
      rcases IdentityState.run_cases state
        (consumeTelegramUnlinkChallenge input) (·.events input) with
        same | ⟨outcome, database, ran, committed⟩
      · exact same
      · rw [committed]
        cases consumeTelegramUnlinkChallenge_eq_ok ran with
        | notFound | alreadyConsumed | mismatched =>
            simp [ConsumeTelegramUnlinkChallengeStoreOutcome.events]
        | expired present _ pending | gone present _ pending
        | unlinked present _ pending =>
            cases Option.some.inj (found.symm.trans present)
            exact (consumed pending).elim

/-- In every reachable state each link and each unlink is authorised by its own
challenge; no transition revives an unlinked identity or a consumed challenge,
and presenting a consumed challenge changes nothing. -/
theorem identity_linking_authority
    (reached : identitySystem.Reachable state) :
    LinkingAuthority state ∧
      ∀ action state', identitySystem.next state action = some state' →
        LinksPersist state.database state'.database ∧
          ∀ tokenDigest challenge,
            action.presented = some tokenDigest →
            state.database.challenges.find? tokenDigest = some challenge →
            challenge.consumedAt ≠ none → state' = state := by
  refine ⟨(reachable_linkingAuthority reached).1, ?_⟩
  intro action state' taken
  refine ⟨(identityChange_of_next taken).linksPersist, ?_⟩
  intro tokenDigest challenge presented found consumed
  exact consumed_challenge_inert taken presented found consumed

def samplePresentation (tokenDigest : ChannelLinkChallengeDigest)
    (consumedAtMillis : EpochMillis) : ConsumeTelegramChallengeStoreInput :=
  { tokenDigest := tokenDigest
    externalAccountId := sampleAccount
    correlationId := ⟨9⟩
    consumedAtMillis := consumedAtMillis }

/-- A Telegram account is linked and unlinked again. -/
def unlinkedRun : List IdentityAction :=
  [.createLink (challengeInput sampleOwner (sampleDigest 'a') 4000000),
    .consumeLink ⟨5⟩ (samplePresentation (sampleDigest 'a') 4001000),
    .createUnlink
      { challengeInput sampleOwner (sampleDigest 'b') 4002000 with
        channelIdentityId := ⟨5⟩ },
    .consumeUnlink (samplePresentation (sampleDigest 'b') 4003000)]

theorem identity_linking_authority_unlinked :
    ∃ state row unlinkedAt tokenDigest challenge,
      identitySystem.Reachable state ∧
      state.database.identities.find? ⟨5⟩ = some row ∧
        row.unlinkedAt = some unlinkedAt ∧
          UnlinkedBy state ⟨5⟩ row unlinkedAt tokenDigest challenge := by
  obtain ⟨state, reached, tested⟩ := System.exists_reachable_of_run
    unlinkedRun
    (fun state => (state.database.identities.find? ⟨5⟩).any
      (fun row => row.unlinkedAt.isSome))
    (show identitySystem.Initial sampleIdentityStart from ⟨_, _, rfl⟩)
    (by decide +kernel)
  obtain ⟨row, found, unlinked⟩ := (Option.any_eq_true _ _).mp tested
  obtain ⟨unlinkedAt, ended⟩ := Option.isSome_iff_exists.mp unlinked
  obtain ⟨tokenDigest, challenge, recorded⟩ :=
    (identity_linking_authority reached).1.unlinked _ _ _ found ended
  exact ⟨state, row, unlinkedAt, tokenDigest, challenge, reached, found, ended,
    recorded⟩

end Authority

section Resolution

/-- Every linked account has one active identity at most, and all identities
belong to a user who owns their ledger. -/
structure Resolvable (db : IdentityDatabase) : Prop where
  single : SingleActive db
  owned : ∀ channelIdentityId row,
    db.identities.find? channelIdentityId = some row →
    db.owns row.userId row.ledgerId = true

variable {state state' : IdentityState} {db db' : IdentityDatabase}
  {externalAccountId : TelegramExternalAccountId}
  {correlationId : CorrelationId}

/-- A link requires the owner of its challenge, and nothing deletes one. -/
theorem IdentityChange.owned_preserved (change : IdentityChange state state')
    (owned : ∀ channelIdentityId row,
      state.database.identities.find? channelIdentityId = some row →
      state.database.owns row.userId row.ledgerId = true)
    (channelIdentityId : ChannelIdentityId) (row : ChannelIdentityRow)
    (found : state'.database.identities.find? channelIdentityId = some row) :
    state'.database.owns row.userId row.ledgerId = true := by
  cases change with
  | unchanged | challengeCreated | challengeWasted =>
      exact owned channelIdentityId row found
  | @linked input generated challenge fresh _ _ _ _ _ present =>
      have pushed : (state.database.identities.push generated
        (challenge.linkedIdentity input) fresh).find? channelIdentityId =
          some row := found
      rw [Table.find?_push] at pushed
      split at pushed
      · cases pushed
        exact present
      · exact owned channelIdentityId row pushed
  | @unlinked input target =>
      have modified : (state.database.identities.modify target _).find?
        channelIdentityId = some row := found
      rcases Table.find?_modify_cases modified with
        ⟨_, before, present, rfl⟩ | ⟨_, unmodified⟩
      · exact owned target before present
      · exact owned channelIdentityId row unmodified

theorem Resolvable.changed (resolvable : Resolvable db)
    (changed : TablesChange db db') : Resolvable db' := by
  obtain ⟨state, state', change, rfl, rfl⟩ := changed
  exact
    { single := change.singleActive_preserved resolvable.single
      owned := change.owned_preserved resolvable.owned }

/-- All entries of the partial index for one account are the same. -/
theorem SingleActive.active_eq (single : SingleActive db)
    {left right : ChannelIdentityId × ChannelIdentityRow}
    (first : left ∈ db.activeIdentities externalAccountId)
    (second : right ∈ db.activeIdentities externalAccountId) :
    left = right := by
  obtain ⟨leftFound, leftLinks⟩ := Table.mem_select.mp first
  obtain ⟨rightFound, rightLinks⟩ := Table.mem_select.mp second
  simp only [ChannelIdentityRow.links, Bool.and_eq_true, decide_eq_true_eq,
    Option.isNone_iff_eq_none] at leftLinks rightLinks
  have same : left.1 = right.1 :=
    single _ _ _ _ leftFound rightFound leftLinks.2 rightLinks.2
      (leftLinks.1.trans rightLinks.1.symm)
  rw [same, rightFound] at leftFound
  exact Prod.ext same (Option.some.inj leftFound).symm

theorem Resolvable.activeIdentities_eq_nil (resolvable : Resolvable db)
    (resolved : db.resolveTelegramActor externalAccountId correlationId =
      none) : db.activeIdentities externalAccountId = [] := by
  by_contra active
  obtain ⟨entry, member⟩ := List.exists_mem_of_ne_nil _ active
  have distinct : (db.activeIdentities externalAccountId).Nodup :=
    List.Nodup.of_map Prod.fst (Table.select_keys_nodup _ _)
  have alone : db.activeIdentities externalAccountId = [entry] := by
    apply List.perm_singleton.mp
    apply (List.perm_ext_iff_of_nodup distinct (List.nodup_singleton _)).mpr
    intro other
    constructor
    · intro listed
      exact List.mem_singleton.mpr (resolvable.single.active_eq listed member)
    · intro same
      exact List.mem_singleton.mp same ▸ member
  obtain ⟨found, _⟩ := Table.mem_select.mp member
  have owned := resolvable.owned _ _ found
  have user : (db.users.find? entry.2.userId).isSome = true := by
    rw [owns, Bool.and_eq_true] at owned
    exact owned.1
  obtain ⟨row, present⟩ := Option.isSome_iff_exists.mp user
  simp [resolveTelegramActor, alone, owned, joinActor, present] at resolved

end Resolution

end XpensGo
