import XpensGo.Channel.Execution
import XpensGo.Channel.Publication

/-!
# Publication leases

A claim of a message ends only when its lease expires, when its holder releases
it, when the message is published and its receipt is overdue, or when an
operator recovers it.  Until then no other claim returns the message.
-/

namespace XpensGo

open Postgres Relational Transition ChannelDatabase

/-- Every claim in the run allows the same number of attempts. -/
def FixedAttempts (maximumAttempts : Nat) (_ : PublicationState) :
    PublicationAction → Prop
  | .claimPending _ input _ => input.maximumAttempts = maximumAttempts
  | .create _ _ _ _ _ _ | .writeOthers _ | .markPublished _ _
  | .recordPublicationFailure _ _ | .recordConsumption _ _
  | .recoverFailedPublication _ _ => True

instance (maximumAttempts : Nat) (state : PublicationState)
    (action : PublicationAction) :
    Decidable (FixedAttempts maximumAttempts state action) :=
  match action with
  | .claimPending _ input _ =>
      inferInstanceAs (Decidable (input.maximumAttempts = maximumAttempts))
  | .create _ _ _ _ _ _ | .writeOthers _ | .markPublished _ _
  | .recordPublicationFailure _ _ | .recordConsumption _ _
  | .recoverFailedPublication _ _ => inferInstanceAs (Decidable True)

/-- The transactions that end a claim of a message: one that reads a clock past
the lease, the release by its holder, the return of the published message
without a receipt, and its recovery. -/
inductive EndsClaim (message : ClaimedOutboxPublication)
    (claimedUntil : Timestamp) (state : PublicationState) :
    PublicationAction → Prop where
  | leaseExpired {clock : DatabaseClock} {input : ClaimPendingOutboxInput}
      {generated : OutboxMessageId → OutboxClaimId} :
      claimedUntil ≤ clock.currentTimestamp →
      EndsClaim message claimedUntil state
        (.claimPending clock input generated)
  | released {clock : DatabaseClock}
      {input : RecordOutboxPublicationFailureInput} :
      input.outboxMessageId = message.outboxMessageId →
      input.claimId = message.claimId →
      state.database.publicationHeld input.toMarkOutboxPublishedInput =
        true →
      EndsClaim message claimedUntil state
        (.recordPublicationFailure clock input)
  | receiptOverdue {clock : DatabaseClock} {input : ClaimPendingOutboxInput}
      {generated : OutboxMessageId → OutboxClaimId} {row : OutboxMessageRow}
      {publishedAt : Timestamp} :
      state.database.outbox.find? message.outboxMessageId = some row →
      row.status = .published →
      row.publishedAt = some publishedAt →
      publishedAt ≤
        clock.currentTimestamp.addSeconds (-input.receiptTimeoutSeconds) →
      state.database.receipts.find? message.outboxMessageId = none →
      EndsClaim message claimedUntil state
        (.claimPending clock input generated)
  | recovered {clock : DatabaseClock} {row : OutboxMessageRow} :
      state.database.outbox.find? message.outboxMessageId = some row →
      row.status = .failed →
      state.database.receipts.find? message.outboxMessageId = none →
      EndsClaim message claimedUntil state
        (.recoverFailedPublication clock message.outboxMessageId)

section Attempts

variable {state : PublicationState} {maximumAttempts : Nat}

/-- No claim exceeds the attempts that it allows. -/
theorem MessageStep.publishAttempts_le {db : ChannelDatabase}
    {outboxMessageId : OutboxMessageId} {action : PublicationAction}
    {row row' : OutboxMessageRow} {claims claims' : Nat}
    (step : MessageStep db outboxMessageId action row claims row' claims')
    (permitted : FixedAttempts maximumAttempts state action)
    (within : row.publishAttempts ≤ maximumAttempts) :
    row'.publishAttempts ≤ maximumAttempts := by
  cases step with
  | kept => exact within
  | refreshed =>
      rw [OutboxMessageRow.refreshed_publishAttempts]
      exact within
  | claimed claimable =>
      simp only [OutboxMessageRow.claimable, Bool.and_eq_true,
        decide_eq_true_eq] at claimable
      have fixed : _ = maximumAttempts := permitted
      have below := claimable.1.1.2
      rw [fixed] at below
      exact below
  | published => exact within
  | failed => exact within
  | recovered => exact Nat.zero_le _

theorem reachableWhere_publishAttempts_le
    (reached : publicationSystem.ReachableWhere
      (FixedAttempts maximumAttempts) state) :
    ∀ outboxMessageId row,
      state.database.outbox.find? outboxMessageId = some row →
      row.publishAttempts ≤ maximumAttempts := by
  refine System.ReachableWhere.invariant (I := fun state =>
    ∀ outboxMessageId row,
      state.database.outbox.find? outboxMessageId = some row →
      row.publishAttempts ≤ maximumAttempts) ?_ ?_ reached
  · rintro state ⟨outbox, _, _⟩ outboxMessageId row found
    rw [outbox] at found
    cases found
  · intro state action state' earlier within permitted taken outboxMessageId
      row' found'
    have step := reachable_messagesStep earlier.reachable taken
    cases found : state.database.outbox.find? outboxMessageId with
    | none =>
        have created := (step.absent outboxMessageId found).2 row' found'
        rw [created.2]
        exact Nat.zero_le _
    | some row =>
        obtain ⟨written, present, wrote⟩ :=
          step.present outboxMessageId row found
        obtain rfl := Option.some.inj (present.symm.trans found')
        exact wrote.publishAttempts_le permitted
          (within outboxMessageId row found)

end Attempts

section Claims

variable {message : ClaimedOutboxPublication} {claimedUntil : Timestamp}
  {state state' : PublicationState} {action : PublicationAction}

/-- While a claim has not ended, its message is held by it or published. -/
def ClaimOpen (message : ClaimedOutboxPublication)
    (claimedUntil : Timestamp) (state : PublicationState) : Prop :=
  ∃ row, state.database.outbox.find? message.outboxMessageId = some row ∧
    (row.status = .published ∨
      row.status = .pending ∧ row.publishClaimId = some message.claimId ∧
        row.publishClaimedUntil = some claimedUntil)

private theorem unclaimed_of_claimedUntil {clock : DatabaseClock}
    {row : OutboxMessageRow} (unclaimed : row.unclaimed clock = true)
    (leased : row.publishClaimedUntil = some claimedUntil) :
    claimedUntil ≤ clock.currentTimestamp := by
  simpa [OutboxMessageRow.unclaimed, leased] using unclaimed

/-- A message held by an open claim is refreshed to itself or to a published
message, unless the lease has expired. -/
private theorem refreshed_of_held {clock : DatabaseClock}
    {input : ClaimPendingOutboxInput} {receipt : Option OutboxReceiptRow}
    {row : OutboxMessageRow} (pending : row.status = .pending)
    (leased : row.publishClaimedUntil = some claimedUntil)
    (current : ¬ claimedUntil ≤ clock.currentTimestamp) :
    row.refreshed clock input receipt = row ∨
      (row.refreshed clock input receipt).status = .published := by
  cases receipt with
  | none =>
      left
      have stillHeld : row.spent clock input = false := by
        apply Bool.eq_false_iff.mpr
        intro spent
        simp only [OutboxMessageRow.spent, Bool.and_eq_true] at spent
        exact current (unclaimed_of_claimedUntil spent.2 leased)
      simp [OutboxMessageRow.refreshed, OutboxMessageRow.reconciled,
        OutboxMessageRow.returned, OutboxMessageRow.overdue,
        OutboxMessageRow.exhausted, pending, stillHeld]
  | some receipt =>
      right
      simp [OutboxMessageRow.refreshed, OutboxMessageRow.reconciled,
        OutboxMessageRow.returned, OutboxMessageRow.overdue,
        OutboxMessageRow.exhausted, OutboxMessageRow.spent,
        OutboxMessageRow.reconcile, pending]

/-- A published message is refreshed to itself, unless its receipt is
overdue. -/
private theorem refreshed_of_published {clock : DatabaseClock}
    {input : ClaimPendingOutboxInput} {receipt : Option OutboxReceiptRow}
    {row : OutboxMessageRow} (published : row.status = .published)
    (onTime : row.overdue clock input receipt = false) :
    row.refreshed clock input receipt = row := by
  have reconciliation : row.reconciled receipt = row := by
    unfold OutboxMessageRow.reconciled
    split
    · rw [if_pos published]
    · rfl
  have unspent : row.spent clock input = false := by
    simp [OutboxMessageRow.spent, published]
  simp [OutboxMessageRow.refreshed, reconciliation,
    OutboxMessageRow.returned, onTime, OutboxMessageRow.exhausted, unspent]

private theorem overdue_cases {clock : DatabaseClock}
    {input : ClaimPendingOutboxInput} {receipt : Option OutboxReceiptRow}
    {row : OutboxMessageRow}
    (overdue : row.overdue clock input receipt = true) :
    ∃ publishedAt, row.publishedAt = some publishedAt ∧
      publishedAt ≤ clock.currentTimestamp.addSeconds
        (-input.receiptTimeoutSeconds) ∧ receipt = none := by
  simp only [OutboxMessageRow.overdue, Bool.and_eq_true, Option.any_eq_true,
    decide_eq_true_eq, Option.isNone_iff_eq_none] at overdue
  obtain ⟨⟨_, publishedAt, stored, late⟩, unconsumed⟩ := overdue
  exact ⟨publishedAt, stored, late, unconsumed⟩

/-- A claim that does not end an open claim refreshes its message to an open
one, which is not claimable. -/
private theorem refreshed_of_open {row : OutboxMessageRow}
    {clock : DatabaseClock} {input : ClaimPendingOutboxInput}
    {generated : OutboxMessageId → OutboxClaimId}
    (found : state.database.outbox.find? message.outboxMessageId = some row)
    (held : row.status = .published ∨
      row.status = .pending ∧ row.publishClaimId = some message.claimId ∧
        row.publishClaimedUntil = some claimedUntil)
    (continues : ¬ EndsClaim message claimedUntil state
      (.claimPending clock input generated)) :
    row.refreshed clock input
        (state.database.receipts.find? message.outboxMessageId) = row ∨
      (row.refreshed clock input
        (state.database.receipts.find?
          message.outboxMessageId)).status = .published := by
  rcases held with published | ⟨pending, _, leased⟩
  · left
    apply refreshed_of_published published
    apply Bool.eq_false_iff.mpr
    intro overdue
    obtain ⟨publishedAt, stored, late, unconsumed⟩ := overdue_cases overdue
    exact continues
      (.receiptOverdue found published stored late unconsumed)
  · exact refreshed_of_held pending leased
      (fun expired => continues (.leaseExpired expired))

private theorem not_claimable_of_open {row : OutboxMessageRow}
    {clock : DatabaseClock} {input : ClaimPendingOutboxInput}
    {generated : OutboxMessageId → OutboxClaimId}
    (found : state.database.outbox.find? message.outboxMessageId = some row)
    (held : row.status = .published ∨
      row.status = .pending ∧ row.publishClaimId = some message.claimId ∧
        row.publishClaimedUntil = some claimedUntil)
    (continues : ¬ EndsClaim message claimedUntil state
      (.claimPending clock input generated)) :
    (row.refreshed clock input (state.database.receipts.find?
      message.outboxMessageId)).claimable clock input ≠ true := by
  intro claimable
  have pending := OutboxMessageRow.claimable_pending claimable
  rcases refreshed_of_open found held continues with same | published
  · rw [same] at pending claimable
    rcases held with published | ⟨_, _, leased⟩
    · rw [pending] at published
      cases published
    · simp only [OutboxMessageRow.claimable, Bool.and_eq_true] at claimable
      exact continues (.leaseExpired
        (unclaimed_of_claimedUntil claimable.2 leased))
  · rw [pending] at published
    cases published

theorem ClaimOpen.step (claimOpen : ClaimOpen message claimedUntil state)
    (step : MessagesStep state action state') :
    EndsClaim message claimedUntil state action ∨
      ClaimOpen message claimedUntil state' := by
  by_cases ended : EndsClaim message claimedUntil state action
  · exact .inl ended
  · right
    obtain ⟨row, found, held⟩ := claimOpen
    obtain ⟨row', found', wrote⟩ :=
      step.present message.outboxMessageId row found
    refine ⟨row', found', ?_⟩
    generalize claimsSinceRecovery message.outboxMessageId state.history =
      claims at wrote
    generalize claimsSinceRecovery message.outboxMessageId state'.history =
      claims' at wrote
    cases wrote with
    | kept => exact held
    | refreshed =>
        rcases refreshed_of_open found held ended with same | published
        · rw [same]
          exact held
        · exact .inl published
    | claimed claimable =>
        exact (not_claimable_of_open found held ended claimable).elim
    | published => exact .inl rfl
    | @failed clock input _ _ sameMessage pending claim =>
        have sameClaim : input.claimId = message.claimId := by
          rcases held with published | ⟨_, holder, _⟩
          · rw [pending] at published
            cases published
          · exact Option.some.inj (claim.symm.trans holder)
        refine (ended (.released sameMessage sameClaim ?_)).elim
        simp [publicationHeld, sameMessage, found, pending, claim]
    | recovered failed unconsumed =>
        exact (ended (.recovered found failed unconsumed)).elim

/-- A claim opens for every message that it returns. -/
theorem claimOpen_of_returned (reached : publicationSystem.Reachable state)
    {clock : DatabaseClock} {input : ClaimPendingOutboxInput}
    {generated : OutboxMessageId → OutboxClaimId}
    (returned : message ∈ state.returned clock input generated)
    (taken : publicationSystem.next state
      (.claimPending clock input generated) = some state') :
    ClaimOpen message
      (clock.currentTimestamp.addSeconds input.leaseDurationSeconds)
      state' := by
  obtain ⟨database, effect, committed⟩ := next_claimPending
    (reachable_publicationSound reached).legal clock input generated
  obtain rfl := Option.some.inj (committed.symm.trans taken)
  obtain ⟨claimId, row, found, claimable⟩ := effect.returned message returned
  have written := effect.rows message.outboxMessageId row found
  rw [if_pos (List.mem_map_of_mem returned)] at written
  refine ⟨_, written, .inr ⟨?_, ?_, rfl⟩⟩
  · have pending := OutboxMessageRow.claimable_pending claimable
    exact pending
  · rw [claimId]
    rfl

/-- No claim returns a message while another claim of it is open. -/
theorem ClaimOpen.endsClaim (reached : publicationSystem.Reachable state)
    (claimOpen : ClaimOpen message claimedUntil state)
    {clock : DatabaseClock} {input : ClaimPendingOutboxInput}
    {generated : OutboxMessageId → OutboxClaimId}
    {again : ClaimedOutboxPublication}
    (returned : again ∈ state.returned clock input generated)
    (same : again.outboxMessageId = message.outboxMessageId) :
    EndsClaim message claimedUntil state
      (.claimPending clock input generated) := by
  obtain ⟨_, effect, _⟩ := next_claimPending
    (reachable_publicationSound reached).legal clock input generated
  obtain ⟨_, row, found, claimable⟩ := effect.returned again returned
  rw [same] at found claimable
  obtain ⟨held, heldFound, holds⟩ := claimOpen
  obtain rfl := Option.some.inj (found.symm.trans heldFound)
  by_contra continues
  exact not_claimable_of_open found holds continues claimable

/-- Two claims return one message only if the first of them has ended. -/
theorem reclaim_after_endsClaim (reached : publicationSystem.Reachable state)
    {clock laterClock : DatabaseClock}
    {input laterInput : ClaimPendingOutboxInput}
    {generated laterGenerated : OutboxMessageId → OutboxClaimId}
    {labels : List PublicationAction} {later : PublicationState}
    {again : ClaimedOutboxPublication}
    (returned : message ∈ state.returned clock input generated)
    (taken : publicationSystem.next state
      (.claimPending clock input generated) = some state')
    (ran : publicationSystem.run state' labels = some later)
    (returnedAgain :
      again ∈ later.returned laterClock laterInput laterGenerated)
    (same : again.outboxMessageId = message.outboxMessageId) :
    publicationSystem.SomeStep
      (EndsClaim message
        (clock.currentTimestamp.addSeconds input.leaseDurationSeconds))
      state'
      (labels ++ [.claimPending laterClock laterInput laterGenerated]) := by
  have claimOpen := claimOpen_of_returned reached returned taken
  have reached' := reached.step taken
  rcases System.run_preserves_or_someStep
      (fun _ _ _ earlier held step =>
        held.step (reachable_messagesStep earlier step))
      reached' claimOpen ran with ended | stillOpen
  · exact ended.append _
  · exact .of_last ran
      (stillOpen.endsClaim (reached'.run ran) returnedAgain same)

end Claims

section Leases

variable {state : PublicationState} {maximumAttempts : Nat}

private theorem not_held_of_claim {db : ChannelDatabase}
    {input : MarkOutboxPublishedInput}
    (stale : ∀ row, db.outbox.find? input.outboxMessageId = some row →
      row.publishClaimId ≠ some input.claimId) :
    db.publicationHeld input = false := by
  apply Bool.eq_false_iff.mpr
  intro held
  obtain ⟨row, found, _, claim⟩ := publicationHeld_iff.mp held
  exact stale row found claim

private theorem resolveClaimTransition_unchanged {db : ChannelDatabase}
    {operation : ChannelOperation} {outboxMessageId : OutboxMessageId}
    {transaction : ChannelDatabase →
      Except ChannelStoreFailure (Unit × ChannelDatabase)}
    (resolved : transaction db =
      db.resolveClaimTransition operation outboxMessageId) :
    (withTransaction transaction db).2 = db := by
  rcases withTransaction_cases transaction db with
    ⟨_, _, failed⟩ | ⟨outcome, db', ran, committed⟩
  · rw [failed]
  · rw [resolved] at ran
    rw [committed, resolveClaimTransition_eq_ok ran]

/-- In every run whose claims allow the same number of attempts: the attempts
of a message count its claims and keep the limit, every row is legal, a message
is claimed again only after its claim has ended, a stale dispatcher writes
nothing, and no claim aborts. -/
theorem publication_leases_kept
    (reached : publicationSystem.ReachableWhere
      (FixedAttempts maximumAttempts) state) :
    (∀ outboxMessageId row,
      state.database.outbox.find? outboxMessageId = some row →
      row.publishAttempts ≤ maximumAttempts ∧
        row.publishAttempts =
          claimsSinceRecovery outboxMessageId state.history ∧
        row.check = true) ∧
      (∀ clock input generated message state' labels later laterClock
          laterInput laterGenerated again,
        message ∈ state.returned clock input generated →
        publicationSystem.next state (.claimPending clock input generated) =
          some state' →
        publicationSystem.run state' labels = some later →
        again ∈ later.returned laterClock laterInput laterGenerated →
        again.outboxMessageId = message.outboxMessageId →
        publicationSystem.SomeStep
          (EndsClaim message
            (clock.currentTimestamp.addSeconds input.leaseDurationSeconds))
          state'
          (labels ++
            [.claimPending laterClock laterInput laterGenerated])) ∧
      (∀ clock (input : MarkOutboxPublishedInput),
        (∀ row, state.database.outbox.find? input.outboxMessageId =
            some row → row.publishClaimId ≠ some input.claimId) →
        (withTransaction (markOutboxPublished clock input)
          state.database).2 = state.database) ∧
      (∀ clock (input : RecordOutboxPublicationFailureInput),
        (∀ row, state.database.outbox.find? input.outboxMessageId =
            some row → row.publishClaimId ≠ some input.claimId) →
        (withTransaction (recordOutboxPublicationFailure clock input)
          state.database).2 = state.database) ∧
      ∀ clock input generated, ∃ claimed database,
        claimPendingOutbox clock input generated state.database =
          .ok (claimed, database) := by
  have sound := reachable_publicationSound reached.reachable
  refine ⟨?_, ?_, ?_, ?_, ?_⟩
  · intro outboxMessageId row found
    exact ⟨reachableWhere_publishAttempts_le reached outboxMessageId row found,
      sound.counted outboxMessageId row found,
      sound.legal outboxMessageId row found⟩
  · intro clock input generated message state' labels later laterClock
      laterInput laterGenerated again returned taken ran returnedAgain same
    exact reclaim_after_endsClaim reached.reachable returned taken ran
      returnedAgain same
  · intro clock input stale
    apply resolveClaimTransition_unchanged
    rw [markOutboxPublished, not_held_of_claim stale]
    rfl
  · intro clock input stale
    apply resolveClaimTransition_unchanged
    rw [recordOutboxPublicationFailure, not_held_of_claim stale]
    rfl
  · intro clock input generated
    exact ⟨_, _, sound.legal.claimPendingOutbox_eq_ok generated⟩

end Leases

section Samples

/-- Tables without a message. -/
def samplePublicationStart : PublicationState :=
  { database := { identity := sampleIdentityStart.database } }

def samplePublication : OutboxMessageId := ⟨201⟩

/-- A dispatcher disappears, and its message is claimed again after the
lease. -/
def reclaimedRun : List PublicationAction :=
  [.create (channelClock 5000000) samplePublication ⟨101⟩ none
      .channelEventReceived ⟨9⟩,
    .claimPending (channelClock 5000000) dispatchClaimInput
      (fun other => other),
    .claimPending (channelClock 5060000) dispatchClaimInput
      (fun _ => ⟨700⟩),
    .claimPending (channelClock 5120000) dispatchClaimInput
      (fun _ => ⟨701⟩)]

/-- Both claims of the message are counted. -/
theorem publication_leases_kept_reclaimed :
    ∃ state row, publicationSystem.ReachableWhere (FixedAttempts 5) state ∧
      state.database.outbox.find? samplePublication = some row ∧
        row.publishAttempts = 2 ∧ row.publishAttempts ≤ 5 ∧
          claimsSinceRecovery samplePublication state.history = 2 ∧
            row.check = true := by
  obtain ⟨state, reached, tested⟩ := System.exists_reachableWhere_of_run
    reclaimedRun
    (fun state action => decide (FixedAttempts 5 state action))
    (fun state => (state.database.outbox.find? samplePublication).any
      (fun row => row.publishAttempts = 2))
    (fun _ _ permitted => of_decide_eq_true permitted)
    (show publicationSystem.Initial samplePublicationStart from
      ⟨rfl, rfl, rfl⟩) (by decide +kernel)
  obtain ⟨row, found, claimed⟩ := (Option.any_eq_true _ _).mp tested
  have twice := of_decide_eq_true claimed
  obtain ⟨within, counted, legal⟩ :=
    (publication_leases_kept reached).1 samplePublication row found
  exact ⟨state, row, reached, found, twice, within, counted ▸ twice, legal⟩

end Samples

end XpensGo
