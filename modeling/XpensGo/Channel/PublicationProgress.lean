import XpensGo.Channel.Execution
import XpensGo.Channel.Publication
import Mathlib.Tactic.Linarith

/-!
# Progress of publication

A message with a receipt is published by the next claim and never dispatched
again.  A message without one is never out of reach: once its times have
passed, one claim leases it or fails it, and a failed message can be returned
by an operator.
-/

namespace XpensGo

open Postgres Relational Transition ChannelDatabase

namespace OutboxMessageRow

variable {row : OutboxMessageRow} {clock : DatabaseClock}
  {input : ClaimPendingOutboxInput}

/-- Reconciliation comes first, so a receipt decides what a claim makes of a
message. -/
theorem refreshed_of_receipt (receipt : OutboxReceiptRow) :
    (row.refreshed clock input (some receipt)).status = .published := by
  have published : (row.reconciled (some receipt)).status = .published := by
    by_cases already : row.status = .published
    · simp [reconciled, already]
    · simp [reconciled, already, reconcile]
  simp [refreshed, returned, overdue, exhausted, spent, published]

/-- A free pending message without a receipt has used its attempts or only
waits for its time. -/
theorem refreshed_of_pending (pending : row.status = .pending)
    (free : row.unclaimed clock = true)
    (due : row.nextPublishAttemptAt ≤ clock.currentTimestamp) :
    (row.refreshed clock input none).status = .failed ∨
      (row.refreshed clock input none).claimable clock input = true := by
  have kept : (row.reconciled none).returned clock input none = row := by
    simp [reconciled, returned, overdue, pending]
  by_cases spent : input.maximumAttempts ≤ row.publishAttempts
  · left
    simp [refreshed, kept, exhausted, OutboxMessageRow.spent, pending, free,
      spent, exhaustPublication]
  · right
    have within := Nat.lt_of_not_le spent
    simp [refreshed, kept, exhausted, OutboxMessageRow.spent, pending, free,
      spent, claimable, within, due]

/-- A published message whose receipt is overdue is failed or claimable at
once. -/
theorem refreshed_of_overdue
    (overdue : row.overdue clock input none = true) :
    (row.refreshed clock input none).status = .failed ∨
      (row.refreshed clock input none).claimable clock input = true := by
  have stalled : (row.reconciled none).returned clock input none =
      row.stall clock input.maximumAttempts := by
    simp [reconciled, returned, overdue]
  by_cases spent : input.maximumAttempts ≤ row.publishAttempts
  · left
    simp [refreshed, stalled, exhausted, OutboxMessageRow.spent, stall, spent]
  · right
    have within := Nat.lt_of_not_le spent
    simp [refreshed, stalled, exhausted, OutboxMessageRow.spent, stall, spent,
      claimable, within, unclaimed]

end OutboxMessageRow

section Receipts

variable {state state' : PublicationState} {action : PublicationAction}
  {outboxMessageId : OutboxMessageId}

/-- A message that was consumed and that some claim has found so. -/
def Acknowledged (outboxMessageId : OutboxMessageId)
    (state : PublicationState) : Prop :=
  (state.database.receipts.find? outboxMessageId).isSome = true ∧
    ∃ row, state.database.outbox.find? outboxMessageId = some row ∧
      row.status = .published

theorem not_returned_of_receipt (reached : publicationSystem.Reachable state)
    (consumed :
      (state.database.receipts.find? outboxMessageId).isSome = true)
    {clock : DatabaseClock} {input : ClaimPendingOutboxInput}
    {generated : OutboxMessageId → OutboxClaimId}
    {message : ClaimedOutboxPublication}
    (returned : message ∈ state.returned clock input generated) :
    message.outboxMessageId ≠ outboxMessageId := by
  rintro rfl
  obtain ⟨_, effect, _⟩ := next_claimPending
    (reachable_publicationSound reached).legal clock input generated
  obtain ⟨_, row, _, claimable⟩ := effect.returned message returned
  obtain ⟨receipt, received⟩ := Option.isSome_iff_exists.mp consumed
  have pending := OutboxMessageRow.claimable_pending claimable
  rw [received, OutboxMessageRow.refreshed_of_receipt] at pending
  cases pending

/-- A claim publishes every message that was consumed. -/
theorem acknowledged_of_claim (reached : publicationSystem.Reachable state)
    (consumed :
      (state.database.receipts.find? outboxMessageId).isSome = true)
    {clock : DatabaseClock} {input : ClaimPendingOutboxInput}
    {generated : OutboxMessageId → OutboxClaimId}
    (taken : publicationSystem.next state
      (.claimPending clock input generated) = some state') :
    Acknowledged outboxMessageId state' := by
  have sound := reachable_publicationSound reached
  obtain ⟨database, effect, committed⟩ :=
    next_claimPending sound.legal clock input generated
  obtain rfl := Option.some.inj (committed.symm.trans taken)
  obtain ⟨row, found⟩ :=
    Option.isSome_iff_exists.mp (sound.consumed outboxMessageId consumed)
  have written := effect.rows outboxMessageId row found
  have unreturned : outboxMessageId ∉
      (state.returned clock input generated).map (·.outboxMessageId) := by
    intro member
    obtain ⟨message, returned, same⟩ := List.mem_map.mp member
    exact not_returned_of_receipt reached consumed returned same
  rw [if_neg unreturned] at written
  obtain ⟨receipt, received⟩ := Option.isSome_iff_exists.mp consumed
  refine ⟨?_, _, written, ?_⟩
  · rw [effect.receipts]
    exact consumed
  · rw [received]
    exact OutboxMessageRow.refreshed_of_receipt receipt

theorem Acknowledged.step (acknowledged : Acknowledged outboxMessageId state)
    (step : MessagesStep state action state') :
    Acknowledged outboxMessageId state' := by
  obtain ⟨consumed, row, found, published⟩ := acknowledged
  obtain ⟨row', found', wrote⟩ := step.present outboxMessageId row found
  refine ⟨step.receipts outboxMessageId consumed, row', found', ?_⟩
  obtain ⟨receipt, received⟩ := Option.isSome_iff_exists.mp consumed
  generalize claimsSinceRecovery outboxMessageId state.history = claims at wrote
  generalize claimsSinceRecovery outboxMessageId state'.history =
    claims' at wrote
  cases wrote with
  | kept => exact published
  | refreshed =>
      rw [received]
      exact OutboxMessageRow.refreshed_of_receipt receipt
  | claimed claimable =>
      have pending := OutboxMessageRow.claimable_pending claimable
      rw [received, OutboxMessageRow.refreshed_of_receipt] at pending
      cases pending
  | published => rfl
  | failed _ pending _ =>
      rw [pending] at published
      cases published
  | recovered failed _ =>
      rw [failed] at published
      cases published

end Receipts

section Progress

variable {state : PublicationState} {outboxMessageId : OutboxMessageId}
  {row : OutboxMessageRow} {clock : DatabaseClock}
  {input : ClaimPendingOutboxInput}
  {generated : OutboxMessageId → OutboxClaimId}

/-- The times of a message that the database clock has to pass. -/
structure PublicationDue (clock : DatabaseClock)
    (input : ClaimPendingOutboxInput) (row : OutboxMessageRow) : Prop where
  nextAttempt : row.nextPublishAttemptAt ≤ clock.currentTimestamp
  lease : ∀ claimedUntil, row.publishClaimedUntil = some claimedUntil →
    claimedUntil ≤ clock.currentTimestamp
  receiptTimeout : ∀ publishedAt, row.publishedAt = some publishedAt →
    publishedAt.addSeconds input.receiptTimeoutSeconds ≤
      clock.currentTimestamp

/-- Nothing that is due stays out of reach of a claim: the cases are the two
statuses, since a legal published message has its time of publication. -/
theorem PublicationDue.refreshed (due : PublicationDue clock input row)
    (legal : row.check = true)
    (outstanding : row.status = .pending ∨ row.status = .published) :
    (row.refreshed clock input none).status = .failed ∨
      (row.refreshed clock input none).claimable clock input = true := by
  rcases outstanding with pending | published
  · refine OutboxMessageRow.refreshed_of_pending pending ?_ due.nextAttempt
    cases leased : row.publishClaimedUntil with
    | none => simp [OutboxMessageRow.unclaimed, leased]
    | some claimedUntil =>
        have passed := due.lease claimedUntil leased
        simp [OutboxMessageRow.unclaimed, leased, passed]
  · apply OutboxMessageRow.refreshed_of_overdue
    obtain ⟨publishedAt, stored⟩ := Option.isSome_iff_exists.mp
      (OutboxMessageRow.check_published legal published).1
    have passed := due.receiptTimeout publishedAt stored
    have late : publishedAt ≤ clock.currentTimestamp.addSeconds
        (-input.receiptTimeoutSeconds) := by
      unfold Timestamp.addSeconds at passed ⊢
      linarith
    simp [OutboxMessageRow.overdue, published, stored, late]

theorem claim_reaches (reached : publicationSystem.Reachable state)
    (found : state.database.outbox.find? outboxMessageId = some row)
    (unconsumed : state.database.receipts.find? outboxMessageId = none)
    (outstanding : row.status = .pending ∨ row.status = .published)
    (due : PublicationDue clock input row)
    (within : (state.database.eligiblePublications clock input).length ≤
      input.limit) {state' : PublicationState}
    (taken : publicationSystem.next state
      (.claimPending clock input generated) = some state') :
    outboxMessageId ∈
        (state.returned clock input generated).map (·.outboxMessageId) ∨
      ∃ row', state'.database.outbox.find? outboxMessageId = some row' ∧
        row'.status = .failed := by
  have legal := (reachable_publicationSound reached).legal
  obtain ⟨database, effect, committed⟩ :=
    next_claimPending legal clock input generated
  obtain rfl := Option.some.inj (committed.symm.trans taken)
  have claimedOrFailed := due.refreshed (legal outboxMessageId row found)
    outstanding
  rw [← unconsumed] at claimedOrFailed
  by_cases returned : outboxMessageId ∈
      (state.returned clock input generated).map (·.outboxMessageId)
  · exact .inl returned
  · right
    have written := effect.rows outboxMessageId row found
    rw [if_neg returned] at written
    rcases claimedOrFailed with failed | claimable
    · exact ⟨_, written, failed⟩
    · exact (returned
        (effect.eligible within outboxMessageId row found claimable)).elim

/-- An operator can return every failed message that was not consumed. -/
theorem recover_reaches
    (found : state.database.outbox.find? outboxMessageId = some row)
    (failed : row.status = .failed)
    (unconsumed : state.database.receipts.find? outboxMessageId = none)
    (clock : DatabaseClock) :
    recoverFailedOutboxPublication clock outboxMessageId state.database =
      .ok (true, { state.database with
        outbox := state.database.outbox.modify outboxMessageId
          (OutboxMessageRow.recoverPublication clock) }) := by
  have recoverable : ((state.database.outbox.find? outboxMessageId).any
      (fun row => row.status = .failed) &&
        !state.database.hasReceipt outboxMessageId) = true := by
    simp [found, failed, hasReceipt, unconsumed]
  have updated : state.database.updateOutboxMessage outboxMessageId
      (OutboxMessageRow.recoverPublication clock) =
        some { state.database with
          outbox := state.database.outbox.modify outboxMessageId
            (OutboxMessageRow.recoverPublication clock) } :=
    updateOutboxMessage_eq_some_iff.mpr
      ⟨fun _ _ => OutboxMessageRow.check_recoverPublication, rfl⟩
  unfold recoverFailedOutboxPublication
  rw [if_pos recoverable]
  exact bind_eq_ok.mpr ⟨_, require_eq_ok.mpr updated, rfl⟩

/-- In every run, a consumed message is published by the next claim, stays so
and is never returned again; a message that is due is returned or failed by one
claim whose limit is not reached; and a failed message that was not consumed
can be recovered. -/
theorem publication_progress (reached : publicationSystem.Reachable state) :
    (∀ outboxMessageId clock input generated claimed labels later,
      (state.database.receipts.find? outboxMessageId).isSome = true →
      publicationSystem.next state (.claimPending clock input generated) =
        some claimed →
      publicationSystem.run claimed labels = some later →
      (∀ message ∈ state.returned clock input generated,
        message.outboxMessageId ≠ outboxMessageId) ∧
        (∀ laterClock laterInput laterGenerated,
          ∀ message ∈ later.returned laterClock laterInput laterGenerated,
            message.outboxMessageId ≠ outboxMessageId) ∧
        ∃ row, later.database.outbox.find? outboxMessageId = some row ∧
          row.status = .published) ∧
      (∀ outboxMessageId row clock input generated claimed,
        state.database.outbox.find? outboxMessageId = some row →
        state.database.receipts.find? outboxMessageId = none →
        row.status = .pending ∨ row.status = .published →
        PublicationDue clock input row →
        (state.database.eligiblePublications clock input).length ≤
          input.limit →
        publicationSystem.next state (.claimPending clock input generated) =
          some claimed →
        outboxMessageId ∈
            (state.returned clock input generated).map (·.outboxMessageId) ∨
          ∃ row', claimed.database.outbox.find? outboxMessageId =
              some row' ∧ row'.status = .failed) ∧
      ∀ outboxMessageId row clock,
        state.database.outbox.find? outboxMessageId = some row →
        row.status = .failed →
        state.database.receipts.find? outboxMessageId = none →
        ∃ recovered row',
          recoverFailedOutboxPublication clock outboxMessageId
              state.database = .ok (true, recovered) ∧
            recovered.outbox.find? outboxMessageId = some row' ∧
              row'.status = .pending := by
  refine ⟨?_, ?_, ?_⟩
  · intro outboxMessageId clock input generated claimed labels later consumed
      taken ran
    have acknowledged := acknowledged_of_claim reached consumed taken
    have reachedLater := (reached.step taken).run ran
    have still : Acknowledged outboxMessageId later :=
      System.run_preserves
        (fun _ _ _ earlier holds step =>
          holds.step (reachable_messagesStep earlier step))
        (reached.step taken) acknowledged ran
    refine ⟨?_, ?_, still.2⟩
    · intro message returned
      exact not_returned_of_receipt reached consumed returned
    · intro laterClock laterInput laterGenerated message returned
      exact not_returned_of_receipt reachedLater still.1 returned
  · intro outboxMessageId row clock input generated claimed found unconsumed
      outstanding due within taken
    exact claim_reaches reached found unconsumed outstanding due within taken
  · intro outboxMessageId row clock found failed unconsumed
    exact ⟨_, row.recoverPublication clock,
      recover_reaches found failed unconsumed clock, by simp [found], rfl⟩

/-- The consumer acknowledges a message before its dispatcher reports the
publication. -/
def consumedRun : List PublicationAction :=
  [.create (channelClock 5000000) ⟨201⟩ ⟨101⟩ none .channelEventReceived ⟨9⟩,
    .claimPending (channelClock 5000000) dispatchClaimInput
      (fun other => other),
    .recordConsumption (channelClock 5010000) ⟨201⟩]

/-- The next claim publishes the consumed message and does not return it. -/
theorem publication_progress_consumed :
    ∃ state claimed row, publicationSystem.Reachable state ∧
      publicationSystem.next state
          (.claimPending (channelClock 5200000) dispatchClaimInput
            (fun other => other)) = some claimed ∧
        claimed.database.outbox.find? ⟨201⟩ = some row ∧
          row.status = .published := by
  obtain ⟨state, reached, consumed⟩ := System.exists_reachable_of_run
    consumedRun
    (fun state => (state.database.receipts.find? ⟨201⟩).isSome)
    (show publicationSystem.Initial
        { database := { identity := sampleIdentityStart.database } } from
      ⟨rfl, rfl, rfl⟩) (by decide +kernel)
  obtain ⟨_, _, row, found, published⟩ := (publication_progress reached).1
    ⟨201⟩ (channelClock 5200000) dispatchClaimInput (fun other => other) _ []
    _ consumed rfl rfl
  exact ⟨state, _, row, reached, rfl, found, published⟩

end Progress

end XpensGo
