import XpensGo.Channel.OutboxRows
import XpensGo.Transition.System

/-!
# The publication of outbox messages as a transition system

Any number of dispatchers, consumers and operators, with any batch limits,
lease lengths, timeouts and clock readings.  The history holds what the calls
returned that counts as an attempt or ends the counting.
-/

namespace XpensGo

open Postgres Relational Transition ChannelDatabase

/-- A claim of a message, or its recovery by an operator. -/
inductive PublicationRecord where
  | claimed (message : ClaimedOutboxPublication)
  | recovered (outboxMessageId : OutboxMessageId)
  deriving DecidableEq, Repr

/-- A claim of the message is counted, and its recovery starts again. -/
def PublicationRecord.recount (outboxMessageId : OutboxMessageId)
    (claims : Nat) : PublicationRecord → Nat
  | .claimed message =>
      if message.outboxMessageId = outboxMessageId then claims + 1 else claims
  | .recovered other => if other = outboxMessageId then 0 else claims

/-- Claims of a message since its creation or its last recovery. -/
def claimsSinceRecovery (outboxMessageId : OutboxMessageId)
    (history : List PublicationRecord) : Nat :=
  history.foldl (PublicationRecord.recount outboxMessageId) 0

/-- The tables, with the claims and the recoveries so far. -/
structure PublicationState where
  database : ChannelDatabase
  history : List PublicationRecord := []

/-- The transactions of the outbox, and what else is written. -/
inductive PublicationAction where
  | create (clock : DatabaseClock) (outboxMessageId : OutboxMessageId)
      (inboundEventId : InboundEventId) (owner : Option LedgerOwner)
      (kind : OutboxKind) (correlationId : CorrelationId)
  | writeOthers (database : ChannelDatabase)
  | claimPending (clock : DatabaseClock) (input : ClaimPendingOutboxInput)
      (generated : OutboxMessageId → OutboxClaimId)
  | markPublished (clock : DatabaseClock) (input : MarkOutboxPublishedInput)
  | recordPublicationFailure (clock : DatabaseClock)
      (input : RecordOutboxPublicationFailureInput)
  | recordConsumption (clock : DatabaseClock)
      (outboxMessageId : OutboxMessageId)
  | recoverFailedPublication (clock : DatabaseClock)
      (outboxMessageId : OutboxMessageId)

namespace PublicationState

/-- Run a transaction and record what it returns if it commits. -/
def run {α : Type} (state : PublicationState)
    (transaction : ChannelDatabase →
      Except ChannelStoreFailure (α × ChannelDatabase))
    (records : α → List PublicationRecord) : PublicationState :=
  match withTransaction transaction state.database with
  | (.ok outcome, database) =>
      { database := database
        history := state.history ++ records outcome }
  | (.error _, database) => { state with database := database }

/-- The messages that a claim would return in this state. -/
def returned (state : PublicationState) (clock : DatabaseClock)
    (input : ClaimPendingOutboxInput)
    (generated : OutboxMessageId → OutboxClaimId) :
    List ClaimedOutboxPublication :=
  match claimPendingOutbox clock input generated state.database with
  | .ok (claimed, _) => claimed
  | .error _ => []

/-- Other transactions write the other tables, and create outbox messages by
the statement that they share. -/
def next (state : PublicationState) :
    PublicationAction → Option PublicationState
  | .create clock outboxMessageId inboundEventId owner kind correlationId =>
      some { state with
        database := (state.database.insertOutbox outboxMessageId
          (newOutboxRow clock inboundEventId owner kind correlationId)).getD
            state.database }
  | .writeOthers database =>
      some { state with
        database := { database with
          outbox := state.database.outbox
          receipts := state.database.receipts } }
  | .claimPending clock input generated =>
      some (state.run (claimPendingOutbox clock input generated)
        (·.map .claimed))
  | .markPublished clock input =>
      some (state.run (markOutboxPublished clock input) (fun _ => []))
  | .recordPublicationFailure clock input =>
      some (state.run (recordOutboxPublicationFailure clock input)
        (fun _ => []))
  | .recordConsumption clock outboxMessageId =>
      some (state.run (recordOutboxConsumption clock outboxMessageId)
        (fun _ => []))
  | .recoverFailedPublication clock outboxMessageId =>
      some (state.run
        (recoverFailedOutboxPublication clock outboxMessageId)
        (fun recovered =>
          if recovered then [.recovered outboxMessageId] else []))

/-- Any contents of the other tables. -/
def Initial (state : PublicationState) : Prop :=
  state.database.outbox = .empty ∧ state.database.receipts = .empty ∧
    state.history = []

end PublicationState

/-- The outbox, from tables without messages. -/
def publicationSystem : System PublicationState PublicationAction :=
  { Initial := PublicationState.Initial
    next := PublicationState.next }

section History

variable {outboxMessageId : OutboxMessageId}
  {history : List PublicationRecord}

theorem claimsSinceRecovery_recovered (recovered : OutboxMessageId) :
    claimsSinceRecovery outboxMessageId (history ++ [.recovered recovered]) =
      if recovered = outboxMessageId then 0
      else claimsSinceRecovery outboxMessageId history := by
  simp [claimsSinceRecovery, List.foldl_append, PublicationRecord.recount]

/-- A claim returns a message once. -/
theorem claimsSinceRecovery_claimed
    (claimed : List ClaimedOutboxPublication)
    (distinct : (claimed.map (·.outboxMessageId)).Nodup) :
    claimsSinceRecovery outboxMessageId
        (history ++ claimed.map .claimed) =
      claimsSinceRecovery outboxMessageId history +
        if outboxMessageId ∈ claimed.map (·.outboxMessageId) then 1
        else 0 := by
  induction claimed generalizing history with
  | nil => simp
  | cons message claimed induction =>
      simp only [List.map_cons, List.nodup_cons] at distinct
      have first : claimsSinceRecovery outboxMessageId
          (history ++ [.claimed message]) =
          claimsSinceRecovery outboxMessageId history +
            if message.outboxMessageId = outboxMessageId then 1 else 0 := by
        simp only [claimsSinceRecovery, List.foldl_append, List.foldl_cons,
          List.foldl_nil, PublicationRecord.recount]
        split <;> rfl
      have rest := @induction (history ++ [.claimed message]) distinct.2
      rw [List.append_assoc, List.singleton_append, first] at rest
      rw [List.map_cons, rest]
      by_cases same : message.outboxMessageId = outboxMessageId
      · have absent : outboxMessageId ∉ claimed.map (·.outboxMessageId) :=
          same ▸ distinct.1
        simp [same, absent]
      · have other : outboxMessageId ≠ message.outboxMessageId :=
          fun equal => same equal.symm
        simp [same, other]

end History

/-- What a transaction can do to a message and to the count of its claims. -/
inductive MessageStep (db : ChannelDatabase)
    (outboxMessageId : OutboxMessageId) :
    PublicationAction → OutboxMessageRow → Nat → OutboxMessageRow → Nat →
      Prop where
  | kept {action : PublicationAction} {row : OutboxMessageRow}
      {claims : Nat} :
      MessageStep db outboxMessageId action row claims row claims
  | refreshed {clock : DatabaseClock} {input : ClaimPendingOutboxInput}
      {generated : OutboxMessageId → OutboxClaimId} {row : OutboxMessageRow}
      {claims : Nat} :
      MessageStep db outboxMessageId (.claimPending clock input generated)
        row claims
        (row.refreshed clock input (db.receipts.find? outboxMessageId)) claims
  | claimed {clock : DatabaseClock} {input : ClaimPendingOutboxInput}
      {generated : OutboxMessageId → OutboxClaimId} {row : OutboxMessageRow}
      {claims : Nat} :
      (row.refreshed clock input
        (db.receipts.find? outboxMessageId)).claimable clock input = true →
      MessageStep db outboxMessageId (.claimPending clock input generated)
        row claims
        ((row.refreshed clock input
          (db.receipts.find? outboxMessageId)).claimPublication clock
            input.leaseDurationSeconds (generated outboxMessageId))
        (claims + 1)
  | published {clock : DatabaseClock} {input : MarkOutboxPublishedInput}
      {row : OutboxMessageRow} {claims : Nat} :
      input.outboxMessageId = outboxMessageId →
      row.status = .pending →
      row.publishClaimId = some input.claimId →
      MessageStep db outboxMessageId (.markPublished clock input) row claims
        (row.publish clock) claims
  | failed {clock : DatabaseClock}
      {input : RecordOutboxPublicationFailureInput} {row : OutboxMessageRow}
      {claims : Nat} :
      input.outboxMessageId = outboxMessageId →
      row.status = .pending →
      row.publishClaimId = some input.claimId →
      MessageStep db outboxMessageId (.recordPublicationFailure clock input)
        row claims (row.failPublication clock input) claims
  | recovered {clock : DatabaseClock} {row : OutboxMessageRow}
      {claims : Nat} :
      row.status = .failed →
      db.receipts.find? outboxMessageId = none →
      MessageStep db outboxMessageId
        (.recoverFailedPublication clock outboxMessageId) row claims
        (row.recoverPublication clock) 0

/-- What a transaction can do to all messages and to the receipts. -/
structure MessagesStep (state : PublicationState) (action : PublicationAction)
    (state' : PublicationState) : Prop where
  present : ∀ outboxMessageId row,
    state.database.outbox.find? outboxMessageId = some row →
    ∃ row', state'.database.outbox.find? outboxMessageId = some row' ∧
      MessageStep state.database outboxMessageId action row
        (claimsSinceRecovery outboxMessageId state.history) row'
        (claimsSinceRecovery outboxMessageId state'.history)
  absent : ∀ outboxMessageId,
    state.database.outbox.find? outboxMessageId = none →
    claimsSinceRecovery outboxMessageId state'.history =
        claimsSinceRecovery outboxMessageId state.history ∧
      ∀ row, state'.database.outbox.find? outboxMessageId = some row →
        row.check = true ∧ row.publishAttempts = 0
  receipts : ∀ outboxMessageId,
    (state.database.receipts.find? outboxMessageId).isSome = true →
    (state'.database.receipts.find? outboxMessageId).isSome = true
  consumed : ∀ outboxMessageId,
    (state'.database.receipts.find? outboxMessageId).isSome = true →
    (state.database.receipts.find? outboxMessageId).isSome = true ∨
      (state.database.outbox.find? outboxMessageId).isSome = true

section Steps

variable {state state' : PublicationState} {action : PublicationAction}

private theorem messagesStep_unchanged
    (outbox : state'.database.outbox = state.database.outbox)
    (receipts : state'.database.receipts = state.database.receipts)
    (history : state'.history = state.history) :
    MessagesStep state action state' := by
  refine ⟨?_, ?_, ?_, ?_⟩
  · intro outboxMessageId row found
    rw [outbox, history]
    exact ⟨row, found, .kept⟩
  · intro outboxMessageId absent
    rw [outbox, history]
    exact ⟨rfl, fun row found => by rw [absent] at found; cases found⟩
  · intro outboxMessageId received
    rwa [receipts]
  · intro outboxMessageId received
    rw [receipts] at received
    exact .inl received

private theorem messagesStep_modify {outboxMessageId : OutboxMessageId}
    {set : OutboxMessageRow → OutboxMessageRow}
    (database : state'.database = { state.database with
      outbox := state.database.outbox.modify outboxMessageId set })
    (others : ∀ other, other ≠ outboxMessageId →
      claimsSinceRecovery other state'.history =
        claimsSinceRecovery other state.history)
    {row : OutboxMessageRow}
    (found : state.database.outbox.find? outboxMessageId = some row)
    (step : MessageStep state.database outboxMessageId action row
      (claimsSinceRecovery outboxMessageId state.history) (set row)
      (claimsSinceRecovery outboxMessageId state'.history)) :
    MessagesStep state action state' := by
  refine ⟨?_, ?_, ?_, ?_⟩
  · intro other present otherFound
    rw [database]
    by_cases same : other = outboxMessageId
    · subst same
      obtain rfl := Option.some.inj (found.symm.trans otherFound)
      exact ⟨set row, by simp [found], step⟩
    · rw [others other same]
      refine ⟨present, ?_, .kept⟩
      rw [Table.find?_modify_of_ne _ _ same]
      exact otherFound
  · intro other absent
    have different : other ≠ outboxMessageId := by
      rintro rfl
      rw [absent] at found
      cases found
    refine ⟨others other different, ?_⟩
    intro present otherFound
    rw [database, Table.find?_modify_of_ne _ _ different, absent] at otherFound
    cases otherFound
  · intro other received
    rw [database]
    exact received
  · intro other received
    rw [database] at received
    exact .inl received

private theorem messagesStep_create {clock : DatabaseClock}
    {outboxMessageId : OutboxMessageId} {inboundEventId : InboundEventId}
    {owner : Option LedgerOwner} {kind : OutboxKind}
    {correlationId : CorrelationId}
    (taken : state.next (.create clock outboxMessageId inboundEventId owner
      kind correlationId) = some state') :
    MessagesStep state (.create clock outboxMessageId inboundEventId owner
      kind correlationId) state' := by
  obtain rfl := Option.some.inj taken
  cases inserted : state.database.insertOutbox outboxMessageId
      (newOutboxRow clock inboundEventId owner kind correlationId) with
  | none => exact messagesStep_unchanged rfl rfl rfl
  | some db' =>
      unfold insertOutbox at inserted
      split at inserted
      · simp only [Option.bind_eq_bind, Option.bind_eq_some_iff] at inserted
        obtain ⟨outbox, pushed, rest⟩ := inserted
        obtain ⟨legal, fresh, rfl⟩ := Table.insert?_eq_some_iff.mp pushed
        obtain rfl := Option.some.inj rest
        refine ⟨?_, ?_, fun _ received => received,
          fun _ received => .inl received⟩
        · intro other row found
          exact ⟨row, Table.find?_push_of_some fresh found, .kept⟩
        · intro other absent
          refine ⟨rfl, ?_⟩
          intro row found
          rw [Option.getD_some, Table.find?_push] at found
          split at found
          · obtain rfl := Option.some.inj found
            exact ⟨legal, rfl⟩
          · rw [absent] at found
            cases found
      · cases inserted

/-- A claim on legal rows commits. -/
theorem next_claimPending (legal : state.database.LegalOutbox)
    (clock : DatabaseClock) (input : ClaimPendingOutboxInput)
    (generated : OutboxMessageId → OutboxClaimId) :
    ∃ database,
      ClaimPendingEffect clock input generated state.database
          (state.returned clock input generated) database ∧
        state.next (.claimPending clock input generated) = some
          { database := database
            history := state.history ++
              (state.returned clock input generated).map .claimed } := by
  obtain ⟨claimed, database, ran⟩ : ∃ claimed database,
      claimPendingOutbox clock input generated state.database =
        .ok (claimed, database) :=
    ⟨_, _, legal.claimPendingOutbox_eq_ok generated⟩
  have returned : state.returned clock input generated = claimed := by
    rw [PublicationState.returned, ran]
  refine ⟨database, ?_, ?_⟩
  · rw [returned]
    exact legal.claimPendingEffect ran
  · rw [returned]
    simp only [PublicationState.next, PublicationState.run, withTransaction,
      ran]

private theorem messagesStep_claimPending
    (legal : state.database.LegalOutbox) {clock : DatabaseClock}
    {input : ClaimPendingOutboxInput}
    {generated : OutboxMessageId → OutboxClaimId}
    (taken : state.next (.claimPending clock input generated) =
      some state') :
    MessagesStep state (.claimPending clock input generated) state' := by
  obtain ⟨database, effect, committed⟩ :=
    next_claimPending legal clock input generated
  obtain rfl := Option.some.inj (committed.symm.trans taken)
  refine ⟨?_, ?_, ?_, ?_⟩
  · intro outboxMessageId row found
    refine ⟨_, effect.rows outboxMessageId row found, ?_⟩
    rw [claimsSinceRecovery_claimed _ effect.distinct]
    by_cases member : outboxMessageId ∈
        (state.returned clock input generated).map (·.outboxMessageId)
    · obtain ⟨message, returned, rfl⟩ := List.mem_map.mp member
      obtain ⟨_, present, presentFound, claimable⟩ :=
        effect.returned message returned
      obtain rfl := Option.some.inj (found.symm.trans presentFound)
      rw [if_pos member, if_pos member]
      exact .claimed claimable
    · rw [if_neg member, if_neg member]
      exact .refreshed
  · intro outboxMessageId absent
    rw [claimsSinceRecovery_claimed _ effect.distinct]
    constructor
    · have unreturned : outboxMessageId ∉
          (state.returned clock input generated).map
            (·.outboxMessageId) := by
        intro member
        obtain ⟨message, returned, rfl⟩ := List.mem_map.mp member
        obtain ⟨_, row, found, _⟩ := effect.returned message returned
        rw [absent] at found
        cases found
      rw [if_neg unreturned, Nat.add_zero]
    · intro row found
      rw [effect.absent outboxMessageId absent] at found
      cases found
  · intro outboxMessageId received
    rwa [effect.receipts]
  · intro outboxMessageId received
    rw [effect.receipts] at received
    exact .inl received

theorem publicationHeld_iff {db : ChannelDatabase}
    {input : MarkOutboxPublishedInput} :
    db.publicationHeld input = true ↔
      ∃ row, db.outbox.find? input.outboxMessageId = some row ∧
        row.status = .pending ∧ row.publishClaimId = some input.claimId := by
  simp [publicationHeld, Option.any_eq_true]

private theorem messagesStep_markPublished {clock : DatabaseClock}
    {input : MarkOutboxPublishedInput}
    (taken : state.next (.markPublished clock input) = some state') :
    MessagesStep state (.markPublished clock input) state' := by
  obtain rfl := Option.some.inj taken
  rcases withTransaction_cases (markOutboxPublished clock input)
      state.database with ⟨_, _, failed⟩ | ⟨outcome, db', ran, committed⟩
  · simp only [PublicationState.run, failed]
    exact messagesStep_unchanged rfl rfl rfl
  · simp only [PublicationState.run, committed, List.append_nil]
    unfold markOutboxPublished at ran
    split at ran
    · rename_i held
      obtain ⟨row, found, pending, claim⟩ := publicationHeld_iff.mp held
      obtain ⟨published, updated, rest⟩ := bind_eq_ok.mp ran
      cases rest
      exact messagesStep_modify
        (updateOutboxMessage_eq_some_iff.mp (require_eq_ok.mp updated)).2
        (fun _ _ => rfl) found (.published rfl pending claim)
    · rw [resolveClaimTransition_eq_ok ran]
      exact messagesStep_unchanged rfl rfl rfl

private theorem messagesStep_recordPublicationFailure {clock : DatabaseClock}
    {input : RecordOutboxPublicationFailureInput}
    (taken : state.next (.recordPublicationFailure clock input) =
      some state') :
    MessagesStep state (.recordPublicationFailure clock input) state' := by
  obtain rfl := Option.some.inj taken
  rcases withTransaction_cases (recordOutboxPublicationFailure clock input)
      state.database with ⟨_, _, failed⟩ | ⟨outcome, db', ran, committed⟩
  · simp only [PublicationState.run, failed]
    exact messagesStep_unchanged rfl rfl rfl
  · simp only [PublicationState.run, committed, List.append_nil]
    unfold recordOutboxPublicationFailure at ran
    split at ran
    · rename_i held
      obtain ⟨row, found, pending, claim⟩ := publicationHeld_iff.mp held
      obtain ⟨failed, updated, rest⟩ := bind_eq_ok.mp ran
      cases rest
      exact messagesStep_modify
        (updateOutboxMessage_eq_some_iff.mp (require_eq_ok.mp updated)).2
        (fun _ _ => rfl) found (.failed rfl pending claim)
    · rw [resolveClaimTransition_eq_ok ran]
      exact messagesStep_unchanged rfl rfl rfl

private theorem messagesStep_recordConsumption {clock : DatabaseClock}
    {outboxMessageId : OutboxMessageId}
    (taken : state.next (.recordConsumption clock outboxMessageId) =
      some state') :
    MessagesStep state (.recordConsumption clock outboxMessageId) state' := by
  obtain rfl := Option.some.inj taken
  rcases withTransaction_cases (recordOutboxConsumption clock outboxMessageId)
      state.database with ⟨_, _, failed⟩ | ⟨outcome, db', ran, committed⟩
  · simp only [PublicationState.run, failed]
    exact messagesStep_unchanged rfl rfl rfl
  · simp only [PublicationState.run, committed, List.append_nil]
    rcases recordOutboxConsumption_eq_ok ran with
      ⟨rfl, _⟩ | ⟨present, receipts, rfl, received⟩
    · exact messagesStep_unchanged rfl rfl rfl
    · refine ⟨?_, ?_, ?_, ?_⟩
      · intro other row found
        exact ⟨row, found, .kept⟩
      · intro other absent
        exact ⟨rfl, fun row found => by
          rw [absent] at found
          cases found⟩
      · intro other earlier
        exact (received other).mpr (.inl earlier)
      · intro other later
        rcases (received other).mp later with earlier | rfl
        · exact .inl earlier
        · exact .inr present

private theorem messagesStep_recover {clock : DatabaseClock}
    {outboxMessageId : OutboxMessageId}
    (taken : state.next (.recoverFailedPublication clock outboxMessageId) =
      some state') :
    MessagesStep state (.recoverFailedPublication clock outboxMessageId)
      state' := by
  obtain rfl := Option.some.inj taken
  rcases withTransaction_cases
      (recoverFailedOutboxPublication clock outboxMessageId)
      state.database with ⟨_, _, failed⟩ | ⟨outcome, db', ran, committed⟩
  · simp only [PublicationState.run, failed]
    exact messagesStep_unchanged rfl rfl rfl
  · simp only [PublicationState.run, committed]
    unfold recoverFailedOutboxPublication at ran
    split at ran
    · rename_i recoverable
      simp only [Bool.and_eq_true, Option.any_eq_true, decide_eq_true_eq,
        hasReceipt, Option.not_isSome, Option.isNone_iff_eq_none]
        at recoverable
      obtain ⟨⟨row, found, failed⟩, unconsumed⟩ := recoverable
      obtain ⟨recovered, updated, rest⟩ := bind_eq_ok.mp ran
      cases rest
      refine messagesStep_modify
        (updateOutboxMessage_eq_some_iff.mp (require_eq_ok.mp updated)).2 ?_
        found ?_
      · intro other different
        simp only [if_true]
        rw [claimsSinceRecovery_recovered, if_neg (Ne.symm different)]
      · simp only [if_true]
        rw [claimsSinceRecovery_recovered, if_pos rfl]
        exact .recovered failed unconsumed
    · cases ran
      refine messagesStep_unchanged rfl rfl ?_
      simp

theorem next_messagesStep (legal : state.database.LegalOutbox)
    (taken : publicationSystem.next state action = some state') :
    MessagesStep state action state' := by
  cases action with
  | create clock outboxMessageId inboundEventId owner kind correlationId =>
      exact messagesStep_create taken
  | writeOthers database =>
      obtain rfl := Option.some.inj taken
      exact messagesStep_unchanged rfl rfl rfl
  | claimPending clock input generated =>
      exact messagesStep_claimPending legal taken
  | markPublished clock input => exact messagesStep_markPublished taken
  | recordPublicationFailure clock input =>
      exact messagesStep_recordPublicationFailure taken
  | recordConsumption clock outboxMessageId =>
      exact messagesStep_recordConsumption taken
  | recoverFailedPublication clock outboxMessageId =>
      exact messagesStep_recover taken

end Steps

section Rows

variable {db : ChannelDatabase} {outboxMessageId : OutboxMessageId}
  {action : PublicationAction} {row row' : OutboxMessageRow}
  {claims claims' : Nat}

theorem MessageStep.check
    (step : MessageStep db outboxMessageId action row claims row' claims')
    (legal : row.check = true) : row'.check = true := by
  cases step with
  | kept => exact legal
  | refreshed => exact OutboxMessageRow.check_refreshed legal
  | claimed claimable =>
      exact OutboxMessageRow.check_claimPublication
        (OutboxMessageRow.check_refreshed legal)
        (OutboxMessageRow.claimable_pending claimable) _ _
  | published _ pending _ => exact OutboxMessageRow.check_publish legal pending
  | failed _ pending _ =>
      exact OutboxMessageRow.check_failPublication legal pending _
  | recovered => exact OutboxMessageRow.check_recoverPublication

theorem MessageStep.counted
    (step : MessageStep db outboxMessageId action row claims row' claims')
    (counted : row.publishAttempts = claims) :
    row'.publishAttempts = claims' := by
  cases step with
  | kept => exact counted
  | refreshed =>
      rw [OutboxMessageRow.refreshed_publishAttempts]
      exact counted
  | claimed =>
      change (row.refreshed _ _ _).publishAttempts + 1 = claims + 1
      rw [OutboxMessageRow.refreshed_publishAttempts, counted]
  | published => exact counted
  | failed => exact counted
  | recovered => rfl

end Rows

section Invariants

/-- The rows of a reachable state: legal, and with the attempts that their
claims explain. -/
structure PublicationSound (state : PublicationState) : Prop where
  legal : state.database.LegalOutbox
  counted : ∀ outboxMessageId row,
    state.database.outbox.find? outboxMessageId = some row →
    row.publishAttempts = claimsSinceRecovery outboxMessageId state.history
  unclaimed : ∀ outboxMessageId,
    state.database.outbox.find? outboxMessageId = none →
    claimsSinceRecovery outboxMessageId state.history = 0
  consumed : ∀ outboxMessageId,
    (state.database.receipts.find? outboxMessageId).isSome = true →
    (state.database.outbox.find? outboxMessageId).isSome = true

variable {state state' : PublicationState} {action : PublicationAction}

theorem PublicationSound.step (sound : PublicationSound state)
    (step : MessagesStep state action state') : PublicationSound state' := by
  have earlier : ∀ outboxMessageId row',
      state'.database.outbox.find? outboxMessageId = some row' →
      row'.check = true ∧ row'.publishAttempts =
        claimsSinceRecovery outboxMessageId state'.history := by
    intro outboxMessageId row' found'
    cases found : state.database.outbox.find? outboxMessageId with
    | none =>
        obtain ⟨count, created⟩ := step.absent outboxMessageId found
        obtain ⟨legal, attempts⟩ := created row' found'
        rw [count, sound.unclaimed outboxMessageId found]
        exact ⟨legal, attempts⟩
    | some row =>
        obtain ⟨written, present, wrote⟩ :=
          step.present outboxMessageId row found
        obtain rfl := Option.some.inj (present.symm.trans found')
        exact ⟨wrote.check (sound.legal outboxMessageId row found),
          wrote.counted (sound.counted outboxMessageId row found)⟩
  refine ⟨?_, ?_, ?_, ?_⟩
  · intro outboxMessageId row' found'
    exact (earlier outboxMessageId row' found').1
  · intro outboxMessageId row' found'
    exact (earlier outboxMessageId row' found').2
  · intro outboxMessageId absent'
    cases found : state.database.outbox.find? outboxMessageId with
    | none =>
        rw [(step.absent outboxMessageId found).1]
        exact sound.unclaimed outboxMessageId found
    | some row =>
        obtain ⟨written, present, _⟩ := step.present outboxMessageId row found
        rw [absent'] at present
        cases present
  · intro outboxMessageId received
    have present : (state.database.outbox.find? outboxMessageId).isSome =
        true := by
      rcases step.consumed outboxMessageId received with earlier | present
      · exact sound.consumed outboxMessageId earlier
      · exact present
    obtain ⟨row, found⟩ := Option.isSome_iff_exists.mp present
    obtain ⟨written, found', _⟩ := step.present outboxMessageId row found
    simp [found']

theorem reachable_publicationSound
    (reached : publicationSystem.Reachable state) :
    PublicationSound state := by
  refine System.Reachable.invariant ?_ ?_ reached
  · rintro state ⟨outbox, receipts, history⟩
    refine ⟨?_, ?_, ?_, ?_⟩
    · intro outboxMessageId row found
      rw [outbox] at found
      cases found
    · intro outboxMessageId row found
      rw [outbox] at found
      cases found
    · intro outboxMessageId _
      rw [history]
      rfl
    · intro outboxMessageId received
      rw [receipts] at received
      cases received
  · intro state action state' _ sound taken
    exact sound.step (next_messagesStep sound.legal taken)

theorem reachable_messagesStep (reached : publicationSystem.Reachable state)
    (taken : publicationSystem.next state action = some state') :
    MessagesStep state action state' :=
  next_messagesStep (reachable_publicationSound reached).legal taken

end Invariants

end XpensGo
