import XpensGo.Channel.OutboxStore

/-!
# What a committed outbox transaction can do

Publication changes only the publication columns of outbox messages, and a
consumption adds at most the receipt of the message it consumes.
-/

namespace XpensGo

open Postgres Relational

namespace ChannelDatabase

section Publication

/-- Only publication columns of the outbox change. -/
def PublicationOnly (db db' : ChannelDatabase) : Prop :=
  ∃ outbox, db' = { db with outbox := outbox } ∧
    ∀ outboxMessageId,
      (outbox.find? outboxMessageId).map (·.toOutboxMessageTerms) =
        (db.outbox.find? outboxMessageId).map (·.toOutboxMessageTerms)

variable {db db' : ChannelDatabase}

theorem PublicationOnly.refl : db.PublicationOnly db :=
  ⟨db.outbox, rfl, fun _ => rfl⟩

theorem PublicationOnly.trans {middle : ChannelDatabase}
    (first : db.PublicationOnly middle)
    (second : middle.PublicationOnly db') : db.PublicationOnly db' := by
  obtain ⟨_, rfl, firstTerms⟩ := first
  obtain ⟨outbox, rfl, secondTerms⟩ := second
  refine ⟨outbox, rfl, ?_⟩
  intro outboxMessageId
  exact (secondTerms outboxMessageId).trans (firstTerms outboxMessageId)

/-- An update that keeps the terms of every row it rewrites. -/
theorem publicationOnly_of_update
    {set : OutboxMessageId → OutboxMessageRow → OutboxMessageRow}
    (kept : ∀ outboxMessageId row,
      (set outboxMessageId row).toOutboxMessageTerms =
        row.toOutboxMessageTerms) :
    db.PublicationOnly { db with outbox := db.outbox.update set } := by
  refine ⟨_, rfl, ?_⟩
  intro outboxMessageId
  rw [Table.find?_update, Option.map_map]
  congr 1
  funext row
  exact kept outboxMessageId row

theorem updateOutbox_publicationOnly
    {condition : OutboxMessageId → OutboxMessageRow → Bool}
    {set : OutboxMessageId → OutboxMessageRow → OutboxMessageRow}
    (updated : db.updateOutbox condition set = some db')
    (kept : ∀ outboxMessageId row,
      (set outboxMessageId row).toOutboxMessageTerms =
        row.toOutboxMessageTerms) :
    db.PublicationOnly db' := by
  unfold updateOutbox at updated
  split at updated
  · have written := (Option.some.inj updated).symm
    subst written
    apply publicationOnly_of_update
    intro outboxMessageId row
    split
    · exact kept outboxMessageId row
    · rfl
  · cases updated

theorem updateOutboxMessage_eq_some_iff {outboxMessageId : OutboxMessageId}
    {set : OutboxMessageRow → OutboxMessageRow} :
    db.updateOutboxMessage outboxMessageId set = some db' ↔
      (∀ row, db.outbox.find? outboxMessageId = some row →
        (set row).check = true) ∧
        db' = { db with outbox := db.outbox.modify outboxMessageId set } := by
  simp only [updateOutboxMessage, Option.bind_eq_bind,
    Option.bind_eq_some_iff]
  constructor
  · rintro ⟨outbox, modified, rest⟩
    obtain ⟨checked, rfl⟩ := Table.modify?_eq_some_iff.mp modified
    exact ⟨checked, (Option.some.inj rest).symm⟩
  · rintro ⟨checked, rfl⟩
    exact ⟨_, Table.modify?_eq_some_iff.mpr ⟨checked, rfl⟩, rfl⟩

theorem updateOutboxMessage_publicationOnly
    {outboxMessageId : OutboxMessageId}
    {set : OutboxMessageRow → OutboxMessageRow}
    (updated : db.updateOutboxMessage outboxMessageId set = some db')
    (kept : ∀ row,
      (set row).toOutboxMessageTerms = row.toOutboxMessageTerms) :
    db.PublicationOnly db' := by
  obtain ⟨_, rfl⟩ := updateOutboxMessage_eq_some_iff.mp updated
  change db.PublicationOnly { db with
    outbox := db.outbox.update (fun key row =>
      if decide (key = outboxMessageId) then set row else row) }
  apply publicationOnly_of_update
  intro other row
  split
  · exact kept row
  · rfl

variable {clock : DatabaseClock}

theorem claimPendingOutbox_eq_ok {input : ClaimPendingOutboxInput}
    {generated : OutboxMessageId → OutboxClaimId}
    {claimed : List ClaimedOutboxPublication}
    (ran : claimPendingOutbox clock input generated db =
      .ok (claimed, db')) : db.PublicationOnly db' := by
  obtain ⟨reconciled, first, rest⟩ := bind_eq_ok.mp ran
  obtain ⟨returned, second, rest⟩ := bind_eq_ok.mp rest
  obtain ⟨exhausted, third, rest⟩ := bind_eq_ok.mp rest
  obtain ⟨leased, fourth, rest⟩ := bind_eq_ok.mp rest
  cases rest
  have reconciliation : db.PublicationOnly reconciled := by
    refine updateOutbox_publicationOnly (require_eq_ok.mp first) ?_
    intro outboxMessageId row
    split <;> rfl
  have stalling : reconciled.PublicationOnly returned :=
    updateOutbox_publicationOnly (require_eq_ok.mp second) (fun _ _ => rfl)
  have exhaustion : returned.PublicationOnly exhausted :=
    updateOutbox_publicationOnly (require_eq_ok.mp third) (fun _ _ => rfl)
  have leasing : exhausted.PublicationOnly db' :=
    updateOutbox_publicationOnly (require_eq_ok.mp fourth) (fun _ _ => rfl)
  exact ((reconciliation.trans stalling).trans exhaustion).trans leasing

theorem PublicationOnly.isSome_iff (publication : db.PublicationOnly db')
    (outboxMessageId : OutboxMessageId) :
    (db'.outbox.find? outboxMessageId).isSome = true ↔
      (db.outbox.find? outboxMessageId).isSome = true := by
  obtain ⟨outbox, rfl, terms⟩ := publication
  have same := congrArg Option.isSome (terms outboxMessageId)
  simp only [Option.isSome_map] at same
  rw [same]

/-- A dispatcher is given messages that the outbox holds. -/
theorem claimPendingOutbox_present {input : ClaimPendingOutboxInput}
    {generated : OutboxMessageId → OutboxClaimId}
    {claimed : List ClaimedOutboxPublication}
    (ran : claimPendingOutbox clock input generated db =
      .ok (claimed, db')) {message : ClaimedOutboxPublication}
    (member : message ∈ claimed) :
    (db'.outbox.find? message.outboxMessageId).isSome = true := by
  obtain ⟨reconciled, _, rest⟩ := bind_eq_ok.mp ran
  obtain ⟨returned, _, rest⟩ := bind_eq_ok.mp rest
  obtain ⟨exhausted, _, rest⟩ := bind_eq_ok.mp rest
  obtain ⟨leased, fourth, rest⟩ := bind_eq_ok.mp rest
  cases rest
  have leasing : exhausted.PublicationOnly db' :=
    updateOutbox_publicationOnly (require_eq_ok.mp fourth) (fun _ _ => rfl)
  obtain ⟨⟨outboxMessageId, row⟩, candidate, rfl⟩ := List.mem_map.mp member
  have selected := List.mem_mergeSort.mp (List.mem_of_mem_take candidate)
  have present := (Table.mem_select.mp selected).1
  apply (leasing.isSome_iff outboxMessageId).mpr
  simp [present]

theorem resolveClaimTransition_eq_ok {operation : ChannelOperation}
    {outboxMessageId : OutboxMessageId} {outcome : Unit}
    (ran : db.resolveClaimTransition operation outboxMessageId =
      .ok (outcome, db')) : db' = db := by
  unfold resolveClaimTransition at ran
  split at ran
  · cases ran
  · split at ran
    · cases ran
      rfl
    · cases ran

theorem markOutboxPublished_eq_ok {input : MarkOutboxPublishedInput}
    {outcome : Unit}
    (ran : markOutboxPublished clock input db = .ok (outcome, db')) :
    db.PublicationOnly db' := by
  unfold markOutboxPublished at ran
  split at ran
  · obtain ⟨published, updated, rest⟩ := bind_eq_ok.mp ran
    cases rest
    exact updateOutboxMessage_publicationOnly (require_eq_ok.mp updated)
      (fun _ => rfl)
  · rw [resolveClaimTransition_eq_ok ran]
    exact .refl

theorem recordOutboxPublicationFailure_eq_ok
    {input : RecordOutboxPublicationFailureInput} {outcome : Unit}
    (ran : recordOutboxPublicationFailure clock input db =
      .ok (outcome, db')) : db.PublicationOnly db' := by
  unfold recordOutboxPublicationFailure at ran
  split at ran
  · obtain ⟨failed, updated, rest⟩ := bind_eq_ok.mp ran
    cases rest
    exact updateOutboxMessage_publicationOnly (require_eq_ok.mp updated)
      (fun _ => rfl)
  · rw [resolveClaimTransition_eq_ok ran]
    exact .refl

theorem recoverFailedOutboxPublication_eq_ok
    {outboxMessageId : OutboxMessageId} {outcome : Bool}
    (ran : recoverFailedOutboxPublication clock outboxMessageId db =
      .ok (outcome, db')) : db.PublicationOnly db' := by
  unfold recoverFailedOutboxPublication at ran
  split at ran
  · obtain ⟨recovered, updated, rest⟩ := bind_eq_ok.mp ran
    cases rest
    exact updateOutboxMessage_publicationOnly (require_eq_ok.mp updated)
      (fun _ => rfl)
  · cases ran
    exact .refl

end Publication

section Consumption

/-- The receipts after a consumption: the consumed message has one, and no
other message gains or loses one. -/
def ConsumptionOnly (db : ChannelDatabase) (outboxMessageId : OutboxMessageId)
    (db' : ChannelDatabase) : Prop :=
  ∃ receipts, db' = { db with receipts := receipts } ∧
    ∀ other, (receipts.find? other).isSome = true ↔
      (db.receipts.find? other).isSome = true ∨ other = outboxMessageId

variable {db db' : ChannelDatabase} {clock : DatabaseClock}
  {outboxMessageId : OutboxMessageId}

theorem recordOutboxConsumption_eq_ok {outcome : OutboxConsumptionOutcome}
    (ran : recordOutboxConsumption clock outboxMessageId db =
      .ok (outcome, db')) :
    db' = db ∧ db.outbox.find? outboxMessageId = none ∨
      (db.outbox.find? outboxMessageId).isSome = true ∧
        db.ConsumptionOnly outboxMessageId db' := by
  unfold recordOutboxConsumption at ran
  split at ran
  · rename_i absent
    cases ran
    exact .inl ⟨rfl, absent⟩
  · rename_i row found unconsumed
    cases ran
    refine .inr ⟨by simp [found], _, rfl, ?_⟩
    intro other
    rw [Table.find?_insertMissing]
    by_cases same : other = outboxMessageId
    · simp [same]
    · simp [same]
  · rename_i row receipt found consumed
    cases ran
    refine .inr ⟨by simp [found], _, rfl, ?_⟩
    intro other
    rw [Table.find?_modify]
    by_cases same : other = outboxMessageId
    · simp [same, consumed]
    · simp [same]

end Consumption

end ChannelDatabase

end XpensGo
