import XpensGo.Channel.ProcessingStore
import XpensGo.Channel.OutboxStoreCases

/-!
# What one transaction does to an outbox row

The statements of `claimPending` are composed row by row: what the three
reconciling statements make of a message depends only on its row, its receipt
and the clock.  Every statement keeps the CHECK constraints of the rows it
writes, so the transaction always commits.
-/

namespace XpensGo

open Postgres Relational

namespace OutboxMessageRow

section Check

variable {row : OutboxMessageRow} {clock : DatabaseClock}

/-- A message that is not pending is not held, and its timestamps tell whether
it was published or has failed. -/
theorem check_published (legal : row.check = true)
    (published : row.status = .published) :
    row.publishedAt.isSome = true ∧ row.publishClaimId = none ∧
      row.publishClaimedUntil = none := by
  simp only [check, published, Bool.and_eq_true, Bool.or_eq_true,
    decide_eq_true_eq, Option.isNone_iff_eq_none] at legal
  obtain ⟨⟨together, unheld⟩, publishedAt, _⟩ := legal
  have claimless : row.publishClaimId = none := by simpa using unheld
  simp only [claimless, Option.isSome_none] at together
  exact ⟨publishedAt, claimless, Option.isSome_eq_false_iff.mp together.symm
    |> Option.isNone_iff_eq_none.mp⟩

theorem check_pending (legal : row.check = true)
    (pending : row.status = .pending) :
    row.publishedAt = none ∧ row.failedAt = none ∧
      row.publishClaimId.isSome = row.publishClaimedUntil.isSome := by
  simp only [check, pending, Bool.and_eq_true, decide_eq_true_eq,
    Option.isNone_iff_eq_none] at legal
  exact ⟨legal.2.1, legal.2.2, legal.1.1⟩

theorem check_reconcile (consumedAt : Timestamp) :
    (row.reconcile consumedAt).check = true := by
  simp [check, reconcile]

theorem check_stall (maximumAttempts : Nat) :
    (row.stall clock maximumAttempts).check = true := by
  by_cases spent : maximumAttempts ≤ row.publishAttempts
  · simp [check, stall, spent]
  · simp [check, stall, spent]

theorem check_exhaustPublication (legal : row.check = true)
    (pending : row.status = .pending) :
    (row.exhaustPublication clock).check = true := by
  simp [check, exhaustPublication, (check_pending legal pending).1]

theorem check_claimPublication (legal : row.check = true)
    (pending : row.status = .pending) (leaseDurationSeconds : Nat)
    (claimId : OutboxClaimId) :
    (row.claimPublication clock leaseDurationSeconds claimId).check = true := by
  obtain ⟨unpublished, unfailed, _⟩ := check_pending legal pending
  simp [check, claimPublication, pending, unpublished, unfailed]

@[simp] theorem claimPublication_status (leaseDurationSeconds : Nat)
    (claimId : OutboxClaimId) :
    (row.claimPublication clock leaseDurationSeconds claimId).status =
      row.status := rfl

@[simp] theorem claimPublication_publishClaimId (leaseDurationSeconds : Nat)
    (claimId : OutboxClaimId) :
    (row.claimPublication clock leaseDurationSeconds
      claimId).publishClaimId = some claimId := rfl

theorem check_publish (legal : row.check = true)
    (pending : row.status = .pending) : (row.publish clock).check = true := by
  simp [check, publish, (check_pending legal pending).2.1]

theorem check_failPublication (legal : row.check = true)
    (pending : row.status = .pending)
    (input : RecordOutboxPublicationFailureInput) :
    (row.failPublication clock input).check = true := by
  have unpublished := (check_pending legal pending).1
  by_cases terminal : input.disposition = .terminal
  · simp [check, failPublication, terminal, unpublished]
  · simp [check, failPublication, terminal, unpublished]

theorem check_recoverPublication :
    (row.recoverPublication clock).check = true := by
  simp [check, recoverPublication]

end Check

section Refresh

variable (clock : DatabaseClock) (input : ClaimPendingOutboxInput)
  (receipt : Option OutboxReceiptRow)

/-- A row after the reconciliation with its receipt. -/
def reconciled (row : OutboxMessageRow) : OutboxMessageRow :=
  match receipt with
  | some receipt =>
      if row.status = .published then row
      else row.reconcile receipt.consumedAt
  | none => row

/-- A published message whose receipt is overdue. -/
def overdue (row : OutboxMessageRow) : Bool :=
  row.status = .published &&
    row.publishedAt.any (fun publishedAt => publishedAt ≤
      clock.currentTimestamp.addSeconds (-input.receiptTimeoutSeconds)) &&
      receipt.isNone

/-- A row after the return of stalled publications. -/
def returned (row : OutboxMessageRow) : OutboxMessageRow :=
  if row.overdue clock input receipt then
    row.stall clock input.maximumAttempts
  else
    row

/-- A pending message that nobody holds and that has used its attempts. -/
def spent (row : OutboxMessageRow) : Bool :=
  row.status = .pending && input.maximumAttempts ≤ row.publishAttempts &&
    row.unclaimed clock

/-- A row after the failure of exhausted publications. -/
def exhausted (row : OutboxMessageRow) : OutboxMessageRow :=
  if row.spent clock input then row.exhaustPublication clock else row

/-- A row after the three reconciling statements of a claim. -/
def refreshed (row : OutboxMessageRow) : OutboxMessageRow :=
  ((row.reconciled receipt).returned clock input receipt).exhausted clock input

/-- The condition on which the last statement of a claim selects a message. -/
def claimable (row : OutboxMessageRow) : Bool :=
  row.status = .pending && row.publishAttempts < input.maximumAttempts &&
    row.nextPublishAttemptAt ≤ clock.currentTimestamp && row.unclaimed clock

variable {clock input receipt} {row : OutboxMessageRow}

theorem check_reconciled (legal : row.check = true) :
    (row.reconciled receipt).check = true := by
  unfold reconciled
  split
  · split
    · exact legal
    · exact check_reconcile _
  · exact legal

theorem check_returned (legal : row.check = true) :
    (row.returned clock input receipt).check = true := by
  unfold returned
  split
  · exact check_stall _
  · exact legal

theorem spent_pending (spent : row.spent clock input = true) :
    row.status = .pending := by
  simp only [OutboxMessageRow.spent, Bool.and_eq_true,
    decide_eq_true_eq] at spent
  exact spent.1.1

theorem check_exhausted (legal : row.check = true) :
    (row.exhausted clock input).check = true := by
  unfold exhausted
  split
  · rename_i spent
    exact check_exhaustPublication legal (spent_pending spent)
  · exact legal

theorem check_refreshed (legal : row.check = true) :
    (row.refreshed clock input receipt).check = true :=
  check_exhausted (check_returned (check_reconciled legal))

theorem refreshed_publishAttempts :
    (row.refreshed clock input receipt).publishAttempts =
      row.publishAttempts := by
  have reconciliation : (row.reconciled receipt).publishAttempts =
      row.publishAttempts := by
    unfold reconciled
    split
    · split <;> rfl
    · rfl
  have stalling : ∀ row : OutboxMessageRow,
      (row.returned clock input receipt).publishAttempts =
        row.publishAttempts := by
    intro row
    unfold returned
    split <;> rfl
  have exhaustion : ∀ row : OutboxMessageRow,
      (row.exhausted clock input).publishAttempts = row.publishAttempts := by
    intro row
    unfold exhausted
    split <;> rfl
  rw [refreshed, exhaustion, stalling, reconciliation]

theorem claimable_pending (claimable : row.claimable clock input = true) :
    row.status = .pending := by
  simp only [OutboxMessageRow.claimable, Bool.and_eq_true,
    decide_eq_true_eq] at claimable
  exact claimable.1.1.1

end Refresh

end OutboxMessageRow

namespace ChannelDatabase

/-- Every outbox row satisfies its CHECK constraints. -/
def LegalOutbox (db : ChannelDatabase) : Prop :=
  ∀ outboxMessageId row, db.outbox.find? outboxMessageId = some row →
    row.check = true

section Updates

variable {db : ChannelDatabase}

/-- An update commits if it writes no row that violates a constraint. -/
theorem updateOutbox_eq_some
    {condition : OutboxMessageId → OutboxMessageRow → Bool}
    {set written : OutboxMessageId → OutboxMessageRow → OutboxMessageRow}
    (legal : ∀ key row, db.outbox.find? key = some row →
      condition key row = true → (set key row).check = true)
    (writes : ∀ key row, db.outbox.find? key = some row →
      (if condition key row then set key row else row) = written key row) :
    db.updateOutbox condition set =
      some { db with outbox := db.outbox.update written } := by
  unfold updateOutbox
  rw [if_pos, Table.update_congr writes]
  apply List.all_eq_true.mpr
  intro entry member
  have found := Table.find?_eq_some_iff_mem.mpr member
  by_cases selected : condition entry.1 entry.2 = true
  · simp [legal entry.1 entry.2 found selected]
  · simp [selected]

theorem LegalOutbox.update (legal : db.LegalOutbox)
    {set : OutboxMessageId → OutboxMessageRow → OutboxMessageRow}
    (kept : ∀ key row, db.outbox.find? key = some row → row.check = true →
      (set key row).check = true) :
    LegalOutbox { db with outbox := db.outbox.update set } := by
  intro key row found
  rw [Table.find?_update] at found
  obtain ⟨earlier, present, rfl⟩ := Option.map_eq_some_iff.mp found
  exact kept key earlier present (legal key earlier present)

end Updates

section Claim

variable (clock : DatabaseClock) (input : ClaimPendingOutboxInput)

/-- The database after the three reconciling statements of a claim. -/
def refreshOutbox (db : ChannelDatabase) : ChannelDatabase :=
  { db with
    outbox := db.outbox.update (fun key row =>
      row.refreshed clock input (db.receipts.find? key)) }

/-- The messages that a claim may lease, in the order of the table. -/
def eligiblePublications (db : ChannelDatabase) :
    List (OutboxMessageId × OutboxMessageRow) :=
  (db.refreshOutbox clock input).outbox.select (fun _ row =>
    row.claimable clock input)

/-- The rows after the last statement of a claim. -/
def leaseOutbox (generated : OutboxMessageId → OutboxClaimId)
    (candidates : List OutboxMessageId) (db : ChannelDatabase) :
    ChannelDatabase :=
  { db with
    outbox := db.outbox.update (fun key row =>
      if key ∈ candidates then
        row.claimPublication clock input.leaseDurationSeconds (generated key)
      else
        row) }

variable {clock input} {db : ChannelDatabase}

private theorem reconcileReceipts_eq_some :
    db.reconcileReceipts = some { db with
      outbox := db.outbox.update (fun key row =>
        row.reconciled (db.receipts.find? key)) } := by
  refine updateOutbox_eq_some ?_ ?_
  · intro key row _ selected
    simp only [hasReceipt, Bool.and_eq_true] at selected
    obtain ⟨receipt, consumed⟩ := Option.isSome_iff_exists.mp selected.2
    simp only [consumed]
    exact OutboxMessageRow.check_reconcile _
  · intro key row _
    cases consumed : db.receipts.find? key with
    | none => simp [OutboxMessageRow.reconciled]
    | some receipt =>
        by_cases published : row.status = .published
        · simp [OutboxMessageRow.reconciled, published]
        · simp [OutboxMessageRow.reconciled, published, hasReceipt, consumed]

private theorem returnStalled_eq_some :
    db.returnStalled clock input = some { db with
      outbox := db.outbox.update (fun key row =>
        row.returned clock input (db.receipts.find? key)) } := by
  refine updateOutbox_eq_some ?_ ?_
  · intro key row _ _
    exact OutboxMessageRow.check_stall _
  · intro key row _
    simp only [OutboxMessageRow.returned, OutboxMessageRow.overdue, hasReceipt,
      Option.not_isSome]
    congr

private theorem failExhausted_eq_some (legal : db.LegalOutbox) :
    db.failExhausted clock input = some { db with
      outbox := db.outbox.update (fun _ row =>
        row.exhausted clock input) } := by
  refine updateOutbox_eq_some ?_ ?_
  · intro key row found spent
    exact OutboxMessageRow.check_exhaustPublication (legal key row found)
      (OutboxMessageRow.spent_pending spent)
  · intro key row _
    rfl

theorem LegalOutbox.refresh (legal : db.LegalOutbox) :
    (db.refreshOutbox clock input).LegalOutbox :=
  legal.update (fun _ _ _ checked => OutboxMessageRow.check_refreshed checked)

/-- The candidates of a claim are claimable, whatever its limit. -/
theorem publicationCandidates_claimable
    {candidate : OutboxMessageId × OutboxMessageRow}
    (member : candidate ∈ db.publicationCandidates clock input) :
    db.outbox.find? candidate.1 = some candidate.2 ∧
      candidate.2.claimable clock input = true := by
  have selected := List.mem_mergeSort.mp (List.mem_of_mem_take member)
  exact Table.mem_select.mp selected

/-- A transaction on legal rows commits: it refreshes every row and leases the
candidates. -/
theorem LegalOutbox.claimPendingOutbox_eq_ok (legal : db.LegalOutbox)
    (generated : OutboxMessageId → OutboxClaimId) :
    claimPendingOutbox clock input generated db =
      .ok (((db.refreshOutbox clock input).publicationCandidates clock
          input).map (fun entry =>
            { outboxMessageId := entry.1
              claimId := generated entry.1
              correlationId := entry.2.correlationId
              attempt := entry.2.publishAttempts + 1 }),
        (db.refreshOutbox clock input).leaseOutbox clock input generated
          (((db.refreshOutbox clock input).publicationCandidates clock
            input).map Prod.fst)) := by
  have reconciledLegal : LegalOutbox { db with
      outbox := db.outbox.update (fun key row =>
        row.reconciled (db.receipts.find? key)) } :=
    legal.update (fun _ _ _ checked =>
      OutboxMessageRow.check_reconciled checked)
  have returnedLegal : LegalOutbox { db with
      outbox := (db.outbox.update (fun key row =>
        row.reconciled (db.receipts.find? key))).update (fun key row =>
          row.returned clock input (db.receipts.find? key)) } :=
    reconciledLegal.update (fun _ _ _ checked =>
      OutboxMessageRow.check_returned checked)
  have refreshed : failExhausted clock input { db with
      outbox := (db.outbox.update (fun key row =>
        row.reconciled (db.receipts.find? key))).update (fun key row =>
          row.returned clock input (db.receipts.find? key)) } =
      some (db.refreshOutbox clock input) := by
    rw [failExhausted_eq_some returnedLegal]
    simp only [Table.update_update]
    rfl
  have leased : (db.refreshOutbox clock input).updateOutbox
      (fun key _ => key ∈ ((db.refreshOutbox clock
        input).publicationCandidates clock input).map Prod.fst)
      (fun key row => row.claimPublication clock input.leaseDurationSeconds
        (generated key)) =
      some ((db.refreshOutbox clock input).leaseOutbox clock input generated
        (((db.refreshOutbox clock input).publicationCandidates clock
          input).map Prod.fst)) := by
    refine updateOutbox_eq_some ?_ ?_
    · intro key row found selected
      obtain ⟨candidate, member, rfl⟩ :=
        List.mem_map.mp (of_decide_eq_true selected)
      obtain ⟨present, claimable⟩ := publicationCandidates_claimable member
      have same := Option.some.inj (present.symm.trans found)
      subst same
      exact OutboxMessageRow.check_claimPublication
        (legal.refresh _ _ found)
        (OutboxMessageRow.claimable_pending claimable) _ _
    · intro key row _
      simp only [decide_eq_true_eq]
  exact bind_eq_ok.mpr ⟨_, require_eq_ok.mpr reconcileReceipts_eq_some,
    bind_eq_ok.mpr ⟨_, require_eq_ok.mpr returnStalled_eq_some,
      bind_eq_ok.mpr ⟨_, require_eq_ok.mpr refreshed,
        bind_eq_ok.mpr ⟨_, require_eq_ok.mpr leased, rfl⟩⟩⟩⟩

/-- What a claim makes of every row, and which messages it returns. -/
structure ClaimPendingEffect (clock : DatabaseClock)
    (input : ClaimPendingOutboxInput)
    (generated : OutboxMessageId → OutboxClaimId)
    (db : ChannelDatabase) (claimed : List ClaimedOutboxPublication)
    (db' : ChannelDatabase) : Prop where
  receipts : db'.receipts = db.receipts
  rows : ∀ outboxMessageId row,
    db.outbox.find? outboxMessageId = some row →
    db'.outbox.find? outboxMessageId = some
      (if outboxMessageId ∈ claimed.map (·.outboxMessageId) then
        (row.refreshed clock input
          (db.receipts.find? outboxMessageId)).claimPublication clock
            input.leaseDurationSeconds (generated outboxMessageId)
      else
        row.refreshed clock input (db.receipts.find? outboxMessageId))
  absent : ∀ outboxMessageId, db.outbox.find? outboxMessageId = none →
    db'.outbox.find? outboxMessageId = none
  distinct : (claimed.map (·.outboxMessageId)).Nodup
  returned : ∀ message ∈ claimed,
    message.claimId = generated message.outboxMessageId ∧
      ∃ row, db.outbox.find? message.outboxMessageId = some row ∧
        (row.refreshed clock input (db.receipts.find?
          message.outboxMessageId)).claimable clock input = true
  eligible : (db.eligiblePublications clock input).length ≤ input.limit →
    ∀ outboxMessageId row, db.outbox.find? outboxMessageId = some row →
      (row.refreshed clock input (db.receipts.find?
        outboxMessageId)).claimable clock input = true →
      outboxMessageId ∈ claimed.map (·.outboxMessageId)

private theorem refreshOutbox_find? (outboxMessageId : OutboxMessageId) :
    (db.refreshOutbox clock input).outbox.find? outboxMessageId =
      (db.outbox.find? outboxMessageId).map (fun row =>
        row.refreshed clock input (db.receipts.find? outboxMessageId)) :=
  Table.find?_update _ _ _

private theorem leaseOutbox_find?
    {generated : OutboxMessageId → OutboxClaimId}
    {candidates : List OutboxMessageId} (outboxMessageId : OutboxMessageId) :
    (db.leaseOutbox clock input generated candidates).outbox.find?
        outboxMessageId =
      (db.outbox.find? outboxMessageId).map (fun row =>
        if outboxMessageId ∈ candidates then
          row.claimPublication clock input.leaseDurationSeconds
            (generated outboxMessageId)
        else
          row) :=
  Table.find?_update _ _ _

private theorem publicationCandidates_nodup :
    ((db.publicationCandidates clock input).map Prod.fst).Nodup := by
  have sorted : ((db.outbox.select (fun _ row =>
      row.claimable clock input)).mergeSort
        OutboxMessageRow.claimsBefore).Perm
      (db.outbox.select (fun _ row => row.claimable clock input)) :=
    List.mergeSort_perm _ _
  have selected : ((db.outbox.select (fun _ row =>
      row.claimable clock input)).map Prod.fst).Nodup :=
    (List.filter_sublist.map _).nodup db.outbox.keysNodup
  exact ((List.take_sublist _ _).map _).nodup
    ((sorted.map _).nodup_iff.mpr selected)

private theorem mem_publicationCandidates
    (within : (db.outbox.select (fun _ row =>
      row.claimable clock input)).length ≤ input.limit)
    {outboxMessageId : OutboxMessageId} {row : OutboxMessageRow}
    (found : db.outbox.find? outboxMessageId = some row)
    (claimable : row.claimable clock input = true) :
    (outboxMessageId, row) ∈ db.publicationCandidates clock input := by
  have whole : db.publicationCandidates clock input =
      (db.outbox.select (fun _ row =>
        row.claimable clock input)).mergeSort
          OutboxMessageRow.claimsBefore := by
    apply List.take_of_length_le
    rw [List.length_mergeSort]
    exact within
  rw [whole]
  exact List.mem_mergeSort.mpr (Table.mem_select.mpr ⟨found, claimable⟩)

theorem LegalOutbox.claimPendingEffect (legal : db.LegalOutbox)
    {generated : OutboxMessageId → OutboxClaimId}
    {claimed : List ClaimedOutboxPublication} {db' : ChannelDatabase}
    (ran : claimPendingOutbox clock input generated db =
      .ok (claimed, db')) :
    ClaimPendingEffect clock input generated db claimed db' := by
  rw [legal.claimPendingOutbox_eq_ok] at ran
  cases ran
  refine ⟨rfl, ?_, ?_, ?_, ?_, ?_⟩
  · intro outboxMessageId row found
    rw [leaseOutbox_find?, refreshOutbox_find?, found, List.map_map]
    rfl
  · intro outboxMessageId absent
    rw [leaseOutbox_find?, refreshOutbox_find?, absent]
    rfl
  · rw [List.map_map]
    exact publicationCandidates_nodup
  · intro message member
    obtain ⟨candidate, chosen, rfl⟩ := List.mem_map.mp member
    obtain ⟨present, claimable⟩ := publicationCandidates_claimable chosen
    rw [refreshOutbox_find?] at present
    obtain ⟨row, found, same⟩ := Option.map_eq_some_iff.mp present
    exact ⟨rfl, row, found, same ▸ claimable⟩
  · intro within outboxMessageId row found claimable
    rw [List.map_map]
    have present : (db.refreshOutbox clock input).outbox.find?
        outboxMessageId = some (row.refreshed clock input
          (db.receipts.find? outboxMessageId)) := by
      rw [refreshOutbox_find?, found]
      rfl
    exact List.mem_map.mpr
      ⟨_, mem_publicationCandidates within present claimable, rfl⟩

end Claim

end ChannelDatabase

end XpensGo
