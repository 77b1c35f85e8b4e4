import XpensGo.Channel.Dispatcher
import XpensGo.Channel.PublicationLeases
import XpensGo.Channel.PublicationProgress
import Mathlib.Data.List.Induction

/-!
# Isolation of the messages of a batch

A failure of the queue is recorded for its message and touches no other.  A
failure of the store fails the effect of its message, and with it the loop: in
every batch of several messages some order of the effects leaves another
message without its publication or without its transition.
-/

namespace XpensGo

open Postgres Relational Transition Concurrency ChannelDatabase

/-- What a step of the dispatcher makes of the row of a message. -/
def ownRow (outcomes : ClaimedOutboxPublication → PublicationOutcome) :
    DispatchAction → OutboxMessageId → OutboxMessageRow → OutboxMessageRow
  | .step message (.record fate clock), outboxMessageId, row =>
      if outboxMessageId = message.outboxMessageId ∧ fate ≠ .refused then
        message.recordedRow clock (outcomes message).queue row
      else
        row
  | .start, _, row | .step _ (.publish _), _, row | .others _, _, row => row

/-- The action belongs to the dispatcher. -/
def ByDispatcher : DispatchAction → Prop
  | .start | .step _ _ => True
  | .others _ => False

/-- Whatever the order in which the effects of a batch proceed, every message
is published once and its own transition executed once, and the dispatcher
writes its row by nothing but that transition. -/
structure BatchIsolated (claimed : List ClaimedOutboxPublication)
    (start : PublicationState)
    (outcomes : ClaimedOutboxPublication → PublicationOutcome) : Prop where
  dispatched : ∀ state,
    (dispatchSystem claimed start).ReachableWhere (Realizes outcomes) state →
    (dispatchLoop claimed).Ended state →
    ∀ message ∈ claimed,
      callsOf message state.store.requests =
          [(message, (outcomes message).queue)] ∧
        callsOf message state.store.transitions =
          [(message, (outcomes message).queue)]
  rows : ∀ state action state',
    (dispatchSystem claimed start).ReachableWhere (Realizes outcomes) state →
    Realizes outcomes state action →
    (dispatchSystem claimed start).next state action = some state' →
    ByDispatcher action →
    ∀ outboxMessageId row,
      state.store.publication.database.outbox.find? outboxMessageId =
        some row →
      state'.store.publication.database.outbox.find? outboxMessageId =
        some (ownRow outcomes action outboxMessageId row)

section Isolation

variable {claimed : List ClaimedOutboxPublication}
  {start : PublicationState} {state state' : DispatchState}
  {action : DispatchAction}
  {outcomes : ClaimedOutboxPublication → PublicationOutcome}

/-- No step of the dispatcher writes a row but that of its message. -/
theorem ownRow_of_step (legal : state.store.publication.database.LegalOutbox)
    (history : HistoryOf outcomes state)
    (taken : (dispatchLoop claimed).Step state action state')
    (own : ByDispatcher action) {outboxMessageId : OutboxMessageId}
    {row : OutboxMessageRow}
    (found : state.store.publication.database.outbox.find? outboxMessageId =
      some row) :
    state'.store.publication.database.outbox.find? outboxMessageId =
      some (ownRow outcomes action outboxMessageId row) := by
  cases taken with
  | start => exact found
  | @step message call phase store result running ran =>
      rcases dispatch_cases ran with
        ⟨outcome, rfl, rfl, rfl, rfl⟩ |
          ⟨outcome, fate, clock, rfl, rfl, rfl, rfl⟩
      · exact found
      · obtain rfl := history.recording message outcome running
        exact settle_report_find? legal found
  | others => exact own.elim

/-- In a run whose writes all succeed no effect fails. -/
theorem not_failed_of_writes
    (succeed : ∀ message ∈ claimed, (outcomes message).write = .succeeds)
    (reached : (dispatchSystem claimed start).ReachableWhere
      (Realizes outcomes) state) :
    ∀ message, state.progress message ≠ .failed := by
  apply ForEach.not_failed_of_reachable _ reached
  intro state message call phase written earlier realized running ran
  have member : message ∈ claimed := by
    apply (ForEach.reachable_orderly earlier).started
    rw [running]
    simp
  rcases dispatch_cases ran with
    ⟨outcome, _, _, _, continued⟩ |
      ⟨outcome, fate, clock, rfl, rfl, _, failed⟩
  · cases continued
  · obtain rfl := (reachable_history earlier).recording message outcome running
    have succeeded : message.writeOutcome clock (outcomes message).queue fate
        state.store.publication.database = .succeeds :=
      Eq.trans realized (succeed message member)
    rw [if_pos succeeded] at failed
    cases failed

private theorem eq_of_length_le_one {α : Type} {elements : List α}
    (single : elements.length ≤ 1) {first second : α}
    (firstMember : first ∈ elements) (secondMember : second ∈ elements) :
    first = second := by
  obtain ⟨left, _, rfl⟩ := List.mem_iff_getElem.mp firstMember
  obtain ⟨right, _, rfl⟩ := List.mem_iff_getElem.mp secondMember
  have same : left = right := by omega
  subst same
  rfl

/-- The effects of a loop that has ended have all run to their end if none of
them failed or there is only one. -/
theorem finished_of_ended
    (reached : (dispatchSystem claimed start).ReachableWhere
      (Realizes outcomes) state)
    (ended : (dispatchLoop claimed).Ended state)
    (condition : claimed.length ≤ 1 ∨
      ∀ message ∈ claimed, (outcomes message).write = .succeeds)
    {message : ClaimedOutboxPublication} (member : message ∈ claimed) :
    HasPublished (state.progress message) = true ∧
      HasRecorded (state.progress message) = true := by
  have orderly := ForEach.reachable_orderly reached
  by_cases failed : state.progress message = .failed
  · rw [failed]
    exact ⟨rfl, rfl⟩
  · have unfailed : ∀ other ∈ claimed, state.progress other ≠ .failed := by
      intro other listed
      rcases condition with single | succeed
      · rw [eq_of_length_le_one single listed member]
        exact failed
      · exact not_failed_of_writes succeed reached other
    obtain ⟨result, succeeded⟩ :=
      orderly.succeeded ended unfailed message member
    rw [succeeded]
    exact ⟨rfl, rfl⟩

theorem batchIsolated_of_condition
    (reached : publicationSystem.Reachable start)
    (condition : claimed.length ≤ 1 ∨
      ∀ message ∈ claimed, (outcomes message).write = .succeeds) :
    BatchIsolated claimed start outcomes := by
  constructor
  · intro state dispatched ended message member
    have history := reachable_history dispatched
    obtain ⟨published, recorded⟩ :=
      finished_of_ended dispatched ended condition member
    constructor
    · rw [history.requests message, if_pos published]
    · rw [history.transitions message, if_pos recorded]
  · intro state action state' dispatched realized taken own outboxMessageId row
      found
    have sound := reachable_publicationSound
      (reachable_publication reached dispatched.reachable)
    exact ownRow_of_step sound.legal (reachable_history dispatched)
      (ForEach.step_of_next taken) own found

end Isolation

section Schedules

variable {claimed : List ClaimedOutboxPublication}
  {start : PublicationState} {state : DispatchState}
  {outcomes : ClaimedOutboxPublication → PublicationOutcome}

/-- A message that is pending under the claim of the dispatcher and has not
been consumed. -/
def HeldForDispatch (db : ChannelDatabase)
    (message : ClaimedOutboxPublication) : Prop :=
  db.publicationHeld message.mark = true ∧
    db.receipts.find? message.outboxMessageId = none

/-- A claim holds the messages that it returns. -/
theorem heldForDispatch_of_claim {before : PublicationState}
    {clock : DatabaseClock} {generated : OutboxMessageId → OutboxClaimId}
    (reached : publicationSystem.Reachable before)
    (taken : publicationSystem.next before
      (.claimPending clock dispatchClaimInput generated) = some start)
    {message : ClaimedOutboxPublication}
    (member : message ∈ before.returned clock dispatchClaimInput generated) :
    HeldForDispatch start.database message := by
  obtain ⟨database, effect, committed⟩ := next_claimPending
    (reachable_publicationSound reached).legal clock dispatchClaimInput
      generated
  obtain rfl := Option.some.inj (committed.symm.trans taken)
  obtain ⟨claimId, row, found, claimable⟩ := effect.returned message member
  have written := effect.rows message.outboxMessageId row found
  rw [if_pos (List.mem_map_of_mem member)] at written
  constructor
  · apply publicationHeld_iff.mpr
    refine ⟨_, written, ?_, ?_⟩
    · rw [OutboxMessageRow.claimPublication_status]
      exact OutboxMessageRow.claimable_pending claimable
    · rw [OutboxMessageRow.claimPublication_publishClaimId]
      exact congrArg some claimId.symm
  · change database.receipts.find? message.outboxMessageId = none
    rw [effect.receipts]
    cases consumed : before.database.receipts.find? message.outboxMessageId with
    | none => rfl
    | some receipt =>
        refine absurd rfl (not_returned_of_receipt reached ?_ member)
        rw [consumed]
        rfl

theorem claimed_distinct {before : PublicationState}
    (reached : publicationSystem.Reachable before) (clock : DatabaseClock)
    (generated : OutboxMessageId → OutboxClaimId) :
    ((before.returned clock dispatchClaimInput generated).map
      (·.outboxMessageId)).Nodup := by
  obtain ⟨database, effect, _⟩ := next_claimPending
    (reachable_publicationSound reached).legal clock dispatchClaimInput
      generated
  exact effect.distinct

/-- A call of one message leaves the others held. -/
theorem HeldForDispatch.settle_report {db : ChannelDatabase}
    {message other : ClaimedOutboxPublication}
    (held : HeldForDispatch db message) (legal : db.LegalOutbox)
    (different : message.outboxMessageId ≠ other.outboxMessageId)
    (fate : CallFate) (clock : DatabaseClock) (outcome : QueueOutcome) :
    HeldForDispatch
      (settle fate (other.report clock outcome) db).database message := by
  obtain ⟨holds, unconsumed⟩ := held
  obtain ⟨row, found, pending, claim⟩ := publicationHeld_iff.mp holds
  constructor
  · apply publicationHeld_iff.mpr
    refine ⟨row, ?_, pending, claim⟩
    exact (settle_report_find? legal found).trans
      (congrArg some (if_neg (fun both => different both.1)))
  · rw [settle_report_receipts legal]
    exact unconsumed

/-- Once its lease has passed, a message can be taken from the dispatcher. -/
theorem exists_taken {publication : PublicationState}
    {message : ClaimedOutboxPublication}
    (sound : PublicationSound publication)
    (held : HeldForDispatch publication.database message) :
    ∃ action publication' row,
      publicationSystem.next publication action = some publication' ∧
        publication'.database.outbox.find? message.outboxMessageId =
          some row ∧
        row.status ≠ .published ∧
          (row.status = .pending →
            row.publishClaimId ≠ some message.claimId) := by
  obtain ⟨holds, unconsumed⟩ := held
  obtain ⟨row, found, pending, claim⟩ := publicationHeld_iff.mp holds
  obtain ⟨claimedUntil, leased⟩ : ∃ claimedUntil,
      row.publishClaimedUntil = some claimedUntil := by
    have together :=
      (OutboxMessageRow.check_pending (sound.legal _ _ found) pending).2.2
    rw [claim] at together
    exact Option.isSome_iff_exists.mp together.symm
  let clock : DatabaseClock :=
    { channelClock 0 with
      currentTimestamp := max row.nextPublishAttemptAt claimedUntil }
  let other : OutboxClaimId := ⟨message.claimId.number + 1⟩
  let input : ClaimPendingOutboxInput :=
    { dispatchClaimInput with
      limit := (publication.database.eligiblePublications clock
        dispatchClaimInput).length }
  have due : row.nextPublishAttemptAt ≤ clock.currentTimestamp :=
    le_max_left _ _
  have free : row.unclaimed clock = true := by
    simp only [OutboxMessageRow.unclaimed, leased, Option.all_some,
      decide_eq_true_eq]
    exact le_max_right _ _
  obtain ⟨database, effect, committed⟩ :=
    next_claimPending sound.legal clock input (fun _ => other)
  have written := effect.rows message.outboxMessageId row found
  have settled := @OutboxMessageRow.refreshed_of_pending row clock input
    pending free due
  have eligible := effect.eligible (le_refl _) message.outboxMessageId row
    found
  rw [unconsumed] at written eligible
  generalize refreshed : row.refreshed clock input none = next
    at written settled eligible
  refine ⟨.claimPending clock input (fun _ => other), _, _, committed,
    written, ?_, ?_⟩
  · have unpublished : next.status ≠ .published := by
      rcases settled with failed | claimable
      · simp [failed]
      · simp [OutboxMessageRow.claimable_pending claimable]
    split
    · rw [OutboxMessageRow.claimPublication_status]
      exact unpublished
    · exact unpublished
  · split
    · intro _ same
      rw [OutboxMessageRow.claimPublication_publishClaimId] at same
      have numbers := congrArg Uuid.number (Option.some.inj same)
      exact Nat.succ_ne_self _ numbers
    · rename_i unreturned
      intro stillPending
      rcases settled with failed | claimable
      · rw [failed] at stillPending
        cases stillPending
      · exact absurd (eligible claimable) unreturned

/-- A run that has completed the effects of some messages and has started no
other. -/
structure Completed (claimed : List ClaimedOutboxPublication)
    (start : PublicationState)
    (outcomes : ClaimedOutboxPublication → PublicationOutcome)
    (done rest : List ClaimedOutboxPublication) (state : DispatchState) :
    Prop where
  reached :
    (dispatchSystem claimed start).ReachableWhere (Realizes outcomes) state
  finished : ∀ message ∈ done, ∃ result,
    state.progress message = .succeeded result
  waiting : ∀ message ∈ rest, state.progress message = .waiting
  held : ∀ message ∈ rest,
    HeldForDispatch state.store.publication.database message

private theorem reachable_start {message other : ClaimedOutboxPublication}
    {started rest before after : List ClaimedOutboxPublication}
    (reached :
      (dispatchSystem claimed start).ReachableWhere (Realizes outcomes) state)
    (split : claimed = started ++ message :: rest)
    (earlier : ∀ other ∈ started, state.progress other ≠ .waiting)
    (waiting : state.progress message = .waiting)
    (unfailed : ∀ other ∈ claimed, state.progress other ≠ .failed)
    (around : claimed = before ++ other :: after)
    (idleBefore : ∀ message ∈ before,
      (state.progress message).isRunning = false)
    (idleAfter : ∀ message ∈ after,
      (state.progress message).isRunning = false) :
    (dispatchSystem claimed start).ReachableWhere (Realizes outcomes)
      { state with
        progress := Function.update state.progress message
          (.running .publishing) } := by
  have below : (dispatchLoop claimed).running state.progress <
      dispatchConcurrency := by
    have none : before.countP (fun message =>
        (state.progress message).isRunning) = 0 := by
      apply List.countP_eq_zero.mpr
      intro message member
      simp [idleBefore message member]
    have neither : after.countP (fun message =>
        (state.progress message).isRunning) = 0 := by
      apply List.countP_eq_zero.mpr
      intro message member
      simp [idleAfter message member]
    change claimed.countP _ < 5
    rw [around, List.countP_append, List.countP_cons, none, neither]
    split <;> omega
  have permitted : Realizes outcomes state .start := trivial
  exact .step reached permitted
    (ForEach.next_start split earlier waiting below unfailed)

private theorem reachable_publish {message : ClaimedOutboxPublication}
    (reached :
      (dispatchSystem claimed start).ReachableWhere (Realizes outcomes) state)
    (running : state.progress message = .running .publishing) :
    (dispatchSystem claimed start).ReachableWhere (Realizes outcomes)
      { store := { state.store with
          requests := state.store.requests ++
            [(message, (outcomes message).queue)] }
        progress := Function.update state.progress message
          (.running (.recording (outcomes message).queue)) } := by
  have permitted : Realizes outcomes state
      (.step message (.publish (outcomes message).queue)) := rfl
  refine .step reached permitted ?_
  have ran : (dispatchLoop claimed).effect message .publishing
      (.publish (outcomes message).queue) state.store = some
        ({ state.store with
            requests := state.store.requests ++
              [(message, (outcomes message).queue)] },
          .continues (.recording (outcomes message).queue)) := rfl
  exact ForEach.next_step (dispatchLoop claimed) running ran

private theorem reachable_record {message : ClaimedOutboxPublication}
    (reached :
      (dispatchSystem claimed start).ReachableWhere (Realizes outcomes) state)
    (running : state.progress message =
      .running (.recording (outcomes message).queue))
    {fate : CallFate} {clock : DatabaseClock}
    (realized : message.writeOutcome clock (outcomes message).queue fate
      state.store.publication.database = (outcomes message).write) :
    (dispatchSystem claimed start).ReachableWhere (Realizes outcomes)
      { store :=
          { publication := { state.store.publication with
              database := (settle fate
                (message.report clock (outcomes message).queue)
                state.store.publication.database).database }
            requests := state.store.requests
            transitions := state.store.transitions ++
              [(message, (outcomes message).queue)] }
        progress :=
          EffectStep.advance state.progress message
            (if (outcomes message).write = .succeeds then
              .succeeds (message.dispatchOutcome (outcomes message).queue)
            else
              .fails) } := by
  have ran := @dispatch_recording message clock (outcomes message).queue fate
    state.store
  rw [realized] at ran
  have permitted : Realizes outcomes state
      (.step message (.record fate clock)) := realized
  refine .step reached permitted ?_
  exact ForEach.next_step (dispatchLoop claimed) running ran

/-- The effect of a message whose write will fail can be run to its failure
before any other effect takes a step. -/
private theorem exists_cut {message : ClaimedOutboxPublication}
    (recovered : publicationSystem.Reachable start)
    (reached :
      (dispatchSystem claimed start).ReachableWhere (Realizes outcomes) state)
    (member : message ∈ claimed)
    (running : state.progress message = .running .publishing)
    (held : HeldForDispatch state.store.publication.database message)
    (fails : (outcomes message).write ≠ .succeeds) :
    ∃ state',
      (dispatchSystem claimed start).ReachableWhere (Realizes outcomes)
          state' ∧
        (dispatchLoop claimed).Ended state' ∧
          ∀ other, other ≠ message →
            HasPublished (state'.progress other) =
              HasPublished (state.progress other) := by
  have published := reachable_publish reached running
  have sound := reachable_publicationSound
    (reachable_publication recovered reached.reachable)
  have unpublished : ∀ other, other ≠ message →
      HasPublished (EffectStep.advance
        (Function.update state.progress message
          (.running (.recording (outcomes message).queue))) message .fails
            other) = HasPublished (state.progress other) := by
    intro other different
    rw [EffectStep.advance_congr _ _ hasPublished_interrupt different,
      Function.update_of_ne different]
  cases ends : (outcomes message).write with
  | succeeds => exact absurd ends fails
  | unavailable =>
      have recorded := @reachable_record claimed start _ outcomes message
        published (Function.update_self _ _ _) .refused (channelClock 0)
        (writeOutcome_of_refused.trans ends.symm)
      rw [if_neg fails] at recorded
      exact ⟨_, recorded, ForEach.ended_of_fails member _ _, unpublished⟩
  | conflicts =>
      obtain ⟨action, publication, row, moved, found, unpublishedRow, taken⟩ :=
        exists_taken sound held
      have others : (dispatchSystem claimed start).next
          { store := { state.store with
              requests := state.store.requests ++
                [(message, (outcomes message).queue)] }
            progress := Function.update state.progress message
              (.running (.recording (outcomes message).queue)) }
          (.others action) = some
          { store :=
              { publication := publication
                requests := state.store.requests ++
                  [(message, (outcomes message).queue)]
                transitions := state.store.transitions }
            progress := Function.update state.progress message
              (.running (.recording (outcomes message).queue)) } := by
        simp [dispatchSystem, ForEach.system, ForEach.next, dispatchLoop,
          moved]
      have permitted : Realizes outcomes
          { store := { state.store with
              requests := state.store.requests ++
                [(message, (outcomes message).queue)] }
            progress := Function.update state.progress message
              (.running (.recording (outcomes message).queue)) }
          (.others action) := trivial
      have recorded := @reachable_record claimed start _ outcomes message
        (.step published permitted others) (Function.update_self _ _ _)
        .answered (channelClock 0)
        ((writeOutcome_of_taken found unpublishedRow taken).trans ends.symm)
      rw [if_neg fails] at recorded
      exact ⟨_, recorded, ForEach.ended_of_fails member _ _, unpublished⟩

private theorem Completed.start_next
    {done rest : List ClaimedOutboxPublication}
    {message : ClaimedOutboxPublication}
    (split : claimed = done ++ message :: rest)
    (completed :
      Completed claimed start outcomes done (message :: rest) state) :
    (dispatchSystem claimed start).ReachableWhere (Realizes outcomes)
      { state with
        progress := Function.update state.progress message
          (.running .publishing) } := by
  apply reachable_start completed.reached split _
    (completed.waiting message List.mem_cons_self) _ split
  · intro other member
    obtain ⟨result, succeeded⟩ := completed.finished other member
    simp [succeeded, Progress.isRunning]
  · intro other member
    simp [completed.waiting other (List.mem_cons_of_mem _ member),
      Progress.isRunning]
  · intro other member
    obtain ⟨result, succeeded⟩ := completed.finished other member
    simp [succeeded]
  · intro other member
    rw [split] at member
    rcases List.mem_append.mp member with finished | unstarted
    · obtain ⟨result, succeeded⟩ := completed.finished other finished
      simp [succeeded]
    · simp [completed.waiting other unstarted]

/-- A message whose write succeeds can be completed before any other message
is started. -/
private theorem Completed.extend
    {done rest : List ClaimedOutboxPublication}
    {message : ClaimedOutboxPublication}
    (recovered : publicationSystem.Reachable start)
    (distinct : (claimed.map (·.outboxMessageId)).Nodup)
    (split : claimed = done ++ message :: rest)
    (completed : Completed claimed start outcomes done (message :: rest) state)
    (succeeds : (outcomes message).write = .succeeds) :
    ∃ state',
      Completed claimed start outcomes (done ++ [message]) rest state' := by
  have apart : ∀ other ∈ done ++ rest,
      other.outboxMessageId ≠ message.outboxMessageId := by
    rw [split, List.map_append, List.map_cons] at distinct
    have once := (List.nodup_cons.mp (List.nodup_middle.mp distinct)).1
    rw [← List.map_append] at once
    intro other member same
    exact once (List.mem_map.mpr ⟨other, member, same⟩)
  have held := completed.held message List.mem_cons_self
  have sound := reachable_publicationSound
    (reachable_publication recovered completed.reached.reachable)
  have started := completed.start_next split
  have published := reachable_publish started (Function.update_self _ _ _)
  have recorded := @reachable_record claimed start _ outcomes message
    published (Function.update_self _ _ _) .answered (channelClock 0)
    ((writeOutcome_of_held sound.legal held.1).trans succeeds.symm)
  rw [if_pos succeeds] at recorded
  refine ⟨_, recorded, ?_, ?_, ?_⟩
  · intro other member
    by_cases same : other = message
    · subst same
      exact ⟨_, Function.update_self _ _ _⟩
    · have earlier : other ∈ done := by
        rcases List.mem_append.mp member with earlier | last
        · exact earlier
        · exact absurd (List.mem_singleton.mp last) same
      obtain ⟨result, succeeded⟩ := completed.finished other earlier
      refine ⟨result, ?_⟩
      simp only [EffectStep.advance, Function.update_of_ne same]
      exact succeeded
  · intro other member
    have different : other ≠ message := by
      rintro rfl
      exact apart other (List.mem_append_right _ member) rfl
    simp only [EffectStep.advance, Function.update_of_ne different]
    exact completed.waiting other (List.mem_cons_of_mem _ member)
  · intro other member
    exact (completed.held other (List.mem_cons_of_mem _ member)).settle_report
      sound.legal (apart other (List.mem_append_right _ member)) _ _ _

/-- The messages before the first whose write fails can be completed one by
one. -/
private theorem exists_completed
    (recovered : publicationSystem.Reachable start)
    (distinct : (claimed.map (·.outboxMessageId)).Nodup)
    (held : ∀ message ∈ claimed, HeldForDispatch start.database message)
    {done rest : List ClaimedOutboxPublication}
    (split : claimed = done ++ rest)
    (succeed : ∀ message ∈ done, (outcomes message).write = .succeeds) :
    ∃ state, Completed claimed start outcomes done rest state := by
  induction done using List.reverseRecOn generalizing rest with
  | nil =>
      subst split
      exact ⟨_, .init rfl, fun _ member => absurd member (List.not_mem_nil),
        fun _ _ => rfl, held⟩
  | append_singleton done message induction =>
      have shape : claimed = done ++ message :: rest := by simp [split]
      obtain ⟨state, completed⟩ := induction shape (fun other member =>
        succeed other (List.mem_append_left _ member))
      exact completed.extend recovered distinct shape
        (succeed message (by simp))

private theorem exists_first_failure
    (failing : ¬ ∀ message ∈ claimed, (outcomes message).write = .succeeds) :
    ∃ done message rest, claimed = done ++ message :: rest ∧
      (∀ other ∈ done, (outcomes other).write = .succeeds) ∧
        (outcomes message).write ≠ .succeeds := by
  induction claimed with
  | nil =>
      apply (failing _).elim
      intro message member
      cases member
  | cons message claimed induction =>
      by_cases fails : (outcomes message).write = .succeeds
      · have later : ¬ ∀ other ∈ claimed,
            (outcomes other).write = .succeeds := by
          intro succeed
          apply failing
          intro other member
          rcases List.mem_cons.mp member with rfl | member
          · exact fails
          · exact succeed other member
        obtain ⟨done, first, rest, rfl, succeed, failed⟩ := induction later
        refine ⟨message :: done, first, rest, rfl, ?_, failed⟩
        intro other member
        rcases List.mem_cons.mp member with rfl | member
        · exact fails
        · exact succeed other member
      · exact ⟨[], message, claimed, rfl, fun _ member =>
          absurd member List.not_mem_nil, fails⟩

/-- A batch of several messages is not isolated from a write that fails. -/
theorem condition_of_batchIsolated
    (recovered : publicationSystem.Reachable start)
    (distinct : (claimed.map (·.outboxMessageId)).Nodup)
    (held : ∀ message ∈ claimed, HeldForDispatch start.database message)
    (isolated : BatchIsolated claimed start outcomes) :
    claimed.length ≤ 1 ∨
      ∀ message ∈ claimed, (outcomes message).write = .succeeds := by
  by_contra neither
  obtain ⟨several, failing⟩ := not_or.mp neither
  obtain ⟨done, message, rest, split, succeed, fails⟩ :=
    exists_first_failure failing
  -- a state in which the message runs and another has not been published
  have refutation : ∀ state other,
      (dispatchSystem claimed start).ReachableWhere (Realizes outcomes)
        state →
      state.progress message = .running .publishing →
      HeldForDispatch state.store.publication.database message →
      other ∈ claimed → other ≠ message →
      HasPublished (state.progress other) = false → False := by
    intro state other reached running holds member different unpublished
    obtain ⟨final, cut, ended, kept⟩ := exists_cut recovered reached
      (by simp [split]) running holds fails
    have once := (isolated.dispatched final cut ended other member).1
    rw [(reachable_history cut).requests other, kept other different,
      unpublished] at once
    cases once
  rcases List.eq_nil_or_concat done with rfl | ⟨earlier, other, rfl⟩
  · obtain ⟨state, completed⟩ :=
      exists_completed recovered distinct held split succeed
    cases rest with
    | nil => simp [split] at several
    | cons other rest =>
        have different : other ≠ message := by
          rintro rfl
          simp [split] at distinct
        apply refutation _ other (completed.start_next split)
          (Function.update_self _ _ _)
          (completed.held message List.mem_cons_self) (by simp [split])
          different
        simp only [Function.update_of_ne different]
        rw [completed.waiting other (by simp)]
        rfl
  · rw [List.concat_eq_append, List.append_assoc,
      List.singleton_append] at split
    obtain ⟨state, completed⟩ := exists_completed recovered distinct held
      split (fun other member => succeed other (by simp [member]))
    have apart : ∀ sent ∈ earlier ++ message :: rest, sent ≠ other := by
      intro sent member same
      rw [split, List.map_append, List.map_cons] at distinct
      have once := (List.nodup_cons.mp (List.nodup_middle.mp distinct)).1
      rw [← List.map_append] at once
      exact once (List.mem_map.mpr ⟨sent, member, congrArg _ same⟩)
    have different : other ≠ message :=
      Ne.symm (apart message (by simp))
    have unstarted : ∀ sent ∈ message :: rest,
        Function.update state.progress other (.running .publishing) sent =
          .waiting := by
      intro sent member
      rw [Function.update_of_ne
        (apart sent (List.mem_append_right _ member))]
      exact completed.waiting sent (List.mem_cons_of_mem _ member)
    have finished : ∀ sent ∈ earlier, ∃ result,
        Function.update state.progress other (.running .publishing) sent =
          .succeeded result := by
      intro sent member
      rw [Function.update_of_ne (apart sent (List.mem_append_left _ member))]
      exact completed.finished sent member
    have both := reachable_start (completed.start_next split)
      (show claimed = (earlier ++ [other]) ++ message :: rest by simp [split])
      (by
        intro sent member
        rcases List.mem_append.mp member with before | last
        · obtain ⟨result, succeeded⟩ := finished sent before
          simp [succeeded]
        · simp [List.mem_singleton.mp last])
      (unstarted message List.mem_cons_self)
      (by
        intro sent member
        rw [split] at member
        rcases List.mem_append.mp member with before | member
        · obtain ⟨result, succeeded⟩ := finished sent before
          simp [succeeded]
        · rcases List.mem_cons.mp member with rfl | after
          · simp
          · simp [unstarted sent after])
      split
      (by
        intro sent member
        obtain ⟨result, succeeded⟩ := finished sent member
        simp [succeeded, Progress.isRunning])
      (by
        intro sent member
        simp [unstarted sent member, Progress.isRunning])
    apply refutation _ other both (Function.update_self _ _ _)
      (completed.held message (by simp)) (by simp [split]) different
    simp only [Function.update_of_ne different, Function.update_self]
    rfl

end Schedules

/-- The messages of a batch are isolated from each other, in every order in
which their effects can proceed, exactly if the batch holds at most one message
or every store write that follows a publication succeeds. -/
theorem batch_isolated_iff {before start : PublicationState}
    {clock : DatabaseClock} {generated : OutboxMessageId → OutboxClaimId}
    (reached : publicationSystem.Reachable before)
    (taken : publicationSystem.next before
      (.claimPending clock dispatchClaimInput generated) = some start)
    (outcomes : ClaimedOutboxPublication → PublicationOutcome) :
    BatchIsolated (before.returned clock dispatchClaimInput generated) start
        outcomes ↔
      (before.returned clock dispatchClaimInput generated).length ≤ 1 ∨
        ∀ message ∈ before.returned clock dispatchClaimInput generated,
          (outcomes message).write = .succeeds := by
  constructor
  · intro isolated
    exact condition_of_batchIsolated (reached.step taken)
      (claimed_distinct reached clock generated)
      (fun _ member => heldForDispatch_of_claim reached taken member) isolated
  · intro condition
    exact batchIsolated_of_condition (reached.step taken) condition

section Samples

/-- Two events are stored, and with them two messages. -/
def createTwo : List PublicationAction :=
  [.create (channelClock 5000000) ⟨201⟩ ⟨101⟩ none .channelEventReceived ⟨9⟩,
    .create (channelClock 5000000) ⟨202⟩ ⟨102⟩ none .channelEventReceived
      ⟨9⟩]

/-- Two messages wait for their publication. -/
def twoMessages : PublicationState :=
  (publicationSystem.run samplePublicationStart createTwo).getD
    samplePublicationStart

def claimedSample (number : Nat) : ClaimedOutboxPublication :=
  { outboxMessageId := ⟨number⟩
    claimId := ⟨number⟩
    correlationId := ⟨9⟩
    attempt := 1 }

/-- The database is not available when the first message is marked. -/
def firstWriteLost (message : ClaimedOutboxPublication) :
    PublicationOutcome :=
  { queue := .accepted
    write := if message = claimedSample 201 then .unavailable else .succeeds }

private theorem twoMessages_reachable :
    publicationSystem.Reachable twoMessages := by
  have ran : publicationSystem.run samplePublicationStart createTwo =
      some twoMessages := rfl
  exact System.reachable_of_run (show publicationSystem.Initial
    samplePublicationStart from ⟨rfl, rfl, rfl⟩) ran

private theorem twoMessages_claim :
    claimPendingOutbox (channelClock 5000000) dispatchClaimInput
        (fun other => other) twoMessages.database =
      .ok ([claimedSample 201, claimedSample 202],
        (twoMessages.database.refreshOutbox (channelClock 5000000)
          dispatchClaimInput).leaseOutbox (channelClock 5000000)
            dispatchClaimInput (fun other => other) [⟨201⟩, ⟨202⟩]) := by
  have legal := (reachable_publicationSound twoMessages_reachable).legal
  have sorted : (twoMessages.database.refreshOutbox (channelClock 5000000)
      dispatchClaimInput).publicationCandidates (channelClock 5000000)
        dispatchClaimInput =
      (twoMessages.database.eligiblePublications (channelClock 5000000)
        dispatchClaimInput).take dispatchClaimInput.limit := by
    unfold publicationCandidates
    rw [List.mergeSort_of_pairwise]
    · rfl
    · decide +kernel
  rw [legal.claimPendingOutbox_eq_ok, sorted]
  rfl

/-- The outbox once the batch of both messages is claimed. -/
def twoClaimed : PublicationState :=
  { database :=
      (twoMessages.database.refreshOutbox (channelClock 5000000)
        dispatchClaimInput).leaseOutbox (channelClock 5000000)
          dispatchClaimInput (fun other => other) [⟨201⟩, ⟨202⟩]
    history := twoMessages.history ++
      [.claimed (claimedSample 201), .claimed (claimedSample 202)] }

private theorem twoMessages_returned :
    twoMessages.returned (channelClock 5000000) dispatchClaimInput
      (fun other => other) = [claimedSample 201, claimedSample 202] := by
  rw [PublicationState.returned, twoMessages_claim]

private theorem twoMessages_next :
    publicationSystem.next twoMessages
      (.claimPending (channelClock 5000000) dispatchClaimInput
        (fun other => other)) = some twoClaimed := by
  change some (twoMessages.run _ _) = _
  rw [PublicationState.run, withTransaction, twoMessages_claim]
  rfl

/-- Both writes succeed, one after the other. -/
theorem batch_isolated_iff_both :
    BatchIsolated
      (twoMessages.returned (channelClock 5000000) dispatchClaimInput
        (fun other => other)) twoClaimed
      (fun _ => { queue := .accepted, write := .succeeds }) :=
  (batch_isolated_iff twoMessages_reachable twoMessages_next _).mpr
    (.inr (fun _ _ => rfl))

/-- The queue has accepted both jobs when the database fails to mark the first
message: the second is never marked. -/
def cutRun : List DispatchAction :=
  [.start, .start,
    .step (claimedSample 201) (.publish .accepted),
    .step (claimedSample 202) (.publish .accepted),
    .step (claimedSample 201) (.record .refused (channelClock 5000100))]

theorem second_message_unrecorded :
    publicationSystem.Reachable twoMessages ∧
      publicationSystem.next twoMessages
          (.claimPending (channelClock 5000000) dispatchClaimInput
            (fun other => other)) = some twoClaimed ∧
        twoMessages.returned (channelClock 5000000) dispatchClaimInput
            (fun other => other) = [claimedSample 201, claimedSample 202] ∧
          (∃ state,
            (dispatchSystem [claimedSample 201, claimedSample 202]
                twoClaimed).ReachableWhere (Realizes firstWriteLost) state ∧
              (dispatchLoop
                [claimedSample 201, claimedSample 202]).Ended state ∧
              callsOf (claimedSample 202) state.store.requests =
                [(claimedSample 202, .accepted)] ∧
              callsOf (claimedSample 202) state.store.transitions = []) ∧
            ¬ BatchIsolated [claimedSample 201, claimedSample 202] twoClaimed
              firstWriteLost := by
  obtain ⟨state, reached, tested⟩ := System.exists_reachableWhere_of_run
    cutRun
    (fun state action => decide (Realizes firstWriteLost state action))
    (fun state => decide
      ((dispatchLoop [claimedSample 201, claimedSample 202]).Ended state ∧
        callsOf (claimedSample 202) state.store.requests =
          [(claimedSample 202, .accepted)] ∧
        callsOf (claimedSample 202) state.store.transitions = []))
    (fun _ _ permitted => of_decide_eq_true permitted)
    (show (dispatchSystem [claimedSample 201, claimedSample 202]
      twoClaimed).Initial _ from rfl) (by decide +kernel)
  obtain ⟨ended, requested, unrecorded⟩ := of_decide_eq_true tested
  refine ⟨twoMessages_reachable, twoMessages_next, twoMessages_returned,
    ⟨state, reached, ended, requested, unrecorded⟩, ?_⟩
  intro isolated
  have recorded := (isolated.dispatched state reached ended
    (claimedSample 202) (by simp)).2
  rw [unrecorded] at recorded
  cases recorded

end Samples

end XpensGo
