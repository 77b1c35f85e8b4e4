import XpensGo.Channel.EventProcessing

/-!
# Events are processed exactly once

The consistency of event processing read off the tables, and what a claim that
is not held any more can still do: nothing.
-/

namespace XpensGo

open Postgres Relational Transition ChannelDatabase

section ProcessedEvents

variable {db : ChannelDatabase} {inboundEventId : InboundEventId}

/-- An outbox message `channel.reply.requested.v1` of the event. -/
def RequestedBy (db : ChannelDatabase) (inboundEventId : InboundEventId)
    (outboxMessageId : OutboxMessageId) : Prop :=
  ∃ row outboundMessageId, db.outbox.find? outboxMessageId = some row ∧
    row.inboundEventId = inboundEventId ∧
      row.kind = .channelReplyRequested outboundMessageId

/-- An outbound message of the event. -/
def AnsweredBy (db : ChannelDatabase) (inboundEventId : InboundEventId)
    (outboundMessageId : OutboundChannelMessageId) : Prop :=
  ∃ row, db.messages.find? outboundMessageId = some row ∧
    row.inboundEventId = inboundEventId

/-- A normalized command of the event. -/
def CommandedBy (db : ChannelDatabase) (inboundEventId : InboundEventId)
    (commandId : NormalizedCommandId) : Prop :=
  ∃ row, db.commands.find? commandId = some row ∧
    row.inboundEventId = inboundEventId

/-- The rows of a processed event: one reply, one request for it, and one
command if and only if the event was completed with a text, all of them with
the owner of the event. -/
structure ProcessedRows (db : ChannelDatabase)
    (inboundEventId : InboundEventId) (event : InboundEventRow) : Prop where
  reply : ∃ outboundMessageId message outboxMessageId outbox,
    db.messages.find? outboundMessageId = some message ∧
      db.outbox.find? outboxMessageId = some outbox ∧
      (∀ other, AnsweredBy db inboundEventId other ↔
        other = outboundMessageId) ∧
      (∀ other, RequestedBy db inboundEventId other ↔
        other = outboxMessageId) ∧
      outbox.kind = .channelReplyRequested outboundMessageId ∧
      message.owner = event.owner ∧ outbox.owner = event.owner
  commanded : event.AcceptedText → ∃! commandId,
    CommandedBy db inboundEventId commandId
  textless : ¬ event.AcceptedText → ∀ commandId,
    ¬ CommandedBy db inboundEventId commandId
  commandOwner : ∀ commandId command,
    db.commands.find? commandId = some command →
    command.inboundEventId = inboundEventId → event.owner = some command.owner

/-- An event that is not processed has no rows of its processing. -/
structure UnprocessedRows (db : ChannelDatabase)
    (inboundEventId : InboundEventId) : Prop where
  reply : ∀ outboundMessageId, ¬ AnsweredBy db inboundEventId outboundMessageId
  request : ∀ outboxMessageId, ¬ RequestedBy db inboundEventId outboxMessageId
  command : ∀ commandId, ¬ CommandedBy db inboundEventId commandId

/-- A claim that nobody can use: completing or limiting the event under it
fails, releasing it is ignored, and no table changes. -/
structure ClaimInert (db : ChannelDatabase) (inboundEventId : InboundEventId)
    (claimId : TelegramProcessingClaimId) : Prop where
  complete : ∀ clock ids correlationId completion,
    withTransaction (completeTelegramEvent clock ids
      { claimId := claimId
        inboundEventId := inboundEventId
        correlationId := correlationId
        completion := completion }) db =
      (.error (.persistenceUnavailable .completeTelegramEvent), db)
  enforce : ∀ clock userId maximumEventsPerMinute,
    withTransaction (enforceTelegramUserLimit clock
      { claimId := claimId
        inboundEventId := inboundEventId
        userId := userId
        maximumEventsPerMinute := maximumEventsPerMinute }) db =
      (.error (.persistenceUnavailable .enforceTelegramUserLimit), db)
  release :
    withTransaction (releaseTelegramEvent
      { claimId := claimId
        inboundEventId := inboundEventId }) db = (.ok (), db)

theorem stale_claim_inert {claimId : TelegramProcessingClaimId}
    (stale : ∀ event, db.events.find? inboundEventId = some event →
      event.processingClaimId ≠ some claimId) :
    ClaimInert db inboundEventId claimId := by
  have unheld : db.eventHeld inboundEventId claimId = none := by
    cases held : db.eventHeld inboundEventId claimId with
    | none => rfl
    | some event =>
        obtain ⟨found, _, current⟩ := eventHeld_eq_some.mp held
        exact (stale event found current).elim
  exact
    { complete := by
        intro clock ids correlationId completion
        simp [withTransaction, completeTelegramEvent, unheld]
      enforce := by
        intro clock userId maximumEventsPerMinute
        simp [withTransaction, enforceTelegramUserLimit, unheld]
      release := by
        simp [withTransaction, releaseTelegramEvent, unheld, pure, Except.pure] }

section Consistent

variable {event : InboundEventRow}

theorem announced_once (consistent : db.processing.Consistent)
    (found : db.events.find? inboundEventId = some event) :
    ∃! outboxMessageId, db.Announces outboxMessageId inboundEventId := by
  obtain ⟨outboxMessageId, terms, queued, sameEvent, kind⟩ :=
    consistent.announced inboundEventId event found
  obtain ⟨row, present, rfl⟩ := Option.map_eq_some_iff.mp queued
  refine ⟨outboxMessageId, ⟨row, present, sameEvent, kind⟩, ?_⟩
  rintro other ⟨otherRow, otherPresent, otherEvent, otherKind⟩
  apply consistent.distinctOutbox other outboxMessageId
    otherRow.toOutboxMessageTerms row.toOutboxMessageTerms
  · exact Option.map_eq_some_iff.mpr ⟨otherRow, otherPresent, rfl⟩
  · exact queued
  · exact otherEvent.trans sameEvent.symm
  · rw [otherKind, kind]
    rfl

theorem processedRows (consistent : db.processing.Consistent)
    (found : db.events.find? inboundEventId = some event)
    (processed : event.processingStatus = .processed) :
    ProcessedRows db inboundEventId event := by
  obtain ⟨outboundMessageId, reply, replied, replyEvent⟩ :=
    consistent.answered inboundEventId event found processed
  obtain ⟨same, eventFound, _, owner, outboxMessageId, terms, queued,
    termsEvent, kind, termsOwner⟩ :=
    consistent.replies outboundMessageId reply replied
  rw [replyEvent] at eventFound termsEvent
  cases Option.some.inj (eventFound.symm.trans found)
  obtain ⟨message, present, rfl⟩ := Option.map_eq_some_iff.mp replied
  obtain ⟨outbox, outboxPresent, rfl⟩ := Option.map_eq_some_iff.mp queued
  have commandOwner : ∀ commandId command,
      db.commands.find? commandId = some command →
      command.inboundEventId = inboundEventId →
      event.AcceptedText ∧ event.owner = some command.owner := by
    intro commandId command stored sameEvent
    obtain ⟨commanded, commandedFound, _, text, commandedOwner⟩ :=
      consistent.commands commandId command stored
    rw [sameEvent] at commandedFound
    cases Option.some.inj (commandedFound.symm.trans found)
    exact ⟨text, commandedOwner⟩
  refine
    { reply := ⟨outboundMessageId, message, outboxMessageId, outbox, present,
        outboxPresent, ?_, ?_, kind, owner, termsOwner⟩
      commanded := ?_
      textless := ?_
      commandOwner := fun commandId command stored sameEvent =>
        (commandOwner commandId command stored sameEvent).2 }
  · intro other
    constructor
    · rintro ⟨row, otherPresent, otherEvent⟩
      exact consistent.distinctReplies other outboundMessageId
        row.toOutboundMessageTerms message.toOutboundMessageTerms
        (Option.map_eq_some_iff.mpr ⟨row, otherPresent, rfl⟩) replied
        (otherEvent.trans replyEvent.symm)
    · intro same
      subst same
      exact ⟨message, present, replyEvent⟩
  · intro other
    constructor
    · rintro ⟨row, requestedId, otherPresent, otherEvent, otherKind⟩
      apply consistent.distinctOutbox other outboxMessageId
        row.toOutboxMessageTerms outbox.toOutboxMessageTerms
      · exact Option.map_eq_some_iff.mpr ⟨row, otherPresent, rfl⟩
      · exact queued
      · exact otherEvent.trans termsEvent.symm
      · rw [otherKind, kind]
        rfl
    · intro same
      subst same
      exact ⟨outbox, outboundMessageId, outboxPresent, termsEvent, kind⟩
  · intro text
    obtain ⟨commandId, command, stored, sameEvent⟩ :=
      consistent.commanded inboundEventId event found processed text
    refine ⟨commandId, ⟨command, stored, sameEvent⟩, ?_⟩
    rintro other ⟨otherCommand, otherStored, otherEvent⟩
    exact consistent.distinctCommands other commandId otherCommand command
      otherStored stored (otherEvent.trans sameEvent.symm)
  · rintro textless commandId ⟨command, stored, sameEvent⟩
    exact textless (commandOwner commandId command stored sameEvent).1

theorem unprocessedRows (consistent : db.processing.Consistent)
    (found : db.events.find? inboundEventId = some event)
    (unprocessed : event.processingStatus ≠ .processed) :
    UnprocessedRows db inboundEventId := by
  have unanswered : ∀ outboundMessageId reply,
      db.processing.replies outboundMessageId = some reply →
      reply.inboundEventId ≠ inboundEventId := by
    intro outboundMessageId reply replied sameEvent
    obtain ⟨answered, eventFound, processed, _⟩ :=
      consistent.replies outboundMessageId reply replied
    rw [sameEvent] at eventFound
    cases Option.some.inj (eventFound.symm.trans found)
    exact unprocessed processed
  exact
    { reply := by
        rintro outboundMessageId ⟨row, present, sameEvent⟩
        exact unanswered outboundMessageId row.toOutboundMessageTerms
          (Option.map_eq_some_iff.mpr ⟨row, present, rfl⟩) sameEvent
      request := by
        rintro outboxMessageId ⟨row, outboundMessageId, present, sameEvent,
          kind⟩
        obtain ⟨reply, replied, replyEvent⟩ :=
          consistent.requests outboxMessageId row.toOutboxMessageTerms
            outboundMessageId
            (Option.map_eq_some_iff.mpr ⟨row, present, rfl⟩) kind
        exact unanswered outboundMessageId reply replied
          (replyEvent.trans sameEvent)
      command := by
        rintro commandId ⟨row, stored, sameEvent⟩
        obtain ⟨commanded, eventFound, processed, _⟩ :=
          consistent.commands commandId row stored
        rw [sameEvent] at eventFound
        cases Option.some.inj (eventFound.symm.trans found)
        exact unprocessed processed }

end Consistent

/-- Every update is accepted at most once and announced exactly once.  An event
is processed if and only if all rows of its one completion exist, in every other
status it has none of them, and a claim that is not the current claim of an
event changes nothing. -/
theorem events_processed_exactly_once {state : ChannelState}
    (reached : channelSystem.Reachable state) :
    (∀ inboundEventId event other otherEvent,
      state.database.events.find? inboundEventId = some event →
      state.database.events.find? other = some otherEvent →
      event.externalEventId = otherEvent.externalEventId →
      inboundEventId = other) ∧
    (∀ inboundEventId event,
      state.database.events.find? inboundEventId = some event →
      (∃! outboxMessageId,
        state.database.Announces outboxMessageId inboundEventId) ∧
      (event.processingStatus = .processed ↔
        ProcessedRows state.database inboundEventId event) ∧
      (event.processingStatus ≠ .processed →
        UnprocessedRows state.database inboundEventId)) ∧
    ∀ inboundEventId claimId,
      (∀ event, state.database.events.find? inboundEventId = some event →
        event.processingClaimId ≠ some claimId) →
      ClaimInert state.database inboundEventId claimId := by
  have consistent := reachable_processing reached
  refine ⟨?_, ?_, fun _ _ stale => stale_claim_inert stale⟩
  · intro inboundEventId event other otherEvent found otherFound same
    exact consistent.distinctUpdates inboundEventId other event otherEvent
      found otherFound same
  · intro inboundEventId event found
    refine ⟨announced_once consistent found, ?_,
      unprocessedRows consistent found⟩
    constructor
    · exact processedRows consistent found
    · intro rows
      by_contra unprocessed
      obtain ⟨outboundMessageId, _, _, _, _, _, answers, _⟩ := rows.reply
      exact (unprocessedRows consistent found unprocessed).reply
        outboundMessageId ((answers outboundMessageId).mpr rfl)

theorem events_processed_exactly_once_answered :
    ∃ state event, channelSystem.Reachable state ∧
      state.database.events.find? ⟨101⟩ = some event ∧
        event.processingStatus = .processed ∧
          ProcessedRows state.database ⟨101⟩ event := by
  obtain ⟨state, reached, tested⟩ := System.exists_reachable_of_run
    answeredRun
    (fun state => (state.database.events.find? ⟨101⟩).any
      (fun event => event.processingStatus = .processed))
    sampleChannelStart_initial (by decide +kernel)
  obtain ⟨event, found, processed⟩ := (Option.any_eq_true _ _).mp tested
  have ended : event.processingStatus = .processed := by simpa using processed
  exact ⟨state, event, reached, found, ended,
    (((events_processed_exactly_once reached).2.1 _ event found).2.1).mp ended⟩

end ProcessedEvents

end XpensGo
