import XpensGo.Channel.Steps
import XpensGo.Relational.View

/-!
# Event processing

The tables of event processing seen without the delivery of replies and the
publication of jobs.  In this view an event is accepted once with one outbox
message, and is completed once with all of its rows or not at all.
-/

namespace XpensGo

open Postgres Relational Relational.View Transition ChannelDatabase

/-- The rows of event processing, without the columns that delivery and
publication write. -/
structure ProcessingView where
  events : InboundEventId → Option InboundEventRow
  commands : NormalizedCommandId → Option NormalizedCommandRow
  replies : OutboundChannelMessageId → Option OutboundMessageTerms
  outbox : OutboxMessageId → Option OutboxMessageTerms

/-- The part of the tables that event processing is about. -/
def ChannelDatabase.processing (db : ChannelDatabase) : ProcessingView :=
  { events := db.events.find?
    commands := db.commands.find?
    replies := fun outboundMessageId =>
      (db.messages.find? outboundMessageId).map (·.toOutboundMessageTerms)
    outbox := fun outboxMessageId =>
      (db.outbox.find? outboxMessageId).map (·.toOutboxMessageTerms) }

/-- The user and the ledger of a reply, if it has any. -/
def OutboundMessageTerms.owner (terms : OutboundMessageTerms) :
    Option LedgerOwner :=
  terms.scope.map (·.owner)

/-- The event was completed with `LinkedTextAccepted`. -/
def InboundEventRow.AcceptedText (row : InboundEventRow) : Prop :=
  row.processingOutcome = some .normalizedTextAccepted

namespace ProcessingView

/-- The columns of a completed event. -/
structure CompletedBy (row row' : InboundEventRow)
    (completion : TelegramEventCompletion) : Prop where
  terms : row'.toInboundEventTerms = row.toInboundEventTerms
  unfinished : row.processingStatus.isTerminal = false
  processed : row'.processingStatus = .processed
  outcome : row'.processingOutcome = some completion.outcome
  owner : row'.owner = completion.actor.map (·.owner)

/-- The abstract steps of event processing. -/
inductive ProcessingTransition (view : ProcessingView) :
    ProcessingView → Prop where
  | idle : ProcessingTransition view view
  | accepted {inboundEventId : InboundEventId}
      {outboxMessageId : OutboxMessageId} {row : InboundEventRow}
      {terms : OutboxMessageTerms} :
      view.events inboundEventId = none →
      view.outbox outboxMessageId = none →
      row.processingStatus ≠ .processed →
      terms.inboundEventId = inboundEventId →
      terms.kind = .channelEventReceived →
      (∀ other event, view.events other = some event →
        event.externalEventId ≠ row.externalEventId) →
      (∀ other terms, view.outbox other = some terms →
        terms.inboundEventId = inboundEventId →
        terms.kind ≠ .channelEventReceived) →
      ProcessingTransition view
        { view with
          events := Function.update view.events inboundEventId (some row)
          outbox := Function.update view.outbox outboxMessageId (some terms) }
  | updated {inboundEventId : InboundEventId} {row row' : InboundEventRow} :
      view.events inboundEventId = some row →
      EventTransition row row' →
      ProcessingTransition view
        { view with
          events := Function.update view.events inboundEventId (some row') }
  | completed {inboundEventId : InboundEventId} {row row' : InboundEventRow}
      {completion : TelegramEventCompletion}
      {commands : NormalizedCommandId → Option NormalizedCommandRow}
      {outboundMessageId : OutboundChannelMessageId}
      {outboxMessageId : OutboxMessageId} {reply : OutboundMessageTerms}
      {terms : OutboxMessageTerms} :
      view.events inboundEventId = some row →
      CompletedBy row row' completion →
      (completion.command = none → commands = view.commands) →
      (∀ actor text, completion.command = some (actor, text) →
        (∀ other command, view.commands other = some command →
          command.inboundEventId ≠ inboundEventId) ∧
        ∃ commandId command, view.commands commandId = none ∧
          command.inboundEventId = inboundEventId ∧
          command.owner = actor.owner ∧
          commands = Function.update view.commands commandId
            (some command)) →
      view.replies outboundMessageId = none →
      view.outbox outboxMessageId = none →
      (∀ other reply, view.replies other = some reply →
        reply.inboundEventId ≠ inboundEventId) →
      (∀ other terms, view.outbox other = some terms →
        terms.inboundEventId = inboundEventId →
        terms.kind = .channelEventReceived) →
      reply.inboundEventId = inboundEventId →
      reply.owner = row'.owner →
      terms.inboundEventId = inboundEventId →
      terms.kind = .channelReplyRequested outboundMessageId →
      terms.owner = row'.owner →
      ProcessingTransition view
        { events := Function.update view.events inboundEventId (some row')
          commands := commands
          replies := Function.update view.replies outboundMessageId
            (some reply)
          outbox := Function.update view.outbox outboxMessageId (some terms) }

/-- An event stays, and so does what was received. -/
theorem ProcessingTransition.event_kept {view view' : ProcessingView}
    (transition : ProcessingTransition view view')
    {inboundEventId : InboundEventId} {row : InboundEventRow}
    (found : view.events inboundEventId = some row) :
    ∃ row', view'.events inboundEventId = some row' ∧
      row'.toInboundEventTerms = row.toInboundEventTerms := by
  cases transition with
  | idle => exact ⟨row, found, rfl⟩
  | accepted absent => exact ⟨row, update_of_none absent found, rfl⟩
  | @updated changed before row' present transition =>
      by_cases same : inboundEventId = changed
      · subst same
        cases Option.some.inj (present.symm.trans found)
        exact ⟨row', Function.update_self .., transition.terms⟩
      · exact ⟨row, update_of_ne same found, rfl⟩
  | @completed changed before row' _ _ _ _ _ _ present completed =>
      by_cases same : inboundEventId = changed
      · subst same
        cases Option.some.inj (present.symm.trans found)
        exact ⟨row', Function.update_self .., completed.terms⟩
      · exact ⟨row, update_of_ne same found, rfl⟩

end ProcessingView

section Refinement

open ProcessingView

variable {db db' : ChannelDatabase}

/-- Changes of the delivery and publication columns are invisible. -/
theorem processing_eq (events : db'.events = db.events)
    (commands : db'.commands = db.commands)
    (messages : ∀ outboundMessageId,
      (db'.messages.find? outboundMessageId).map (·.toOutboundMessageTerms) =
        (db.messages.find? outboundMessageId).map (·.toOutboundMessageTerms))
    (outbox : ∀ outboxMessageId,
      (db'.outbox.find? outboxMessageId).map (·.toOutboxMessageTerms) =
        (db.outbox.find? outboxMessageId).map (·.toOutboxMessageTerms)) :
    db'.processing = db.processing := by
  simp only [ChannelDatabase.processing, events, commands]
  congr 1
  · funext outboundMessageId
    exact messages outboundMessageId
  · funext outboxMessageId
    exact outbox outboxMessageId

theorem idle_of_kept (events : db'.events = db.events)
    (commands : db'.commands = db.commands)
    (messages : ∀ outboundMessageId,
      (db'.messages.find? outboundMessageId).map (·.toOutboundMessageTerms) =
        (db.messages.find? outboundMessageId).map (·.toOutboundMessageTerms))
    (outbox : ∀ outboxMessageId,
      (db'.outbox.find? outboxMessageId).map (·.toOutboxMessageTerms) =
        (db.outbox.find? outboxMessageId).map (·.toOutboxMessageTerms)) :
    ProcessingTransition db.processing db'.processing := by
  rw [processing_eq events commands messages outbox]
  exact .idle

theorem CompleteEventEffect.processing {clock : DatabaseClock}
    {ids : CompletionIds} {input : CompleteTelegramEventInput}
    (effect : CompleteEventEffect clock ids input db db') :
    ProcessingTransition db.processing db'.processing := by
  cases effect with
  | @completed row commands freshMessage freshOutbox held uncommanded
      commanded unanswered unannounced =>
      obtain ⟨found, processing, _⟩ := eventHeld_eq_some.mp held
      have completed : CompletedBy row (row.complete clock input.completion)
          input.completion :=
        { terms := rfl
          unfinished :=
            ProcessingStatus.isTerminal_eq_false_of_processing processing
          processed := rfl
          outcome := rfl
          owner := rfl }
      have view : ({ db with
            events := db.events.modify input.inboundEventId
              (InboundEventRow.complete clock input.completion)
            commands := commands
            messages := db.messages.push ids.message
              (input.message row.normalizedPayload) freshMessage
            outbox := db.outbox.push ids.outbox
              (newOutboxRow clock input.inboundEventId
                (input.completion.actor.map (·.owner))
                (.channelReplyRequested ids.message) input.correlationId)
              freshOutbox } : ChannelDatabase).processing =
          { events := Function.update db.processing.events
              input.inboundEventId
              (some (row.complete clock input.completion))
            commands := commands.find?
            replies := Function.update db.processing.replies ids.message
              (some (input.message
                row.normalizedPayload).toOutboundMessageTerms)
            outbox := Function.update db.processing.outbox ids.outbox
              (some (newOutboxRow clock input.inboundEventId
                (input.completion.actor.map (·.owner))
                (.channelReplyRequested ids.message)
                input.correlationId).toOutboxMessageTerms) } := by
        simp only [ChannelDatabase.processing,
          Table.find?_modify_eq_update found, Table.map_find?_push_eq_update]
      rw [view]
      refine .completed found completed ?_ ?_ ?_ ?_ ?_ ?_ rfl ?_ rfl rfl rfl
      · intro textless
        rw [uncommanded textless]
        rfl
      · intro actor text command
        obtain ⟨unused, fresh, pushed⟩ := commanded actor text command
        refine ⟨unused, ids.command,
          input.command row.normalizedPayload actor text,
          Table.find?_eq_none_iff.mpr fresh, rfl, rfl, ?_⟩
        rw [pushed]
        exact Table.find?_push_eq_update fresh
      · simp [ChannelDatabase.processing,
          Table.find?_eq_none_iff.mpr freshMessage]
      · simp [ChannelDatabase.processing,
          Table.find?_eq_none_iff.mpr freshOutbox]
      · intro other reply replied
        obtain ⟨message, present, rfl⟩ := Option.map_eq_some_iff.mp replied
        exact unanswered other message present
      · intro other terms queued sameEvent
        obtain ⟨outbox, present, rfl⟩ := Option.map_eq_some_iff.mp queued
        have different := unannounced other outbox present sameEvent
        cases kind : outbox.kind with
        | channelEventReceived => rfl
        | channelReplyRequested message =>
            simp [kind, OutboxKind.sameKind] at different
      · change (input.completion.actor.map (·.scope)).map (·.owner) =
          input.completion.actor.map (·.owner)
        rw [Option.map_map]
        rfl

theorem ChannelChange.processing (change : ChannelChange db db') :
    ProcessingTransition db.processing db'.processing := by
  cases change with
  | unchanged => exact .idle
  | linked => exact .idle
  | published publication =>
      obtain ⟨outbox, rfl, terms⟩ := publication
      exact idle_of_kept rfl rfl (fun _ => rfl) terms
  | consumed _ consumption =>
      obtain ⟨receipts, rfl, _⟩ := consumption
      exact .idle
  | @accepted clock inboundEventId outboxMessageId input freshEvent freshOutbox
      absent unannounced =>
      have view : ({ db with
            events := db.events.push inboundEventId input.row freshEvent
            outbox := db.outbox.push outboxMessageId
              (newOutboxRow clock inboundEventId none .channelEventReceived
                input.correlationId) freshOutbox } :
            ChannelDatabase).processing =
          { db.processing with
            events := Function.update db.processing.events inboundEventId
              (some input.row)
            outbox := Function.update db.processing.outbox outboxMessageId
              (some (newOutboxRow clock inboundEventId none
                .channelEventReceived
                input.correlationId).toOutboxMessageTerms) } := by
        simp only [ChannelDatabase.processing,
          Table.map_find?_push_eq_update]
        rw [Table.find?_push_eq_update]
      rw [view]
      refine .accepted (Table.find?_eq_none_iff.mpr freshEvent) ?_
        (by simp [PersistTelegramEventInput.row]) rfl rfl absent ?_
      · simp [ChannelDatabase.processing,
          Table.find?_eq_none_iff.mpr freshOutbox]
      · intro other terms queued sameEvent kind
        obtain ⟨outbox, present, rfl⟩ := Option.map_eq_some_iff.mp queued
        have different := unannounced other outbox present sameEvent
        simp [kind, OutboxKind.sameKind] at different
  | @eventUpdated windows inboundEventId row set found transition =>
      have view : ({ db with
            windows := windows
            events := db.events.modify inboundEventId set } :
            ChannelDatabase).processing =
          { db.processing with
            events := Function.update db.processing.events inboundEventId
              (some (set row)) } := by
        simp only [ChannelDatabase.processing,
          Table.find?_modify_eq_update found]
      rw [view]
      exact .updated found transition
  | completed effect => exact CompleteEventEffect.processing effect
  | replyClaimed | replyExhausted | replyReopened =>
      refine idle_of_kept rfl rfl ?_ (fun _ => rfl)
      exact find?_modify_terms (fun _ => rfl)
  | @replyExpired clock outboundMessageId row found =>
      have ended : (db.endLeased row
          (DeliveryAttemptRow.expire clock)).processing = db.processing := by
        unfold ChannelDatabase.endLeased
        split <;> rfl
      rw [← ended]
      refine idle_of_kept rfl rfl ?_ (fun _ => rfl)
      exact find?_modify_terms (fun _ => rfl)
  | attemptCompleted =>
      refine idle_of_kept rfl rfl ?_ (fun _ => rfl)
      exact find?_modify_terms (complete_terms _)
  | recoveryPublished => exact .idle

end Refinement

namespace ProcessingView

/-- What holds of the view in every run. -/
structure Consistent (view : ProcessingView) : Prop where
  distinctUpdates : ∀ id id' event event', view.events id = some event →
    view.events id' = some event' →
    event.externalEventId = event'.externalEventId → id = id'
  announced : ∀ id event, view.events id = some event →
    ∃ outboxMessageId terms, view.outbox outboxMessageId = some terms ∧
      terms.inboundEventId = id ∧ terms.kind = .channelEventReceived
  distinctOutbox : ∀ key key' terms terms', view.outbox key = some terms →
    view.outbox key' = some terms' →
    terms.inboundEventId = terms'.inboundEventId →
    terms.kind.sameKind terms'.kind = true → key = key'
  replies : ∀ key reply, view.replies key = some reply →
    ∃ event, view.events reply.inboundEventId = some event ∧
      event.processingStatus = .processed ∧ reply.owner = event.owner ∧
        ∃ outboxMessageId terms, view.outbox outboxMessageId = some terms ∧
          terms.inboundEventId = reply.inboundEventId ∧
            terms.kind = .channelReplyRequested key ∧
              terms.owner = event.owner
  requests : ∀ key terms outboundMessageId, view.outbox key = some terms →
    terms.kind = .channelReplyRequested outboundMessageId →
    ∃ reply, view.replies outboundMessageId = some reply ∧
      reply.inboundEventId = terms.inboundEventId
  commands : ∀ key command, view.commands key = some command →
    ∃ event, view.events command.inboundEventId = some event ∧
      event.processingStatus = .processed ∧ event.AcceptedText ∧
        event.owner = some command.owner
  answered : ∀ id event, view.events id = some event →
    event.processingStatus = .processed →
    ∃ key reply, view.replies key = some reply ∧ reply.inboundEventId = id
  commanded : ∀ id event, view.events id = some event →
    event.processingStatus = .processed → event.AcceptedText →
    ∃ key command, view.commands key = some command ∧
      command.inboundEventId = id
  distinctReplies : ∀ key key' reply reply', view.replies key = some reply →
    view.replies key' = some reply' →
    reply.inboundEventId = reply'.inboundEventId → key = key'
  distinctCommands : ∀ key key' command command',
    view.commands key = some command → view.commands key' = some command' →
    command.inboundEventId = command'.inboundEventId → key = key'

variable {view : ProcessingView}

section Update

variable {inboundEventId : InboundEventId} {row row' : InboundEventRow}

private theorem processed_stays
    (found : view.events inboundEventId = some row)
    (unfinished : row.processingStatus.isTerminal = false)
    {id : InboundEventId} {event : InboundEventRow}
    (present : view.events id = some event)
    (processed : event.processingStatus = .processed) :
    Function.update view.events inboundEventId (some row') id =
      some event := by
  have different : id ≠ inboundEventId := by
    intro same
    rw [same, found] at present
    cases present
    exact ProcessingStatus.ne_processed_of_unfinished unfinished processed
  rw [Function.update_of_ne different]
  exact present

private theorem updateId_stays (found : view.events inboundEventId = some row)
    (terms : row'.toInboundEventTerms = row.toInboundEventTerms)
    (id : InboundEventId) (event : InboundEventRow)
    (read : Function.update view.events inboundEventId (some row') id =
      some event) :
    ∃ old, view.events id = some old ∧
      old.externalEventId = event.externalEventId := by
  rcases update_eq_some read with ⟨same, new⟩ | ⟨_, present⟩
  · rw [same, new]
    exact ⟨row, found, congrArg (·.externalEventId) terms.symm⟩
  · exact ⟨event, present, rfl⟩

end Update

/-- A change of an event that was not processed and still is not. -/
theorem Consistent.updated (consistent : view.Consistent)
    {inboundEventId : InboundEventId} {row row' : InboundEventRow}
    (found : view.events inboundEventId = some row)
    (transition : EventTransition row row') :
    Consistent { view with
      events := Function.update view.events inboundEventId (some row') } := by
  have stays : ∀ id event, view.events id = some event →
      event.processingStatus = .processed →
      Function.update view.events inboundEventId (some row') id =
        some event :=
    fun _ _ => processed_stays found transition.unfinished
  have earlier : ∀ id event,
      Function.update view.events inboundEventId (some row') id =
        some event → event.processingStatus = .processed →
      view.events id = some event := by
    intro id event read processed
    rcases update_eq_some read with ⟨_, new⟩ | ⟨_, present⟩
    · rw [new] at processed
      exact (transition.unprocessed processed).elim
    · exact present
  have updateId := updateId_stays found transition.terms
  exact
    { distinctUpdates := by
        intro id id' event event' read read' same
        obtain ⟨old, present, identifier⟩ := updateId id event read
        obtain ⟨old', present', identifier'⟩ := updateId id' event' read'
        exact consistent.distinctUpdates id id' old old' present present'
          (identifier.trans (same.trans identifier'.symm))
      announced := by
        intro id event read
        obtain ⟨old, present, _⟩ := updateId id event read
        exact consistent.announced id old present
      distinctOutbox := consistent.distinctOutbox
      replies := by
        intro key reply present
        obtain ⟨event, eventFound, processed, rest⟩ :=
          consistent.replies key reply present
        exact ⟨event, stays _ event eventFound processed, processed, rest⟩
      requests := consistent.requests
      commands := by
        intro key command present
        obtain ⟨event, eventFound, processed, rest⟩ :=
          consistent.commands key command present
        exact ⟨event, stays _ event eventFound processed, processed, rest⟩
      answered := by
        intro id event read processed
        exact consistent.answered id event (earlier id event read processed)
          processed
      commanded := by
        intro id event read processed text
        exact consistent.commanded id event (earlier id event read processed)
          processed text
      distinctReplies := consistent.distinctReplies
      distinctCommands := consistent.distinctCommands }

/-- A new event with its outbox message. -/
theorem Consistent.accepted (consistent : view.Consistent)
    {inboundEventId : InboundEventId} {outboxMessageId : OutboxMessageId}
    {row : InboundEventRow} {terms : OutboxMessageTerms}
    (freshEvent : view.events inboundEventId = none)
    (freshOutbox : view.outbox outboxMessageId = none)
    (unprocessed : row.processingStatus ≠ .processed)
    (announces : terms.inboundEventId = inboundEventId)
    (kind : terms.kind = .channelEventReceived)
    (unknown : ∀ other event, view.events other = some event →
      event.externalEventId ≠ row.externalEventId)
    (unannounced : ∀ other terms, view.outbox other = some terms →
      terms.inboundEventId = inboundEventId →
      terms.kind ≠ .channelEventReceived) :
    Consistent { view with
      events := Function.update view.events inboundEventId (some row)
      outbox := Function.update view.outbox outboxMessageId
        (some terms) } := by
  have earlier : ∀ id event,
      Function.update view.events inboundEventId (some row) id =
        some event → event.processingStatus = .processed →
      view.events id = some event := by
    intro id event read processed
    rcases update_eq_some read with ⟨_, new⟩ | ⟨_, present⟩
    · rw [new] at processed
      exact (unprocessed processed).elim
    · exact present
  have receivedKind : ∀ kind : OutboxKind,
      kind.sameKind .channelEventReceived = true →
      kind = .channelEventReceived := by
    intro kind same
    cases kind with
    | channelEventReceived => rfl
    | channelReplyRequested _ => cases same
  exact
    { distinctUpdates := by
        intro id id' event event' read read' same
        rcases update_eq_some read with ⟨key, new⟩ | ⟨_, present⟩
        · rcases update_eq_some read' with ⟨key', _⟩ | ⟨_, present'⟩
          · rw [key, key']
          · rw [new] at same
            exact (unknown id' event' present' same.symm).elim
        · rcases update_eq_some read' with ⟨_, new'⟩ | ⟨_, present'⟩
          · rw [new'] at same
            exact (unknown id event present same).elim
          · exact consistent.distinctUpdates id id' event event' present
              present' same
      announced := by
        intro id event read
        rcases update_eq_some read with ⟨key, _⟩ | ⟨_, present⟩
        · exact ⟨outboxMessageId, terms, Function.update_self ..,
            announces.trans key.symm, kind⟩
        · obtain ⟨other, existing, queued, rest⟩ :=
            consistent.announced id event present
          exact ⟨other, existing, update_of_none freshOutbox queued, rest⟩
      distinctOutbox := by
        intro key key' first second read read' sameEvent sameKind
        rcases update_eq_some read with ⟨same, new⟩ | ⟨_, present⟩
        · rcases update_eq_some read' with ⟨same', _⟩ | ⟨_, present'⟩
          · rw [same, same']
          · rw [new, announces] at sameEvent
            rw [new, kind] at sameKind
            have other : second.kind = .channelEventReceived := by
              cases secondKind : second.kind with
              | channelEventReceived => rfl
              | channelReplyRequested _ =>
                  simp [secondKind, OutboxKind.sameKind] at sameKind
            exact (unannounced key' second present' sameEvent.symm other).elim
        · rcases update_eq_some read' with ⟨_, new'⟩ | ⟨_, present'⟩
          · rw [new', announces] at sameEvent
            rw [new', kind] at sameKind
            exact (unannounced key first present sameEvent
              (receivedKind first.kind sameKind)).elim
          · exact consistent.distinctOutbox key key' first second present
              present' sameEvent sameKind
      replies := by
        intro key reply present
        obtain ⟨event, eventFound, processed, owner, outbox, existing, queued,
          rest⟩ := consistent.replies key reply present
        exact ⟨event, update_of_none freshEvent eventFound, processed, owner,
          outbox, existing, update_of_none freshOutbox queued, rest⟩
      requests := by
        intro key read outboundMessageId queued requested
        rcases update_eq_some queued with ⟨_, new⟩ | ⟨_, present⟩
        · rw [new, kind] at requested
          cases requested
        · exact consistent.requests key read outboundMessageId present
            requested
      commands := by
        intro key command present
        obtain ⟨event, eventFound, rest⟩ :=
          consistent.commands key command present
        exact ⟨event, update_of_none freshEvent eventFound, rest⟩
      answered := by
        intro id event read processed
        exact consistent.answered id event (earlier id event read processed)
          processed
      commanded := by
        intro id event read processed text
        exact consistent.commanded id event (earlier id event read processed)
          processed text
      distinctReplies := consistent.distinctReplies
      distinctCommands := consistent.distinctCommands }

theorem command_of_outcome {completion : TelegramEventCompletion}
    (accepted : completion.outcome = .normalizedTextAccepted) :
    ∃ actor text, completion.command = some (actor, text) := by
  cases completion with
  | linkedTextAccepted actor text intent => exact ⟨actor, text, rfl⟩
  | scopedReply | unscopedReply => cases accepted

theorem outcome_of_command {completion : TelegramEventCompletion}
    {actor : ChannelActorContext} {text : EcmaScript.JsString}
    (command : completion.command = some (actor, text)) :
    completion.outcome = .normalizedTextAccepted ∧
      completion.actor = some actor := by
  cases completion with
  | linkedTextAccepted =>
      cases command
      exact ⟨rfl, rfl⟩
  | scopedReply | unscopedReply => cases command

/-- The commands after a completion: the old ones, and one for the completed
event if it was completed with a text. -/
structure CommandsExtended (view : ProcessingView)
    (inboundEventId : InboundEventId) (row' : InboundEventRow)
    (commands : NormalizedCommandId → Option NormalizedCommandRow) :
    Prop where
  kept : ∀ key command, view.commands key = some command →
    commands key = some command
  added : ∀ key command, commands key = some command →
    view.commands key = some command ∨
      command.inboundEventId = inboundEventId ∧ row'.AcceptedText ∧
        row'.owner = some command.owner
  distinct : ∀ key key' command command', commands key = some command →
    commands key' = some command' →
    command.inboundEventId = command'.inboundEventId → key = key'
  stored : row'.AcceptedText → ∃ key command, commands key = some command ∧
    command.inboundEventId = inboundEventId

theorem Consistent.commandsExtended (consistent : view.Consistent)
    {inboundEventId : InboundEventId} {row row' : InboundEventRow}
    {completion : TelegramEventCompletion}
    {commands : NormalizedCommandId → Option NormalizedCommandRow}
    (completed : CompletedBy row row' completion)
    (textless : completion.command = none → commands = view.commands)
    (texted : ∀ actor text, completion.command = some (actor, text) →
      (∀ other command, view.commands other = some command →
        command.inboundEventId ≠ inboundEventId) ∧
      ∃ commandId command, view.commands commandId = none ∧
        command.inboundEventId = inboundEventId ∧
        command.owner = actor.owner ∧
        commands = Function.update view.commands commandId (some command)) :
    CommandsExtended view inboundEventId row' commands := by
  cases shape : completion.command with
  | none =>
      rw [textless shape]
      refine
        { kept := fun _ _ present => present
          added := fun _ _ present => .inl present
          distinct := consistent.distinctCommands
          stored := ?_ }
      intro text
      have outcome : completion.outcome = .normalizedTextAccepted :=
        Option.some.inj (completed.outcome.symm.trans text)
      obtain ⟨actor, text, command⟩ := command_of_outcome outcome
      rw [shape] at command
      cases command
  | some pair =>
      obtain ⟨actor, text⟩ := pair
      obtain ⟨unused, commandId, command, fresh, event, owner, written⟩ :=
        texted actor text shape
      obtain ⟨outcome, author⟩ := outcome_of_command shape
      rw [written]
      have accepted : row'.AcceptedText := by
        unfold InboundEventRow.AcceptedText
        rw [completed.outcome, outcome]
      have owned : row'.owner = some command.owner := by
        rw [completed.owner, author, owner]
        rfl
      exact
        { kept := fun _ _ present => update_of_none fresh present
          added := by
            intro key found read
            rcases update_eq_some read with ⟨_, new⟩ | ⟨_, present⟩
            · rw [new]
              exact .inr ⟨event, accepted, owned⟩
            · exact .inl present
          distinct := by
            intro key key' first second read read' same
            rcases update_eq_some read with ⟨named, new⟩ | ⟨_, present⟩
            · rcases update_eq_some read' with ⟨named', _⟩ | ⟨_, present'⟩
              · rw [named, named']
              · rw [new, event] at same
                exact (unused key' second present' same.symm).elim
            · rcases update_eq_some read' with ⟨_, new'⟩ | ⟨_, present'⟩
              · rw [new', event] at same
                exact (unused key first present same).elim
              · exact consistent.distinctCommands key key' first second present
                  present' same
          stored := fun _ =>
            ⟨commandId, command, Function.update_self .., event⟩ }

/-- A completion adds all of its rows at once. -/
theorem Consistent.completed (consistent : view.Consistent)
    {inboundEventId : InboundEventId} {row row' : InboundEventRow}
    {completion : TelegramEventCompletion}
    {commands : NormalizedCommandId → Option NormalizedCommandRow}
    {outboundMessageId : OutboundChannelMessageId}
    {outboxMessageId : OutboxMessageId} {reply : OutboundMessageTerms}
    {terms : OutboxMessageTerms}
    (found : view.events inboundEventId = some row)
    (completed : CompletedBy row row' completion)
    (extended : CommandsExtended view inboundEventId row' commands)
    (freshReply : view.replies outboundMessageId = none)
    (freshOutbox : view.outbox outboxMessageId = none)
    (unanswered : ∀ other reply, view.replies other = some reply →
      reply.inboundEventId ≠ inboundEventId)
    (unrequested : ∀ other terms, view.outbox other = some terms →
      terms.inboundEventId = inboundEventId →
      terms.kind = .channelEventReceived)
    (replyEvent : reply.inboundEventId = inboundEventId)
    (replyOwner : reply.owner = row'.owner)
    (termsEvent : terms.inboundEventId = inboundEventId)
    (termsKind : terms.kind = .channelReplyRequested outboundMessageId)
    (termsOwner : terms.owner = row'.owner) :
    Consistent
      { events := Function.update view.events inboundEventId (some row')
        commands := commands
        replies := Function.update view.replies outboundMessageId (some reply)
        outbox := Function.update view.outbox outboxMessageId
          (some terms) } := by
  have stays : ∀ id event, view.events id = some event →
      event.processingStatus = .processed →
      Function.update view.events inboundEventId (some row') id =
        some event :=
    fun _ _ => processed_stays found completed.unfinished
  have updateId := updateId_stays found completed.terms
  have isRequest : ∀ other queued, view.outbox other = some queued →
      queued.inboundEventId = inboundEventId →
      queued.kind.sameKind terms.kind = false := by
    intro other queued present event
    rw [unrequested other queued present event, termsKind]
    rfl
  exact
    { distinctUpdates := by
        intro id id' event event' read read' same
        obtain ⟨old, present, identifier⟩ := updateId id event read
        obtain ⟨old', present', identifier'⟩ := updateId id' event' read'
        exact consistent.distinctUpdates id id' old old' present present'
          (identifier.trans (same.trans identifier'.symm))
      announced := by
        intro id event read
        obtain ⟨old, present, _⟩ := updateId id event read
        obtain ⟨other, existing, queued, rest⟩ :=
          consistent.announced id old present
        exact ⟨other, existing, update_of_none freshOutbox queued, rest⟩
      distinctOutbox := by
        intro key key' first second read read' sameEvent sameKind
        rcases update_eq_some read with ⟨named, new⟩ | ⟨_, present⟩
        · rcases update_eq_some read' with ⟨named', _⟩ | ⟨_, present'⟩
          · rw [named, named']
          · rw [new, termsEvent] at sameEvent
            have different := isRequest key' second present' sameEvent.symm
            rw [new, termsKind] at sameKind
            rw [termsKind] at different
            cases kind : second.kind with
            | channelEventReceived =>
                simp [kind, OutboxKind.sameKind] at sameKind
            | channelReplyRequested _ =>
                simp [kind, OutboxKind.sameKind] at different
        · rcases update_eq_some read' with ⟨_, new'⟩ | ⟨_, present'⟩
          · rw [new', termsEvent] at sameEvent
            rw [new', isRequest key first present sameEvent] at sameKind
            cases sameKind
          · exact consistent.distinctOutbox key key' first second present
              present' sameEvent sameKind
      replies := by
        intro key answer read
        rcases update_eq_some read with ⟨same, new⟩ | ⟨_, present⟩
        · rw [new, same]
          refine ⟨row', ?_, completed.processed, replyOwner, outboxMessageId,
            terms, Function.update_self .., termsEvent.trans replyEvent.symm,
            termsKind, termsOwner⟩
          rw [replyEvent]
          exact Function.update_self ..
        · obtain ⟨event, eventFound, processed, owner, outbox, existing, queued,
            rest⟩ := consistent.replies key answer present
          exact ⟨event, stays _ event eventFound processed, processed, owner,
            outbox, existing, update_of_none freshOutbox queued, rest⟩
      requests := by
        intro key queued requestedId read requested
        rcases update_eq_some read with ⟨_, new⟩ | ⟨_, present⟩
        · rw [new, termsKind] at requested
          cases requested
          rw [new]
          exact ⟨reply, Function.update_self .., replyEvent.trans
            termsEvent.symm⟩
        · obtain ⟨answer, answered, rest⟩ :=
            consistent.requests key queued requestedId present requested
          exact ⟨answer, update_of_none freshReply answered, rest⟩
      commands := by
        intro key command read
        rcases extended.added key command read with
          present | ⟨event, text, owner⟩
        · obtain ⟨event, eventFound, processed, rest⟩ :=
            consistent.commands key command present
          exact ⟨event, stays _ event eventFound processed, processed, rest⟩
        · rw [event]
          exact ⟨row', Function.update_self .., completed.processed, text,
            owner⟩
      answered := by
        intro id event read processed
        rcases update_eq_some read with ⟨same, _⟩ | ⟨_, present⟩
        · exact ⟨outboundMessageId, reply, Function.update_self ..,
            replyEvent.trans same.symm⟩
        · obtain ⟨key, answer, answered, rest⟩ :=
            consistent.answered id event present processed
          exact ⟨key, answer, update_of_none freshReply answered, rest⟩
      commanded := by
        intro id event read processed text
        rcases update_eq_some read with ⟨same, new⟩ | ⟨_, present⟩
        · rw [new] at text
          rw [same]
          exact extended.stored text
        · obtain ⟨key, command, stored, rest⟩ :=
            consistent.commanded id event present processed text
          exact ⟨key, command, extended.kept key command stored, rest⟩
      distinctReplies := by
        intro key key' first second read read' same
        rcases update_eq_some read with ⟨named, new⟩ | ⟨_, present⟩
        · rcases update_eq_some read' with ⟨named', _⟩ | ⟨_, present'⟩
          · rw [named, named']
          · rw [new, replyEvent] at same
            exact (unanswered key' second present' same.symm).elim
        · rcases update_eq_some read' with ⟨_, new'⟩ | ⟨_, present'⟩
          · rw [new', replyEvent] at same
            exact (unanswered key first present same).elim
          · exact consistent.distinctReplies key key' first second present
              present' same
      distinctCommands := extended.distinct }

theorem Consistent.transition {view' : ProcessingView}
    (consistent : view.Consistent)
    (transition : ProcessingTransition view view') : view'.Consistent := by
  cases transition with
  | idle => exact consistent
  | accepted freshEvent freshOutbox unprocessed announces kind unknown
      unannounced =>
      exact consistent.accepted freshEvent freshOutbox unprocessed announces
        kind unknown unannounced
  | updated found transition => exact consistent.updated found transition
  | completed found completed textless texted freshReply freshOutbox unanswered
      unrequested replyEvent replyOwner termsEvent termsKind termsOwner =>
      exact consistent.completed found completed
        (consistent.commandsExtended completed textless texted) freshReply
        freshOutbox unanswered unrequested replyEvent replyOwner termsEvent
        termsKind termsOwner

end ProcessingView

theorem reachable_processing {state : ChannelState}
    (reached : channelSystem.Reachable state) :
    state.database.processing.Consistent := by
  refine reachable_of_change (I := fun db => db.processing.Consistent)
    ?_ ?_ reached
  · intro users ledgers
    constructor <;> intros <;> contradiction
  · intro db db' consistent change
    exact consistent.transition (ChannelChange.processing change)

end XpensGo
