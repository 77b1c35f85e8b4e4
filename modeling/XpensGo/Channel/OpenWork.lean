import XpensGo.Channel.EventProcessing

/-!
# Open events and replies

An event is open until it is processed or suppressed, and a reply is open until
an attempt ended it.  Each is announced by an outbox message, and the job that
takes this message up records its consumption only after the event was closed,
or after the reply was closed or recovered by an operator.
-/

namespace XpensGo

open Postgres Relational Relational.View Transition ChannelDatabase

namespace ChannelDatabase

/-- The event still has to be processed. -/
def OpenEvent (db : ChannelDatabase) (inboundEventId : InboundEventId) :
    Prop :=
  ∃ row, db.events.find? inboundEventId = some row ∧
    row.processingStatus.isTerminal = false

/-- The reply still has to be delivered. -/
def OpenReply (db : ChannelDatabase)
    (outboundMessageId : OutboundChannelMessageId) : Prop :=
  ∃ row, db.messages.find? outboundMessageId = some row ∧
    row.status.isTerminal = false

/-- The outbox message `channel.reply.requested.v1` of a reply. -/
def Requests (db : ChannelDatabase) (outboxMessageId : OutboxMessageId)
    (outboundMessageId : OutboundChannelMessageId) : Prop :=
  ∃ row, db.outbox.find? outboxMessageId = some row ∧
    row.kind = .channelReplyRequested outboundMessageId

/-- The consumption of the message was recorded. -/
def Consumed (db : ChannelDatabase) (outboxMessageId : OutboxMessageId) :
    Prop :=
  (db.receipts.find? outboxMessageId).isSome = true

/-- An operator has recovered the delivery of the reply. -/
def Recovered (db : ChannelDatabase)
    (outboundMessageId : OutboundChannelMessageId) : Prop :=
  ∃ recoveryId row, db.recoveries.find? recoveryId = some row ∧
    row.outboundMessageId = outboundMessageId

/-- A recovery of the reply whose job may still have to be published. -/
def RecoveryPrepared (db : ChannelDatabase)
    (outboundMessageId : OutboundChannelMessageId) : Prop :=
  ∃ recoveryId row, db.recoveries.find? recoveryId = some row ∧
    row.outboundMessageId = outboundMessageId ∧
      row.publicationStatus = .prepared

section Outbox

variable {db : ChannelDatabase} {outboxMessageId : OutboxMessageId}
  {inboundEventId other : InboundEventId}
  {outboundMessageId : OutboundChannelMessageId}

theorem Announces.unique
    (announces : db.Announces outboxMessageId inboundEventId)
    (again : db.Announces outboxMessageId other) : inboundEventId = other := by
  obtain ⟨row, found, rfl, _⟩ := announces
  obtain ⟨row', present, rfl, _⟩ := again
  cases Option.some.inj (found.symm.trans present)
  rfl

theorem Announces.not_requests
    (announces : db.Announces outboxMessageId inboundEventId) :
    ¬ db.Requests outboxMessageId outboundMessageId := by
  rintro ⟨row, found, requested⟩
  obtain ⟨row', present, _, announced⟩ := announces
  cases Option.some.inj (found.symm.trans present)
  rw [announced] at requested
  cases requested

theorem Requests.unique {again : OutboundChannelMessageId}
    (requests : db.Requests outboxMessageId outboundMessageId)
    (requests' : db.Requests outboxMessageId again) :
    outboundMessageId = again := by
  obtain ⟨row, found, kind⟩ := requests
  obtain ⟨row', present, kind'⟩ := requests'
  cases Option.some.inj (found.symm.trans present)
  rw [kind] at kind'
  exact OutboxKind.channelReplyRequested.inj kind'

theorem announces_or_requests
    (present : (db.outbox.find? outboxMessageId).isSome = true) :
    (∃ inboundEventId, db.Announces outboxMessageId inboundEventId) ∨
      ∃ outboundMessageId, db.Requests outboxMessageId outboundMessageId := by
  obtain ⟨row, found⟩ := Option.isSome_iff_exists.mp present
  cases kind : row.kind with
  | channelEventReceived => exact .inl ⟨_, row, found, rfl, kind⟩
  | channelReplyRequested outboundMessageId =>
      exact .inr ⟨outboundMessageId, row, found, kind⟩

theorem announces_of_terms {terms : OutboxMessageTerms}
    (found : db.processing.outbox outboxMessageId = some terms)
    (kind : terms.kind = .channelEventReceived) :
    db.Announces outboxMessageId terms.inboundEventId := by
  obtain ⟨row, present, rfl⟩ := Option.map_eq_some_iff.mp found
  exact ⟨row, present, rfl, kind⟩

theorem requests_of_terms {terms : OutboxMessageTerms}
    (found : db.processing.outbox outboxMessageId = some terms)
    (kind : terms.kind = .channelReplyRequested outboundMessageId) :
    db.Requests outboxMessageId outboundMessageId := by
  obtain ⟨row, present, rfl⟩ := Option.map_eq_some_iff.mp found
  exact ⟨row, present, kind⟩

theorem terms_of_find? {row : OutboxMessageRow}
    (found : db.outbox.find? outboxMessageId = some row) :
    db.processing.outbox outboxMessageId =
      some row.toOutboxMessageTerms := by
  change Option.map _ (db.outbox.find? outboxMessageId) = _
  rw [found]
  rfl

theorem isSome_outbox_iff :
    (db.outbox.find? outboxMessageId).isSome = true ↔
      (db.processing.outbox outboxMessageId).isSome = true := by
  change _ ↔ (Option.map _ (db.outbox.find? outboxMessageId)).isSome = true
  rw [Option.isSome_map]

end Outbox

end ChannelDatabase

section Change

variable {db db' : ChannelDatabase}

theorem ProcessingView.ProcessingTransition.outbox_kept
    {view view' : ProcessingView}
    (transition : ProcessingView.ProcessingTransition view view')
    {outboxMessageId : OutboxMessageId} {terms : OutboxMessageTerms}
    (found : view.outbox outboxMessageId = some terms) :
    view'.outbox outboxMessageId = some terms := by
  cases transition with
  | idle | updated => exact found
  | accepted _ absent => exact update_of_none absent found
  | completed _ _ _ _ _ absent => exact update_of_none absent found

theorem ProcessingView.ProcessingTransition.open_event
    {view view' : ProcessingView}
    (transition : ProcessingView.ProcessingTransition view view')
    {inboundEventId : InboundEventId} {row' : InboundEventRow}
    (found : view'.events inboundEventId = some row')
    (unfinished : row'.processingStatus.isTerminal = false) :
    view.events inboundEventId = none ∨
      ∃ row, view.events inboundEventId = some row ∧
        row.processingStatus.isTerminal = false := by
  cases transition with
  | idle => exact .inr ⟨row', found, unfinished⟩
  | accepted absent =>
      rcases update_eq_some found with ⟨rfl, _⟩ | ⟨_, present⟩
      · exact .inl absent
      · exact .inr ⟨row', present, unfinished⟩
  | @updated _ row _ earlier transition =>
      rcases update_eq_some found with ⟨rfl, _⟩ | ⟨_, present⟩
      · exact .inr ⟨row, earlier, transition.unfinished⟩
      · exact .inr ⟨row', present, unfinished⟩
  | completed earlier completed =>
      rcases update_eq_some found with ⟨rfl, _⟩ | ⟨_, present⟩
      · exact .inr ⟨_, earlier, completed.unfinished⟩
      · exact .inr ⟨row', present, unfinished⟩

/-- A reply that is open after an update of a reply was open before. -/
theorem openReply_of_modify {outboundMessageId : OutboundChannelMessageId}
    {row : OutboundMessageRow} {set : OutboundMessageRow → OutboundMessageRow}
    {messages : Table OutboundChannelMessageId OutboundMessageRow}
    (written : messages = db.messages.modify outboundMessageId set)
    (found : db.messages.find? outboundMessageId = some row)
    (unfinished : row.status.isTerminal = false)
    {other : OutboundChannelMessageId} {row' : OutboundMessageRow}
    (present : messages.find? other = some row')
    (unfinished' : row'.status.isTerminal = false) : db.OpenReply other := by
  rw [written, Table.find?_modify_eq_update found] at present
  rcases update_eq_some present with ⟨rfl, _⟩ | ⟨_, earlier⟩
  · exact ⟨row, found, unfinished⟩
  · exact ⟨row', earlier, unfinished'⟩

/-- A reply is open because it was, because it is new, or because a recovery
reopened it. -/
theorem ChannelDatabase.ChannelChange.open_reply (change : ChannelChange db db')
    {outboundMessageId : OutboundChannelMessageId}
    (opened : db'.OpenReply outboundMessageId) :
    db.OpenReply outboundMessageId ∨
      db.messages.find? outboundMessageId = none ∨
        db'.RecoveryPrepared outboundMessageId := by
  obtain ⟨row', found', unfinished'⟩ := opened
  cases change with
  | unchanged | linked | accepted | eventUpdated | recoveryPublished =>
      exact .inl ⟨row', found', unfinished'⟩
  | published publication =>
      obtain ⟨outbox, rfl, _⟩ := publication
      exact .inl ⟨row', found', unfinished'⟩
  | consumed _ consumption =>
      obtain ⟨receipts, rfl, _⟩ := consumption
      exact .inl ⟨row', found', unfinished'⟩
  | completed effect =>
      cases effect with
      | completed freshMessage =>
          change (Table.push _ _ _ freshMessage).find? _ = _ at found'
          rw [Table.find?_push_eq_update] at found'
          rcases update_eq_some found' with ⟨rfl, _⟩ | ⟨_, present⟩
          · exact .inr (.inl (Table.find?_eq_none_iff.mpr freshMessage))
          · exact .inl ⟨row', present, unfinished'⟩
  | replyClaimed _ found pending =>
      exact .inl (openReply_of_modify rfl found
        (by rw [pending]; rfl) found' unfinished')
  | @replyExpired clock _ row found delivering =>
      obtain ⟨attempts, ended⟩ :=
        endLeased_attempts row (DeliveryAttemptRow.expire clock)
      rw [ended] at found'
      exact .inl (openReply_of_modify rfl found
        (by rw [delivering]; rfl) found' unfinished')
  | attemptCompleted found delivering =>
      exact .inl (openReply_of_modify rfl found
        (by rw [delivering]; rfl) found' unfinished')
  | replyExhausted found pending =>
      exact .inl (openReply_of_modify rfl found
        (by rw [pending]; rfl) found' unfinished')
  | @replyReopened recoveryId reopened row recovery fresh found _ same
      prepared =>
      change (Table.modify _ _ _).find? _ = _ at found'
      rw [Table.find?_modify_eq_update found] at found'
      rcases update_eq_some found' with ⟨rfl, _⟩ | ⟨_, earlier⟩
      · exact .inr (.inr ⟨recoveryId, recovery,
          Table.find?_push_self _ _ fresh, same, prepared⟩)
      · exact .inl ⟨row', earlier, unfinished'⟩

/-- A recovery stays, at most its publication is recorded. -/
theorem ChannelDatabase.ChannelChange.recovery_kept
    (change : ChannelChange db db')
    {recoveryId : TelegramDeliveryRecoveryId} {row : DeliveryRecoveryRow}
    (found : db.recoveries.find? recoveryId = some row) :
    ∃ row', db'.recoveries.find? recoveryId = some row' ∧
      row'.outboundMessageId = row.outboundMessageId := by
  cases change with
  | unchanged | linked | accepted | eventUpdated | replyClaimed
  | attemptCompleted | replyExhausted => exact ⟨row, found, rfl⟩
  | published publication =>
      obtain ⟨outbox, rfl, _⟩ := publication
      exact ⟨row, found, rfl⟩
  | consumed _ consumption =>
      obtain ⟨receipts, rfl, _⟩ := consumption
      exact ⟨row, found, rfl⟩
  | completed effect =>
      cases effect with
      | completed => exact ⟨row, found, rfl⟩
  | @replyExpired clock _ leased =>
      obtain ⟨attempts, ended⟩ :=
        endLeased_attempts leased (DeliveryAttemptRow.expire clock)
      rw [ended]
      exact ⟨row, found, rfl⟩
  | replyReopened fresh =>
      exact ⟨row, Table.find?_push_of_some fresh found, rfl⟩
  | @recoveryPublished clock published prepared foundPrepared =>
      change ∃ row', (Table.modify _ _ _).find? _ = some row' ∧ _
      rw [Table.find?_modify_eq_update foundPrepared]
      by_cases same : recoveryId = published
      · subst same
        cases Option.some.inj (foundPrepared.symm.trans found)
        exact ⟨_, Function.update_self .., rfl⟩
      · exact ⟨row, update_of_ne same found, rfl⟩

/-- What every change keeps of the open work and of the messages about it. -/
structure WorkKept (db db' : ChannelDatabase) : Prop where
  announces : ∀ outboxMessageId inboundEventId,
    db.Announces outboxMessageId inboundEventId →
    db'.Announces outboxMessageId inboundEventId
  requests : ∀ outboxMessageId outboundMessageId,
    db.Requests outboxMessageId outboundMessageId →
    db'.Requests outboxMessageId outboundMessageId
  outbox : ∀ outboxMessageId,
    (db.outbox.find? outboxMessageId).isSome = true →
    (db'.outbox.find? outboxMessageId).isSome = true
  openEvent : ∀ inboundEventId, db'.OpenEvent inboundEventId →
    db.events.find? inboundEventId = none ∨ db.OpenEvent inboundEventId
  openReply : ∀ outboundMessageId, db'.OpenReply outboundMessageId →
    db.OpenReply outboundMessageId ∨
      db.messages.find? outboundMessageId = none ∨
        db'.RecoveryPrepared outboundMessageId
  recovered : ∀ outboundMessageId, db.Recovered outboundMessageId →
    db'.Recovered outboundMessageId

theorem ChannelDatabase.ChannelChange.workKept (change : ChannelChange db db') :
    WorkKept db db' := by
  have transition := ChannelChange.processing change
  have kept : ∀ outboxMessageId row,
      db.outbox.find? outboxMessageId = some row →
      db'.processing.outbox outboxMessageId =
        some row.toOutboxMessageTerms := by
    intro outboxMessageId row found
    exact transition.outbox_kept (terms_of_find? found)
  exact
    { announces := by
        rintro outboxMessageId inboundEventId ⟨row, found, rfl, kind⟩
        exact announces_of_terms (kept outboxMessageId row found) kind
      requests := by
        rintro outboxMessageId outboundMessageId ⟨row, found, kind⟩
        exact requests_of_terms (kept outboxMessageId row found) kind
      outbox := by
        intro outboxMessageId present
        obtain ⟨row, found⟩ := Option.isSome_iff_exists.mp present
        rw [isSome_outbox_iff, kept outboxMessageId row found]
        rfl
      openEvent := by
        rintro inboundEventId ⟨row, found, unfinished⟩
        exact transition.open_event found unfinished
      openReply := fun _ opened => change.open_reply opened
      recovered := by
        rintro outboundMessageId ⟨recoveryId, row, found, rfl⟩
        obtain ⟨row', present, same⟩ := change.recovery_kept found
        exact ⟨recoveryId, row', present, same⟩ }

/-- An outbox message that existed says what it said before. -/
theorem WorkKept.requests_of_present (kept : WorkKept db db')
    {outboxMessageId : OutboxMessageId}
    {outboundMessageId : OutboundChannelMessageId}
    (present : (db.outbox.find? outboxMessageId).isSome = true)
    (requests : db'.Requests outboxMessageId outboundMessageId) :
    db.Requests outboxMessageId outboundMessageId := by
  rcases announces_or_requests present with
    ⟨inboundEventId, announces⟩ | ⟨earlier, requested⟩
  · exact ((kept.announces _ _ announces).not_requests requests).elim
  · cases (kept.requests _ _ requested).unique requests
    exact requested

theorem WorkKept.announces_of_present (kept : WorkKept db db')
    {outboxMessageId : OutboxMessageId} {inboundEventId : InboundEventId}
    (present : (db.outbox.find? outboxMessageId).isSome = true)
    (announces : db'.Announces outboxMessageId inboundEventId) :
    db.Announces outboxMessageId inboundEventId := by
  rcases announces_or_requests present with
    ⟨earlier, announced⟩ | ⟨outboundMessageId, requests⟩
  · cases (kept.announces _ _ announced).unique announces
    exact announced
  · exact (announces.not_requests (kept.requests _ _ requests)).elim

/-- Messages refer to rows that exist, and a refused event is suppressed. -/
structure Anchored (db : ChannelDatabase) : Prop where
  announced : ∀ outboxMessageId inboundEventId,
    db.Announces outboxMessageId inboundEventId →
    ∃ row, db.events.find? inboundEventId = some row
  consumed : ∀ outboxMessageId, db.Consumed outboxMessageId →
    (db.outbox.find? outboxMessageId).isSome = true
  recovered : ∀ recoveryId row, db.recoveries.find? recoveryId = some row →
    (db.outbox.find? row.outboxMessageId).isSome = true
  denied : ∀ inboundEventId row, db.events.find? inboundEventId = some row →
    row.Denied → row.processingStatus = .suppressed

theorem ProcessingView.ProcessingTransition.announced
    {view view' : ProcessingView}
    (transition : ProcessingView.ProcessingTransition view view')
    {outboxMessageId : OutboxMessageId} {terms : OutboxMessageTerms}
    (found : view'.outbox outboxMessageId = some terms)
    (kind : terms.kind = .channelEventReceived) :
    view.outbox outboxMessageId = some terms ∨
      ∃ row, view'.events terms.inboundEventId = some row := by
  cases transition with
  | idle | updated => exact .inl found
  | @accepted _ _ row accepted absent absentOutbox unprocessed same =>
      rcases update_eq_some found with ⟨_, rfl⟩ | ⟨_, present⟩
      · exact .inr ⟨row, by simp [same]⟩
      · exact .inl present
  | completed _ _ _ _ _ _ _ _ _ _ _ requested =>
      rcases update_eq_some found with ⟨_, rfl⟩ | ⟨_, present⟩
      · rw [requested] at kind
        cases kind
      · exact .inl present

theorem ChannelDatabase.ChannelChange.denied (change : ChannelChange db db')
    (denied : ∀ inboundEventId row,
      db.events.find? inboundEventId = some row → row.Denied →
      row.processingStatus = .suppressed)
    {inboundEventId : InboundEventId} {row : InboundEventRow}
    (found : db'.events.find? inboundEventId = some row)
    (refused : row.Denied) : row.processingStatus = .suppressed := by
  cases change with
  | unchanged | linked | replyClaimed | attemptCompleted | replyExhausted
  | replyReopened | recoveryPublished =>
      exact denied inboundEventId row found refused
  | published publication =>
      obtain ⟨outbox, rfl, _⟩ := publication
      exact denied inboundEventId row found refused
  | consumed _ consumption =>
      obtain ⟨receipts, rfl, _⟩ := consumption
      exact denied inboundEventId row found refused
  | @replyExpired clock _ leased =>
      obtain ⟨attempts, ended⟩ :=
        endLeased_attempts leased (DeliveryAttemptRow.expire clock)
      rw [ended] at found
      exact denied inboundEventId row found refused
  | accepted freshEvent =>
      change (Table.push _ _ _ freshEvent).find? _ = _ at found
      rw [Table.find?_push_eq_update] at found
      rcases update_eq_some found with ⟨_, rfl⟩ | ⟨_, present⟩
      · rcases refused with refused | refused <;> cases refused
      · exact denied inboundEventId row present refused
  | @eventUpdated _ changed before set earlier transition =>
      change (Table.modify _ _ _).find? _ = _ at found
      rw [Table.find?_modify_eq_update earlier] at found
      rcases update_eq_some found with ⟨_, rfl⟩ | ⟨_, present⟩
      · rcases transition.denied refused with suppressed | before
        · exact suppressed
        · have unfinished := transition.unfinished
          rw [denied changed _ earlier before] at unfinished
          cases unfinished
      · exact denied inboundEventId row present refused
  | completed effect =>
      cases effect with
      | completed _ _ held =>
          obtain ⟨earlier, processing, _⟩ := eventHeld_eq_some.mp held
          change (Table.modify _ _ _).find? _ = _ at found
          rw [Table.find?_modify_eq_update earlier] at found
          rcases update_eq_some found with ⟨_, rfl⟩ | ⟨_, present⟩
          · have suppressed := denied _ _ earlier refused
            rw [processing] at suppressed
            cases suppressed
          · exact denied inboundEventId row present refused

theorem ChannelDatabase.ChannelChange.consumed_before
    (change : ChannelChange db db')
    {outboxMessageId : OutboxMessageId}
    (consumed : db'.Consumed outboxMessageId) :
    db.Consumed outboxMessageId ∨
      (db.outbox.find? outboxMessageId).isSome = true := by
  cases change with
  | unchanged | linked | accepted | eventUpdated | replyClaimed
  | attemptCompleted | replyExhausted | replyReopened | recoveryPublished =>
      exact .inl consumed
  | published publication =>
      obtain ⟨outbox, rfl, _⟩ := publication
      exact .inl consumed
  | consumed present consumption =>
      obtain ⟨receipts, rfl, recorded⟩ := consumption
      rcases (recorded outboxMessageId).mp consumed with earlier | rfl
      · exact .inl earlier
      · exact .inr present
  | completed effect =>
      cases effect with
      | completed => exact .inl consumed
  | @replyExpired clock _ leased =>
      obtain ⟨attempts, ended⟩ :=
        endLeased_attempts leased (DeliveryAttemptRow.expire clock)
      rw [ended] at consumed
      exact .inl consumed

/-- A recovery is an earlier one, or its outbox message exists. -/
theorem ChannelDatabase.ChannelChange.recovery_outbox
    (change : ChannelChange db db')
    {recoveryId : TelegramDeliveryRecoveryId} {row : DeliveryRecoveryRow}
    (found : db'.recoveries.find? recoveryId = some row) :
    (∃ earlier, db.recoveries.find? recoveryId = some earlier ∧
      earlier.outboxMessageId = row.outboxMessageId) ∨
      (db'.outbox.find? row.outboxMessageId).isSome = true := by
  cases change with
  | unchanged | linked | accepted | eventUpdated | replyClaimed
  | attemptCompleted | replyExhausted => exact .inl ⟨row, found, rfl⟩
  | published publication =>
      obtain ⟨outbox, rfl, _⟩ := publication
      exact .inl ⟨row, found, rfl⟩
  | consumed _ consumption =>
      obtain ⟨receipts, rfl, _⟩ := consumption
      exact .inl ⟨row, found, rfl⟩
  | completed effect =>
      cases effect with
      | completed => exact .inl ⟨row, found, rfl⟩
  | @replyExpired clock _ leased =>
      obtain ⟨attempts, ended⟩ :=
        endLeased_attempts leased (DeliveryAttemptRow.expire clock)
      rw [ended] at found
      exact .inl ⟨row, found, rfl⟩
  | @replyReopened _ _ _ recovery fresh _ _ _ _ present =>
      change (Table.push _ _ _ fresh).find? _ = _ at found
      rw [Table.find?_push_eq_update] at found
      rcases update_eq_some found with ⟨_, rfl⟩ | ⟨_, earlier⟩
      · exact .inr present
      · exact .inl ⟨row, earlier, rfl⟩
  | recoveryPublished foundPrepared =>
      change (Table.modify _ _ _).find? _ = _ at found
      rw [Table.find?_modify_eq_update foundPrepared] at found
      rcases update_eq_some found with ⟨rfl, rfl⟩ | ⟨_, earlier⟩
      · exact .inl ⟨_, foundPrepared, rfl⟩
      · exact .inl ⟨row, earlier, rfl⟩

theorem Anchored.changed (anchored : Anchored db)
    (change : ChannelChange db db') : Anchored db' := by
  have kept := change.workKept
  have transition := ChannelChange.processing change
  exact
    { announced := by
        rintro outboxMessageId _ ⟨row, found, rfl, kind⟩
        rcases transition.announced (terms_of_find? found) kind with
          earlier | present
        · obtain ⟨event, present⟩ := anchored.announced outboxMessageId _
            (announces_of_terms earlier kind)
          obtain ⟨event', found', _⟩ := transition.event_kept present
          exact ⟨event', found'⟩
        · exact present
      consumed := by
        intro outboxMessageId consumed
        apply kept.outbox
        rcases change.consumed_before consumed with earlier | present
        · exact anchored.consumed outboxMessageId earlier
        · exact present
      recovered := by
        intro recoveryId row found
        rcases change.recovery_outbox found with
          ⟨earlier, present, same⟩ | present
        · rw [← same]
          exact kept.outbox _ (anchored.recovered recoveryId earlier present)
        · exact present
      denied := fun _ _ found refused =>
        change.denied anchored.denied found refused }

end Change

theorem reachable_anchored {state : ChannelState}
    (reached : channelSystem.Reachable state) : Anchored state.database := by
  refine reachable_of_change ?_ (fun _ _ => Anchored.changed) reached
  intro users ledgers
  constructor
  · rintro outboxMessageId inboundEventId ⟨row, found, _⟩
    cases found
  · intro outboxMessageId consumed
    cases consumed
  · intro recoveryId row found
    cases found
  · intro inboundEventId row found
    cases found

end XpensGo
