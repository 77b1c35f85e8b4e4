import XpensGo.Channel.ProcessingStoreCases
import XpensGo.Channel.TelegramWebhook

/-!
# Accepted updates

What becomes of an update that the webhook accepts: the event is stored as a
JSONB value, and `claim` and `complete` of the processing store decode that value
again before they use it.  The seconds of the provider are multiplied by a
thousand without a bound, so an instant may be too large for a date or for the
persisted schema.
-/

namespace XpensGo

open EcmaScript JsString Schema Postgres Relational ChannelDatabase

section Columns

/-- PostgreSQL stores neither the null character nor an unpaired surrogate. -/
def isStorableText (text : JsString) : Bool :=
  text.codePoints.all (fun point =>
    point ≠ 0 && !(0xd800 ≤ point && point ≤ 0xdfff))

mutual

/-- The value can be stored in a `JSONB` column. -/
def isStorable : JsValue → Bool
  | .string text => isStorableText text
  | .array items => areStorable items
  | .object fields => areStorableFields fields
  | .null | .boolean _ | .number _ => true

/-- All elements can be stored. -/
def areStorable : List JsValue → Bool
  | [] => true
  | item :: items => isStorable item && areStorable items

/-- All fields can be stored. -/
def areStorableFields : List (JsString × JsValue) → Bool
  | [] => true
  | (name, value) :: fields =>
      isStorableText name && isStorable value && areStorableFields fields

end

/-- A JSONB column, as it is read after it was written.  The order of the
properties is not kept by the column and is not looked at by a decoder. -/
def jsonbColumn (value : JsValue) : Option JsValue :=
  if isStorable value then some value else none

/-- The largest time value of a `Date`. -/
def maximumDateMillis : EpochMillis := 8640000000000000

/-- `new Date(milliseconds)` in a TIMESTAMPTZ column; an invalid date is
refused. -/
def dateColumn (milliseconds : EpochMillis) : Option Timestamp :=
  if milliseconds ≤ maximumDateMillis then some (.ofMillis milliseconds)
  else none

/-- `outbound_channel_messages_conversation_nonempty`. -/
def conversationBounded (externalConversationId : TelegramConversationId) :
    Bool :=
  1 ≤ externalConversationId.digits.length &&
    externalConversationId.digits.length ≤ 32

/-- The column `normalized_payload` of the stored events. -/
abbrev StoredPayloads := InboundEventId → JsValue

end Columns

namespace ChannelDatabase

variable (payloads : StoredPayloads) (clock : DatabaseClock)

/-- `claim` of the processing store; the payload is decoded with the row. -/
def claimStoredEvent (workerNow : Int) (claimId : TelegramProcessingClaimId)
    (policy : TelegramProcessingPolicy) (outboxMessageId : OutboxMessageId)
    (db : ChannelDatabase) :
    Except ChannelStoreFailure (ClaimTelegramEventOutcome × ChannelDatabase) :=
  match db.announcedEvent outboxMessageId with
  | none => pure (.notFound, db)
  | some (inboundEventId, _) => do
      let _ ← require (.persistenceUnavailable .claimTelegramEvent)
        (PersistedTelegramEventV1.decode (payloads inboundEventId))
      db.claimTelegramEvent clock workerNow claimId policy outboxMessageId

/-- `INSERT INTO normalized_channel_commands`, of values that its columns
take. -/
def insertStoredCommand (db : ChannelDatabase)
    (commandId : NormalizedCommandId) (input : CompleteTelegramEventInput)
    (event : PersistedTelegramEventV1) : Option ChannelDatabase :=
  match input.completion.command with
  | some (actor, text) => do
      let _ ← dateColumn event.occurredAtMillis
      if isStorableText text then
        db.insertCommand commandId (input.command event actor text)
      else
        none
  | none => some db

/-- `INSERT INTO outbound_channel_messages`, of values that its columns take. -/
def insertStoredMessage (db : ChannelDatabase)
    (outboundMessageId : OutboundChannelMessageId) (row : OutboundMessageRow) :
    Option ChannelDatabase :=
  if conversationBounded row.externalConversationId then
    db.insertMessage outboundMessageId row
  else
    none

/-- `complete` of the processing store; the payload is decoded again. -/
def completeStoredEvent (ids : CompletionIds)
    (input : CompleteTelegramEventInput) (db : ChannelDatabase) :
    Except ChannelStoreFailure (OutboundChannelMessageId × ChannelDatabase) :=
  let unavailable : ChannelStoreFailure :=
    .persistenceUnavailable .completeTelegramEvent
  match db.eventHeld input.inboundEventId input.claimId with
  | none => .error unavailable
  | some _ => do
      let event ← require unavailable
        (PersistedTelegramEventV1.decode (payloads input.inboundEventId))
      let processed ← require unavailable
        (db.updateEvent input.inboundEventId
          (InboundEventRow.complete clock input.completion))
      let commanded ← require unavailable
        (processed.insertStoredCommand ids.command input event)
      let replied ← require unavailable
        (commanded.insertStoredMessage ids.message (input.message event))
      let queued ← require unavailable
        (replied.insertOutbox ids.outbox
          (newOutboxRow clock input.inboundEventId
            (input.completion.actor.map (·.owner))
            (.channelReplyRequested ids.message) input.correlationId))
      pure (ids.message, queued)

end ChannelDatabase

/-- A completion of an event stores no text but the one of the event. -/
def CompleteTelegramEventInput.Answers (input : CompleteTelegramEventInput)
    (event : PersistedTelegramEventV1) : Prop :=
  ∀ actor text, input.completion.command = some (actor, text) →
    event.content = .text text

/-- An accepted event is never the reason that `claim` or `complete` fails. -/
structure Processable (event : PersistedTelegramEventV1) : Prop where
  decodes : PersistedTelegramEventV1.decode event.toJson = some event
  validDate : event.occurredAtMillis ≤ maximumDateMillis
  conversation : conversationBounded event.externalConversationId = true
  text : ∀ messageText, event.content = .text messageText →
    0 < messageText.codePoints.length ∧ messageText.codePoints.length ≤ 4096
  claimed : ∀ payloads db outboxMessageId inboundEventId row,
    db.announcedEvent outboxMessageId = some (inboundEventId, row) →
    row.normalizedPayload = event →
    row.check = true →
    jsonbColumn event.toJson = some (payloads inboundEventId) →
    ∀ clock workerNow claimId policy, ∃ answer,
      claimStoredEvent payloads clock workerNow claimId policy outboxMessageId
        db = .ok answer
  completed : ∀ payloads db (input : CompleteTelegramEventInput) row,
    db.events.find? input.inboundEventId = some row →
    row.normalizedPayload = event →
    jsonbColumn event.toJson = some (payloads input.inboundEventId) →
    input.Answers event →
    ∀ clock ids,
      completeStoredEvent payloads clock ids input db =
        db.completeTelegramEvent clock ids input

section Columns

variable {value : JsValue}

theorem length_codePoints_bounds (text : JsString) :
    text.codePoints.length ≤ text.length ∧
      (text ≠ [] → 0 < text.codePoints.length) := by
  induction text using codePoints.induct with
  | case1 => simp [codePoints]
  | case2 unit => simp [codePoints]
  | case3 first second rest pair induction =>
      simp only [codePoints, pair, if_true, List.length_cons]
      omega
  | case4 first second rest single induction =>
      simp only [codePoints, single, List.length_cons] at induction ⊢
      simp only [Bool.false_eq_true, if_false, List.length_cons]
      omega

private theorem length_conversationIdPattern {text : JsString}
    (accepted : conversationIdPattern.test text = true) :
    1 ≤ text.length ∧ text.length ≤ 21 := by
  obtain ⟨captures, matched⟩ := RegExp.test_iff.mp accepted
  obtain ⟨sign, digits, _, _, signed, positive, rfl, _⟩ :=
    RegExp.matches_sequence.mp matched
  obtain ⟨first, others, _, _, leading, following, rfl, _⟩ :=
    RegExp.matches_sequence.mp positive
  obtain ⟨_, one, single, _⟩ := RegExp.matches_repeated.mp leading
  obtain ⟨_, _, bounded, _⟩ := RegExp.matches_repeated.mp following
  simp only [Option.all_some, decide_eq_true_eq] at single bounded
  have short : sign.length ≤ 1 := by
    rcases RegExp.matches_optional.mp signed with minus | ⟨rfl, _⟩
    · rw [(RegExp.matches_literal.mp minus).1]
      decide
    · exact Nat.zero_le _
  simp only [List.length_append]
  omega

private theorem conversationBounded_of_decode
    {externalConversationId : TelegramConversationId}
    (decoded : TelegramConversationId.decode value =
      some externalConversationId) :
    conversationBounded externalConversationId = true := by
  obtain ⟨text, read, rfl⟩ := Option.map_eq_some_iff.mp decoded
  obtain ⟨_, accepted⟩ := string_eq_some_iff.mp read
  have bounds := length_conversationIdPattern accepted
  simp [conversationBounded]
  omega

private theorem isStorableText_of_stored {event : PersistedTelegramEventV1}
    {messageText : JsString} (content : event.content = .text messageText)
    (stored : jsonbColumn event.toJson = some value) :
    isStorableText messageText = true := by
  unfold jsonbColumn at stored
  split at stored
  · rename_i storable
    simp only [PersistedTelegramEventV1.toJson, content,
      PersistedTelegramContent.toJson, isStorable, areStorableFields,
      Bool.and_eq_true] at storable
    exact storable.2.2.2.2.2.2.1.2.2.1.2
  · cases stored

private theorem stored_eq {event : PersistedTelegramEventV1}
    (stored : jsonbColumn event.toJson = some value) :
    value = event.toJson := by
  unfold jsonbColumn at stored
  split at stored
  · exact (Option.some.inj stored).symm
  · cases stored

end Columns

section Claims

variable {db counted : ChannelDatabase} {clock : DatabaseClock}
  {workerNow : Int} {claimId : TelegramProcessingClaimId}
  {policy : TelegramProcessingPolicy} {outboxMessageId : OutboxMessageId}
  {inboundEventId : InboundEventId} {row : InboundEventRow}

private theorem exists_updateEvent {set : InboundEventRow → InboundEventRow}
    (found : db.events.find? inboundEventId = some row)
    (windows : db.WindowsOnly counted) (legal : (set row).check = true) :
    ∃ updated, counted.updateEvent inboundEventId set = some updated := by
  obtain ⟨_, rfl⟩ := windows
  have modified := @Table.modify?_eq_some_iff _ _ _ db.events
    (db.events.modify inboundEventId set) InboundEventRow.check
    inboundEventId set
  unfold updateEvent
  rw [modified.mpr ⟨?_, rfl⟩]
  · exact ⟨_, rfl⟩
  · intro present presentFound
    cases found.symm.trans presentFound
    exact legal

private theorem claim_check (legal : row.check = true)
    (unfinished : row.processingStatus.isTerminal = false) :
    (row.claim clock policy claimId).check = true := by
  simp only [InboundEventRow.check, Bool.and_eq_true, decide_eq_true_eq]
    at legal
  have processing : ProcessingStatus.isTerminal .processing = false := rfl
  simp [InboundEventRow.check, InboundEventRow.claim, legal, unfinished,
    processing]

private theorem suppress_check (legal : row.check = true) :
    (row.suppress clock).check = true := by
  simp only [InboundEventRow.check, Bool.and_eq_true, decide_eq_true_eq]
    at legal
  simp [InboundEventRow.check, InboundEventRow.suppress,
    ProcessingStatus.isTerminal, legal]

private theorem exists_leaseEvent (policy : TelegramProcessingPolicy)
    (claimId : TelegramProcessingClaimId) (clock : DatabaseClock)
    (found : db.events.find? inboundEventId = some row)
    (windows : db.WindowsOnly counted) (legal : row.check = true)
    (unfinished : row.processingStatus.isTerminal = false) :
    ∃ answer, counted.leaseEvent clock claimId policy inboundEventId row =
      .ok answer := by
  obtain ⟨leased, updated⟩ := exists_updateEvent found windows
    (@claim_check clock claimId policy row legal unfinished)
  exact ⟨_, by rw [leaseEvent, updated]; rfl⟩

/-- A claim of an event with a legal row does not fail. -/
theorem exists_claimTelegramEvent (clock : DatabaseClock) (workerNow : Int)
    (claimId : TelegramProcessingClaimId) (policy : TelegramProcessingPolicy)
    (announced : db.announcedEvent outboxMessageId =
      some (inboundEventId, row))
    (legal : row.check = true) :
    ∃ answer, db.claimTelegramEvent clock workerNow claimId policy
      outboxMessageId = .ok answer := by
  have found := (announcedEvent_eq_some announced).2
  unfold claimTelegramEvent
  rw [announced]
  dsimp only
  split
  · exact ⟨_, rfl⟩
  · rename_i unfinished
    have pending : row.processingStatus.isTerminal = false := by
      simpa using unfinished
    split
    · exact ⟨_, rfl⟩
    · split
      · exact ⟨_, rfl⟩
      · exact exists_leaseEvent policy claimId clock found ⟨_, rfl⟩ legal
          pending
      · have windows := (countEvent_windowsOnly db clock .system).trans
          (countEvent_windowsOnly _ clock
            (.identity row.normalizedPayload.externalAccountId))
        split
        · exact exists_leaseEvent policy claimId clock found windows legal
            pending
        · obtain ⟨suppressed, updated⟩ := exists_updateEvent found windows
            (@suppress_check clock row legal)
          exact ⟨_, by rw [updated]; rfl⟩

end Claims

section Processing

variable {event : PersistedTelegramEventV1}

private theorem insertStoredCommand_eq {db : ChannelDatabase}
    {commandId : NormalizedCommandId} {input : CompleteTelegramEventInput}
    (valid : event.occurredAtMillis ≤ maximumDateMillis)
    (storable : ∀ actor text, input.completion.command = some (actor, text) →
      isStorableText text = true) :
    db.insertStoredCommand commandId input event =
      db.insertCompletionCommand commandId input event := by
  unfold insertStoredCommand insertCompletionCommand
  cases command : input.completion.command with
  | none => rfl
  | some written =>
      obtain ⟨actor, text⟩ := written
      simp [dateColumn, valid, storable actor text command]

/-- With a readable payload, a valid date and a bounded conversation, `complete`
is the transaction over the typed rows. -/
private theorem completeStoredEvent_eq {payloads : StoredPayloads}
    {db : ChannelDatabase} {clock : DatabaseClock} {ids : CompletionIds}
    {input : CompleteTelegramEventInput} {row : InboundEventRow}
    (found : db.events.find? input.inboundEventId = some row)
    (payload : row.normalizedPayload = event)
    (decodes : PersistedTelegramEventV1.decode
      (payloads input.inboundEventId) = some event)
    (valid : event.occurredAtMillis ≤ maximumDateMillis)
    (conversation : conversationBounded event.externalConversationId = true)
    (storable : ∀ actor text, input.completion.command = some (actor, text) →
      isStorableText text = true) :
    completeStoredEvent payloads clock ids input db =
      db.completeTelegramEvent clock ids input := by
  unfold completeStoredEvent completeTelegramEvent
  cases held : db.eventHeld input.inboundEventId input.claimId with
  | none => rfl
  | some present =>
      have same := (eventHeld_eq_some.mp held).1
      cases found.symm.trans same
      have bounded : conversationBounded
          (input.message event).externalConversationId = true := conversation
      have read : require
          (ChannelStoreFailure.persistenceUnavailable .completeTelegramEvent)
          (PersistedTelegramEventV1.decode (payloads input.inboundEventId)) =
          .ok event := by
        rw [decodes]
        rfl
      simp only [read, payload, bind, Except.bind,
        insertStoredCommand_eq valid storable, insertStoredMessage, bounded,
        if_true]

/-- An event is processable if and only if its instant is a valid date. -/
theorem processable_iff (branded : event.Branded)
    (text : ∀ messageText, event.content = .text messageText →
      isTelegramMessageText messageText = true) :
    Processable event ↔ event.occurredAtMillis ≤ maximumDateMillis := by
  constructor
  · intro processable
    exact processable.validDate
  · intro valid
    have safe : event.occurredAtMillis ≤ maxSafeInteger :=
      valid.trans (by decide)
    have decodes : PersistedTelegramEventV1.decode event.toJson =
        some event := by
      rw [PersistedTelegramEventV1.decode_toJson branded, if_pos safe]
    have conversation := conversationBounded_of_decode
      branded.externalConversationId
    refine ⟨decodes, valid, conversation, ?_, ?_, ?_⟩
    · intro messageText content
      have bounds := text messageText content
      have points := length_codePoints_bounds messageText
      simp only [isTelegramMessageText, Bool.and_eq_true,
        decide_eq_true_eq] at bounds
      have nonempty : messageText ≠ [] := by
        rintro rfl
        simp at bounds
      exact ⟨points.2 nonempty, points.1.trans bounds.2⟩
    · intro payloads db outboxMessageId inboundEventId row announced payload
        legal stored clock workerNow claimId policy
      obtain ⟨answer, claims⟩ := exists_claimTelegramEvent clock workerNow
        claimId policy announced legal
      refine ⟨answer, ?_⟩
      unfold claimStoredEvent
      rw [announced]
      dsimp only
      rw [stored_eq stored, decodes]
      exact claims
    · intro payloads db input row found payload stored answers clock ids
      refine completeStoredEvent_eq found payload ?_ valid conversation ?_
      · rw [stored_eq stored]
        exact decodes
      · intro actor messageText command
        exact isStorableText_of_stored (answers actor messageText command)
          stored

end Processing

section Acceptance

variable {platform : WebhookPlatform} {request : TelegramWebhookRequest}
  {config : TelegramWebhookConfig} {update : VerifiedTelegramUpdate}
  {crypto : WebCrypto}

private theorem parseTelegramContent_text {text messageText : JsString}
    (parsed : parseTelegramContent text = .text messageText) :
    messageText = text := by
  unfold parseTelegramContent at parsed
  split at parsed
  · exact (VerifiedTelegramContent.text.inj parsed).symm
  · unfold commandContent at parsed
    split at parsed
    · split at parsed <;> cases parsed
    · cases parsed

private theorem minimizeContent_branded {text : JsString}
    {content : PersistedTelegramContent}
    (bounded : isTelegramMessageText text = true)
    (minimized : minimizeContent (webCryptoLinkChallenge crypto)
      (parseTelegramContent text) = .ok content) :
    PersistedTelegramContent.decode content.toJson = some content ∧
      ∀ messageText, content = .text messageText →
        isTelegramMessageText messageText = true := by
  cases parsed : parseTelegramContent text with
  | text messageText =>
      rw [parsed] at minimized
      cases minimized
      rw [parseTelegramContent_text parsed]
      refine ⟨PersistedTelegramContent.decode_text bounded, ?_⟩
      rintro _ ⟨⟩
      exact bounded
  | invalidCommand command =>
      rw [parsed] at minimized
      cases minimized
      refine ⟨PersistedTelegramContent.decode_invalidCommand command, ?_⟩
      rintro _ ⟨⟩
  | linkCommand token =>
      rw [parsed] at minimized
      obtain ⟨challengeDigest, digested, returned⟩ := bind_eq_ok.mp minimized
      cases returned
      refine ⟨PersistedTelegramContent.decode_linkCommand
        (digestToken_branded digested), ?_⟩
      rintro _ ⟨⟩
  | unlinkCommand token =>
      rw [parsed] at minimized
      obtain ⟨challengeDigest, digested, returned⟩ := bind_eq_ok.mp minimized
      cases returned
      refine ⟨PersistedTelegramContent.decode_unlinkCommand
        (digestToken_branded digested), ?_⟩
      rintro _ ⟨⟩

private theorem verifiedUpdate_of_accepted
    (accepted : verifyAndDecodeTelegramWebhook platform request config =
      .ok update) :
    ∃ provider message sender messageText,
      receivedUpdate platform request config = .ok provider ∧
        provider.message = some message ∧
        verifiedUpdate provider.updateId message sender messageText =
          some update := by
  obtain ⟨provider, received, verified⟩ := bind_eq_ok.mp accepted
  unfold verifyUpdate at verified
  split at verified
  · cases verified
  · rename_i message sent
    split at verified
    · cases verified
    · split at verified
      · cases verified
      · rename_i sender _
        split at verified
        · cases verified
        · split at verified
          · cases verified
          · rename_i messageText _
            split at verified
            · cases verified
            · rename_i decoded
              cases verified
              exact ⟨provider, message, sender, messageText, received, sent,
                decoded⟩

private theorem roundNat_le_maximumDateMillis_iff {seconds : Nat} :
    roundNat (seconds * 1000) ≤ maximumDateMillis ↔
      seconds ≤ 8640000000000 := by
  unfold maximumDateMillis
  by_cases safe : seconds * 1000 ≤ maxSafeInteger
  · rw [roundNat_of_le safe]
    omega
  · have large := lt_roundNat (Nat.lt_of_not_le safe)
    unfold maxSafeInteger at safe large
    omega

private theorem acceptedEvent_branded {updateId : SafeInteger 0}
    {message : TelegramProviderMessage} {sender : TelegramProviderSender}
    {messageText : JsString} {correlationId : CorrelationId}
    {input : PersistTelegramEventInput}
    (verified : verifiedUpdate updateId message sender messageText =
      some update)
    (built : acceptTelegramEvent (webCryptoLinkChallenge crypto) correlationId
      update = .ok input) :
    input.event.Branded ∧
      (∀ messageText, input.event.content = .text messageText →
        isTelegramMessageText messageText = true) ∧
      input.event.occurredAtMillis =
        roundNat (message.date.val.toNat * 1000) := by
  obtain ⟨_, updateId, verified⟩ := Option.bind_eq_some_iff.mp verified
  obtain ⟨_, account, verified⟩ := Option.bind_eq_some_iff.mp verified
  obtain ⟨_, conversation, verified⟩ := Option.bind_eq_some_iff.mp verified
  obtain ⟨_, messageId, verified⟩ := Option.bind_eq_some_iff.mp verified
  obtain ⟨_, text, verified⟩ := Option.bind_eq_some_iff.mp verified
  cases verified
  obtain ⟨_, minimized, returned⟩ := bind_eq_ok.mp built
  cases returned
  obtain ⟨content, bounded⟩ :=
    minimizeContent_branded (string_eq_some_iff.mp text).2 minimized
  refine ⟨?_, bounded, rfl⟩
  exact
    { updateId := TelegramUpdateId.decode_again updateId
      externalAccountId := TelegramExternalAccountId.decode_again account
      externalConversationId :=
        TelegramConversationId.decode_again conversation
      externalMessageId := TelegramMessageId.decode_again messageId
      content := content }

/-- The event of an accepted update is processable if and only if its message
was sent at a valid date. -/
theorem accepted_updates_processable_iff
    (accepted : verifyAndDecodeTelegramWebhook platform request config =
      .ok update) :
    ∃ provider message, receivedUpdate platform request config = .ok provider ∧
      provider.message = some message ∧
        ∀ correlationId input,
          acceptTelegramEvent (webCryptoLinkChallenge platform.toWebCrypto)
            correlationId update = .ok input →
          (Processable input.event ↔ message.date.val ≤ 8640000000000) := by
  obtain ⟨provider, message, sender, messageText, received, sent, verified⟩ :=
    verifiedUpdate_of_accepted accepted
  refine ⟨provider, message, received, sent, ?_⟩
  intro correlationId input built
  obtain ⟨branded, bounded, instant⟩ := acceptedEvent_branded verified built
  have nonnegative := message.date.property.1
  rw [processable_iff branded bounded, instant,
    roundNat_le_maximumDateMillis_iff]
  omega

def sampleWebhookConfig : TelegramWebhookConfig :=
  { webhookSecret := ofString "secret"
    maximumBodyBytes := 65536 }

/-- The body of a private text message. -/
def messageBody (date : Nat) : String :=
  "\x7b\"update_id\":7,\"message\":\x7b\"message_id\":5,\"date\":" ++
    toString date ++
    ",\"chat\":\x7b\"id\":42,\"type\":\"private\"\x7d," ++
    "\"from\":\x7b\"id\":42,\"is_bot\":false\x7d,\"text\":\"tea\"\x7d\x7d"

/-- The update whose message bears this date. -/
def messageJson (date : Nat) : JsValue :=
  .object [(ofString "update_id", .number 7),
    (ofString "message", .object [(ofString "message_id", .number 5),
      (ofString "date", .number date),
      (ofString "chat", .object [(ofString "id", .number 42),
        (ofString "type", .string (ofString "private"))]),
      (ofString "from", .object [(ofString "id", .number 42),
        (ofString "is_bot", .boolean false)]),
      (ofString "text", .string (ofString "tea"))])]

/-- The functions of the runtime on the texts of one request. -/
def messagePlatform (date : Nat) : WebhookPlatform :=
  { encodeText := fun text => text.map (fun unit => unit.toUInt8)
    digest := fun bytes =>
      if bytes = (ofString "secret").map (fun unit => unit.toUInt8) then
          some [43, 184, 13, 83, 123, 29, 163, 227, 139, 211, 3, 97, 170, 133,
            86, 134, 189, 224, 234, 205, 113, 98, 254, 246, 162, 95, 233, 123,
            245, 39, 162, 91]
      else
        none
    parseJson := fun text =>
      if text = ofString (messageBody date) then some (messageJson date)
      else none }

/-- A request that carries this update and the secret. -/
def messageRequest (date : Nat) : TelegramWebhookRequest :=
  { secretToken := some (ofString "secret")
    contentLength := none
    body := some [some ((ofString (messageBody date)).map
      (fun unit => unit.toUInt8))] }

/-- The message is accepted with the given instant. -/
def acceptsAt (date millis : Nat) : Bool :=
  match verifyAndDecodeTelegramWebhook (messagePlatform date)
    (messageRequest date) sampleWebhookConfig with
  | .error _ => false
  | .ok update =>
      match acceptTelegramEvent
        (webCryptoLinkChallenge (messagePlatform date).toWebCrypto) ⟨1⟩
        update with
      | .error _ => false
      | .ok input => input.event.occurredAtMillis = millis

private theorem of_acceptsAt {date millis : Nat}
    (accepts : acceptsAt date millis = true) :
    ∃ update input,
      verifyAndDecodeTelegramWebhook (messagePlatform date)
          (messageRequest date) sampleWebhookConfig = .ok update ∧
        acceptTelegramEvent
            (webCryptoLinkChallenge (messagePlatform date).toWebCrypto) ⟨1⟩
            update = .ok input ∧
        input.event.occurredAtMillis = millis := by
  unfold acceptsAt at accepts
  split at accepts
  · cases accepts
  · rename_i update accepted
    split at accepts
    · cases accepts
    · rename_i input built
      exact ⟨update, input, accepted, built, of_decide_eq_true accepts⟩

/-- A message of the present is processable. -/
theorem accepted_updates_processable_message :
    ∃ input : PersistTelegramEventInput,
      input.event.occurredAtMillis = 1767225600000 ∧
        Processable input.event := by
  obtain ⟨update, input, accepted, built, instant⟩ :=
    @of_acceptsAt 1767225600 1767225600000 (by decide +kernel)
  obtain ⟨provider, message, received, sent, processable⟩ :=
    accepted_updates_processable_iff accepted
  refine ⟨input, instant, (processable _ _ built).mpr ?_⟩
  obtain ⟨_, other, _, _, receivedAgain, sentAgain, verified⟩ :=
    verifiedUpdate_of_accepted accepted
  cases received.symm.trans receivedAgain
  cases sent.symm.trans sentAgain
  have rounded := (acceptedEvent_branded verified built).2.2
  have dated := (@roundNat_le_maximumDateMillis_iff
    message.date.val.toNat).mp (by
      rw [← rounded, instant]
      decide)
  have nonnegative := message.date.property.1
  omega

/-- A message from the year 287396 is accepted, and the payload of its event is
refused by every claim. -/
theorem poison_update_accepted :
    ∃ update input,
      verifyAndDecodeTelegramWebhook (messagePlatform 9007199254741)
          (messageRequest 9007199254741) sampleWebhookConfig = .ok update ∧
        acceptTelegramEvent
            (webCryptoLinkChallenge
              (messagePlatform 9007199254741).toWebCrypto) ⟨1⟩ update =
          .ok input ∧
        ¬Processable input.event ∧
        ∀ payloads db outboxMessageId inboundEventId row,
          db.announcedEvent outboxMessageId = some (inboundEventId, row) →
          jsonbColumn input.event.toJson = some (payloads inboundEventId) →
          ∀ clock workerNow claimId policy,
            claimStoredEvent payloads clock workerNow claimId policy
                outboxMessageId db =
              .error (.persistenceUnavailable .claimTelegramEvent) := by
  obtain ⟨update, input, accepted, built, instant⟩ :=
    @of_acceptsAt 9007199254741 9007199254741000 (by decide +kernel)
  obtain ⟨_, _, _, _, _, _, verified⟩ := verifiedUpdate_of_accepted accepted
  have branded := (acceptedEvent_branded verified built).1
  have undecoded : PersistedTelegramEventV1.decode input.event.toJson =
      none := by
    rw [PersistedTelegramEventV1.decode_toJson branded, instant]
    rfl
  refine ⟨update, input, accepted, built, ?_, ?_⟩
  · intro processable
    have decodes := processable.decodes
    rw [undecoded] at decodes
    cases decodes
  · intro payloads db outboxMessageId inboundEventId row announced stored clock
      workerNow claimId policy
    unfold claimStoredEvent
    rw [announced]
    dsimp only
    rw [stored_eq stored, undecoded]
    rfl

end Acceptance

end XpensGo
