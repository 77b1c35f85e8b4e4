import XpensGo.Channel.TelegramContent
import XpensGo.EcmaScript.Schema

/-!
# The persisted Telegram event

The branded identifiers of a Telegram event, and the event as the JSON value
that is stored and as the schema `PersistedTelegramEventV1` that reads it.
-/

namespace XpensGo

open EcmaScript JsString Schema

section Identifiers

/-- A decimal digit. -/
def isDigitUnit (unit : CodeUnit) : Bool :=
  0x30 ≤ unit && unit ≤ 0x39

/-- A decimal digit but zero. -/
def isNonzeroDigitUnit (unit : CodeUnit) : Bool :=
  0x31 ≤ unit && unit ≤ 0x39

/-- A hexadecimal digit in lower case. -/
def isHexUnit (unit : CodeUnit) : Bool :=
  isDigitUnit unit || (0x61 ≤ unit && unit ≤ 0x66)

/-- `^[0-9]{1,20}$`. -/
def updateIdPattern : RegExp :=
  .repeated isDigitUnit 1 (some 20)

/-- `^[1-9][0-9]{0,19}$`. -/
def positiveIdPattern : RegExp :=
  .sequence (.repeated isNonzeroDigitUnit 1 (some 1))
    (.repeated isDigitUnit 0 (some 19))

/-- `^-?[1-9][0-9]{0,19}$`. -/
def conversationIdPattern : RegExp :=
  .sequence (.optional (.literal (ofString "-"))) positiveIdPattern

/-- `^[0-9a-f]+$`. -/
def hexPattern : RegExp :=
  .repeated isHexUnit 1 none

/-- A string of ASCII characters under a brand. -/
def branded {α : Type} (make : String → α) (accepts : JsString → Bool) :
    Decoder α :=
  fun value => (Schema.string accepts value).map (fun text => make text.toText)

def TelegramUpdateId.decode : Decoder TelegramUpdateId :=
  branded .mk updateIdPattern.test

def TelegramExternalAccountId.decode : Decoder TelegramExternalAccountId :=
  branded .mk positiveIdPattern.test

def TelegramConversationId.decode : Decoder TelegramConversationId :=
  branded .mk conversationIdPattern.test

def TelegramMessageId.decode : Decoder TelegramMessageId :=
  branded .mk positiveIdPattern.test

/-- Sixty-four hexadecimal digits. -/
def ChannelLinkChallengeDigest.decode : Decoder ChannelLinkChallengeDigest :=
  branded .mk (fun text => text.length == 64 && hexPattern.test text)

/-- `TelegramMessageText`. -/
def isTelegramMessageText (text : JsString) : Bool :=
  1 ≤ text.length && text.length ≤ 4096

end Identifiers

section Json

/-- The name of a command. -/
def ChallengeCommand.decode : Decoder ChallengeCommand := fun value =>
  (literal [ChallengeCommand.link.name, ChallengeCommand.unlink.name] value).map
    (fun name => if name = ChallengeCommand.link.name then .link else .unlink)

/-- `Schema.TaggedStruct`. -/
def tagged (tag : JsString) : Decoder (List (JsString × JsValue)) :=
  fun value => do
    let fields ← struct value
    let _ ← required (ofString "_tag") (literal [tag]) fields
    pure fields

namespace PersistedTelegramContent

/-- The JSON value of a content, or of an event. -/
def toJson : PersistedTelegramContent → JsValue
  | .text messageText =>
      .object [(ofString "_tag", .string (ofString "Text")),
        (ofString "text", .string messageText)]
  | .linkCommand challengeDigest =>
      .object [(ofString "_tag", .string (ofString "LinkCommand")),
        (ofString "challengeDigest", .string (ofString challengeDigest.hex))]
  | .unlinkCommand challengeDigest =>
      .object [(ofString "_tag", .string (ofString "UnlinkCommand")),
        (ofString "challengeDigest", .string (ofString challengeDigest.hex))]
  | .invalidCommand command =>
      .object [(ofString "_tag", .string (ofString "InvalidCommand")),
        (ofString "command", .string command.name)]

/-- The fields of a text. -/
def decodeText (value : JsValue) : Option PersistedTelegramContent := do
  let fields ← tagged (ofString "Text") value
  let messageText ← required (ofString "text")
    (Schema.string isTelegramMessageText) fields
  pure (.text messageText)

/-- The two commands that carry a digest. -/
def decodeCommand (tag : JsString)
    (make : ChannelLinkChallengeDigest → PersistedTelegramContent)
    (value : JsValue) : Option PersistedTelegramContent := do
  let fields ← tagged tag value
  let challengeDigest ← required (ofString "challengeDigest")
    ChannelLinkChallengeDigest.decode fields
  pure (make challengeDigest)

def decodeInvalidCommand (value : JsValue) :
    Option PersistedTelegramContent := do
  let fields ← tagged (ofString "InvalidCommand") value
  let command ← required (ofString "command") ChallengeCommand.decode fields
  pure (.invalidCommand command)

/-- The first member of the union that accepts a value. -/
def decode : Decoder PersistedTelegramContent := fun value =>
  (((decodeText value).or
      (decodeCommand (ofString "LinkCommand") .linkCommand value)).or
    (decodeCommand (ofString "UnlinkCommand") .unlinkCommand value)).or
      (decodeInvalidCommand value)

end PersistedTelegramContent

namespace PersistedTelegramEventV1

/-- The event that `acceptTelegramEvent` builds, as it is stored. -/
def toJson (event : PersistedTelegramEventV1) : JsValue :=
  .object [(ofString "version", .number 1),
    (ofString "updateId", .string (ofString event.updateId.digits)),
    (ofString "externalAccountId",
      .string (ofString event.externalAccountId.digits)),
    (ofString "externalConversationId",
      .string (ofString event.externalConversationId.digits)),
    (ofString "externalMessageId",
      .string (ofString event.externalMessageId.digits)),
    (ofString "occurredAtMillis", .number event.occurredAtMillis),
    (ofString "content", event.content.toJson)]

def decode : Decoder PersistedTelegramEventV1 := fun value => do
  let fields ← struct value
  let _ ← required (ofString "version") (literalNumber 1) fields
  let updateId ← required (ofString "updateId") TelegramUpdateId.decode fields
  let externalAccountId ← required (ofString "externalAccountId")
    TelegramExternalAccountId.decode fields
  let externalConversationId ← required (ofString "externalConversationId")
    TelegramConversationId.decode fields
  let externalMessageId ← required (ofString "externalMessageId")
    TelegramMessageId.decode fields
  let occurredAtMillis ← required (ofString "occurredAtMillis") (integer 0)
    fields
  let content ← required (ofString "content") PersistedTelegramContent.decode
    fields
  pure
    { updateId := updateId
      externalAccountId := externalAccountId
      externalConversationId := externalConversationId
      externalMessageId := externalMessageId
      occurredAtMillis := occurredAtMillis.val.toNat
      content := content }

end PersistedTelegramEventV1

end Json

section RoundTrips

private theorem ascii_of_test {pattern : RegExp} {text : JsString}
    (within : pattern.Within (· < 0x80)) (accepted : pattern.test text = true) :
    ofString text.toText = text :=
  ofString_toText (RegExp.all_units_of_test within accepted)

private theorem branded_again {α : Type} {make : String → α}
    {digits : α → String} {accepts : JsString → Bool} {value : JsValue}
    {identifier : α} (digits_make : ∀ text, digits (make text) = text)
    (ascii : ∀ text, accepts text = true → ofString text.toText = text)
    (decoded : branded make accepts value = some identifier) :
    branded make accepts (.string (ofString (digits identifier))) =
      some identifier := by
  obtain ⟨text, read, rfl⟩ := Option.map_eq_some_iff.mp decoded
  obtain ⟨rfl, accepted⟩ := string_eq_some_iff.mp read
  rw [digits_make, ascii text accepted]
  exact decoded

private theorem isDigitUnit_ascii (unit : CodeUnit)
    (digit : isDigitUnit unit = true) : decide (unit < 0x80) = true := by
  simp only [isDigitUnit, Bool.and_eq_true, decide_eq_true_eq,
    UInt16.le_iff_toNat_le] at digit ⊢
  simp [UInt16.lt_iff_toNat_lt] at digit ⊢
  omega

private theorem isNonzeroDigitUnit_ascii (unit : CodeUnit)
    (digit : isNonzeroDigitUnit unit = true) :
    decide (unit < 0x80) = true := by
  simp only [isNonzeroDigitUnit, Bool.and_eq_true, decide_eq_true_eq,
    UInt16.le_iff_toNat_le] at digit ⊢
  simp [UInt16.lt_iff_toNat_lt] at digit ⊢
  omega

private theorem isHexUnit_ascii (unit : CodeUnit)
    (hex : isHexUnit unit = true) : decide (unit < 0x80) = true := by
  rcases Bool.or_eq_true_iff.mp hex with digit | letter
  · exact isDigitUnit_ascii unit digit
  · simp only [Bool.and_eq_true, decide_eq_true_eq,
      UInt16.le_iff_toNat_le] at letter ⊢
    simp [UInt16.lt_iff_toNat_lt] at letter ⊢
    omega

variable {value : JsValue}

theorem TelegramUpdateId.decode_again {updateId : TelegramUpdateId}
    (decoded : TelegramUpdateId.decode value = some updateId) :
    TelegramUpdateId.decode (.string (ofString updateId.digits)) =
      some updateId :=
  branded_again (fun _ => rfl) (fun _ => ascii_of_test isDigitUnit_ascii)
    decoded

private theorem positiveIdPattern_ascii :
    positiveIdPattern.Within (· < 0x80) :=
  ⟨isNonzeroDigitUnit_ascii, isDigitUnit_ascii⟩

theorem TelegramExternalAccountId.decode_again
    {externalAccountId : TelegramExternalAccountId}
    (decoded : TelegramExternalAccountId.decode value =
      some externalAccountId) :
    TelegramExternalAccountId.decode
        (.string (ofString externalAccountId.digits)) =
      some externalAccountId :=
  branded_again (fun _ => rfl) (fun _ => ascii_of_test positiveIdPattern_ascii)
    decoded

theorem TelegramMessageId.decode_again
    {externalMessageId : TelegramMessageId}
    (decoded : TelegramMessageId.decode value = some externalMessageId) :
    TelegramMessageId.decode (.string (ofString externalMessageId.digits)) =
      some externalMessageId :=
  branded_again (fun _ => rfl) (fun _ => ascii_of_test positiveIdPattern_ascii)
    decoded

theorem TelegramConversationId.decode_again
    {externalConversationId : TelegramConversationId}
    (decoded : TelegramConversationId.decode value =
      some externalConversationId) :
    TelegramConversationId.decode
        (.string (ofString externalConversationId.digits)) =
      some externalConversationId := by
  refine branded_again (fun _ => rfl) (fun _ => ascii_of_test ?_) decoded
  exact ⟨rfl, positiveIdPattern_ascii⟩

theorem ChannelLinkChallengeDigest.decode_again
    {challengeDigest : ChannelLinkChallengeDigest}
    (decoded : ChannelLinkChallengeDigest.decode value =
      some challengeDigest) :
    ChannelLinkChallengeDigest.decode (.string (ofString challengeDigest.hex)) =
      some challengeDigest := by
  refine branded_again (fun _ => rfl) ?_ decoded
  intro text accepted
  rw [Bool.and_eq_true] at accepted
  have ascii : hexPattern.Within (· < 0x80) := isHexUnit_ascii
  exact ascii_of_test ascii accepted.2

namespace PersistedTelegramContent

private theorem tagged_self {tag : JsString}
    {fields : List (JsString × JsValue)} :
    tagged tag (.object ((ofString "_tag", .string tag) :: fields)) =
      some ((ofString "_tag", .string tag) :: fields) := by
  simp [tagged, struct, required_cons_self, literal, Schema.string]

private theorem tagged_of_ne {tag other : JsString}
    {fields : List (JsString × JsValue)} (different : other ≠ tag) :
    tagged tag (.object ((ofString "_tag", .string other) :: fields)) =
      none := by
  simp [tagged, struct, required_cons_self, literal, Schema.string, different]

theorem decode_text {messageText : JsString}
    (accepted : isTelegramMessageText messageText = true) :
    decode (toJson (.text messageText)) = some (.text messageText) := by
  simp (disch := decide) [decode, toJson, decodeText, tagged_self,
    required_cons_self, required_cons_of_ne, Schema.string, accepted]

theorem decode_linkCommand {challengeDigest : ChannelLinkChallengeDigest}
    (decoded : ChannelLinkChallengeDigest.decode
      (.string (ofString challengeDigest.hex)) = some challengeDigest) :
    decode (toJson (.linkCommand challengeDigest)) =
      some (.linkCommand challengeDigest) := by
  simp (disch := decide) [decode, toJson, decodeText, decodeCommand,
    tagged_self, tagged_of_ne, required_cons_self, required_cons_of_ne,
    decoded]

theorem decode_unlinkCommand {challengeDigest : ChannelLinkChallengeDigest}
    (decoded : ChannelLinkChallengeDigest.decode
      (.string (ofString challengeDigest.hex)) = some challengeDigest) :
    decode (toJson (.unlinkCommand challengeDigest)) =
      some (.unlinkCommand challengeDigest) := by
  simp (disch := decide) [decode, toJson, decodeText, decodeCommand,
    tagged_self, tagged_of_ne, required_cons_self, required_cons_of_ne,
    decoded]

private theorem command_decode_name (command : ChallengeCommand) :
    ChallengeCommand.decode (.string command.name) = some command := by
  cases command <;> decide

theorem decode_invalidCommand (command : ChallengeCommand) :
    decode (toJson (.invalidCommand command)) =
      some (.invalidCommand command) := by
  simp (disch := decide) [decode, toJson, decodeText, decodeCommand,
    decodeInvalidCommand, tagged_self, tagged_of_ne, required_cons_self,
    required_cons_of_ne, command_decode_name]

end PersistedTelegramContent

/-- The stored identifiers and the stored content satisfy their schemas. -/
structure PersistedTelegramEventV1.Branded (event : PersistedTelegramEventV1) :
    Prop where
  updateId : TelegramUpdateId.decode
    (.string (ofString event.updateId.digits)) = some event.updateId
  externalAccountId : TelegramExternalAccountId.decode
    (.string (ofString event.externalAccountId.digits)) =
      some event.externalAccountId
  externalConversationId : TelegramConversationId.decode
    (.string (ofString event.externalConversationId.digits)) =
      some event.externalConversationId
  externalMessageId : TelegramMessageId.decode
    (.string (ofString event.externalMessageId.digits)) =
      some event.externalMessageId
  content : PersistedTelegramContent.decode event.content.toJson =
    some event.content

namespace PersistedTelegramEventV1

variable {event : PersistedTelegramEventV1}

private theorem integer_natCast {millis : Nat} :
    (integer 0 (.number (millis : Rat))).map (fun value => value.val.toNat) =
      if millis ≤ maxSafeInteger then some millis else none := by
  split
  · rename_i safe
    have decoded : integer 0 (.number ((millis : Int) : Rat)) =
        some ⟨millis, by omega⟩ := integer_eq_some_iff.mpr rfl
    rw [Int.cast_natCast] at decoded
    rw [decoded]
    rfl
  · rename_i large
    cases decoded : integer 0 (.number (millis : Rat)) with
    | none => rfl
    | some number =>
        have same := integer_eq_some_iff.mp decoded
        have bounded := number.property.2.2
        simp only [JsValue.number.injEq] at same
        have whole : (millis : Int) = number.val := by exact_mod_cast same
        omega

/-- An event is read as it was stored if and only if its instant is safe. -/
theorem decode_toJson (stored : event.Branded) :
    decode event.toJson =
      if event.occurredAtMillis ≤ maxSafeInteger then some event else none := by
  have instant := @integer_natCast event.occurredAtMillis
  unfold decode toJson
  simp only [struct, Option.bind_eq_bind, Option.bind_some]
  simp (disch := decide) only [required_cons_self, required_cons_of_ne]
  rw [stored.updateId, stored.externalAccountId,
    stored.externalConversationId, stored.externalMessageId, stored.content]
  simp only [literalNumber, if_true, Option.bind_some]
  split at instant
  · rename_i safe
    rw [if_pos safe]
    obtain ⟨number, decoded, whole⟩ := Option.map_eq_some_iff.mp instant
    rw [decoded]
    simp [whole]
  · rename_i large
    rw [if_neg large]
    rw [Option.map_eq_none_iff.mp instant]
    rfl

end PersistedTelegramEventV1

end RoundTrips

end XpensGo
