import XpensGo.Channel.LinkChallengeCrypto
import XpensGo.EcmaScript.TextCodec

/-!
# The Telegram webhook

`verifyAndDecodeTelegramWebhook` authenticates a request, reads its bounded body
and decodes the private-text subset of an update.  An identifier is decoded from
its number; the instant of a message is not decoded again.
-/

namespace XpensGo

open EcmaScript JsString Schema

/-- What the runtime computes: the functions on bytes, and `JSON.parse`. -/
structure WebhookPlatform extends WebCrypto where
  parseJson : JsString → Option JsValue

/-- The configured secret, and the longest body. -/
structure TelegramWebhookConfig where
  webhookSecret : JsString
  maximumBodyBytes : Nat

/-- The header of the secret, `content-length`, and the chunks that the body
stream yields; a missing chunk is a stream that fails. -/
structure TelegramWebhookRequest where
  secretToken : Option JsString
  contentLength : Option JsString
  body : Option (List (Option Bytes))

/-- What has failed when the webhook is unavailable. -/
inductive TelegramWebhookOperation where
  | verifySecret
  | readBody
  deriving DecidableEq, Repr

/-- Why an update is none that the bot answers. -/
inductive TelegramWebhookUnsupportedReason where
  | groupChat
  | missingSender
  | botSender
  | nonText
  | updateType
  deriving DecidableEq, Repr

/-- Why a request is refused. -/
inductive TelegramWebhookError where
  | bodyTooLarge
  | malformed
  | unauthorized
  | unavailable (operation : TelegramWebhookOperation)
  | unsupported (reason : TelegramWebhookUnsupportedReason)
  deriving DecidableEq, Repr

section ProviderSchema

/-- `Schema.Int`. -/
abbrev AnyInteger := SafeInteger (-maxSafeInteger)

/-- The chat of a message, as the provider sends it. -/
structure TelegramProviderChat where
  id : AnyInteger
  type : JsString

/-- The property `from`. -/
structure TelegramProviderSender where
  id : SafeInteger 1
  isBot : Bool

/-- A message, as the provider sends it. -/
structure TelegramProviderMessage where
  messageId : SafeInteger 1
  date : SafeInteger 0
  chat : TelegramProviderChat
  sender : Option TelegramProviderSender
  text : Option JsString

/-- An update, as the provider sends it. -/
structure TelegramProviderUpdate where
  updateId : SafeInteger 0
  message : Option TelegramProviderMessage

def TelegramProviderChat.decode : Decoder TelegramProviderChat :=
  fun value => do
    let fields ← struct value
    let id ← required (ofString "id") (integer (-maxSafeInteger)) fields
    let type ← required (ofString "type") (Schema.string (fun _ => true)) fields
    pure { id := id, type := type }

def TelegramProviderSender.decode : Decoder TelegramProviderSender :=
  fun value => do
    let fields ← struct value
    let id ← required (ofString "id") (integer 1) fields
    let isBot ← required (ofString "is_bot") boolean fields
    pure { id := id, isBot := isBot }

def TelegramProviderMessage.decode : Decoder TelegramProviderMessage :=
  fun value => do
    let fields ← struct value
    let messageId ← required (ofString "message_id") (integer 1) fields
    let date ← required (ofString "date") (integer 0) fields
    let chat ← required (ofString "chat") TelegramProviderChat.decode fields
    let sender ← Schema.optional (ofString "from")
      TelegramProviderSender.decode fields
    let text ← Schema.optional (ofString "text")
      (Schema.string (fun _ => true)) fields
    pure
      { messageId := messageId
        date := date
        chat := chat
        sender := sender
        text := text }

def TelegramProviderUpdate.decode : Decoder TelegramProviderUpdate :=
  fun value => do
    let fields ← struct value
    let updateId ← required (ofString "update_id") (integer 0) fields
    let message ← Schema.optional (ofString "message")
      TelegramProviderMessage.decode fields
    pure { updateId := updateId, message := message }

end ProviderSchema

section Request

variable (platform : WebhookPlatform)

/-- Equality of the two digests; `none` when a digest is not available. -/
def timingSafeSecretMatch (provided expected : JsString) : Option Bool := do
  let providedDigest ← platform.digest (platform.encodeText provided)
  let expectedDigest ← platform.digest (platform.encodeText expected)
  pure (providedDigest == expectedDigest)

/-- The text of a body, or why there is none. -/
inductive BoundedBody where
  | body (value : JsString)
  | malformed
  | tooLarge

/-- The variables of the loop over a stream: the chunks it keeps and the bytes
it has counted. -/
structure BodyBuffer where
  chunks : List Bytes := []
  totalBytes : Nat := 0

/-- Why the loop over a stream has ended. -/
inductive StreamEnding where
  | done
  | exceeded
  | failed
  deriving DecidableEq, Repr

/-- Where the loop over a stream ends, and what it leaves unread. -/
structure StreamReading where
  buffer : BodyBuffer
  ending : StreamEnding
  unread : List (Option Bytes)

/-- The loop over a stream; it stops at the chunk that exceeds the maximum. -/
def readStream (maximumBodyBytes : Nat) :
    BodyBuffer → List (Option Bytes) → StreamReading
  | buffer, [] =>
      { buffer := buffer
        ending := .done
        unread := [] }
  | buffer, none :: stream =>
      { buffer := buffer
        ending := .failed
        unread := stream }
  | buffer, some chunk :: stream =>
      let totalBytes := buffer.totalBytes + chunk.length
      if maximumBodyBytes < totalBytes then
        -- `reader.cancel()`
        { buffer := { buffer with totalBytes := totalBytes }
          ending := .exceeded
          unread := stream }
      else
        readStream maximumBodyBytes
          { chunks := buffer.chunks ++ [chunk]
            totalBytes := totalBytes } stream

/-- `body.set(chunk, offset)`; `none` when the chunk does not fit. -/
def setBytes (body chunk : Bytes) (offset : Nat) : Option Bytes :=
  if offset + chunk.length ≤ body.length then
    some (body.take offset ++ chunk ++ body.drop (offset + chunk.length))
  else
    none

/-- The loop that writes the chunks behind one another. -/
def assembleBody : Bytes → Nat → List Bytes → Option Bytes
  | body, _, [] => some body
  | body, offset, chunk :: chunks => do
      let body ← setBytes body chunk offset
      assembleBody body (offset + chunk.length) chunks

/-- The text that the bytes of a body encode. -/
def decodeBody (body : Bytes) : BoundedBody :=
  match Utf8.decodeFatal body with
  | some value => .body value
  | none => .malformed

/-- A declared length over the maximum is refused unread. -/
def declaredTooLarge (maximumBodyBytes : Nat) : Option JsString → Bool
  | none => false
  | some declaredLength =>
      match parseInt declaredLength with
      | .finite parsedLength => (maximumBodyBytes : Rat) < parsedLength
      | .nan | .infinite _ => false

/-- `none` when the stream fails. -/
def readBoundedBody (request : TelegramWebhookRequest)
    (maximumBodyBytes : Nat) : Option BoundedBody :=
  if declaredTooLarge maximumBodyBytes request.contentLength then
    some .tooLarge
  else
    match request.body with
    | none => some (.body [])
    | some stream =>
        let reading := readStream maximumBodyBytes {} stream
        match reading.ending with
        | .failed => none
        | .exceeded => some .tooLarge
        | .done => do
            let body ← assembleBody
              (List.replicate reading.buffer.totalBytes 0) 0
              reading.buffer.chunks
            pure (decodeBody body)

/-- The provider update in the body of an authenticated request. -/
def receivedUpdate (request : TelegramWebhookRequest)
    (config : TelegramWebhookConfig) :
    Except TelegramWebhookError TelegramProviderUpdate :=
  match timingSafeSecretMatch platform (request.secretToken.getD [])
    config.webhookSecret with
  | none => .error (.unavailable .verifySecret)
  | some false => .error .unauthorized
  | some true =>
      match readBoundedBody request config.maximumBodyBytes with
      | none => .error (.unavailable .readBody)
      | some .tooLarge => .error .bodyTooLarge
      | some .malformed => .error .malformed
      | some (.body value) =>
          match (platform.parseJson value).bind
            TelegramProviderUpdate.decode with
          | none => .error .malformed
          | some update => .ok update

end Request

section Verification

/-- `String(value)`. -/
def numberText (value : Int) : JsString :=
  ofString (toString value)

/-- The branded parts of a private text message. -/
def verifiedUpdate (updateId : SafeInteger 0)
    (message : TelegramProviderMessage) (sender : TelegramProviderSender)
    (messageText : JsString) : Option VerifiedTelegramUpdate := do
  let updateId ← TelegramUpdateId.decode (.string (numberText updateId.val))
  let externalAccountId ← TelegramExternalAccountId.decode
    (.string (numberText sender.id.val))
  let externalConversationId ← TelegramConversationId.decode
    (.string (numberText message.chat.id.val))
  let externalMessageId ← TelegramMessageId.decode
    (.string (numberText message.messageId.val))
  let text ← Schema.string isTelegramMessageText (.string messageText)
  pure
    { updateId := updateId
      externalAccountId := externalAccountId
      externalConversationId := externalConversationId
      externalMessageId := externalMessageId
      occurredAtMillis := roundNat (message.date.val.toNat * 1000)
      content := parseTelegramContent text }

/-- The private-text subset of the updates. -/
def verifyUpdate (update : TelegramProviderUpdate) :
    Except TelegramWebhookError VerifiedTelegramUpdate :=
  match update.message with
  | none => .error (.unsupported .updateType)
  | some message =>
      if message.chat.type ≠ ofString "private" then
        .error (.unsupported .groupChat)
      else
        match message.sender with
        | none => .error (.unsupported .missingSender)
        | some sender =>
            if sender.isBot then
              .error (.unsupported .botSender)
            else
              match message.text with
              | none => .error (.unsupported .nonText)
              | some messageText =>
                  match verifiedUpdate update.updateId message sender
                    messageText with
                  | none => .error .malformed
                  | some verified => .ok verified

/-- The update of a request that passes all checks. -/
def verifyAndDecodeTelegramWebhook (platform : WebhookPlatform)
    (request : TelegramWebhookRequest) (config : TelegramWebhookConfig) :
    Except TelegramWebhookError VerifiedTelegramUpdate := do
  let update ← receivedUpdate platform request config
  verifyUpdate update

end Verification

end XpensGo
