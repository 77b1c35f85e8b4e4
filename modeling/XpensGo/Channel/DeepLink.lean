import XpensGo.Channel.LinkChallengeCrypto
import XpensGo.EcmaScript.Url

/-!
# Deep links of the Telegram bot

A deep link carries the purpose and the token of a challenge as the parameter
that Telegram puts after `/start`.  The message is parsed back to the same
purpose and the same token, as is the command that a user types.
-/

namespace XpensGo

open EcmaScript JsString

/-- `[A-Za-z]`. -/
def isLetterUnit (unit : CodeUnit) : Bool :=
  (0x41 ≤ unit && unit ≤ 0x5a) || (0x61 ≤ unit && unit ≤ 0x7a)

/-- `/^[A-Za-z][A-Za-z0-9_]{4,31}$/`. -/
def botUsernamePattern : RegExp :=
  .sequence (.repeated isLetterUnit 1 (some 1))
    (.repeated isNameUnit 4 (some 31))

/-- A user name of a bot, as the schema accepts it. -/
abbrev TelegramBotUsername :=
  { text : JsString // botUsernamePattern.test text = true }

/-- The name of the parameter that carries the token. -/
def startName : JsString :=
  ofString "start"

/-- The link that opens the bot with a command to link or to unlink. -/
def telegramChallengeDeepLink (botUsername : TelegramBotUsername)
    (purpose : ChallengeCommand) (token : ChannelLinkChallengeToken) :
    JsString :=
  let url := Url.parse (ofString "https://t.me/" ++ botUsername.val)
  (url.setSearchParam startName
    (purpose.name ++ (ofString "_" ++ token.val))).toString

/-- What Telegram delivers after `/start` when an address is opened. -/
def startParameter (address : JsString) : Option JsString :=
  (Url.parse address).searchParams.get startName

/-- The command of a purpose with its token. -/
def ChallengeCommand.content :
    ChallengeCommand → ChannelLinkChallengeToken → VerifiedTelegramContent
  | .link => .linkCommand
  | .unlink => .unlinkCommand

section Tokens

variable {unit : CodeUnit} {purpose purpose' : ChallengeCommand}
  {token token' : ChannelLinkChallengeToken}

theorem ChannelLinkChallengeToken.length_eq
    (token : ChannelLinkChallengeToken) : token.val.length = 43 := by
  have valid := token.property
  rw [isChallengeToken, Bool.and_eq_true, beq_iff_eq] at valid
  exact valid.1

theorem ChannelLinkChallengeToken.all_isTokenUnit
    (token : ChannelLinkChallengeToken) :
    token.val.all isTokenUnit = true := by
  have valid := token.property
  rw [isChallengeToken, Bool.and_eq_true, RegExp.test_iff] at valid
  obtain ⟨captures, matched⟩ := valid.2
  exact (RegExp.matches_repeated.mp matched).1

private theorem ChannelLinkChallengeToken.ne_nil
    (token : ChannelLinkChallengeToken) : token.val ≠ [] := by
  apply List.length_pos_iff.mp
  rw [token.length_eq]
  decide

private theorem isNonSpace_of_isTokenUnit (member : isTokenUnit unit = true) :
    isNonSpace unit = true := by
  rcases Bool.or_eq_true_iff.mp member with name | dash
  · exact isNonSpace_of_isNameUnit name
  · rw [beq_iff_eq] at dash
    subst dash
    rfl

private theorem ChannelLinkChallengeToken.solid
    (token : ChannelLinkChallengeToken) :
    token.val.all isNonSpace = true := by
  rw [List.all_eq_true]
  intro unit member
  apply isNonSpace_of_isTokenUnit
  exact List.all_eq_true.mp token.all_isTokenUnit unit member

private theorem commandContent_token :
    commandContent purpose token.val = purpose.content token := by
  rw [commandContent, dif_pos token.property]
  cases purpose <;> rfl

private theorem content_injective
    (same : purpose.content token = purpose'.content token') :
    purpose = purpose' ∧ token = token' := by
  cases purpose with
  | link =>
      cases purpose' with
      | link => exact ⟨rfl, VerifiedTelegramContent.linkCommand.inj same⟩
      | unlink => cases same
  | unlink =>
      cases purpose' with
      | link => cases same
      | unlink => exact ⟨rfl, VerifiedTelegramContent.unlinkCommand.inj same⟩

end Tokens

section Links

variable {unit : CodeUnit} {name : JsString}

private theorem isNameUnit_of_isLetterUnit (letter : isLetterUnit unit = true) :
    isNameUnit unit = true := by
  simp only [isLetterUnit, isNameUnit] at letter ⊢
  rw [letter]
  rfl

theorem TelegramBotUsername.botSuffix (botUsername : TelegramBotUsername) :
    BotSuffix (ofString "@" ++ botUsername.val) := by
  obtain ⟨captures, matched⟩ := RegExp.test_iff.mp botUsername.property
  obtain ⟨letter, others, _, _, begins, follows, split, rfl⟩ :=
    RegExp.matches_sequence.mp matched
  obtain ⟨letters, one, most, _⟩ := RegExp.matches_repeated.mp begins
  obtain ⟨names, least, bounded, _⟩ := RegExp.matches_repeated.mp follows
  simp only [Option.all_some, decide_eq_true_eq] at most bounded
  rw [split]
  apply BotSuffix.named
  · rw [List.length_append]
    omega
  · rw [List.length_append]
    omega
  · rw [List.all_append, names, Bool.and_true, List.all_eq_true]
    intro unit member
    exact isNameUnit_of_isLetterUnit (List.all_eq_true.mp letters unit member)

private theorem isKept_of_isTokenUnit (member : isTokenUnit unit = true) :
    SearchParams.isKept unit.toNat = true := by
  simp only [isTokenUnit, isNameUnit, SearchParams.isKept, Bool.or_eq_true,
    Bool.and_eq_true, decide_eq_true_eq, beq_iff_eq, UInt16.le_iff_toNat_le,
    ← UInt16.toNat_inj, UInt16.reduceToNat] at member ⊢
  omega

private theorem isKeptText_capability (purpose : ChallengeCommand)
    (token : ChannelLinkChallengeToken) :
    SearchParams.isKeptText (capability purpose token.val) = true := by
  have kept : SearchParams.isKeptText token.val = true := by
    rw [SearchParams.isKeptText, List.all_eq_true]
    intro unit member
    apply isKept_of_isTokenUnit
    exact List.all_eq_true.mp token.all_isTokenUnit unit member
  rw [SearchParams.isKeptText] at kept ⊢
  rw [capability, List.all_append, List.all_append, kept]
  cases purpose <;> decide

private theorem ne_mark_of_isNameUnit (named : isNameUnit unit = true) :
    unit ≠ 0x23 ∧ unit ≠ 0x3f := by
  simp only [isNameUnit, Bool.or_eq_true, Bool.and_eq_true, decide_eq_true_eq,
    beq_iff_eq, UInt16.le_iff_toNat_le, ne_eq, ← UInt16.toNat_inj,
    UInt16.reduceToNat] at named ⊢
  omega

private theorem isLocation_of_name (units : name.all isNameUnit = true) :
    Url.IsLocation (ofString "https://t.me/" ++ name) := by
  have host : (ofString "https://t.me/").all
      (fun unit => unit != 0x23 && unit != 0x3f) = true := by
    rfl
  intro unit member
  rcases List.mem_append.mp member with before | path
  · simpa using List.all_eq_true.mp host unit before
  · exact ne_mark_of_isNameUnit (List.all_eq_true.mp units unit path)

/-- A deep link carries the capability of its purpose. -/
theorem startParameter_telegramChallengeDeepLink
    (botUsername : TelegramBotUsername) (purpose : ChallengeCommand)
    (token : ChannelLinkChallengeToken) :
    startParameter (telegramChallengeDeepLink botUsername purpose token) =
      some (capability purpose token.val) := by
  have location : Url.IsLocation
      (ofString "https://t.me/" ++ botUsername.val) := by
    cases botUsername.botSuffix with
    | named _ _ units => exact isLocation_of_name units
  exact Url.get_setSearchParam_of_kept location (by decide)
    (isKeptText_capability purpose token)

end Links

section Messages

variable {suffix gap trail text : JsString}
  {purpose purpose' : ChallengeCommand}
  {token token' : ChannelLinkChallengeToken}

theorem parseTelegramContent_start (bot : BotSuffix suffix) (apart : gap ≠ [])
    (blank : gap.all isWhiteSpace = true)
    (trailing : trail.all isWhiteSpace = true) :
    parseTelegramContent (startWord suffix ++
        (gap ++ (capability purpose token.val ++ trail))) =
      purpose.content token := by
  obtain ⟨atOnce, first, second, after⟩ := words_of_two startWord_ne_nil
    (startWord_solid bot) apart blank (@capability_ne_nil purpose token.val)
    (capability_all_isNonSpace.trans token.solid) (endsWord_of_all trailing)
  rw [← commandContent_token]
  apply parseTelegramContent_of_standsAlone (.start bot first second)
  refine ⟨atOnce, ?_, fun _ => token.ne_nil⟩
  rw [after]
  exact trailing

theorem parseTelegramContent_direct (bot : BotSuffix suffix) (apart : gap ≠ [])
    (blank : gap.all isWhiteSpace = true)
    (trailing : trail.all isWhiteSpace = true) :
    parseTelegramContent (commandWord purpose suffix ++
        (gap ++ (token.val ++ trail))) =
      purpose.content token := by
  obtain ⟨atOnce, first, second, after⟩ := words_of_two commandWord_ne_nil
    (@commandWord_solid suffix purpose bot) apart blank token.ne_nil token.solid
    (endsWord_of_all trailing)
  have presents := PresentsToken.direct bot first
  rw [second] at presents
  rw [← commandContent_token]
  apply parseTelegramContent_of_standsAlone presents
  refine ⟨atOnce, ?_, fun _ => token.ne_nil⟩
  rw [after]
  exact trailing

private theorem eq_of_commandContent {candidate : JsString}
    (same : commandContent purpose candidate = purpose'.content token') :
    purpose = purpose' ∧ candidate = token'.val := by
  by_cases valid : isChallengeToken candidate = true
  · have content := @commandContent_token purpose ⟨candidate, valid⟩
    obtain ⟨sameCommand, sameToken⟩ :=
      content_injective (content.symm.trans same)
    exact ⟨sameCommand, congrArg Subtype.val sameToken⟩
  · rw [commandContent, dif_neg valid] at same
    cases purpose' <;> cases same

private theorem capability_ne_token :
    capability purpose token.val ≠ token'.val := by
  intro same
  have length := congrArg List.length same
  rw [capability, List.length_append, List.length_append, token.length_eq,
    token'.length_eq] at length
  have separator : (ofString "_").length = 1 := rfl
  omega

theorem content_of_capability
    (second : secondWord text = capability purpose token.val)
    (parsed : parseTelegramContent text = purpose'.content token') :
    purpose' = purpose ∧ token' = token := by
  have recognized : parseTelegramContent text ≠ .text text := by
    rw [parsed]
    cases purpose' <;> exact VerifiedTelegramContent.noConfusion
  obtain ⟨command, candidate, presents, content⟩ :=
    exists_presentsToken recognized
  obtain ⟨sameCommand, sameToken⟩ :=
    eq_of_commandContent (content.symm.trans parsed)
  subst sameCommand
  cases presents with
  | direct =>
      exact (capability_ne_token (second.symm.trans sameToken)).elim
  | start _ _ presented =>
      obtain ⟨purposes, tokens⟩ :=
        capability_injective (presented.symm.trans second)
      exact ⟨purposes, Subtype.ext (sameToken.symm.trans tokens)⟩

/-- Random bytes, deep links and commands round trip: every 32 bytes give a
token of their own, and a token comes back, with its purpose, from the parameter
of its deep link and from its command, and from no other message with the
parameter. -/
theorem challenge_round_trip :
    (∀ bytes : Vector UInt8 32, ∃ token,
      generateToken (some bytes) = .ok token ∧
        token.val = encodeBase64Url bytes.toList ∧
        isChallengeToken (encodeBase64Url bytes.toList) = true) ∧
      (∀ bytes bytes' : Vector UInt8 32, bytes ≠ bytes' →
        encodeBase64Url bytes.toList ≠ encodeBase64Url bytes'.toList) ∧
      (∀ (botUsername : TelegramBotUsername) (purpose : ChallengeCommand)
        (token : ChannelLinkChallengeToken), ∃ parameter,
        startParameter (telegramChallengeDeepLink botUsername purpose token) =
            some parameter ∧
          BotSuffix (ofString "@" ++ botUsername.val) ∧
          ∀ suffix gap trail, BotSuffix suffix → gap ≠ [] →
            gap.all isWhiteSpace = true → trail.all isWhiteSpace = true →
            parseTelegramContent (startWord suffix ++
                (gap ++ (parameter ++ trail))) = purpose.content token ∧
              parseTelegramContent (commandWord purpose suffix ++
                (gap ++ (token.val ++ trail))) = purpose.content token) ∧
      (∀ (text : JsString) (purpose purpose' : ChallengeCommand)
        (token token' : ChannelLinkChallengeToken),
        secondWord text = capability purpose token.val →
          parseTelegramContent text = purpose'.content token' →
          purpose' = purpose ∧ token' = token) := by
  refine ⟨?_, ?_, ?_, ?_⟩
  · intro bytes
    exact ⟨_, generateToken_eq_ok bytes, rfl,
      isChallengeToken_encodeBase64Url bytes.length_toList⟩
  · intro bytes bytes' different same
    exact different (Vector.toList_inj.mp (encodeBase64Url_injective same))
  · intro botUsername purpose token
    refine ⟨_, startParameter_telegramChallengeDeepLink botUsername purpose
      token, botUsername.botSuffix, ?_⟩
    intro suffix gap trail bot apart blank trailing
    exact ⟨parseTelegramContent_start bot apart blank trailing,
      parseTelegramContent_direct bot apart blank trailing⟩
  · intro text purpose purpose' token token' second parsed
    exact content_of_capability second parsed

def sampleBot : TelegramBotUsername :=
  ⟨ofString "XpensGoBot", by decide +kernel⟩

/-- The parameter of an unlink challenge, with a mention and a line break, and
without them. -/
theorem challenge_round_trip_sample :
    encodeBase64Url (Vector.replicate 32 0).toList ≠
        encodeBase64Url (Vector.replicate 32 1).toList ∧
      ∃ parameter,
        startParameter (telegramChallengeDeepLink sampleBot .unlink
            ⟨sampleToken, sampleToken_valid⟩) = some parameter ∧
          parseTelegramContent (startWord (ofString "@XpensGoBot") ++
              (ofString " " ++ (parameter ++ ofString "\n"))) =
            .unlinkCommand ⟨sampleToken, sampleToken_valid⟩ ∧
          ∀ token, parseTelegramContent (startWord [] ++
            (ofString " " ++ capability .unlink sampleToken)) ≠
              .linkCommand token := by
  obtain ⟨_, distinct, linked, unmixed⟩ := challenge_round_trip
  obtain ⟨parameter, found, mention, delivered⟩ :=
    linked sampleBot .unlink ⟨sampleToken, sampleToken_valid⟩
  have parsed := (delivered (ofString "@XpensGoBot") (ofString " ")
    (ofString "\n") mention (by decide) (by decide) (by decide)).1
  refine ⟨distinct _ _ (by decide), parameter, found, parsed, ?_⟩
  intro token mixed
  have same := unmixed _ .unlink .link ⟨sampleToken, sampleToken_valid⟩ token
    (by decide) mixed
  cases same.1

end Messages

end XpensGo
