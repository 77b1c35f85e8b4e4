import XpensGo.Channel.ProcessingStore
import XpensGo.EcmaScript.RegExp
import XpensGo.EcmaScript.WhiteSpace

/-!
# Commands in Telegram messages

`parseTelegramContent` recognizes the link and unlink commands of a message by
two regular expressions, and `acceptTelegramEvent` replaces the token of a
command by its digest before the event is stored.  A message that neither
expression matches is stored as it is.
-/

namespace XpensGo

open EcmaScript Postgres JsString

/-- `[A-Za-z0-9_]`. -/
def isNameUnit (unit : CodeUnit) : Bool :=
  (0x41 ≤ unit && unit ≤ 0x5a) || (0x61 ≤ unit && unit ≤ 0x7a) ||
    (0x30 ≤ unit && unit ≤ 0x39) || unit == 0x5f

/-- `[A-Za-z0-9_-]`. -/
def isTokenUnit (unit : CodeUnit) : Bool :=
  isNameUnit unit || unit == 0x2d

/-- The length and the pattern `/^[A-Za-z0-9_-]+$/` of
`ChannelLinkChallengeToken`. -/
def isChallengeToken (text : JsString) : Bool :=
  text.length == 43 && (RegExp.repeated isTokenUnit 1 none).test text

/-- A token of 43 characters, as the schema accepts it. -/
abbrev ChannelLinkChallengeToken :=
  { text : JsString // isChallengeToken text = true }

/-- The word that the command begins with. -/
def ChallengeCommand.name : ChallengeCommand → JsString
  | .link => ofString "link"
  | .unlink => ofString "unlink"

/-- Content of an authenticated update; a token is redacted, not removed. -/
inductive VerifiedTelegramContent where
  | text (text : JsString)
  | linkCommand (token : ChannelLinkChallengeToken)
  | unlinkCommand (token : ChannelLinkChallengeToken)
  | invalidCommand (command : ChallengeCommand)
  deriving DecidableEq

/-- A private text message of an authenticated update. -/
structure VerifiedTelegramUpdate where
  updateId : TelegramUpdateId
  externalAccountId : TelegramExternalAccountId
  externalConversationId : TelegramConversationId
  externalMessageId : TelegramMessageId
  occurredAtMillis : EpochMillis
  content : VerifiedTelegramContent

section Patterns

/-- `(?:@[A-Za-z0-9_]{5,32})?`. -/
def botPattern : RegExp :=
  .optional
    (.sequence (.literal (ofString "@")) (.repeated isNameUnit 5 (some 32)))

/-- `(link|unlink)`. -/
def commandPattern : RegExp :=
  .group 1 (.either (.literal ChallengeCommand.link.name)
    (.literal ChallengeCommand.unlink.name))

/-- `(\S+)`. -/
def candidatePattern : RegExp :=
  .group 2 (.repeated isNonSpace 1 none)

/-- `^\/(link|unlink)(?:@[A-Za-z0-9_]{5,32})?(?:\s+(\S+))?\s*$`. -/
def directCommand : RegExp :=
  .sequence (.literal (ofString "/"))
    (.sequence commandPattern
      (.sequence botPattern
        (.sequence
          (.optional
            (.sequence (.repeated isWhiteSpace 1 none) candidatePattern))
          (.repeated isWhiteSpace 0 none))))

/-- `^\/start(?:@[A-Za-z0-9_]{5,32})?\s+(link|unlink)_(\S+)\s*$`. -/
def startCommand : RegExp :=
  .sequence (.literal (ofString "/start"))
    (.sequence botPattern
      (.sequence (.repeated isWhiteSpace 1 none)
        (.sequence commandPattern
          (.sequence (.literal (ofString "_"))
            (.sequence candidatePattern (.repeated isWhiteSpace 0 none))))))

end Patterns

/-- The content of a recognized command with a candidate for its token. -/
def commandContent (command : ChallengeCommand) (tokenCandidate : JsString) :
    VerifiedTelegramContent :=
  if valid : isChallengeToken tokenCandidate = true then
    match command with
    | .link => .linkCommand ⟨tokenCandidate, valid⟩
    | .unlink => .unlinkCommand ⟨tokenCandidate, valid⟩
  else
    .invalidCommand command

/-- A text that neither form of a command matches is a plain text. -/
def parseTelegramContent (text : JsString) : VerifiedTelegramContent :=
  match (directCommand.exec text).or (startCommand.exec text) with
  | none => .text text
  | some commandMatch =>
      commandContent
        (if commandMatch.group 1 = some ChallengeCommand.link.name then .link
          else .unlink)
        ((commandMatch.group 2).getD [])

inductive LinkChallengeCryptoUnavailable where
  | generateToken
  | digestToken
  deriving DecidableEq, Repr

/-- The digest of a token, which the platform computes. -/
structure LinkChallengeCrypto where
  digestToken : ChannelLinkChallengeToken →
    Except LinkChallengeCryptoUnavailable ChannelLinkChallengeDigest

section Acceptance

variable (crypto : LinkChallengeCrypto)

/-- The content with the digest of its token in place of the token. -/
def minimizeContent :
    VerifiedTelegramContent →
      Except LinkChallengeCryptoUnavailable PersistedTelegramContent
  | .text text => .ok (.text text)
  | .invalidCommand command => .ok (.invalidCommand command)
  | .linkCommand token => do
      let challengeDigest ← crypto.digestToken token
      pure (.linkCommand challengeDigest)
  | .unlinkCommand token => do
      let challengeDigest ← crypto.digestToken token
      pure (.unlinkCommand challengeDigest)

/-- What `acceptTelegramEvent` hands to the ingress store. -/
def acceptTelegramEvent (correlationId : CorrelationId)
    (update : VerifiedTelegramUpdate) :
    Except LinkChallengeCryptoUnavailable PersistTelegramEventInput := do
  let content ← minimizeContent crypto update.content
  pure (persistTelegramEventInput correlationId
    { updateId := update.updateId
      externalAccountId := update.externalAccountId
      externalConversationId := update.externalConversationId
      externalMessageId := update.externalMessageId
      occurredAtMillis := update.occurredAtMillis
      content := content })

theorem exists_acceptTelegramEvent {crypto : LinkChallengeCrypto}
    {update : VerifiedTelegramUpdate} {content : PersistedTelegramContent}
    (correlationId : CorrelationId)
    (minimized : minimizeContent crypto update.content = .ok content) :
    ∃ input, acceptTelegramEvent crypto correlationId update = .ok input ∧
      input.event.content = content := by
  unfold acceptTelegramEvent
  rw [minimized]
  exact ⟨_, rfl, rfl⟩

end Acceptance

section Words

/-- A mention of a bot after a command, or nothing. -/
inductive BotSuffix : JsString → Prop where
  | none : BotSuffix []
  | named {name : JsString} :
      5 ≤ name.length →
      name.length ≤ 32 →
      name.all isNameUnit = true →
      BotSuffix (ofString "@" ++ name)

/-- `/link` or `/unlink`, with a mention. -/
def commandWord (command : ChallengeCommand) (suffix : JsString) : JsString :=
  ofString "/" ++ (command.name ++ suffix)

/-- `/start`, with a mention. -/
def startWord (suffix : JsString) : JsString :=
  ofString "/start" ++ suffix

/-- The parameter of a deep link. -/
def capability (command : ChallengeCommand) (token : JsString) : JsString :=
  command.name ++ (ofString "_" ++ token)

/-- The first word of a text. -/
def firstWord (text : JsString) : JsString :=
  (nextWord text).1

/-- The second word of a text. -/
def secondWord (text : JsString) : JsString :=
  (nextWord (nextWord text).2).1

/-- What follows the second word. -/
def afterSecondWord (text : JsString) : JsString :=
  (nextWord (nextWord text).2).2

/-- No white space precedes the first word. -/
def StartsAtOnce (text : JsString) : Prop :=
  text.takeWhile isWhiteSpace = []

instance (text : JsString) : Decidable (StartsAtOnce text) :=
  inferInstanceAs (Decidable (text.takeWhile isWhiteSpace = []))

/-- A message whose first words are a command that presents a token. -/
inductive PresentsToken (text : JsString) :
    ChallengeCommand → JsString → Prop where
  | direct {command : ChallengeCommand} {suffix : JsString} :
      BotSuffix suffix →
      firstWord text = commandWord command suffix →
      PresentsToken text command (secondWord text)
  | start {command : ChallengeCommand} {suffix token : JsString} :
      BotSuffix suffix →
      firstWord text = startWord suffix →
      secondWord text = capability command token →
      PresentsToken text command token

/-- The command is all that the message holds, and a deep link is not empty. -/
def StandsAlone (text token : JsString) : Prop :=
  StartsAtOnce text ∧ (afterSecondWord text).all isWhiteSpace = true ∧
    ((ofString "/start").isPrefixOf (firstWord text) = true → token ≠ [])

variable {text word gap token rest suffix : JsString}
  {command : ChallengeCommand} {captures : Captures}

private theorem head?_of_solid (nonempty : word ≠ [])
    (solid : word.all isNonSpace = true) :
    (word ++ rest).takeWhile isWhiteSpace = [] := by
  obtain ⟨first, others, rfl⟩ := List.exists_cons_of_ne_nil nonempty
  simp only [List.all_cons, Bool.and_eq_true, isNonSpace,
    Bool.not_eq_true'] at solid
  simp [solid.1]

private theorem words_of_one (nonempty : word ≠ [])
    (solid : word.all isNonSpace = true) (blank : rest.all isWhiteSpace = true) :
    StartsAtOnce (word ++ rest) ∧ firstWord (word ++ rest) = word ∧
      secondWord (word ++ rest) = [] ∧ afterSecondWord (word ++ rest) = [] := by
  have first : nextWord (word ++ rest) = (word, rest) :=
    @nextWord_eq [] word rest rfl nonempty solid (endsWord_of_all blank)
  have second := nextWord_of_blank blank
  refine ⟨head?_of_solid nonempty solid, ?_, ?_, ?_⟩
  · simp only [firstWord, first]
  · simp only [secondWord, first, second]
  · simp only [afterSecondWord, first, second]

/-- Two words with white space between them. -/
theorem words_of_two (nonempty : word ≠ [])
    (solid : word.all isNonSpace = true) (apart : gap ≠ [])
    (blank : gap.all isWhiteSpace = true) (present : token ≠ [])
    (unbroken : token.all isNonSpace = true) (ends : EndsWord rest) :
    StartsAtOnce (word ++ (gap ++ (token ++ rest))) ∧
      firstWord (word ++ (gap ++ (token ++ rest))) = word ∧
      secondWord (word ++ (gap ++ (token ++ rest))) = token ∧
      afterSecondWord (word ++ (gap ++ (token ++ rest))) = rest := by
  have first : nextWord (word ++ (gap ++ (token ++ rest))) =
      (word, gap ++ (token ++ rest)) :=
    @nextWord_eq [] word _ rfl nonempty solid (EndsWord.append apart blank)
  have second := nextWord_eq blank present unbroken ends
  refine ⟨head?_of_solid nonempty solid, ?_, ?_, ?_⟩
  · simp only [firstWord, first]
  · simp only [secondWord, first, second]
  · simp only [afterSecondWord, first, second]

private theorem exists_gap (startsAtOnce : StartsAtOnce text) :
    ∃ gap, text =
        firstWord text ++ (gap ++ (secondWord text ++ afterSecondWord text)) ∧
      gap.all isWhiteSpace = true ∧
      (secondWord text).all isNonSpace = true ∧
      (secondWord text ≠ [] → gap ≠ []) ∧
      (secondWord text = [] → afterSecondWord text = []) := by
  obtain ⟨lead, split, leading, _, _, ends⟩ := exists_lead text
  obtain ⟨gap, parts, _, blank, solid, _⟩ := exists_lead (nextWord text).2
  rw [startsAtOnce] at leading
  subst leading
  refine ⟨gap, ?_, blank, solid, ?_, ?_⟩
  · change text = (nextWord text).1 ++ (gap ++ ((nextWord (nextWord text).2).1 ++
      (nextWord (nextWord text).2).2))
    rw [← parts]
    exact split
  · intro present none
    obtain ⟨first, others, second⟩ := List.exists_cons_of_ne_nil present
    change (nextWord (nextWord text).2).1 = _ at second
    rw [second, none] at parts
    have space := ends first (by rw [parts]; rfl)
    change (nextWord (nextWord text).2).1.all isNonSpace = true at solid
    rw [second] at solid
    simp [isNonSpace, space] at solid
  · exact rest_eq_nil _

instance (text token : JsString) : Decidable (StandsAlone text token) :=
  inferInstanceAs (Decidable (_ ∧ _ ∧ _))

end Words

section Matching

variable {text suffix : JsString} {command : ChallengeCommand}
  {captures : Captures}

private theorem matches_botPattern :
    RegExp.Matches botPattern suffix captures ↔
      BotSuffix suffix ∧ captures = [] := by
  constructor
  · intro matched
    rcases RegExp.matches_optional.mp matched with mention | ⟨rfl, rfl⟩
    · obtain ⟨_, name, _, _, sign, named, rfl, rfl⟩ :=
        RegExp.matches_sequence.mp mention
      obtain ⟨rfl, rfl⟩ := RegExp.matches_literal.mp sign
      obtain ⟨units, enough, bounded, rfl⟩ := RegExp.matches_repeated.mp named
      exact ⟨.named enough (by simpa using bounded) units, rfl⟩
    · exact ⟨.none, rfl⟩
  · rintro ⟨bot, rfl⟩
    cases bot with
    | none => exact .absent
    | named enough bounded units =>
        apply RegExp.Matches.present
        exact RegExp.Matches.sequence (.literal _)
          (.repeated units enough (by simpa using bounded))

private theorem matches_commandPattern :
    RegExp.Matches commandPattern text captures ↔
      ∃ command : ChallengeCommand, text = command.name ∧
        captures = [(1, command.name)] := by
  constructor
  · intro matched
    obtain ⟨inner, named, rfl⟩ := RegExp.matches_group.mp matched
    rcases RegExp.matches_either.mp named with link | unlink
    · obtain ⟨rfl, rfl⟩ := RegExp.matches_literal.mp link
      exact ⟨.link, rfl, rfl⟩
    · obtain ⟨rfl, rfl⟩ := RegExp.matches_literal.mp unlink
      exact ⟨.unlink, rfl, rfl⟩
  · rintro ⟨command, rfl, rfl⟩
    cases command with
    | link => exact .group (.left (.literal _))
    | unlink => exact .group (.right (.literal _))

theorem isNonSpace_of_isNameUnit {unit : CodeUnit}
    (name : isNameUnit unit = true) : isNonSpace unit = true := by
  simp only [isNameUnit, isNonSpace, isWhiteSpace, Bool.or_eq_true,
    Bool.and_eq_true, decide_eq_true_eq, beq_iff_eq, Bool.not_eq_true',
    Bool.or_eq_false_iff, Bool.and_eq_false_imp, decide_eq_false_iff_not,
    beq_eq_false_iff_ne, ne_eq, UInt16.le_iff_toNat_le, ← UInt16.toNat_inj,
    UInt16.reduceToNat] at name ⊢
  omega

private theorem all_isNonSpace_of_all_isNameUnit {name : JsString}
    (units : name.all isNameUnit = true) : name.all isNonSpace = true := by
  apply List.all_eq_true.mpr
  intro unit member
  exact isNonSpace_of_isNameUnit (List.all_eq_true.mp units unit member)

private theorem BotSuffix.solid (bot : BotSuffix suffix) :
    suffix.all isNonSpace = true := by
  cases bot with
  | none => rfl
  | named _ _ units =>
      rw [List.all_append, all_isNonSpace_of_all_isNameUnit units]
      rfl

theorem commandWord_ne_nil : commandWord command suffix ≠ [] := by
  simp [commandWord, ofString]

theorem commandWord_solid (bot : BotSuffix suffix) :
    (commandWord command suffix).all isNonSpace = true := by
  rw [commandWord, List.all_append, List.all_append, bot.solid]
  cases command <;> rfl

theorem startWord_ne_nil : startWord suffix ≠ [] := by
  simp [startWord, ofString]

theorem startWord_solid (bot : BotSuffix suffix) :
    (startWord suffix).all isNonSpace = true := by
  rw [startWord, List.all_append, bot.solid]
  rfl

theorem capability_ne_nil {token : JsString} :
    capability command token ≠ [] := by
  simp [capability, ofString]

theorem capability_all_isNonSpace {token : JsString} :
    (capability command token).all isNonSpace = token.all isNonSpace := by
  rw [capability, List.all_append, List.all_append]
  cases command <;> rfl

/-- Captures of a command and, if there is one, of its candidate. -/
def commandCaptures (command : ChallengeCommand) (candidate : JsString) :
    Captures :=
  (1, command.name) :: if candidate = [] then [] else [(2, candidate)]

private theorem matches_candidate {gap token tail : JsString}
    (apart : gap ≠ []) (blank : gap.all isWhiteSpace = true)
    (present : token ≠ []) (unbroken : token.all isNonSpace = true)
    (trailing : tail.all isWhiteSpace = true) :
    RegExp.Matches
      (.sequence
        (.optional (.sequence (.repeated isWhiteSpace 1 none) candidatePattern))
        (.repeated isWhiteSpace 0 none))
      (gap ++ token ++ tail) ([(2, token)] ++ []) := by
  refine .sequence (.present ?_) (.repeated trailing (Nat.zero_le _) rfl)
  have gapMatch : RegExp.Matches (.repeated isWhiteSpace 1 none) gap [] :=
    .repeated blank (List.length_pos_iff.mpr apart) rfl
  exact .sequence gapMatch
    (.group (.repeated unbroken (List.length_pos_iff.mpr present) rfl))

/-- What the expression for commands matches, word by word. -/
theorem matches_directCommand_iff :
    RegExp.Matches directCommand text captures ↔
      ∃ command suffix, BotSuffix suffix ∧ StartsAtOnce text ∧
        firstWord text = commandWord command suffix ∧
        (afterSecondWord text).all isWhiteSpace = true ∧
        captures = commandCaptures command (secondWord text) := by
  constructor
  · intro matched
    obtain ⟨_, _, _, _, slash, afterSlash, rfl, rfl⟩ :=
      RegExp.matches_sequence.mp matched
    obtain ⟨rfl, rfl⟩ := RegExp.matches_literal.mp slash
    obtain ⟨_, _, _, _, named, afterName, rfl, rfl⟩ :=
      RegExp.matches_sequence.mp afterSlash
    obtain ⟨command, rfl, rfl⟩ := matches_commandPattern.mp named
    obtain ⟨suffix, _, _, _, mention, afterMention, rfl, rfl⟩ :=
      RegExp.matches_sequence.mp afterName
    obtain ⟨bot, rfl⟩ := matches_botPattern.mp mention
    obtain ⟨_, tail, _, _, candidate, trailing, rfl, rfl⟩ :=
      RegExp.matches_sequence.mp afterMention
    obtain ⟨blankTail, _, _, rfl⟩ := RegExp.matches_repeated.mp trailing
    have solid := @commandWord_solid suffix command bot
    rcases RegExp.matches_optional.mp candidate with spaced | ⟨rfl, rfl⟩
    · obtain ⟨gap, token, _, _, gapMatch, grouped, rfl, rfl⟩ :=
        RegExp.matches_sequence.mp spaced
      obtain ⟨blank, apart, _, rfl⟩ := RegExp.matches_repeated.mp gapMatch
      obtain ⟨_, word, rfl⟩ := RegExp.matches_group.mp grouped
      obtain ⟨unbroken, present, _, rfl⟩ := RegExp.matches_repeated.mp word
      obtain ⟨atOnce, first, second, after⟩ := words_of_two
        commandWord_ne_nil solid (List.length_pos_iff.mp apart) blank
        (List.length_pos_iff.mp present) unbroken (endsWord_of_all blankTail)
      have same : ofString "/" ++ (command.name ++ (suffix ++
          (gap ++ token ++ tail))) =
          commandWord command suffix ++ (gap ++ (token ++ tail)) := by
        simp [commandWord]
      rw [same]
      refine ⟨command, suffix, bot, atOnce, first, ?_, ?_⟩
      · rw [after]
        exact blankTail
      · rw [second, commandCaptures, if_neg (List.length_pos_iff.mp present)]
        rfl
    · obtain ⟨atOnce, first, second, after⟩ :=
        words_of_one commandWord_ne_nil solid blankTail
      have same : ofString "/" ++ (command.name ++ (suffix ++ ([] ++ tail))) =
          commandWord command suffix ++ tail := by
        simp [commandWord]
      rw [same]
      refine ⟨command, suffix, bot, atOnce, first, ?_, ?_⟩
      · rw [after]
        rfl
      · rw [second]
        rfl
  · rintro ⟨command, suffix, bot, atOnce, first, trailing, rfl⟩
    obtain ⟨gap, split, blank, unbroken, apart, after⟩ := exists_gap atOnce
    rw [first] at split
    have named : RegExp.Matches commandPattern command.name
        [(1, command.name)] :=
      matches_commandPattern.mpr ⟨command, rfl, rfl⟩
    have mention : RegExp.Matches botPattern suffix [] :=
      matches_botPattern.mpr ⟨bot, rfl⟩
    by_cases none : secondWord text = []
    · rw [none, after none] at split
      have rest : RegExp.Matches
          (.sequence
            (.optional
              (.sequence (.repeated isWhiteSpace 1 Option.none)
                candidatePattern))
            (.repeated isWhiteSpace 0 Option.none))
          ([] ++ gap) ([] ++ []) :=
        .sequence .absent (.repeated blank (Nat.zero_le _) rfl)
      have matched := RegExp.Matches.sequence (.literal (ofString "/"))
        (RegExp.Matches.sequence named (RegExp.Matches.sequence mention rest))
      rw [none]
      rw [split]
      simpa [commandWord, commandCaptures, directCommand] using matched
    · have rest := matches_candidate (apart none) blank none unbroken trailing
      have matched := RegExp.Matches.sequence (.literal (ofString "/"))
        (RegExp.Matches.sequence named (RegExp.Matches.sequence mention rest))
      have same : text = ofString "/" ++ (command.name ++ (suffix ++
          (gap ++ secondWord text ++ afterSecondWord text))) := by
        rw [List.append_assoc gap]
        simpa [commandWord] using split
      rw [← same] at matched
      simpa [commandCaptures, none, directCommand] using matched

/-- What the expression for deep links matches, word by word. -/
theorem matches_startCommand_iff :
    RegExp.Matches startCommand text captures ↔
      ∃ command suffix token, BotSuffix suffix ∧ StartsAtOnce text ∧
        firstWord text = startWord suffix ∧
        secondWord text = capability command token ∧ token ≠ [] ∧
        (afterSecondWord text).all isWhiteSpace = true ∧
        captures = [(1, command.name), (2, token)] := by
  constructor
  · intro matched
    obtain ⟨_, _, _, _, slash, afterSlash, rfl, rfl⟩ :=
      RegExp.matches_sequence.mp matched
    obtain ⟨rfl, rfl⟩ := RegExp.matches_literal.mp slash
    obtain ⟨suffix, _, _, _, mention, afterMention, rfl, rfl⟩ :=
      RegExp.matches_sequence.mp afterSlash
    obtain ⟨bot, rfl⟩ := matches_botPattern.mp mention
    obtain ⟨gap, _, _, _, gapMatch, afterGap, rfl, rfl⟩ :=
      RegExp.matches_sequence.mp afterMention
    obtain ⟨blank, apart, _, rfl⟩ := RegExp.matches_repeated.mp gapMatch
    obtain ⟨_, _, _, _, named, afterName, rfl, rfl⟩ :=
      RegExp.matches_sequence.mp afterGap
    obtain ⟨command, rfl, rfl⟩ := matches_commandPattern.mp named
    obtain ⟨_, _, _, _, separator, afterSeparator, rfl, rfl⟩ :=
      RegExp.matches_sequence.mp afterName
    obtain ⟨rfl, rfl⟩ := RegExp.matches_literal.mp separator
    obtain ⟨token, tail, _, _, grouped, trailing, rfl, rfl⟩ :=
      RegExp.matches_sequence.mp afterSeparator
    obtain ⟨_, word, rfl⟩ := RegExp.matches_group.mp grouped
    obtain ⟨unbroken, present, _, rfl⟩ := RegExp.matches_repeated.mp word
    obtain ⟨blankTail, _, _, rfl⟩ := RegExp.matches_repeated.mp trailing
    obtain ⟨atOnce, first, second, after⟩ := words_of_two startWord_ne_nil
      (startWord_solid bot) (List.length_pos_iff.mp apart) blank
      (@capability_ne_nil command token)
      (capability_all_isNonSpace.trans unbroken) (endsWord_of_all blankTail)
    have same : ofString "/start" ++ (suffix ++ (gap ++ (command.name ++
        (ofString "_" ++ (token ++ tail))))) =
        startWord suffix ++ (gap ++ (capability command token ++ tail)) := by
      simp [startWord, capability]
    rw [same]
    refine ⟨command, suffix, token, bot, atOnce, first, second,
      List.length_pos_iff.mp present, ?_, rfl⟩
    rw [after]
    exact blankTail
  · rintro ⟨command, suffix, token, bot, atOnce, first, second, present,
      trailing, rfl⟩
    obtain ⟨gap, split, blank, unbroken, apart, _⟩ := exists_gap atOnce
    rw [second, capability_all_isNonSpace] at unbroken
    have apart : gap ≠ [] := apart (by rw [second]; exact capability_ne_nil)
    rw [first, second] at split
    have named : RegExp.Matches commandPattern command.name
        [(1, command.name)] :=
      matches_commandPattern.mpr ⟨command, rfl, rfl⟩
    have mention : RegExp.Matches botPattern suffix [] :=
      matches_botPattern.mpr ⟨bot, rfl⟩
    have gapMatch : RegExp.Matches (.repeated isWhiteSpace 1 none) gap [] :=
      .repeated blank (List.length_pos_iff.mpr apart) rfl
    have candidate : RegExp.Matches candidatePattern token [(2, token)] :=
      .group (.repeated unbroken (List.length_pos_iff.mpr present) rfl)
    have tail : RegExp.Matches (.repeated isWhiteSpace 0 none)
        (afterSecondWord text) [] :=
      .repeated trailing (Nat.zero_le _) rfl
    have matched := RegExp.Matches.sequence (.literal (ofString "/start"))
      (.sequence mention (.sequence gapMatch (.sequence named
        (.sequence (.literal (ofString "_")) (.sequence candidate tail)))))
    have same : text = ofString "/start" ++ (suffix ++ (gap ++
        (command.name ++ (ofString "_" ++
          (token ++ afterSecondWord text))))) := by
      simpa [startWord, capability] using split
    rw [← same] at matched
    exact matched

end Matching

section Parsing

variable {text suffix suffix' token token' : JsString}
  {command command' : ChallengeCommand}

private theorem commandWord_injective
    (same : commandWord command suffix = commandWord command' suffix') :
    command = command' := by
  cases command with
  | link =>
      cases command' with
      | link => rfl
      | unlink => simp [commandWord, ChallengeCommand.name, ofString] at same
  | unlink =>
      cases command' with
      | link => simp [commandWord, ChallengeCommand.name, ofString] at same
      | unlink => rfl

private theorem commandWord_ne_startWord :
    commandWord command suffix ≠ startWord suffix' := by
  cases command <;>
    simp [commandWord, startWord, ChallengeCommand.name, ofString]

theorem capability_injective
    (same : capability command token = capability command' token') :
    command = command' ∧ token = token' := by
  cases command with
  | link =>
      cases command' with
      | link => exact ⟨rfl, by simpa [capability] using same⟩
      | unlink => simp [capability, ChallengeCommand.name, ofString] at same
  | unlink =>
      cases command' with
      | link => simp [capability, ChallengeCommand.name, ofString] at same
      | unlink => exact ⟨rfl, by simpa [capability] using same⟩

private theorem not_isPrefixOf_commandWord :
    ¬(ofString "/start").isPrefixOf (commandWord command suffix) = true := by
  cases command <;> simp [commandWord, ChallengeCommand.name, ofString]

private theorem isPrefixOf_startWord :
    (ofString "/start").isPrefixOf (startWord suffix) = true := by
  simp [startWord]

private theorem commandMatch_content {captures : Captures}
    (named : captures.group 1 = some command.name)
    (candidate : (captures.group 2).getD [] = token) :
    commandContent
        (if captures.group 1 = some ChallengeCommand.link.name then .link
          else .unlink)
        ((captures.group 2).getD []) =
      commandContent command token := by
  rw [named, candidate]
  cases command <;> rfl

theorem parseTelegramContent_of_standsAlone
    (presents : PresentsToken text command token)
    (alone : StandsAlone text token) :
    parseTelegramContent text = commandContent command token := by
  obtain ⟨atOnce, trailing, nonempty⟩ := alone
  cases presents with
  | @direct suffix bot first =>
      have found : directCommand.exec text =
          some (commandCaptures command (secondWord text)) := by
        apply RegExp.exec_eq_some_of_unique
        · exact matches_directCommand_iff.mpr
            ⟨command, suffix, bot, atOnce, first, trailing, rfl⟩
        · intro other matched
          obtain ⟨command', suffix', _, _, first', _, rfl⟩ :=
            matches_directCommand_iff.mp matched
          rw [commandWord_injective (first.symm.trans first')]
      unfold parseTelegramContent
      rw [found]
      apply commandMatch_content
      · rfl
      · unfold commandCaptures Captures.group
        split
        · rename_i none
          rw [none]
          rfl
        · rfl
  | @start suffix _ bot first second =>
      have undirected : directCommand.exec text = none := by
        apply RegExp.exec_eq_none_iff.mpr
        intro captures matched
        obtain ⟨command', suffix', _, _, first', _⟩ :=
          matches_directCommand_iff.mp matched
        exact commandWord_ne_startWord (first'.symm.trans first)
      have present : token ≠ [] := by
        apply nonempty
        rw [first]
        exact isPrefixOf_startWord
      have found : startCommand.exec text =
          some [(1, command.name), (2, token)] := by
        apply RegExp.exec_eq_some_of_unique
        · exact matches_startCommand_iff.mpr ⟨command, suffix, token, bot,
            atOnce, first, second, present, trailing, rfl⟩
        · intro other matched
          obtain ⟨command', suffix', token', _, _, _, second', _, _, rfl⟩ :=
            matches_startCommand_iff.mp matched
          obtain ⟨rfl, rfl⟩ := capability_injective (second.symm.trans second')
          rfl
      unfold parseTelegramContent
      rw [undirected, found]
      exact commandMatch_content rfl rfl

theorem exists_presentsToken
    (recognized : parseTelegramContent text ≠ .text text) :
    ∃ command token, PresentsToken text command token ∧
      parseTelegramContent text = commandContent command token := by
  cases direct : directCommand.exec text with
  | some captures =>
      obtain ⟨command, suffix, bot, atOnce, first, trailing, _⟩ :=
        matches_directCommand_iff.mp (RegExp.matches_of_exec direct)
      have presents : PresentsToken text command (secondWord text) :=
        .direct bot first
      refine ⟨command, secondWord text, presents, ?_⟩
      apply parseTelegramContent_of_standsAlone presents
      refine ⟨atOnce, trailing, ?_⟩
      intro started
      rw [first] at started
      exact (not_isPrefixOf_commandWord started).elim
  | none =>
      cases start : startCommand.exec text with
      | some captures =>
          obtain ⟨command, suffix, token, bot, atOnce, first, second, present,
            trailing, _⟩ :=
              matches_startCommand_iff.mp (RegExp.matches_of_exec start)
          have presents : PresentsToken text command token :=
            .start bot first second
          refine ⟨command, token, presents, ?_⟩
          apply parseTelegramContent_of_standsAlone presents
          exact ⟨atOnce, trailing, fun _ => present⟩
      | none =>
          apply absurd _ recognized
          rw [parseTelegramContent, direct, start]
          rfl

theorem parseTelegramContent_of_not_standsAlone
    (presents : PresentsToken text command token)
    (accompanied : ¬StandsAlone text token) :
    parseTelegramContent text = .text text := by
  have undirected : directCommand.exec text = none := by
    apply RegExp.exec_eq_none_iff.mpr
    intro captures matched
    obtain ⟨command', suffix', _, atOnce, first', trailing, _⟩ :=
      matches_directCommand_iff.mp matched
    apply accompanied
    refine ⟨atOnce, trailing, ?_⟩
    intro started
    rw [first'] at started
    exact (not_isPrefixOf_commandWord started).elim
  have unstarted : startCommand.exec text = none := by
    apply RegExp.exec_eq_none_iff.mpr
    intro captures matched
    obtain ⟨command', suffix', token', _, atOnce, first', second', present,
      trailing, _⟩ := matches_startCommand_iff.mp matched
    apply accompanied
    refine ⟨atOnce, trailing, ?_⟩
    intro _
    cases presents with
    | direct _ first =>
        exact (commandWord_ne_startWord (first.symm.trans first')).elim
    | start _ _ second =>
        rw [(capability_injective (second.symm.trans second')).2]
        exact present
  unfold parseTelegramContent
  rw [undirected, unstarted]
  rfl

end Parsing

section Minimization

variable {crypto : LinkChallengeCrypto} {text token : JsString}
  {command : ChallengeCommand}

/-- Stored content that keeps of a presented token at most its digest. -/
inductive TokenMinimized (crypto : LinkChallengeCrypto) (token : JsString) :
    ChallengeCommand → PersistedTelegramContent → Prop where
  | linkCommand {digest : ChannelLinkChallengeDigest}
      (valid : isChallengeToken token = true) :
      crypto.digestToken ⟨token, valid⟩ = .ok digest →
      TokenMinimized crypto token .link (.linkCommand digest)
  | unlinkCommand {digest : ChannelLinkChallengeDigest}
      (valid : isChallengeToken token = true) :
      crypto.digestToken ⟨token, valid⟩ = .ok digest →
      TokenMinimized crypto token .unlink (.unlinkCommand digest)
  | invalidCommand {command : ChallengeCommand} :
      TokenMinimized crypto token command (.invalidCommand command)

theorem tokenMinimized_of_minimizeContent {content : PersistedTelegramContent}
    (stored : minimizeContent crypto (commandContent command token) =
      .ok content) :
    TokenMinimized crypto token command content := by
  unfold commandContent at stored
  split at stored
  · rename_i valid
    cases command with
    | link =>
        obtain ⟨digest, digested, same⟩ := bind_eq_ok.mp stored
        cases same
        exact .linkCommand valid digested
    | unlink =>
        obtain ⟨digest, digested, same⟩ := bind_eq_ok.mp stored
        cases same
        exact .unlinkCommand valid digested
  · cases stored
    exact .invalidCommand

theorem PresentsToken.infix (presents : PresentsToken text command token) :
    token <:+: text := by
  obtain ⟨lead, split, _⟩ := exists_lead text
  obtain ⟨gap, parts, _⟩ := exists_lead (nextWord text).2
  have secondInfix : secondWord text <:+: text := by
    refine ⟨lead ++ ((nextWord text).1 ++ gap), afterSecondWord text, ?_⟩
    have whole := split
    rw [parts] at whole
    simpa [secondWord, afterSecondWord] using whole.symm
  cases presents with
  | direct => exact secondInfix
  | start _ _ second =>
      rw [second, capability, ← List.append_assoc] at secondInfix
      exact (List.suffix_append _ token).isInfix.trans secondInfix

/-- What is stored of a command keeps no token exactly if the message holds
nothing but the command.  Any other message is stored with its token. -/
theorem raw_tokens_minimized {correlationId : CorrelationId}
    {update : VerifiedTelegramUpdate} {input : PersistTelegramEventInput}
    (presents : PresentsToken text command token)
    (parsed : update.content = parseTelegramContent text)
    (accepted : acceptTelegramEvent crypto correlationId update =
      .ok input) :
    (TokenMinimized crypto token command input.event.content ↔
        StandsAlone text token) ∧
      (¬StandsAlone text token →
        input.event.content = .text text ∧ token <:+: text) := by
  obtain ⟨content, stored, same⟩ := bind_eq_ok.mp accepted
  cases same
  rw [parsed] at stored
  have kept : ¬StandsAlone text token → content = .text text := by
    intro accompanied
    rw [parseTelegramContent_of_not_standsAlone presents accompanied] at stored
    cases stored
    rfl
  refine ⟨⟨?_, ?_⟩, ?_⟩
  · intro minimized
    by_contra accompanied
    cases kept accompanied
    cases minimized
  · intro alone
    rw [parseTelegramContent_of_standsAlone presents alone] at stored
    exact tokenMinimized_of_minimizeContent stored
  · intro accompanied
    exact ⟨kept accompanied, presents.infix⟩

def sampleToken : JsString :=
  List.replicate 43 0x61

theorem sampleToken_valid : isChallengeToken sampleToken = true := by
  decide +kernel

/-- The digest function of a platform on one token. -/
def sampleCrypto : LinkChallengeCrypto :=
  { digestToken := fun token =>
      if token.val = sampleToken then
        .ok ⟨"66d34fba71f8f450f7e45598853e53bfc23bbd129027cbb131a2f4ffd7878cd0"⟩
      else
        .error .digestToken }

def receivedText (text : JsString) : VerifiedTelegramUpdate :=
  { updateId := ⟨"8184"⟩
    externalAccountId := ⟨"123456"⟩
    externalConversationId := ⟨"123456"⟩
    externalMessageId := ⟨"102"⟩
    occurredAtMillis := 1785638403000
    content := parseTelegramContent text }

/-- The sample token with a command before it and a text after it. -/
def sampleMessage (after : JsString) : JsString :=
  ofString "/link " ++ (sampleToken ++ after)

theorem sampleMessage_presents {after : JsString}
    (first : firstWord (sampleMessage after) = ofString "/link")
    (second : secondWord (sampleMessage after) = sampleToken) :
    PresentsToken (sampleMessage after) .link sampleToken := by
  have direct := PresentsToken.direct .none
    (first.trans (by rfl : ofString "/link" = commandWord .link []))
  rw [second] at direct
  exact direct

/-- A word after the token leaves the token in the stored text. -/
theorem raw_token_stored :
    PresentsToken (sampleMessage (ofString " please")) .link sampleToken ∧
      ∃ input, acceptTelegramEvent sampleCrypto ⟨7⟩
          (receivedText (sampleMessage (ofString " please"))) = .ok input ∧
        input.event.content = .text (sampleMessage (ofString " please")) ∧
        sampleToken <:+: sampleMessage (ofString " please") := by
  have presents :
      PresentsToken (sampleMessage (ofString " please")) .link sampleToken :=
    sampleMessage_presents (by decide) (by decide)
  have parsed := parseTelegramContent_of_not_standsAlone presents (by decide)
  have minimized : minimizeContent sampleCrypto
      (receivedText (sampleMessage (ofString " please"))).content =
        .ok (.text (sampleMessage (ofString " please"))) := by
    simp only [receivedText, parsed]
    rfl
  obtain ⟨input, accepted, stored⟩ := exists_acceptTelegramEvent ⟨7⟩ minimized
  exact ⟨presents, input, accepted, stored, presents.infix⟩

theorem raw_tokens_minimized_link :
    ∃ input, acceptTelegramEvent sampleCrypto ⟨7⟩
        (receivedText (sampleMessage [])) = .ok input ∧
      TokenMinimized sampleCrypto sampleToken .link input.event.content := by
  have presents : PresentsToken (sampleMessage []) .link sampleToken :=
    sampleMessage_presents (by decide) (by decide)
  have alone : StandsAlone (sampleMessage []) sampleToken := by
    decide
  have parsed := parseTelegramContent_of_standsAlone presents alone
  have minimized : minimizeContent sampleCrypto
      (receivedText (sampleMessage [])).content = .ok (.linkCommand
        ⟨"66d34fba71f8f450f7e45598853e53bfc23bbd129027cbb131a2f4ffd7878cd0"⟩) := by
    simp only [receivedText, parsed, commandContent, dif_pos sampleToken_valid]
    rfl
  obtain ⟨input, accepted, _⟩ := exists_acceptTelegramEvent ⟨7⟩ minimized
  exact ⟨input, accepted,
    (raw_tokens_minimized presents rfl accepted).1.mpr alone⟩

end Minimization

end XpensGo
