import XpensGo.Channel.TelegramEvent
import XpensGo.EcmaScript.Base64
import Mathlib.Data.List.DropRight

/-!
# The Web Crypto implementation of link challenges

A token is 32 random bytes in the base64 alphabet for addresses, and its digest
is written in hexadecimal.
-/

namespace XpensGo

open EcmaScript JsString

/-- A `Uint8Array`. -/
abbrev Bytes := List UInt8

/-- `replaceAll("+", "-").replaceAll("/", "_")` on one unit. -/
def urlUnit (unit : CodeUnit) : CodeUnit :=
  if unit = 0x2b then 0x2d
  else if unit = 0x2f then 0x5f
  else unit

/-- Base64 with the alphabet for links and without padding. -/
def encodeBase64Url (bytes : Bytes) : JsString :=
  ((btoa bytes).map urlUnit).rdropWhile (· = 0x3d)

/-- The token of the bytes that `getRandomValues` filled in, if it could. -/
def generateToken (random : Option (Vector UInt8 32)) :
    Except LinkChallengeCryptoUnavailable ChannelLinkChallengeToken :=
  match random with
  | none => .error .generateToken
  | some bytes =>
      if valid : isChallengeToken (encodeBase64Url bytes.toList) = true then
        .ok ⟨encodeBase64Url bytes.toList, valid⟩
      else
        .error .generateToken

/-- `TextEncoder` and `crypto.subtle.digest("SHA-256", …)`, which may fail. -/
structure WebCrypto where
  encodeText : JsString → Bytes
  digest : Bytes → Option Bytes

/-- A digit of `toString(16)`. -/
def hexDigit (value : UInt8) : CodeUnit :=
  if value < 10 then 0x30 + value.toUInt16 else 0x57 + value.toUInt16

/-- `byte.toString(16).padStart(2, "0")`. -/
def hexByte (byte : UInt8) : JsString :=
  [hexDigit (byte / 16), hexDigit (byte % 16)]

def webCryptoDigestToken (crypto : WebCrypto)
    (token : ChannelLinkChallengeToken) :
    Except LinkChallengeCryptoUnavailable ChannelLinkChallengeDigest :=
  let challengeDigest := do
    let digest ← crypto.digest (crypto.encodeText token.val)
    ChannelLinkChallengeDigest.decode (.string (digest.flatMap hexByte))
  match challengeDigest with
  | some challengeDigest => .ok challengeDigest
  | none => .error .digestToken

/-- `webCryptoLinkChallengeLayer`. -/
def webCryptoLinkChallenge (crypto : WebCrypto) : LinkChallengeCrypto :=
  { digestToken := webCryptoDigestToken crypto }

section Tokens

/-- The unit of six bits in a token. -/
private def tokenDigit (sextet : Nat) : CodeUnit :=
  urlUnit (Base64.digit sextet)

private def tokenSextet (unit : CodeUnit) : Nat :=
  (List.range 64).findIdx (fun sextet => tokenDigit sextet == unit)

private theorem tokenDigit_isTokenUnit :
    ∀ sextet, sextet < 64 → isTokenUnit (tokenDigit sextet) = true ∧
      tokenDigit sextet ≠ Base64.pad := by
  decide +kernel

private theorem tokenSextet_tokenDigit :
    ∀ sextet, sextet < 64 → tokenSextet (tokenDigit sextet) = sextet := by
  decide +kernel

private theorem rdropWhile_padding {digits : JsString}
    (unpadded : ∀ unit ∈ digits, unit ≠ Base64.pad) (missing : Nat) :
    (digits ++ List.replicate missing Base64.pad).rdropWhile (· = 0x3d) =
      digits := by
  induction missing with
  | zero =>
      rw [List.replicate_zero, List.append_nil, List.rdropWhile_eq_self_iff]
      intro nonempty last
      exact unpadded _ (List.getLast_mem nonempty) (of_decide_eq_true last)
  | succ missing induction =>
      rw [List.replicate_succ', ← List.append_assoc,
        List.rdropWhile_concat_pos _ _ _ (by rfl)]
      exact induction

private theorem encodeBase64Url_eq (bytes : Bytes) :
    encodeBase64Url bytes = (Base64.sextets bytes).map tokenDigit := by
  have written : (btoa bytes).map urlUnit =
      (Base64.sextets bytes).map tokenDigit ++
        List.replicate (Base64.missing bytes) Base64.pad := by
    rw [btoa, List.map_append, List.map_map, List.map_replicate]
    rfl
  rw [encodeBase64Url, written]
  apply rdropWhile_padding
  intro unit member
  obtain ⟨sextet, group, rfl⟩ := List.mem_map.mp member
  exact (tokenDigit_isTokenUnit sextet (Base64.lt_of_mem_sextets group)).2

theorem encodeBase64Url_injective : Function.Injective encodeBase64Url := by
  have read : ∀ bytes, (encodeBase64Url bytes).map tokenSextet =
      Base64.sextets bytes := by
    intro bytes
    rw [encodeBase64Url_eq, List.map_map]
    refine (List.map_congr_left ?_).trans (List.map_id _)
    intro sextet group
    exact tokenSextet_tokenDigit sextet (Base64.lt_of_mem_sextets group)
  intro bytes bytes' same
  apply Base64.sextets_injective
  rw [← read bytes, ← read bytes', same]

theorem isChallengeToken_encodeBase64Url {bytes : Bytes}
    (random : bytes.length = 32) :
    isChallengeToken (encodeBase64Url bytes) = true := by
  have length : (encodeBase64Url bytes).length = 43 := by
    rw [encodeBase64Url_eq, List.length_map, Base64.length_sextets, random]
  have units : (encodeBase64Url bytes).all isTokenUnit = true := by
    rw [List.all_eq_true]
    intro unit member
    rw [encodeBase64Url_eq] at member
    obtain ⟨sextet, group, rfl⟩ := List.mem_map.mp member
    exact (tokenDigit_isTokenUnit sextet (Base64.lt_of_mem_sextets group)).1
  rw [isChallengeToken, Bool.and_eq_true, beq_iff_eq]
  refine ⟨length, RegExp.test_iff.mpr ⟨[], .repeated units ?_ rfl⟩⟩
  omega

theorem generateToken_eq_ok (bytes : Vector UInt8 32) :
    generateToken (some bytes) =
      .ok ⟨encodeBase64Url bytes.toList,
        isChallengeToken_encodeBase64Url bytes.length_toList⟩ :=
  dif_pos _

end Tokens

/-- A digest is what its schema decodes. -/
theorem digestToken_branded {crypto : WebCrypto}
    {token : ChannelLinkChallengeToken}
    {challengeDigest : ChannelLinkChallengeDigest}
    (digested : (webCryptoLinkChallenge crypto).digestToken token =
      .ok challengeDigest) :
    ChannelLinkChallengeDigest.decode (.string (ofString challengeDigest.hex)) =
      some challengeDigest := by
  change webCryptoDigestToken crypto token = _ at digested
  unfold webCryptoDigestToken at digested
  dsimp only at digested
  split at digested
  · rename_i decoded
    cases digested
    obtain ⟨digest, _, read⟩ := Option.bind_eq_some_iff.mp decoded
    exact ChannelLinkChallengeDigest.decode_again read
  · cases digested

end XpensGo
