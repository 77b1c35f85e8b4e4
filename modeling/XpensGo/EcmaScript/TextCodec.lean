import Mathlib.Algebra.Order.Ring.Nat
import XpensGo.EcmaScript.Url

/-!
# Encoding and decoding of text

The fatal decoder reads the bytes of scalar values and refuses all other bytes.
The encoder replaces every surrogate that stands alone by U+FFFD.
-/

namespace EcmaScript

open JsString

namespace Utf8

/-- A code point that is no surrogate. -/
def IsScalar (code : Nat) : Prop :=
  code < 0xd800 ∨ 0xdfff < code ∧ code < 0x110000

instance (code : Nat) : Decidable (IsScalar code) :=
  inferInstanceAs (Decidable (_ ∨ _))

namespace Decoder

/-- A byte that ends a fatal decoder with an error. -/
def refuses (decoder : Decoder) (byte : UInt8) : Bool :=
  if decoder.needed = 0 then
    !(byte < 0x80 || (0xc2 ≤ byte && byte ≤ 0xf4))
  else
    !(decoder.lower ≤ byte && byte ≤ decoder.upper)

/-- The code points of some bytes, or an error. -/
def runFatal : Decoder → List UInt8 → Option (List Nat)
  | decoder, [] => if decoder.needed = 0 then some [] else none
  | decoder, byte :: bytes =>
      if decoder.refuses byte then
        none
      else
        (runFatal (decoder.step byte).2 bytes).map
          (fun codes => (decoder.step byte).1 ++ codes)

section Bytes

variable {decoder : Decoder} {byte : UInt8} {bytes : List UInt8}
  {codes : List Nat}

private theorem runFatal_begin {begun : Decoder}
    (began : first byte = ([], begun))
    (accepted : 0xc2 ≤ byte.toNat ∧ byte.toNat ≤ 0xf4) :
    ready.runFatal (byte :: bytes) = begun.runFatal bytes := by
  have begins : ready.refuses byte = false := by
    simp only [refuses, ready, UInt8.lt_iff_toNat_lt, UInt8.le_iff_toNat_le]
    simp [accepted]
  have stepped : ready.step byte = ([], begun) := began
  rw [runFatal, if_neg (by simp [begins]), stepped]
  simp

theorem runFatal_one (ascii : byte.toNat < 0x80) :
    ready.runFatal (byte :: bytes) =
      (ready.runFatal bytes).map (fun codes => byte.toNat :: codes) := by
  have small : byte < 0x80 := UInt8.lt_iff_toNat_lt.mpr ascii
  have accepted : ready.refuses byte = false := by
    simp [refuses, ready, small]
  have stepped : ready.step byte = ([byte.toNat], ready) := by
    simp [step, first, ready, small]
  rw [runFatal, if_neg (by simp [accepted]), stepped]
  rfl

theorem runFatal_two (least : 0xc2 ≤ byte.toNat) (most : byte.toNat ≤ 0xdf) :
    ready.runFatal (byte :: bytes) =
      runFatal
        { needed := 1
          code := byte.toNat % 0x20
          lower := 0x80
          upper := 0xbf } bytes := by
  apply runFatal_begin
  · simp only [first, UInt8.lt_iff_toNat_lt, UInt8.le_iff_toNat_le,
      UInt8.reduceToNat, Bool.and_eq_true, decide_eq_true_eq]
    rw [if_neg (by omega), if_pos (by omega)]
    rfl
  · omega

theorem runFatal_three (least : 0xe0 ≤ byte.toNat) (most : byte.toNat ≤ 0xef) :
    ready.runFatal (byte :: bytes) =
      runFatal
        { needed := 2
          code := byte.toNat % 0x10
          lower := if byte = 0xe0 then 0xa0 else 0x80
          upper := if byte = 0xed then 0x9f else 0xbf } bytes := by
  apply runFatal_begin
  · simp only [first, UInt8.lt_iff_toNat_lt, UInt8.le_iff_toNat_le,
      UInt8.reduceToNat, Bool.and_eq_true, decide_eq_true_eq]
    rw [if_neg (by omega), if_neg (by omega), if_pos (by omega)]
  · omega

theorem runFatal_four (least : 0xf0 ≤ byte.toNat) (most : byte.toNat ≤ 0xf4) :
    ready.runFatal (byte :: bytes) =
      runFatal
        { needed := 3
          code := byte.toNat % 0x8
          lower := if byte = 0xf0 then 0x90 else 0x80
          upper := if byte = 0xf4 then 0x8f else 0xbf } bytes := by
  apply runFatal_begin
  · simp only [first, UInt8.lt_iff_toNat_lt, UInt8.le_iff_toNat_le,
      UInt8.reduceToNat, Bool.and_eq_true, decide_eq_true_eq]
    rw [if_neg (by omega), if_neg (by omega), if_neg (by omega),
      if_pos (by omega)]
  · omega

theorem runFatal_none
    (outside : ¬(byte.toNat < 0x80 ∨ 0xc2 ≤ byte.toNat ∧ byte.toNat ≤ 0xf4)) :
    ready.runFatal (byte :: bytes) = none := by
  have refused : ready.refuses byte = true := by
    simp only [refuses, ready, UInt8.lt_iff_toNat_lt, UInt8.le_iff_toNat_le,
      UInt8.reduceToNat, if_true, Bool.not_eq_true', Bool.or_eq_false_iff,
      Bool.and_eq_false_iff, decide_eq_false_iff_not]
    omega
  rw [runFatal, if_pos refused]

private theorem refuses_iff (awaits : decoder.needed ≠ 0) :
    decoder.refuses byte = false ↔ decoder.lower.toNat ≤ byte.toNat ∧
      byte.toNat ≤ decoder.upper.toNat := by
  simp [refuses, awaits, UInt8.le_iff_toNat_le]

private theorem step_of_within (awaits : decoder.needed ≠ 0)
    (within : decoder.lower.toNat ≤ byte.toNat ∧
      byte.toNat ≤ decoder.upper.toNat) :
    decoder.step byte =
      if decoder.needed = 1 then
        ([decoder.code * 0x40 + byte.toNat % 0x40], ready)
      else
        ([], { ready with
                needed := decoder.needed - 1
                code := decoder.code * 0x40 + byte.toNat % 0x40 }) := by
  rw [step, if_neg awaits, if_pos (by simpa [UInt8.le_iff_toNat_le])]

private theorem runFatal_awaited_iff (awaits : decoder.needed ≠ 0) :
    decoder.runFatal bytes = some codes ↔
      ∃ byte rest, bytes = byte :: rest ∧
        (decoder.lower.toNat ≤ byte.toNat ∧
          byte.toNat ≤ decoder.upper.toNat) ∧
        ((decoder.step byte).2.runFatal rest).map
          ((decoder.step byte).1 ++ ·) = some codes := by
  cases bytes with
  | nil =>
      rw [runFatal, if_neg awaits]
      constructor
      · intro decoded
        cases decoded
      · rintro ⟨_, _, impossible, _⟩
        cases impossible
  | cons byte rest =>
      rw [runFatal]
      constructor
      · intro decoded
        split at decoded
        · cases decoded
        · rename_i accepted
          exact ⟨byte, rest, rfl,
            (refuses_iff awaits).mp (Bool.eq_false_iff.mpr accepted), decoded⟩
      · rintro ⟨_, _, same, within, decoded⟩
        cases same
        rw [if_neg (by simp [(refuses_iff awaits).mpr within])]
        exact decoded

/-- The last byte of a sequence. -/
theorem runFatal_last_iff (last : decoder.needed = 1) :
    decoder.runFatal bytes = some codes ↔
      ∃ byte rest others, bytes = byte :: rest ∧
        (decoder.lower.toNat ≤ byte.toNat ∧
          byte.toNat ≤ decoder.upper.toNat) ∧
        ready.runFatal rest = some others ∧
          codes = (decoder.code * 0x40 + byte.toNat % 0x40) :: others := by
  have awaits : decoder.needed ≠ 0 := by omega
  rw [runFatal_awaited_iff awaits]
  constructor
  · rintro ⟨byte, rest, rfl, within, decoded⟩
    rw [step_of_within awaits within, if_pos last] at decoded
    obtain ⟨others, further, rfl⟩ := Option.map_eq_some_iff.mp decoded
    exact ⟨byte, rest, others, rfl, within, further, rfl⟩
  · rintro ⟨byte, rest, others, rfl, within, further, rfl⟩
    refine ⟨byte, rest, rfl, within, ?_⟩
    rw [step_of_within awaits within, if_pos last]
    exact Option.map_eq_some_iff.mpr ⟨others, further, rfl⟩

/-- A byte of a sequence before the last one. -/
theorem runFatal_more_iff {count : Nat} (more : decoder.needed = count + 2) :
    decoder.runFatal bytes = some codes ↔
      ∃ byte rest, bytes = byte :: rest ∧
        (decoder.lower.toNat ≤ byte.toNat ∧
          byte.toNat ≤ decoder.upper.toNat) ∧
        runFatal
          { needed := count + 1
            code := decoder.code * 0x40 + byte.toNat % 0x40
            lower := 0x80
            upper := 0xbf } rest = some codes := by
  have awaits : decoder.needed ≠ 0 := by omega
  have further : decoder.needed ≠ 1 := by omega
  have remaining : decoder.needed - 1 = count + 1 := by omega
  rw [runFatal_awaited_iff awaits]
  constructor
  · rintro ⟨byte, rest, rfl, within, decoded⟩
    rw [step_of_within awaits within, if_neg further, remaining] at decoded
    refine ⟨byte, rest, rfl, within, ?_⟩
    simpa [ready] using decoded
  · rintro ⟨byte, rest, rfl, within, decoded⟩
    refine ⟨byte, rest, rfl, within, ?_⟩
    rw [step_of_within awaits within, if_neg further, remaining]
    simpa [ready] using decoded

end Bytes

end Decoder

section Scalars

open Decoder

variable {code : Nat} {lead second third fourth : UInt8} {bytes : List UInt8}
  {codes : List Nat}

private theorem encodeCodePoint_two
    (begins : 0xc2 ≤ lead.toNat ∧ lead.toNat ≤ 0xdf)
    (trails : 0x80 ≤ second.toNat ∧ second.toNat ≤ 0xbf)
    (same : code = lead.toNat % 0x20 * 0x40 + second.toNat % 0x40) :
    IsScalar code ∧ encodeCodePoint code = [lead, second] := by
  refine ⟨.inl (by omega), ?_⟩
  rw [encodeCodePoint, if_neg (by omega), if_pos (by omega)]
  simp only [List.cons.injEq, ← UInt8.toNat_inj, UInt8.toNat_ofNat', and_true]
  omega

private theorem encodeCodePoint_three
    (begins : 0xe0 ≤ lead.toNat ∧ lead.toNat ≤ 0xef)
    (trails : (if lead = 0xe0 then 0xa0 else 0x80 : UInt8).toNat ≤
        second.toNat ∧
      second.toNat ≤ (if lead = 0xed then 0x9f else 0xbf : UInt8).toNat)
    (ends : 0x80 ≤ third.toNat ∧ third.toNat ≤ 0xbf)
    (same : code = (lead.toNat % 0x10 * 0x40 + second.toNat % 0x40) * 0x40 +
      third.toNat % 0x40) :
    IsScalar code ∧ encodeCodePoint code = [lead, second, third] := by
  simp only [← UInt8.toNat_inj, apply_ite UInt8.toNat, UInt8.reduceToNat]
    at trails
  have bounds : 0x80 ≤ second.toNat ∧ second.toNat ≤ 0xbf ∧
      (lead.toNat = 0xe0 → 0xa0 ≤ second.toNat) ∧
        (lead.toNat = 0xed → second.toNat ≤ 0x9f) := by
    split_ifs at trails <;> omega
  have scalar : 0x800 ≤ code ∧ code < 0x10000 ∧
      ¬(0xd800 ≤ code ∧ code ≤ 0xdfff) := by
    omega
  refine ⟨?_, ?_⟩
  · unfold IsScalar
    omega
  · rw [encodeCodePoint, if_neg (by omega), if_neg (by omega),
      if_neg (by simpa using scalar.2.2), if_pos scalar.2.1]
    simp only [List.cons.injEq, ← UInt8.toNat_inj, UInt8.toNat_ofNat',
      and_true]
    omega

private theorem encodeCodePoint_four
    (begins : 0xf0 ≤ lead.toNat ∧ lead.toNat ≤ 0xf4)
    (trails : (if lead = 0xf0 then 0x90 else 0x80 : UInt8).toNat ≤
        second.toNat ∧
      second.toNat ≤ (if lead = 0xf4 then 0x8f else 0xbf : UInt8).toNat)
    (continues : 0x80 ≤ third.toNat ∧ third.toNat ≤ 0xbf)
    (ends : 0x80 ≤ fourth.toNat ∧ fourth.toNat ≤ 0xbf)
    (same : code = ((lead.toNat % 0x8 * 0x40 + second.toNat % 0x40) * 0x40 +
      third.toNat % 0x40) * 0x40 + fourth.toNat % 0x40) :
    IsScalar code ∧ encodeCodePoint code = [lead, second, third, fourth] := by
  simp only [← UInt8.toNat_inj, apply_ite UInt8.toNat, UInt8.reduceToNat]
    at trails
  have bounds : 0x80 ≤ second.toNat ∧ second.toNat ≤ 0xbf ∧
      (lead.toNat = 0xf0 → 0x90 ≤ second.toNat) ∧
        (lead.toNat = 0xf4 → second.toNat ≤ 0x8f) := by
    split_ifs at trails <;> omega
  have scalar : 0x10000 ≤ code ∧ code < 0x110000 := by
    omega
  refine ⟨.inr (by omega), ?_⟩
  rw [encodeCodePoint, if_neg (by omega), if_neg (by omega),
    if_neg (by simp; omega), if_neg (by omega)]
  simp only [List.cons.injEq, ← UInt8.toNat_inj, UInt8.toNat_ofNat', and_true]
  omega

private theorem encodeCodePoint_one (ascii : lead.toNat < 0x80) :
    IsScalar lead.toNat ∧ encodeCodePoint lead.toNat = [lead] := by
  refine ⟨.inl (by omega), ?_⟩
  rw [encodeCodePoint, if_pos ascii, UInt8.ofNat_toNat]

private theorem exists_first_sequence
    (decoded : ready.runFatal (lead :: bytes) = some codes) :
    ∃ code rest others, IsScalar code ∧
      lead :: bytes = encodeCodePoint code ++ rest ∧
        ready.runFatal rest = some others ∧ codes = code :: others := by
  by_cases one : lead.toNat < 0x80
  · rw [runFatal_one one] at decoded
    obtain ⟨others, further, rfl⟩ := Option.map_eq_some_iff.mp decoded
    obtain ⟨scalar, written⟩ := encodeCodePoint_one one
    exact ⟨_, bytes, others, scalar, by rw [written]; rfl, further, rfl⟩
  by_cases two : 0xc2 ≤ lead.toNat ∧ lead.toNat ≤ 0xdf
  · rw [runFatal_two two.1 two.2, runFatal_last_iff rfl] at decoded
    obtain ⟨second, rest, others, rfl, trails, further, rfl⟩ := decoded
    obtain ⟨scalar, written⟩ := encodeCodePoint_two two trails rfl
    exact ⟨_, rest, others, scalar, by rw [written]; rfl, further, rfl⟩
  by_cases three : 0xe0 ≤ lead.toNat ∧ lead.toNat ≤ 0xef
  · rw [runFatal_three three.1 three.2, runFatal_more_iff rfl] at decoded
    obtain ⟨second, rest, rfl, trails, decoded⟩ := decoded
    rw [runFatal_last_iff rfl] at decoded
    obtain ⟨third, rest, others, rfl, ends, further, rfl⟩ := decoded
    obtain ⟨scalar, written⟩ := encodeCodePoint_three three trails ends rfl
    exact ⟨_, rest, others, scalar, by rw [written]; rfl, further, rfl⟩
  by_cases four : 0xf0 ≤ lead.toNat ∧ lead.toNat ≤ 0xf4
  · rw [runFatal_four four.1 four.2, runFatal_more_iff rfl] at decoded
    obtain ⟨second, rest, rfl, trails, decoded⟩ := decoded
    rw [runFatal_more_iff rfl] at decoded
    obtain ⟨third, rest, rfl, continues, decoded⟩ := decoded
    rw [runFatal_last_iff rfl] at decoded
    obtain ⟨fourth, rest, others, rfl, ends, further, rfl⟩ := decoded
    obtain ⟨scalar, written⟩ :=
      encodeCodePoint_four four trails continues ends rfl
    exact ⟨_, rest, others, scalar, by rw [written]; rfl, further, rfl⟩
  · rw [runFatal_none (by omega)] at decoded
    cases decoded

theorem encodeCodePoint_ne_nil : encodeCodePoint code ≠ [] := by
  unfold encodeCodePoint
  split_ifs <;> simp

theorem encoding_of_runFatal (decoded : ready.runFatal bytes = some codes) :
    (∀ code ∈ codes, IsScalar code) ∧
      bytes = codes.flatMap encodeCodePoint := by
  induction measured : bytes.length using Nat.strongRecOn
    generalizing bytes codes with
  | _ size induction =>
    cases bytes with
    | nil =>
        cases decoded
        exact ⟨by simp, rfl⟩
    | cons lead bytes =>
        obtain ⟨code, rest, others, scalar, split, further, rfl⟩ :=
          exists_first_sequence decoded
        have shorter : rest.length < size := by
          have nonempty := List.length_pos_iff.mpr
            (@encodeCodePoint_ne_nil code)
          rw [← measured, split, List.length_append]
          omega
        obtain ⟨scalars, encoded⟩ := induction _ shorter further rfl
        rw [split, encoded]
        exact ⟨List.forall_mem_cons.mpr ⟨scalar, scalars⟩, rfl⟩

theorem runFatal_encodeCodePoint (scalar : IsScalar code)
    (further : ready.runFatal bytes = some codes) :
    ready.runFatal (encodeCodePoint code ++ bytes) = some (code :: codes) := by
  unfold IsScalar at scalar
  unfold encodeCodePoint
  split_ifs with one two surrogate three
  · have lead : (UInt8.ofNat code).toNat = code := by
      rw [UInt8.toNat_ofNat']
      omega
    rw [List.singleton_append, runFatal_one (by omega), further, lead]
    rfl
  · have lead : (UInt8.ofNat (0xc0 + code / 0x40)).toNat =
        0xc0 + code / 0x40 := by
      rw [UInt8.toNat_ofNat']
      omega
    rw [List.cons_append, runFatal_two (by omega) (by omega),
      runFatal_last_iff rfl]
    refine ⟨_, bytes, codes, rfl, ?_, further, ?_⟩
    · simp only [UInt8.toNat_ofNat', UInt8.reduceToNat]
      omega
    · congr 1
      simp only [UInt8.toNat_ofNat']
      omega
  · simp only [Bool.and_eq_true, decide_eq_true_eq] at surrogate
    omega
  · have lead : (UInt8.ofNat (0xe0 + code / 0x1000)).toNat =
        0xe0 + code / 0x1000 := by
      rw [UInt8.toNat_ofNat']
      omega
    simp only [Bool.and_eq_true, decide_eq_true_eq] at surrogate
    rw [List.cons_append, runFatal_three (by omega) (by omega),
      runFatal_more_iff rfl]
    refine ⟨_, _, rfl, ?_, ?_⟩
    · simp only [← UInt8.toNat_inj, apply_ite UInt8.toNat, lead,
        UInt8.toNat_ofNat', UInt8.reduceToNat]
      split_ifs <;> omega
    · rw [runFatal_last_iff rfl]
      refine ⟨_, bytes, codes, rfl, ?_, further, ?_⟩
      · simp only [UInt8.toNat_ofNat', UInt8.reduceToNat]
        omega
      · congr 1
        simp only [UInt8.toNat_ofNat', lead]
        omega
  · have lead : (UInt8.ofNat (0xf0 + code / 0x40000)).toNat =
        0xf0 + code / 0x40000 := by
      rw [UInt8.toNat_ofNat']
      omega
    rw [List.cons_append, runFatal_four (by omega) (by omega),
      runFatal_more_iff rfl]
    refine ⟨_, _, rfl, ?_, ?_⟩
    · simp only [← UInt8.toNat_inj, apply_ite UInt8.toNat, lead,
        UInt8.toNat_ofNat', UInt8.reduceToNat]
      split_ifs <;> omega
    · rw [runFatal_more_iff rfl]
      refine ⟨_, _, rfl, ?_, ?_⟩
      · simp only [UInt8.toNat_ofNat', UInt8.reduceToNat]
        omega
      · rw [runFatal_last_iff rfl]
        refine ⟨_, bytes, codes, rfl, ?_, further, ?_⟩
        · simp only [UInt8.toNat_ofNat', UInt8.reduceToNat]
          omega
        · congr 1
          simp only [UInt8.toNat_ofNat', lead]
          omega

theorem runFatal_iff :
    ready.runFatal bytes = some codes ↔ (∀ code ∈ codes, IsScalar code) ∧
      bytes = codes.flatMap encodeCodePoint := by
  constructor
  · exact encoding_of_runFatal
  · rintro ⟨scalars, rfl⟩
    induction codes with
    | nil => rfl
    | cons code codes induction =>
        obtain ⟨scalar, scalars⟩ := List.forall_mem_cons.mp scalars
        exact runFatal_encodeCodePoint scalar (induction scalars)

end Scalars

/-- A byte order mark at the beginning is not part of a text. -/
def withoutMark : List Nat → List Nat
  | 0xfeff :: codes => codes
  | codes => codes

/-- `new TextDecoder("utf-8", { fatal: true })`. -/
def decodeFatal (bytes : List UInt8) : Option JsString :=
  (Decoder.ready.runFatal bytes).map
    (fun codes => (withoutMark codes).flatMap ofCodePoint)

/-- Bytes that are the encoding of scalar values, and their text. -/
def Denotes (bytes : List UInt8) (text : JsString) : Prop :=
  ∃ codes, (∀ code ∈ codes, IsScalar code) ∧
    bytes = codes.flatMap encodeCodePoint ∧
      text = (withoutMark codes).flatMap ofCodePoint

theorem decodeFatal_iff {bytes : List UInt8} {text : JsString} :
    decodeFatal bytes = some text ↔ Denotes bytes text := by
  rw [decodeFatal, Option.map_eq_some_iff]
  constructor
  · rintro ⟨codes, decoded, rfl⟩
    obtain ⟨scalars, encoded⟩ := runFatal_iff.mp decoded
    exact ⟨codes, scalars, encoded, rfl⟩
  · rintro ⟨codes, scalars, encoded, rfl⟩
    exact ⟨codes, runFatal_iff.mpr ⟨scalars, encoded⟩, rfl⟩

/-- The scalar values of a text, in which U+FFFD stands for every surrogate
without its partner. -/
def scalarValues : JsString → List Nat
  | [] => []
  | [unit] =>
      if isHighSurrogate unit || isLowSurrogate unit then [0xfffd]
      else [unit.toNat]
  | first :: second :: rest =>
      if isHighSurrogate first then
        if isLowSurrogate second then
          (0x10000 + first.toNat % 0x400 * 0x400 + second.toNat % 0x400) ::
            scalarValues rest
        else
          0xfffd :: scalarValues (second :: rest)
      else if isLowSurrogate first then
        0xfffd :: scalarValues (second :: rest)
      else
        first.toNat :: scalarValues (second :: rest)

/-- `new TextEncoder().encode`. -/
def textEncode (text : JsString) : List UInt8 :=
  (scalarValues text).flatMap encodeCodePoint

section Lengths

variable {text : JsString} {code : Nat}

/-- A code point of the iterator, made a scalar value. -/
def toScalar (code : Nat) : Nat :=
  if 0xd800 ≤ code && code ≤ 0xdfff then 0xfffd else code

private theorem toScalar_of_surrogate {unit : CodeUnit}
    (surrogate : isHighSurrogate unit = true ∨ isLowSurrogate unit = true) :
    toScalar unit.toNat = 0xfffd := by
  simp only [isHighSurrogate, isLowSurrogate, Bool.and_eq_true,
    decide_eq_true_eq, UInt16.le_iff_toNat_le, UInt16.reduceToNat]
    at surrogate
  exact if_pos (by simp; omega)

private theorem toScalar_of_unit {unit : CodeUnit}
    (high : isHighSurrogate unit = false) (low : isLowSurrogate unit = false) :
    toScalar unit.toNat = unit.toNat := by
  simp only [isHighSurrogate, isLowSurrogate, Bool.and_eq_false_iff,
    decide_eq_false_iff_not, UInt16.le_iff_toNat_le, UInt16.reduceToNat]
    at high low
  exact if_neg (by simp; omega)

private theorem toScalar_of_large (large : 0x10000 ≤ code) :
    toScalar code = code := by
  apply if_neg
  simp only [Bool.and_eq_true, decide_eq_true_eq]
  omega

private theorem toScalar_of_pair {first second : CodeUnit}
    (high : isHighSurrogate first = true)
    (low : isLowSurrogate second = true) :
    toScalar ((first.toNat - 0xd800) * 0x400 + (second.toNat - 0xdc00) +
        0x10000) =
      0x10000 + first.toNat % 0x400 * 0x400 + second.toNat % 0x400 := by
  simp only [isHighSurrogate, isLowSurrogate, Bool.and_eq_true,
    decide_eq_true_eq, UInt16.le_iff_toNat_le, UInt16.reduceToNat]
    at high low
  rw [toScalar_of_large (by omega)]
  omega

theorem scalarValues_eq : scalarValues text = (codePoints text).map toScalar := by
  induction text using codePoints.induct with
  | case1 => rfl
  | case2 unit =>
      rw [scalarValues, codePoints, List.map_singleton]
      split
      · rename_i surrogate
        rw [toScalar_of_surrogate (Bool.or_eq_true_iff.mp surrogate)]
      · rename_i plain
        rw [Bool.not_eq_true, Bool.or_eq_false_iff] at plain
        rw [toScalar_of_unit plain.1 plain.2]
  | case3 first second rest surrogates induction =>
      rw [codePoints, if_pos surrogates, List.map_cons, ← induction]
      obtain ⟨high, low⟩ := Bool.and_eq_true_iff.mp surrogates
      rw [scalarValues, if_pos high, if_pos low, toScalar_of_pair high low]
  | case4 first second rest single induction =>
      rw [codePoints, if_neg single, List.map_cons, ← induction]
      rw [scalarValues]
      split
      · rename_i high
        have unpaired : isLowSurrogate second ≠ true := by
          simpa [high] using single
        rw [if_neg unpaired, toScalar_of_surrogate (.inl high)]
      · rename_i notHigh
        split
        · rename_i low
          rw [toScalar_of_surrogate (.inr low)]
        · rename_i notLow
          rw [toScalar_of_unit (Bool.eq_false_iff.mpr notHigh)
            (Bool.eq_false_iff.mpr notLow)]

theorem length_encodeCodePoint :
    (encodeCodePoint code).length =
      if code ≤ 0x7f then 1 else if code ≤ 0x7ff then 2
      else if code ≤ 0xffff then 3 else 4 := by
  unfold encodeCodePoint
  split_ifs with one two surrogate three <;>
    simp only [Bool.and_eq_true, decide_eq_true_eq, List.length_cons,
      List.length_nil] at * <;> omega

theorem length_encode_toScalar :
    (encodeCodePoint (toScalar code)).length =
      (encodeCodePoint code).length := by
  unfold toScalar
  split
  · rename_i surrogate
    simp only [Bool.and_eq_true, decide_eq_true_eq] at surrogate
    rw [length_encodeCodePoint, length_encodeCodePoint, if_neg (by omega),
      if_neg (by omega), if_pos (by omega), if_neg (by omega),
      if_neg (by omega), if_pos (by omega)]
  · rfl

theorem length_textEncode :
    (textEncode text).length =
      ((codePoints text).map (fun code => (encodeCodePoint code).length)).sum := by
  rw [textEncode, scalarValues_eq, List.flatMap_map, List.length_flatMap]
  simp only [length_encode_toScalar]

end Lengths

end Utf8

end EcmaScript
