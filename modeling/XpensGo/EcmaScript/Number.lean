import Mathlib.Data.List.Infix
import Mathlib.Data.Rat.Floor
import XpensGo.EcmaScript.Calendar
import XpensGo.EcmaScript.RegExp
import XpensGo.EcmaScript.WhiteSpace

/-!
# Numbers

The values of `Number(text)`, with the built-in functions that the program
relies on, and the lower case of text as far as it is compared with ASCII words.
Natural numbers up to `Number.MAX_SAFE_INTEGER` are represented exactly; a
larger one is rounded to 53 significant bits, and `parseInt` reads the digits at
the beginning of a text.
-/

namespace EcmaScript

/-- Numbers, without the sign of zero. -/
inductive JsNumber where
  | nan
  | infinite (negative : Bool)
  | finite (value : Rat)
  deriving DecidableEq

/-- `Number(text)` and the product of two numbers, which is rounded.  A text of
white space is read as zero. -/
structure NumberBuiltins where
  number : JsString → JsNumber
  multiply : JsNumber → JsNumber → JsNumber
  number_blank : ∀ text, text.all isWhiteSpace = true →
    number text = .finite 0

/-- `Number.isFinite`. -/
def JsNumber.isFinite : JsNumber → Bool
  | .finite _ => true
  | .nan | .infinite _ => false

namespace JsString

/-- `A` to `Z` in lower case.  Of all other characters only U+0130 and U+212A have
an ASCII letter in their lower case, an `i` before a combining dot and a `k`; no
word that the program looks for ends in `i` or has a `k`. -/
def lowerUnit (unit : CodeUnit) : CodeUnit :=
  if 0x41 ≤ unit && unit ≤ 0x5a then unit + 0x20 else unit

/-- `toLowerCase`, up to the two characters above. -/
def toLowerCase (text : JsString) : JsString :=
  text.map lowerUnit

/-- The word occurs in the text. -/
def includes (text word : JsString) : Bool :=
  decide (word <:+: text)

theorem infix_append_cons {word left right : JsString} {separator : CodeUnit}
    (apart : separator ∉ word)
    (occurs : word <:+: left ++ separator :: right) :
    word <:+: left ∨ word <:+: right := by
  obtain ⟨before, after, split⟩ := occurs
  rw [List.append_assoc] at split
  rcases List.append_eq_append_iff.mp split with
    ⟨middle, whole, parts⟩ | ⟨middle, whole, parts⟩
  · rcases List.append_eq_append_iff.mp parts with
      ⟨rest, whole', _⟩ | ⟨rest, whole', parts'⟩
    · subst whole'
      exact .inl ⟨before, rest, by simp [whole]⟩
    · cases rest with
      | nil =>
          simp only [List.append_nil] at whole'
          subst whole'
          exact .inl ⟨before, [], by simp [whole]⟩
      | cons unit rest =>
          simp only [List.cons_append, List.cons.injEq] at parts'
          apply (apart ?_).elim
          rw [whole', parts'.1]
          simp
  · cases middle with
    | nil =>
        simp only [List.append_nil, List.nil_append] at whole parts
        cases word with
        | nil => exact .inl (List.nil_infix)
        | cons unit word =>
            simp only [List.cons_append, List.cons.injEq] at parts
            apply (apart ?_).elim
            rw [parts.1]
            exact List.mem_cons_self
    | cons unit middle =>
        simp only [List.cons_append, List.cons.injEq] at parts
        exact .inr ⟨middle, after, by simp [parts.2]⟩

end JsString

/-- `Number.MAX_SAFE_INTEGER`. -/
def maxSafeInteger : Nat := 9007199254740991

/-- The number that represents a natural number: 53 significant bits, to the
nearest, ties to even. -/
def roundNat (value : Nat) : Nat :=
  let unit := 2 ^ (value.log2 - 52)
  let quotient := value / unit
  let remainder := value % unit
  if unit < 2 * remainder ∨ unit = 2 * remainder ∧ quotient % 2 = 1 then
    (quotient + 1) * unit
  else
    quotient * unit

section Rounding

variable {value : Nat}

theorem roundNat_of_le (safe : value ≤ maxSafeInteger) :
    roundNat value = value := by
  have small : value.log2 < 53 := by
    by_cases zero : value = 0
    · subst zero
      decide
    · apply (Nat.log2_lt zero).mpr
      unfold maxSafeInteger at safe
      omega
  have unit : value.log2 - 52 = 0 := by omega
  simp [roundNat, unit, Nat.mod_one]

theorem lt_roundNat (large : maxSafeInteger < value) :
    maxSafeInteger < roundNat value := by
  have nonzero : value ≠ 0 := by
    unfold maxSafeInteger at large
    omega
  have bits : 53 ≤ value.log2 := by
    apply (Nat.le_log2 nonzero).mpr
    unfold maxSafeInteger at large
    omega
  have split : 2 ^ value.log2 = 2 ^ 52 * 2 ^ (value.log2 - 52) := by
    rw [← Nat.pow_add]
    congr 1
    omega
  have quotient : 2 ^ 52 ≤ value / 2 ^ (value.log2 - 52) := by
    rw [Nat.le_div_iff_mul_le (Nat.two_pow_pos _), ← split]
    exact Nat.log2_self_le nonzero
  have rounded : 2 ^ value.log2 ≤ roundNat value := by
    unfold roundNat
    rw [split]
    dsimp only
    split
    · exact Nat.mul_le_mul_right _ (by omega)
    · exact Nat.mul_le_mul_right _ quotient
  have power : 2 ^ 53 ≤ 2 ^ value.log2 :=
    Nat.pow_le_pow_right (by decide) bits
  unfold maxSafeInteger
  omega

end Rounding

/-- `Number.parseInt(text, 10)`. -/
def parseInt (text : JsString) : JsNumber :=
  let trimmed := text.dropWhile isWhiteSpace
  let negative := trimmed.head? = some 0x2d
  let unsigned :=
    if negative ∨ trimmed.head? = some 0x2b then trimmed.drop 1 else trimmed
  let digits := unsigned.takeWhile isDigit
  let magnitude := roundNat (Calendar.numeral digits)
  if digits = [] then .nan
  else if 2 ^ 1024 ≤ magnitude then .infinite negative
  else .finite (if negative then -magnitude else magnitude)

end EcmaScript
