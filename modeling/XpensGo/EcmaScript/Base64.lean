import XpensGo.EcmaScript.Value
import Mathlib.Logic.Function.Basic

/-!
# Base64

`btoa` writes three bytes as four units of six bits each and pads the last
group.  `octets` reads the groups of six bits back, so that no two byte strings
have the same groups.
-/

namespace EcmaScript

namespace Base64

/-- The unit of a group of six bits. -/
def digit (sextet : Nat) : CodeUnit :=
  if sextet < 26 then UInt16.ofNat (0x41 + sextet)
  else if sextet < 52 then UInt16.ofNat (0x61 + (sextet - 26))
  else if sextet < 62 then UInt16.ofNat (0x30 + (sextet - 52))
  else if sextet = 62 then 0x2b
  else 0x2f

/-- The sign `=`. -/
def pad : CodeUnit := 0x3d

/-- The groups of six bits, where zeros complete the last one. -/
def sextets : List UInt8 → List Nat
  | [] => []
  | [first] => [first.toNat / 4, first.toNat % 4 * 16]
  | [first, second] =>
      [first.toNat / 4, first.toNat % 4 * 16 + second.toNat / 16,
        second.toNat % 16 * 4]
  | first :: second :: third :: rest =>
      [first.toNat / 4, first.toNat % 4 * 16 + second.toNat / 16,
        second.toNat % 16 * 4 + third.toNat / 64, third.toNat % 64] ++
          sextets rest

/-- How many units are missing in the last group of four. -/
def missing (bytes : List UInt8) : Nat :=
  (3 - bytes.length % 3) % 3

/-- The bytes of groups of six bits. -/
def octets : List Nat → List UInt8
  | [first, second] => [UInt8.ofNat (first * 4 + second / 16)]
  | [first, second, third] =>
      [UInt8.ofNat (first * 4 + second / 16),
        UInt8.ofNat (second % 16 * 16 + third / 4)]
  | first :: second :: third :: fourth :: rest =>
      [UInt8.ofNat (first * 4 + second / 16),
        UInt8.ofNat (second % 16 * 16 + third / 4),
        UInt8.ofNat (third % 4 * 64 + fourth)] ++ octets rest
  | _ => []

private theorem ofNat_eq {value : Nat} {byte : UInt8}
    (same : value = byte.toNat) : UInt8.ofNat value = byte := by
  rw [same]
  exact UInt8.ofNat_toNat

private theorem first_octet (first second : UInt8) :
    UInt8.ofNat (first.toNat / 4 * 4 +
      (first.toNat % 4 * 16 + second.toNat / 16) / 16) = first := by
  have bounded := second.toNat_lt
  exact ofNat_eq (by omega)

private theorem second_octet (first second third : UInt8) :
    UInt8.ofNat ((first.toNat % 4 * 16 + second.toNat / 16) % 16 * 16 +
      (second.toNat % 16 * 4 + third.toNat / 64) / 4) = second := by
  have bounded := second.toNat_lt
  have bounded' := third.toNat_lt
  exact ofNat_eq (by omega)

private theorem third_octet (second third : UInt8) :
    UInt8.ofNat ((second.toNat % 16 * 4 + third.toNat / 64) % 4 * 64 +
      third.toNat % 64) = third := by
  have bounded := third.toNat_lt
  exact ofNat_eq (by omega)

theorem octets_sextets (bytes : List UInt8) :
    octets (sextets bytes) = bytes := by
  induction bytes using sextets.induct with
  | case1 => rfl
  | case2 first =>
      have alone := first_octet first 0
      simp only [UInt8.toNat_zero, Nat.zero_div, Nat.add_zero] at alone
      rw [sextets, octets, alone]
  | case3 first second =>
      have last := second_octet first second 0
      simp only [UInt8.toNat_zero, Nat.zero_div, Nat.add_zero] at last
      rw [sextets, octets, first_octet, last]
  | case4 first second third rest induction =>
      rw [sextets, List.cons_append, List.cons_append, List.cons_append,
        List.cons_append, List.nil_append, octets, induction, first_octet,
        second_octet, third_octet]
      rfl

theorem sextets_injective : Function.Injective sextets :=
  Function.LeftInverse.injective octets_sextets

theorem length_sextets (bytes : List UInt8) :
    (sextets bytes).length = (4 * bytes.length + 2) / 3 := by
  induction bytes using sextets.induct with
  | case1 => rfl
  | case2 first => simp [sextets]
  | case3 first second => simp [sextets]
  | case4 first second third rest induction =>
      rw [sextets, List.length_append, induction]
      simp only [List.length_cons, List.length_nil]
      omega

theorem lt_of_mem_sextets {bytes : List UInt8} {sextet : Nat}
    (member : sextet ∈ sextets bytes) : sextet < 64 := by
  induction bytes using sextets.induct with
  | case1 => cases member
  | case2 first =>
      have bounded := first.toNat_lt
      simp only [sextets, List.mem_cons, List.not_mem_nil, or_false] at member
      omega
  | case3 first second =>
      have bounded := first.toNat_lt
      have bounded' := second.toNat_lt
      simp only [sextets, List.mem_cons, List.not_mem_nil, or_false] at member
      omega
  | case4 first second third rest induction =>
      have bounded := first.toNat_lt
      have bounded' := second.toNat_lt
      have bounded'' := third.toNat_lt
      rcases List.mem_append.mp member with group | later
      · simp only [List.mem_cons, List.not_mem_nil, or_false] at group
        omega
      · exact induction later

end Base64

/-- `btoa` of the binary string of these bytes. -/
def btoa (bytes : List UInt8) : JsString :=
  (Base64.sextets bytes).map Base64.digit ++
    List.replicate (Base64.missing bytes) Base64.pad

end EcmaScript
