import XpensGo.EcmaScript.TextCodec
import XpensGo.Model.Store

/-!
# The size of an input

`utf8ByteLength` counts by code points what the encoder writes, so that an
accepted input is within the bytes of its profile and within the characters of
its column.
-/

namespace XpensGo

open EcmaScript Postgres JsString

section Bytes

variable {text : JsString}

private theorem foldl_add (size : Nat → Nat) (codePoints : List Nat)
    (counted : Nat) :
    codePoints.foldl (fun length codePoint => length + size codePoint) counted =
      counted + (codePoints.map size).sum := by
  induction codePoints generalizing counted with
  | nil => rfl
  | cons codePoint codePoints induction =>
      rw [List.foldl_cons, induction, List.map_cons, List.sum_cons,
        Nat.add_assoc]

theorem utf8ByteLength_eq (text : JsString) :
    utf8ByteLength text = (Utf8.textEncode text).length := by
  rw [Utf8.length_textEncode, utf8ByteLength, foldl_add, Nat.zero_add]
  simp only [Utf8.length_encodeCodePoint]

theorem codePoints_length_le_utf8ByteLength (text : JsString) :
    (codePoints text).length ≤ utf8ByteLength text := by
  rw [utf8ByteLength_eq, Utf8.length_textEncode,
    ← List.length_map (fun code => (Utf8.encodeCodePoint code).length)]
  apply List.length_le_sum_of_one_le
  intro size member
  obtain ⟨code, _, rfl⟩ := List.mem_map.mp member
  exact List.length_pos_iff.mpr Utf8.encodeCodePoint_ne_nil

theorem codePoints_length_pos (nonempty : 1 ≤ text.length) :
    1 ≤ (codePoints text).length := by
  cases text with
  | nil => cases nonempty
  | cons first rest =>
      cases rest with
      | nil => simp [codePoints]
      | cons second rest =>
          unfold codePoints
          split <;> simp

end Bytes

section Gate

variable {request : PrepareModelOperationRequest}
  {input : PrepareModelOperationStoreInput}

private theorem profile_input_bounded (operation : ModelOperationName) :
    (modelOperationProfiles operation).maximumInputUtf8Bytes ≤ 32768 := by
  cases operation <;> decide

theorem inputBounded_of_accepted {clock : DatabaseClock}
    (accepted : request.storeInput = .ok input) :
    (input.preparedRow clock).inputBounded = true := by
  have sent := storeInput_eq_ok accepted
  have bounded := sent.bounded
  have fits := profile_input_bounded input.operation
  have points := codePoints_length_le_utf8ByteLength input.canonicalInput
  have small : (codePoints input.canonicalInput).length ≤ 32768 := by
    omega
  simp [ModelOperationRow.inputBounded,
    PrepareModelOperationStoreInput.preparedRow,
    codePoints_length_pos sent.nonempty, small]

/-- `utf8ByteLength` measures what the encoder writes of any text, and every
input that reaches the store is within the bytes of its profile and within the
constraint of its column. -/
theorem input_sizes_measured :
    (∀ text, utf8ByteLength text = (Utf8.textEncode text).length) ∧
    ∀ request input, PrepareModelOperationRequest.storeInput request =
        .ok input →
      input.canonicalInput = request.canonicalInput ∧
      input.operation = request.operation ∧ input.canonicalInput ≠ [] ∧
      (Utf8.textEncode input.canonicalInput).length ≤
        (modelOperationProfiles input.operation).maximumInputUtf8Bytes ∧
      1 ≤ (Utf8.scalarValues input.canonicalInput).length ∧
      (Utf8.scalarValues input.canonicalInput).length ≤ 32768 ∧
      ∀ clock, (input.preparedRow clock).inputBounded = true := by
  refine ⟨utf8ByteLength_eq, ?_⟩
  intro request input accepted
  have sent := storeInput_eq_ok accepted
  have bounded := sent.bounded
  have fits := profile_input_bounded input.operation
  have points := codePoints_length_le_utf8ByteLength input.canonicalInput
  have characters : (Utf8.scalarValues input.canonicalInput).length =
      (codePoints input.canonicalInput).length := by
    rw [Utf8.scalarValues_eq, List.length_map]
  refine ⟨sent.canonicalInput, sent.operation,
    List.length_pos_iff.mp sent.nonempty, ?_, ?_, ?_,
    fun _ => inputBounded_of_accepted accepted⟩
  · rw [← utf8ByteLength_eq]
    exact bounded
  · rw [characters]
    exact codePoints_length_pos sent.nonempty
  · omega

/-- A request whose input is a surrogate without its partner. -/
def surrogateRequest : PrepareModelOperationRequest :=
  { budgetPolicy := none
    canonicalInput := [0xd83d]
    inputDigest := List.replicate 64 0x61
    operation := .querySlots
    operationId := ⟨2⟩
    provider := .openai
    userId := ⟨1⟩ }

theorem input_sizes_measured_surrogate :
    utf8ByteLength surrogateRequest.canonicalInput = 3 ∧
      ∃ input, surrogateRequest.storeInput = .ok input ∧
        Utf8.textEncode input.canonicalInput = [0xef, 0xbf, 0xbd] ∧
          (Utf8.textEncode input.canonicalInput).length ≤ 1200 := by
  refine ⟨input_sizes_measured.1 surrogateRequest.canonicalInput, ?_⟩
  cases answered : surrogateRequest.storeInput with
  | error failure =>
      have accepted : surrogateRequest.storeInput.isOk = true := by
        decide +kernel
      rw [answered] at accepted
      cases accepted
  | ok input =>
      obtain ⟨sameInput, sameOperation, _, bounded, _⟩ :=
        input_sizes_measured.2 surrogateRequest input answered
      rw [sameOperation] at bounded
      refine ⟨input, rfl, ?_, bounded⟩
      rw [sameInput]
      rfl

end Gate

end XpensGo
