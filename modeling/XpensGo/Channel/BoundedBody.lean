import XpensGo.Channel.TelegramWebhook

/-!
# Bounded bodies

A body is read chunk by chunk and assembled afterwards.  The result depends on
its bytes only, and not on the chunks in which they arrive.
-/

namespace XpensGo

open EcmaScript JsString

/-- The bytes of the body of a request, in whatever chunks they arrive. -/
def TelegramWebhookRequest.Carries (request : TelegramWebhookRequest)
    (bytes : Bytes) : Prop :=
  match request.body with
  | none => bytes = []
  | some stream =>
      ∃ chunks : List Bytes, stream = chunks.map some ∧ chunks.flatten = bytes

/-- A declared or an actual length over the maximum.  A header of which
`parseInt` makes no finite number declares no length. -/
def ExceedsMaximum (maximumBodyBytes : Nat) (contentLength : Option JsString)
    (bytes : Bytes) : Prop :=
  (∃ declaredLength parsedLength, contentLength = some declaredLength ∧
    parseInt declaredLength = .finite parsedLength ∧
      (maximumBodyBytes : Rat) < parsedLength) ∨
    maximumBodyBytes < bytes.length

section Reading

variable {maximumBodyBytes : Nat} {buffer : BodyBuffer}
  {chunks kept : List Bytes} {chunk : Bytes} {stream : List (Option Bytes)}

/-- The loop has counted the bytes it keeps, and they are within the maximum. -/
structure BodyBuffer.Within (maximumBodyBytes : Nat) (buffer : BodyBuffer) :
    Prop where
  counted : buffer.totalBytes = buffer.chunks.flatten.length
  bounded : buffer.totalBytes ≤ maximumBodyBytes

private theorem within_empty : BodyBuffer.Within maximumBodyBytes {} :=
  ⟨rfl, Nat.zero_le _⟩

private theorem BodyBuffer.Within.push (within : buffer.Within maximumBodyBytes)
    (fits : buffer.totalBytes + chunk.length ≤ maximumBodyBytes) :
    BodyBuffer.Within maximumBodyBytes
      { chunks := buffer.chunks ++ [chunk]
        totalBytes := buffer.totalBytes + chunk.length } where
  counted := by
    simp [within.counted]
  bounded := fits

theorem readStream_kept (within : buffer.Within maximumBodyBytes) :
    (readStream maximumBodyBytes buffer stream).buffer.chunks.flatten.length ≤
      maximumBodyBytes := by
  have keeps := within.counted ▸ within.bounded
  induction stream generalizing buffer with
  | nil => exact keeps
  | cons next stream induction =>
      cases next with
      | none => exact keeps
      | some chunk =>
          simp only [readStream]
          split
          · exact keeps
          · rename_i fits
            have pushed := within.push (Nat.not_lt.mp fits)
            exact induction pushed (pushed.counted ▸ pushed.bounded)

theorem readStream_done
    (fits : buffer.totalBytes + chunks.flatten.length ≤ maximumBodyBytes) :
    readStream maximumBodyBytes buffer (chunks.map some) =
      { buffer :=
          { chunks := buffer.chunks ++ chunks
            totalBytes := buffer.totalBytes + chunks.flatten.length }
        ending := .done
        unread := [] } := by
  induction chunks generalizing buffer with
  | nil => simp [readStream]
  | cons chunk chunks induction =>
      rw [List.flatten_cons, List.length_append] at fits
      rw [List.map_cons, readStream, if_neg (by omega),
        induction (by simpa [Nat.add_assoc] using fits)]
      simp [Nat.add_assoc]

/-- The loop ends at the chunk that exceeds the maximum. -/
theorem readStream_exceeded
    (fits : buffer.totalBytes + kept.flatten.length ≤ maximumBodyBytes)
    (exceeds : maximumBodyBytes <
      buffer.totalBytes + kept.flatten.length + chunk.length) :
    readStream maximumBodyBytes buffer (kept.map some ++ some chunk :: stream) =
      { buffer :=
          { chunks := buffer.chunks ++ kept
            totalBytes :=
              buffer.totalBytes + kept.flatten.length + chunk.length }
        ending := .exceeded
        unread := stream } := by
  induction kept generalizing buffer with
  | nil =>
      rw [List.flatten_nil, List.length_nil, Nat.add_zero] at exceeds
      rw [List.map_nil, List.nil_append, readStream, if_pos exceeds]
      simp
  | cons first kept induction =>
      rw [List.flatten_cons, List.length_append] at fits exceeds
      rw [List.map_cons, List.cons_append, readStream, if_neg (by omega),
        induction (by simp only; omega) (by simp only; omega)]
      simp [Nat.add_assoc]

theorem readStream_of_fits
    (fits : chunks.flatten.length ≤ maximumBodyBytes) :
    readStream maximumBodyBytes {} (chunks.map some) =
      { buffer :=
          { chunks := chunks
            totalBytes := chunks.flatten.length }
        ending := .done
        unread := [] } := by
  rw [@readStream_done maximumBodyBytes {} chunks (by simp only; omega)]
  simp only [List.nil_append, Nat.zero_add]

theorem readStream_of_exceeds
    (fits : kept.flatten.length ≤ maximumBodyBytes)
    (exceeds : maximumBodyBytes < kept.flatten.length + chunk.length) :
    readStream maximumBodyBytes {} (kept.map some ++ some chunk :: stream) =
      { buffer :=
          { chunks := kept
            totalBytes := kept.flatten.length + chunk.length }
        ending := .exceeded
        unread := stream } := by
  rw [@readStream_exceeded maximumBodyBytes {} kept chunk stream
    (by simp only; omega) (by simp only; omega)]
  simp only [List.nil_append, Nat.zero_add]

/-- Among too many bytes one chunk is the first to exceed the maximum. -/
theorem exists_exceeding {counted : Nat} (fits : counted ≤ maximumBodyBytes)
    (exceeds : maximumBodyBytes < counted + chunks.flatten.length) :
    ∃ kept chunk rest, chunks = kept ++ chunk :: rest ∧
      counted + kept.flatten.length ≤ maximumBodyBytes ∧
        maximumBodyBytes < counted + kept.flatten.length + chunk.length := by
  induction chunks generalizing counted with
  | nil =>
      rw [List.flatten_nil, List.length_nil] at exceeds
      omega
  | cons chunk chunks induction =>
      rw [List.flatten_cons, List.length_append] at exceeds
      by_cases first : maximumBodyBytes < counted + chunk.length
      · exact ⟨[], chunk, chunks, rfl, by simpa, by simpa⟩
      · obtain ⟨kept, exceeding, rest, rfl, keeps, passes⟩ :=
          @induction (counted + chunk.length) (by omega) (by omega)
        refine ⟨chunk :: kept, exceeding, rest, rfl, ?_, ?_⟩
        · rw [List.flatten_cons, List.length_append]
          omega
        · rw [List.flatten_cons, List.length_append]
          omega

end Reading

section Assembly

variable {written chunk : Bytes} {chunks : List Bytes} {room : Nat}

private theorem setBytes_eq (fits : chunk.length ≤ room) :
    setBytes (written ++ List.replicate room 0) chunk written.length =
      some ((written ++ chunk) ++ List.replicate (room - chunk.length) 0) := by
  rw [setBytes, if_pos (by simpa using fits), List.take_left,
    List.drop_append, List.drop_replicate]
  simp

theorem assembleBody_eq :
    assembleBody (written ++ List.replicate chunks.flatten.length 0)
        written.length chunks = some (written ++ chunks.flatten) := by
  induction chunks generalizing written with
  | nil => simp [assembleBody]
  | cons chunk chunks induction =>
      have fits : chunk.length ≤ (chunk :: chunks).flatten.length := by
        simp
      have remaining : (chunk :: chunks).flatten.length - chunk.length =
          chunks.flatten.length := by
        simp
      have further := @induction (written ++ chunk)
      rw [List.length_append] at further
      rw [assembleBody, setBytes_eq fits, remaining]
      simpa using further

end Assembly

section Body

variable {request : TelegramWebhookRequest} {maximumBodyBytes : Nat}
  {bytes : Bytes}

private theorem readBoundedBody_of_fits {chunks : List Bytes}
    (declared : declaredTooLarge maximumBodyBytes request.contentLength = false)
    (streamed : request.body = some (chunks.map some))
    (fits : chunks.flatten.length ≤ maximumBodyBytes) :
    readBoundedBody request maximumBodyBytes =
      some (decodeBody chunks.flatten) := by
  have assembled := @assembleBody_eq [] chunks
  rw [List.nil_append, List.length_nil, List.nil_append] at assembled
  simp only [readBoundedBody, declared, streamed, readStream_of_fits fits,
    assembled]
  rfl

private theorem readBoundedBody_of_exceeds {chunks : List Bytes}
    (streamed : request.body = some (chunks.map some))
    (exceeds : maximumBodyBytes < chunks.flatten.length) :
    readBoundedBody request maximumBodyBytes = some .tooLarge := by
  obtain ⟨kept, chunk, rest, rfl, keeps, passes⟩ :=
    @exists_exceeding maximumBodyBytes chunks 0 (Nat.zero_le _) (by omega)
  rw [Nat.zero_add] at keeps passes
  rw [List.map_append, List.map_cons] at streamed
  rw [readBoundedBody]
  split
  · rfl
  · simp only [streamed, readStream_of_exceeds keeps passes]

/-- The result depends on the header and on the bytes only. -/
theorem readBoundedBody_eq (carried : request.Carries bytes) :
    readBoundedBody request maximumBodyBytes =
      some (if declaredTooLarge maximumBodyBytes request.contentLength = true ∨
          maximumBodyBytes < bytes.length then
        .tooLarge
      else
        decodeBody bytes) := by
  cases declared : declaredTooLarge maximumBodyBytes request.contentLength with
  | true => simp [readBoundedBody, declared]
  | false =>
      unfold TelegramWebhookRequest.Carries at carried
      split at carried
      · rename_i missing
        subst carried
        have empty : Utf8.decodeFatal [] = some [] := rfl
        simp [readBoundedBody, declared, missing, decodeBody, empty]
      · rename_i stream streamed
        obtain ⟨chunks, rfl, rfl⟩ := carried
        by_cases exceeds : maximumBodyBytes < chunks.flatten.length
        · rw [readBoundedBody_of_exceeds streamed exceeds,
            if_pos (.inr exceeds)]
        · rw [readBoundedBody_of_fits declared streamed
            (Nat.not_lt.mp exceeds), if_neg (by simpa using exceeds)]

end Body

section Verdict

variable {request : TelegramWebhookRequest} {maximumBodyBytes : Nat}
  {bytes : Bytes}

private theorem declaredTooLarge_iff {contentLength : Option JsString} :
    declaredTooLarge maximumBodyBytes contentLength = true ↔
      ∃ declaredLength parsedLength, contentLength = some declaredLength ∧
        parseInt declaredLength = .finite parsedLength ∧
          (maximumBodyBytes : Rat) < parsedLength := by
  cases contentLength with
  | none => simp [declaredTooLarge]
  | some declaredLength =>
      cases parsed : parseInt declaredLength <;>
        simp [declaredTooLarge, parsed]

private theorem exceedsMaximum_iff :
    (declaredTooLarge maximumBodyBytes request.contentLength = true ∨
        maximumBodyBytes < bytes.length) ↔
      ExceedsMaximum maximumBodyBytes request.contentLength bytes :=
  or_congr declaredTooLarge_iff Iff.rfl

private theorem read_of_exceeds (carried : request.Carries bytes)
    (exceeds : ExceedsMaximum maximumBodyBytes request.contentLength bytes) :
    readBoundedBody request maximumBodyBytes = some .tooLarge := by
  rw [readBoundedBody_eq carried, if_pos (exceedsMaximum_iff.mpr exceeds)]

private theorem read_of_within (carried : request.Carries bytes)
    (within : ¬ExceedsMaximum maximumBodyBytes request.contentLength bytes) :
    readBoundedBody request maximumBodyBytes = some (decodeBody bytes) := by
  rw [readBoundedBody_eq carried,
    if_neg (fun exceeds => within (exceedsMaximum_iff.mp exceeds))]

private theorem decodeBody_ne_tooLarge : decodeBody bytes ≠ .tooLarge := by
  unfold decodeBody
  split <;> simp

private theorem decodeBody_eq_body_iff {value : JsString} :
    decodeBody bytes = .body value ↔ Utf8.Denotes bytes value := by
  rw [← Utf8.decodeFatal_iff, decodeBody]
  cases Utf8.decodeFatal bytes <;> simp

private theorem decodeBody_eq_malformed_iff :
    decodeBody bytes = .malformed ↔ ∀ value, ¬Utf8.Denotes bytes value := by
  simp only [← Utf8.decodeFatal_iff]
  rw [decodeBody]
  cases Utf8.decodeFatal bytes <;> simp

/-- What is read depends on the header and on the bytes alone: too large, the
text that the bytes denote, or malformed.  The loop keeps no more bytes than the
maximum, and it leaves unread whatever follows the chunk that exceeds it. -/
theorem bounded_body_unchunked (carried : request.Carries bytes) :
    (readBoundedBody request maximumBodyBytes = some .tooLarge ↔
      ExceedsMaximum maximumBodyBytes request.contentLength bytes) ∧
    (∀ value, readBoundedBody request maximumBodyBytes = some (.body value) ↔
      ¬ExceedsMaximum maximumBodyBytes request.contentLength bytes ∧
        Utf8.Denotes bytes value) ∧
    (readBoundedBody request maximumBodyBytes = some .malformed ↔
      ¬ExceedsMaximum maximumBodyBytes request.contentLength bytes ∧
        ∀ value, ¬Utf8.Denotes bytes value) ∧
    (∀ (stream : List (Option Bytes)) (count : Nat),
      (readStream maximumBodyBytes {}
        (stream.take count)).buffer.chunks.flatten.length ≤
          maximumBodyBytes) ∧
    ∀ (kept : List Bytes) (chunk : Bytes) (stream : List (Option Bytes)),
      kept.flatten.length ≤ maximumBodyBytes →
      maximumBodyBytes < kept.flatten.length + chunk.length →
      readStream maximumBodyBytes {} (kept.map some ++ some chunk :: stream) =
        { buffer :=
            { chunks := kept
              totalBytes := kept.flatten.length + chunk.length }
          ending := .exceeded
          unread := stream } := by
  by_cases exceeds :
    ExceedsMaximum maximumBodyBytes request.contentLength bytes
  · have result := read_of_exceeds carried exceeds
    refine ⟨iff_of_true result exceeds, ?_, ?_,
      fun _ _ => readStream_kept within_empty,
      fun _ _ _ => readStream_of_exceeds⟩
    · intro value
      simp [result, exceeds]
    · simp [result, exceeds]
  · have result := read_of_within carried exceeds
    refine ⟨?_, ?_, ?_, fun _ _ => readStream_kept within_empty,
      fun _ _ _ => readStream_of_exceeds⟩
    · rw [result, Option.some.injEq]
      exact iff_of_false decodeBody_ne_tooLarge exceeds
    · intro value
      rw [result, Option.some.injEq, decodeBody_eq_body_iff]
      exact (and_iff_right exceeds).symm
    · rw [result, Option.some.injEq, decodeBody_eq_malformed_iff]
      exact (and_iff_right exceeds).symm

/-- A letter whose two bytes arrive apart. -/
def splitRequest : TelegramWebhookRequest :=
  { secretToken := none
    contentLength := some (ofString "2")
    body := some [some [0xc3], some [], some [0xa9]] }

private theorem splitRequest_carries : splitRequest.Carries [0xc3, 0xa9] :=
  ⟨[[0xc3], [], [0xa9]], rfl, rfl⟩

private theorem splitRequest_within :
    ¬ExceedsMaximum 2 splitRequest.contentLength [0xc3, 0xa9] := by
  have declared : parseInt (ofString "2") = .finite 2 := by
    decide +kernel
  rintro (⟨_, parsedLength, same, parsed, longer⟩ | longer)
  · cases same
    rw [declared] at parsed
    cases parsed
    exact absurd longer (by norm_num)
  · exact absurd longer (by decide)

/-- A maximum that is met exactly, and one that is exceeded. -/
theorem bounded_body_unchunked_split :
    readBoundedBody splitRequest 2 = some (.body [0xe9]) ∧
      readBoundedBody splitRequest 1 = some .tooLarge := by
  constructor
  · apply ((bounded_body_unchunked splitRequest_carries).2.1 [0xe9]).mpr
    exact ⟨splitRequest_within, [0xe9], by decide, by decide, by decide⟩
  · apply (bounded_body_unchunked splitRequest_carries).1.mpr
    exact .inr (by decide)

end Verdict

end XpensGo
