import XpensGo.EcmaScript.Schema
import Mathlib.Data.List.Nodup

/-!
# Queue envelopes

The jobs of the platform queue are JSON objects with four properties: a version,
a kind, the identifier of what the job is about and a correlation identifier.
The consumer refuses every other property.
-/

namespace XpensGo

open EcmaScript

section Identifiers

/-- `[0-9a-f]` of a pattern that ignores case. -/
def isUuidUnit (unit : CodeUnit) : Bool :=
  isDigit unit || (0x61 ≤ unit && unit ≤ 0x66) ||
    (0x41 ≤ unit && unit ≤ 0x46)

def uuidPattern : RegExp :=
  let digits (count : Nat) : RegExp := .repeated isUuidUnit count (some count)
  let dash : RegExp := .literal (.ofString "-")
  .sequence (digits 8) (.sequence dash (.sequence (digits 4)
    (.sequence dash (.sequence (digits 4) (.sequence dash
      (.sequence (digits 4) (.sequence dash (digits 12))))))))

/-- A text that `Schema.UUID` accepts. -/
abbrev UuidText := { text : JsString // uuidPattern.test text = true }

def uuid : Schema.Decoder UuidText :=
  Schema.filtered uuidPattern.test

end Identifiers

section Envelopes

structure PlatformStatusJobV1 where
  jobId : UuidText
  correlationId : UuidText

structure OutboxJobV1 where
  outboxMessageId : UuidText
  correlationId : UuidText

structure ModelOperationJobV1 where
  operationId : UuidText
  correlationId : UuidText

/-- A job of one of the members of `PlatformQueueJobV1`. -/
inductive PlatformQueueJob where
  | platformStatus (job : PlatformStatusJobV1)
  | outbox (job : OutboxJobV1)
  | modelOperation (job : ModelOperationJobV1)

abbrev Property := JsString × JsValue

/-- The properties of a job. -/
def envelope (kind identifier : String) (id correlationId : UuidText) :
    List Property :=
  [(.ofString "version", .number 1),
    (.ofString "kind", .string (.ofString kind)),
    (.ofString identifier, .string id.val),
    (.ofString "correlationId", .string correlationId.val)]

/-- `Schema.Struct` of a job, with `onExcessProperty: "error"`. -/
def decodeEnvelope (kind identifier : String) :
    Schema.Decoder (UuidText × UuidText) := fun value => do
  let fields ← Schema.exactStruct
    (["version", "kind", identifier, "correlationId"].map .ofString) value
  let _ ← Schema.required (.ofString "version") (Schema.literalNumber 1) fields
  let _ ← Schema.required (.ofString "kind")
    (Schema.literal [.ofString kind]) fields
  let id ← Schema.required (.ofString identifier) uuid fields
  let correlationId ←
    Schema.required (.ofString "correlationId") uuid fields
  some (id, correlationId)

def PlatformStatusJobV1.decode : Schema.Decoder PlatformStatusJobV1 :=
  fun value =>
    (decodeEnvelope "platform.status.requested" "jobId" value).map
      (fun ids => ⟨ids.1, ids.2⟩)

def OutboxJobV1.decode : Schema.Decoder OutboxJobV1 :=
  fun value =>
    (decodeEnvelope "outbox.message.ready" "outboxMessageId" value).map
      (fun ids => ⟨ids.1, ids.2⟩)

def ModelOperationJobV1.decode : Schema.Decoder ModelOperationJobV1 :=
  fun value =>
    (decodeEnvelope "model.operation.ready" "operationId" value).map
      (fun ids => ⟨ids.1, ids.2⟩)

/-- `decodeQueueMessage` of a body. -/
def decodeQueueMessage : Schema.Decoder PlatformQueueJob :=
  fun body =>
    ((PlatformStatusJobV1.decode body).map .platformStatus).or
      (((OutboxJobV1.decode body).map .outbox).or
        ((ModelOperationJobV1.decode body).map .modelOperation))

def PlatformStatusJobV1.properties (job : PlatformStatusJobV1) :
    List Property :=
  envelope "platform.status.requested" "jobId" job.jobId job.correlationId

/-- The properties of the job that `publish` sends. -/
def OutboxJobV1.properties (job : OutboxJobV1) : List Property :=
  envelope "outbox.message.ready" "outboxMessageId" job.outboxMessageId
    job.correlationId

def ModelOperationJobV1.properties (job : ModelOperationJobV1) :
    List Property :=
  envelope "model.operation.ready" "operationId" job.operationId
    job.correlationId

def PlatformQueueJob.properties : PlatformQueueJob → List Property
  | .platformStatus job => job.properties
  | .outbox job => job.properties
  | .modelOperation job => job.properties

end Envelopes

section Decoding

variable {fields : List Property} {kind identifier : String}
  {id correlationId : UuidText} {body : JsValue} {job : PlatformQueueJob}

/-- What a struct of a job accepts. -/
theorem decodeEnvelope_eq_some_iff :
    decodeEnvelope kind identifier body = some (id, correlationId) ↔
      ∃ fields, body = .object fields ∧
        (∀ field ∈ fields, field.1 ∈
          ["version", "kind", identifier, "correlationId"].map
            JsString.ofString) ∧
        JsValue.property (.ofString "version") fields = some (.number 1) ∧
        JsValue.property (.ofString "kind") fields =
          some (.string (.ofString kind)) ∧
        JsValue.property (.ofString identifier) fields =
          some (.string id.val) ∧
        JsValue.property (.ofString "correlationId") fields =
          some (.string correlationId.val) := by
  constructor
  · intro decoded
    simp only [decodeEnvelope, Schema.required, Option.bind_eq_bind,
      Option.bind_eq_some_iff] at decoded
    obtain ⟨fields, struct, _, ⟨version, versioned, one⟩,
      kindText, ⟨kindValue, kinded, literal⟩, decodedId,
      ⟨idValue, identified, idText⟩, decodedCorrelation,
      ⟨correlationValue, correlated, correlationText⟩, same⟩ := decoded
    cases same
    obtain ⟨object, named⟩ := Schema.exactStruct_eq_some_iff.mp struct
    obtain ⟨text, listed⟩ := Schema.string_eq_some_iff.mp literal
    have sameKind : kindText = .ofString kind := by simpa using listed
    rw [Schema.literalNumber_eq_some_iff.mp one] at versioned
    rw [text, sameKind] at kinded
    rw [Schema.filtered_eq_some_iff.mp idText] at identified
    rw [Schema.filtered_eq_some_iff.mp correlationText] at correlated
    exact ⟨fields, object, named, versioned, kinded, identified, correlated⟩
  · rintro ⟨fields, rfl, named, versioned, kinded, identified, correlated⟩
    have struct := Schema.exactStruct_eq_some_iff.mpr ⟨rfl, named⟩
    have literal : Schema.literal [.ofString kind]
        (.string (.ofString kind)) = some (.ofString kind) :=
      Schema.string_eq_some_iff.mpr ⟨rfl, by simp⟩
    have one : Schema.literalNumber 1 (.number 1) = some () := rfl
    have idText : uuid (.string id.val) = some id :=
      Schema.filtered_eq_some_iff.mpr rfl
    have correlationText :
        uuid (.string correlationId.val) = some correlationId :=
      Schema.filtered_eq_some_iff.mpr rfl
    simp only [decodeEnvelope, struct, Schema.required, versioned, kinded,
      identified, correlated, Option.bind_eq_bind, Option.bind_some, one,
      literal, idText, correlationText]

theorem decodeEnvelope_object
    (names : (["version", "kind", identifier, "correlationId"].map
      JsString.ofString).Nodup)
    (distinct : (fields.map Prod.fst).Nodup) :
    decodeEnvelope kind identifier (.object fields) =
        some (id, correlationId) ↔
      fields.Perm (envelope kind identifier id correlationId) := by
  have envelopeNames :
      ((envelope kind identifier id correlationId).map Prod.fst).Nodup :=
    names
  rw [decodeEnvelope_eq_some_iff,
    List.perm_ext_iff_of_nodup (List.Nodup.of_map _ distinct)
      (List.Nodup.of_map _ envelopeNames)]
  constructor
  · rintro ⟨found, same, named, versioned, kinded, identified, correlated⟩
    cases same
    rintro ⟨name, value⟩
    constructor
    · intro member
      have found := JsValue.property_of_mem distinct member
      have listed := named _ member
      simp only [List.map_cons, List.map_nil, List.mem_cons,
        List.not_mem_nil, or_false] at listed
      rcases listed with rfl | rfl | rfl | rfl
      · rw [versioned] at found
        cases found
        exact List.mem_cons_self
      · rw [kinded] at found
        cases found
        exact List.mem_cons_of_mem _ List.mem_cons_self
      · rw [identified] at found
        cases found
        simp [envelope]
      · rw [correlated] at found
        cases found
        simp [envelope]
    · intro member
      simp only [envelope, List.mem_cons, List.not_mem_nil,
        or_false] at member
      rcases member with same | same | same | same
      all_goals
        cases same
        exact JsValue.mem_of_property ‹_›
  · intro same
    refine ⟨fields, rfl, ?_, ?_, ?_, ?_, ?_⟩
    · intro field member
      have listed := List.mem_map_of_mem (f := Prod.fst)
        ((same field).mp member)
      exact listed
    · exact JsValue.property_of_mem distinct ((same _).mpr (by
        simp [envelope]))
    · exact JsValue.property_of_mem distinct ((same _).mpr (by
        simp [envelope]))
    · exact JsValue.property_of_mem distinct ((same _).mpr (by
        simp [envelope]))
    · exact JsValue.property_of_mem distinct ((same _).mpr (by
        simp [envelope]))

theorem names_distinct (identifier : String)
    (member : identifier ∈ ["jobId", "outboxMessageId", "operationId"]) :
    (["version", "kind", identifier, "correlationId"].map
      JsString.ofString).Nodup := by
  simp only [List.mem_cons, List.not_mem_nil, or_false] at member
  rcases member with rfl | rfl | rfl
  all_goals decide +kernel

/-- Jobs of different kinds have different properties. -/
theorem not_perm_of_kind {otherKind otherIdentifier : String}
    {otherId otherCorrelationId : UuidText}
    (different : JsString.ofString kind ≠ .ofString otherKind)
    (names : (["version", "kind", identifier, "correlationId"].map
      JsString.ofString).Nodup)
    (perm : fields.Perm (envelope kind identifier id correlationId)) :
    ¬fields.Perm
      (envelope otherKind otherIdentifier otherId otherCorrelationId) := by
  intro other
  have envelopeNames :
      ((envelope kind identifier id correlationId).map Prod.fst).Nodup :=
    names
  have own : JsValue.property (.ofString "kind")
      (envelope kind identifier id correlationId) =
        some (.string (.ofString kind)) :=
    JsValue.property_of_mem envelopeNames (by simp [envelope])
  have foreign : JsValue.property (.ofString "kind")
      (envelope kind identifier id correlationId) =
        some (.string (.ofString otherKind)) :=
    JsValue.property_of_mem envelopeNames
      ((perm.symm.trans other).mem_iff.mpr (by simp [envelope]))
  rw [own] at foreign
  exact different (JsValue.string.inj (Option.some.inj foreign))

/-- A body is an object with exactly the given properties, in any order. -/
def HasProperties (body : JsValue) (properties : List Property) : Prop :=
  ∃ fields, body = .object fields ∧ fields.Perm properties

/-- The properties of an object have different names. -/
def DistinctNames (body : JsValue) : Prop :=
  ∀ fields, body = .object fields → (fields.map Prod.fst).Nodup

theorem decodeEnvelope_iff
    (names : (["version", "kind", identifier, "correlationId"].map
      JsString.ofString).Nodup) (distinct : DistinctNames body) :
    decodeEnvelope kind identifier body = some (id, correlationId) ↔
      HasProperties body (envelope kind identifier id correlationId) := by
  constructor
  · intro decoded
    obtain ⟨fields, rfl, _⟩ := decodeEnvelope_eq_some_iff.mp decoded
    exact ⟨fields, rfl,
      (decodeEnvelope_object names (distinct fields rfl)).mp decoded⟩
  · rintro ⟨fields, rfl, perm⟩
    exact (decodeEnvelope_object names (distinct fields rfl)).mpr perm

/-- What a body of one kind is not decoded as. -/
theorem decodeEnvelope_eq_none {otherKind otherIdentifier : String}
    (different : JsString.ofString kind ≠ .ofString otherKind)
    (names : (["version", "kind", identifier, "correlationId"].map
      JsString.ofString).Nodup)
    (otherNames : (["version", "kind", otherIdentifier,
      "correlationId"].map JsString.ofString).Nodup)
    (distinct : DistinctNames body)
    (has : HasProperties body (envelope kind identifier id correlationId)) :
    decodeEnvelope otherKind otherIdentifier body = none := by
  refine Option.eq_none_iff_forall_ne_some.mpr ?_
  rintro ⟨otherId, otherCorrelationId⟩ decoded
  obtain ⟨fields, rfl, perm⟩ := has
  obtain ⟨_, same, other⟩ :=
    (decodeEnvelope_iff otherNames distinct).mp decoded
  cases same
  exact not_perm_of_kind different names perm other

/-- The consumer takes a body for a job exactly when the body is an object with
the properties of that job, in any order, and with no others. -/
theorem decodeQueueMessage_iff (distinct : DistinctNames body) :
    decodeQueueMessage body = some job ↔
      HasProperties body job.properties := by
  have statusNames := names_distinct "jobId" (by simp)
  have outboxNames := names_distinct "outboxMessageId" (by simp)
  have modelNames := names_distinct "operationId" (by simp)
  cases job with
  | platformStatus job =>
      obtain ⟨id, correlationId⟩ := job
      have decoded : decodeEnvelope "platform.status.requested" "jobId" body =
          some (id, correlationId) ↔ _ :=
        decodeEnvelope_iff statusNames distinct
      rw [PlatformQueueJob.properties, PlatformStatusJobV1.properties,
        ← decoded]
      simp [decodeQueueMessage, PlatformStatusJobV1.decode]
  | outbox job =>
      obtain ⟨id, correlationId⟩ := job
      have decoded : decodeEnvelope "outbox.message.ready" "outboxMessageId"
          body = some (id, correlationId) ↔ _ :=
        decodeEnvelope_iff outboxNames distinct
      rw [PlatformQueueJob.properties, OutboxJobV1.properties, ← decoded]
      constructor
      · intro accepted
        simp [decodeQueueMessage, OutboxJobV1.decode] at accepted
        exact accepted.2
      · intro envelope
        have status :
            decodeEnvelope "platform.status.requested" "jobId" body = none :=
          decodeEnvelope_eq_none (by decide +kernel) outboxNames statusNames
            distinct (decoded.mp envelope)
        simp [decodeQueueMessage, PlatformStatusJobV1.decode,
          OutboxJobV1.decode, status, envelope]
  | modelOperation job =>
      obtain ⟨id, correlationId⟩ := job
      have decoded : decodeEnvelope "model.operation.ready" "operationId"
          body = some (id, correlationId) ↔ _ :=
        decodeEnvelope_iff modelNames distinct
      rw [PlatformQueueJob.properties, ModelOperationJobV1.properties,
        ← decoded]
      constructor
      · intro accepted
        simp [decodeQueueMessage, ModelOperationJobV1.decode] at accepted
        exact accepted.2.2
      · intro envelope
        have status :
            decodeEnvelope "platform.status.requested" "jobId" body = none :=
          decodeEnvelope_eq_none (by decide +kernel) modelNames statusNames
            distinct (decoded.mp envelope)
        have outbox :
            decodeEnvelope "outbox.message.ready" "outboxMessageId" body =
              none :=
          decodeEnvelope_eq_none (by decide +kernel) modelNames outboxNames
            distinct (decoded.mp envelope)
        simp [decodeQueueMessage, PlatformStatusJobV1.decode,
          OutboxJobV1.decode, ModelOperationJobV1.decode, status, outbox,
          envelope]

/-- The job of a message with its properties in another order. -/
def reorderedJob : List Property :=
  [(.ofString "correlationId",
      .string (.ofString "00000000-0000-4000-8000-00000000000B")),
    (.ofString "outboxMessageId",
      .string (.ofString "00000000-0000-4000-8000-00000000000a")),
    (.ofString "kind", .string (.ofString "outbox.message.ready")),
    (.ofString "version", .number 1)]

def reorderedOutboxJob : OutboxJobV1 :=
  { outboxMessageId :=
      ⟨.ofString "00000000-0000-4000-8000-00000000000a", by decide +kernel⟩
    correlationId :=
      ⟨.ofString "00000000-0000-4000-8000-00000000000B", by decide +kernel⟩ }

theorem decodeQueueMessage_iff_reordered :
    decodeQueueMessage (.object reorderedJob) =
      some (.outbox reorderedOutboxJob) := by
  have distinct : DistinctNames (.object reorderedJob) := by
    intro fields same
    cases same
    decide +kernel
  have perm : reorderedJob.Perm reorderedOutboxJob.properties :=
    reorderedOutboxJob.properties.reverse_perm
  exact (decodeQueueMessage_iff distinct).mpr ⟨_, rfl, perm⟩

end Decoding

end XpensGo
