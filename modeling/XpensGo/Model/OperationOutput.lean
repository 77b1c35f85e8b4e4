import XpensGo.EcmaScript.Schema
import XpensGo.Model.Gateway

/-!
# Outputs of the registered operations

The schema that decodes the output of each registered operation.  A decoded
value carries the constraints of its schema, and `toJson` is the plain value
that is checked for dates and stored.
-/

namespace XpensGo

open EcmaScript JsString Schema

section Extraction

inductive TransactionDirection where
  | debit
  | credit
  deriving DecidableEq, Repr

def TransactionDirection.name : TransactionDirection → JsString
  | .debit => ofString "debit"
  | .credit => ofString "credit"

def isCounterparty (text : JsString) : Bool :=
  1 ≤ text.length && text.length ≤ 120

/-- `/^\d{4}-\d{2}-\d{2}$/`. -/
def datePattern : RegExp :=
  .sequence (.repeated isDigit 4 (some 4))
    (.sequence (.literal (ofString "-"))
      (.sequence (.repeated isDigit 2 (some 2))
        (.sequence (.literal (ofString "-"))
          (.repeated isDigit 2 (some 2)))))

structure ExtractedTransactionSuggestion where
  amountMinor : SafeInteger 1
  counterparty : { text : JsString // isCounterparty text = true }
  direction : TransactionDirection
  occurredOn : { text : JsString // datePattern.test text = true }
  requiresReview : Bool

inductive TransactionClarificationReason where
  | missingAmount
  | ambiguousAmount
  | missingDirection
  | missingDate
  | ambiguousDate
  | missingCounterparty
  deriving DecidableEq, Repr

def TransactionClarificationReason.name :
    TransactionClarificationReason → JsString
  | .missingAmount => ofString "missing_amount"
  | .ambiguousAmount => ofString "ambiguous_amount"
  | .missingDirection => ofString "missing_direction"
  | .missingDate => ofString "missing_date"
  | .ambiguousDate => ofString "ambiguous_date"
  | .missingCounterparty => ofString "missing_counterparty"

inductive TransactionExtractionSuggestion where
  | extracted (suggestion : ExtractedTransactionSuggestion)
  | clarificationRequired (reason : TransactionClarificationReason)

structure TransactionExtractionResult where
  outcome : TransactionExtractionSuggestion

structure TransactionExtractionBatchSuggestion where
  suggestions : List TransactionExtractionSuggestion
  bounded : 1 ≤ suggestions.length ∧ suggestions.length ≤ 5

def ExtractedTransactionSuggestion.decode :
    Decoder ExtractedTransactionSuggestion := fun value => do
  let fields ← struct value
  let _ ← required (ofString "_tag") (literal [ofString "Extracted"]) fields
  let amountMinor ← required (ofString "amountMinor") (integer 1) fields
  let counterparty ← required (ofString "counterparty")
    (filtered isCounterparty) fields
  let _ ← required (ofString "currency") (literal [ofString "INR"]) fields
  let direction ← required (ofString "direction")
    (enumeration TransactionDirection.name [.debit, .credit]) fields
  let occurredOn ← required (ofString "occurredOn") (filtered datePattern.test)
    fields
  let requiresReview ← required (ofString "requiresReview") boolean fields
  pure
    { amountMinor := amountMinor
      counterparty := counterparty
      direction := direction
      occurredOn := occurredOn
      requiresReview := requiresReview }

def ExtractedTransactionSuggestion.toJson
    (suggestion : ExtractedTransactionSuggestion) : JsValue :=
  .object [(ofString "_tag", .string (ofString "Extracted")),
    (ofString "amountMinor", .number suggestion.amountMinor.val),
    (ofString "counterparty", .string suggestion.counterparty.val),
    (ofString "currency", .string (ofString "INR")),
    (ofString "direction", .string suggestion.direction.name),
    (ofString "occurredOn", .string suggestion.occurredOn.val),
    (ofString "requiresReview", .boolean suggestion.requiresReview)]

def TransactionClarificationReason.decode :
    Decoder TransactionClarificationReason := fun value => do
  let fields ← struct value
  let _ ← required (ofString "_tag") (literal [ofString "ClarificationRequired"])
    fields
  required (ofString "reason")
    (enumeration TransactionClarificationReason.name
      [.missingAmount, .ambiguousAmount, .missingDirection, .missingDate,
        .ambiguousDate, .missingCounterparty]) fields

namespace TransactionExtractionSuggestion

/-- The first member of the union that accepts a value. -/
def decode : Decoder TransactionExtractionSuggestion := fun value =>
  ((ExtractedTransactionSuggestion.decode value).map .extracted).or
    ((TransactionClarificationReason.decode value).map .clarificationRequired)

def toJson : TransactionExtractionSuggestion → JsValue
  | .extracted suggestion => suggestion.toJson
  | .clarificationRequired reason =>
      .object [(ofString "_tag", .string (ofString "ClarificationRequired")),
        (ofString "reason", .string reason.name)]

end TransactionExtractionSuggestion

def TransactionExtractionResult.decode : Decoder TransactionExtractionResult :=
  fun value => do
    let fields ← struct value
    let outcome ← required (ofString "outcome")
      TransactionExtractionSuggestion.decode fields
    pure ⟨outcome⟩

def TransactionExtractionResult.toJson (result : TransactionExtractionResult) :
    JsValue :=
  .object [(ofString "outcome", result.outcome.toJson)]

def TransactionExtractionBatchSuggestion.decode :
    Decoder TransactionExtractionBatchSuggestion := fun value => do
  let fields ← struct value
  let suggestions ← required (ofString "suggestions")
    (array TransactionExtractionSuggestion.decode) fields
  if bounded : 1 ≤ suggestions.length ∧ suggestions.length ≤ 5 then
    some ⟨suggestions, bounded⟩
  else
    none

def TransactionExtractionBatchSuggestion.toJson
    (batch : TransactionExtractionBatchSuggestion) : JsValue :=
  .object [(ofString "suggestions",
    .array (batch.suggestions.map TransactionExtractionSuggestion.toJson))]

end Extraction

section QuerySlots

inductive QueryDirection where
  | debit
  | credit
  | all
  deriving DecidableEq, Repr

def QueryDirection.name : QueryDirection → JsString
  | .debit => ofString "debit"
  | .credit => ofString "credit"
  | .all => ofString "all"

inductive QueryGrouping where
  | none
  | day
  | week
  | month
  | category
  | counterparty
  deriving DecidableEq, Repr

def QueryGrouping.name : QueryGrouping → JsString
  | .none => ofString "none"
  | .day => ofString "day"
  | .week => ofString "week"
  | .month => ofString "month"
  | .category => ofString "category"
  | .counterparty => ofString "counterparty"

inductive QueryMetric where
  | spending
  | income
  | netMovement
  | transactions
  deriving DecidableEq, Repr

def QueryMetric.name : QueryMetric → JsString
  | .spending => ofString "spending"
  | .income => ofString "income"
  | .netMovement => ofString "net_movement"
  | .transactions => ofString "transactions"

/-- `OptionalFilter`, whose texts are bounded like a counterparty. -/
abbrev OptionalFilter := Option { text : JsString // isCounterparty text = true }

abbrev OptionalDate := Option { text : JsString // datePattern.test text = true }

structure QuerySlotsSuggestion where
  category : OptionalFilter
  counterparty : OptionalFilter
  direction : QueryDirection
  fromOn : OptionalDate
  grouping : QueryGrouping
  metric : QueryMetric
  requiresClarification : Bool
  toOn : OptionalDate

def QuerySlotsSuggestion.decode : Decoder QuerySlotsSuggestion :=
  fun value => do
    let fields ← struct value
    let category ← required (ofString "category")
      (nullOr (filtered isCounterparty)) fields
    let counterparty ← required (ofString "counterparty")
      (nullOr (filtered isCounterparty)) fields
    let direction ← required (ofString "direction")
      (enumeration QueryDirection.name [.debit, .credit, .all]) fields
    let fromOn ← required (ofString "fromOn")
      (nullOr (filtered datePattern.test)) fields
    let grouping ← required (ofString "grouping")
      (enumeration QueryGrouping.name
        [.none, .day, .week, .month, .category, .counterparty]) fields
    let metric ← required (ofString "metric")
      (enumeration QueryMetric.name
        [.spending, .income, .netMovement, .transactions]) fields
    let requiresClarification ← required (ofString "requiresClarification")
      boolean fields
    let toOn ← required (ofString "toOn") (nullOr (filtered datePattern.test))
      fields
    pure
      { category := category
        counterparty := counterparty
        direction := direction
        fromOn := fromOn
        grouping := grouping
        metric := metric
        requiresClarification := requiresClarification
        toOn := toOn }

/-- A text or `null`. -/
def optionalText {accepts : JsString → Bool} :
    Option { text : JsString // accepts text = true } → JsValue
  | none => .null
  | some text => .string text.val

def QuerySlotsSuggestion.toJson (slots : QuerySlotsSuggestion) : JsValue :=
  .object [(ofString "category", optionalText slots.category),
    (ofString "counterparty", optionalText slots.counterparty),
    (ofString "direction", .string slots.direction.name),
    (ofString "fromOn", optionalText slots.fromOn),
    (ofString "grouping", .string slots.grouping.name),
    (ofString "metric", .string slots.metric.name),
    (ofString "requiresClarification", .boolean slots.requiresClarification),
    (ofString "toOn", optionalText slots.toOn)]

end QuerySlots

/-- `modelOperationOutputSchema`, as the plain value that it decodes. -/
def modelOperationOutput : ModelOperationName → Decoder JsValue
  | .querySlots => fun value =>
      (QuerySlotsSuggestion.decode value).map (·.toJson)
  | .transactionExtract => fun value =>
      (TransactionExtractionResult.decode value).map (·.toJson)
  | .transactionExtractMany => fun value =>
      (TransactionExtractionBatchSuggestion.decode value).map (·.toJson)

end XpensGo
