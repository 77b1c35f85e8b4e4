import XpensGo.EcmaScript.Number
import XpensGo.EcmaScript.RegExp

/-!
# Schema decoders

Decoders of parsed JSON in the manner of Effect Schema.  A decoder answers
`none` for a value that its schema refuses; properties that a schema does not
name are ignored.
-/

namespace EcmaScript

universe u

/-- A safe integer of at least the given value. -/
abbrev SafeInteger (least : Int) :=
  { value : Int //
    least ≤ value ∧ -maxSafeInteger ≤ value ∧ value ≤ maxSafeInteger }

namespace Schema

/-- A schema, as the partial function that it decodes with. -/
abbrev Decoder (α : Type u) := JsValue → Option α

/-- `Schema.Boolean`. -/
def boolean : Decoder Bool
  | .boolean value => some value
  | _ => none

/-- `Schema.Int` with a lower bound. -/
def integer (least : Int) : Decoder (SafeInteger least)
  | .number value =>
      if accepted : value.den = 1 ∧ least ≤ value.num ∧
          -maxSafeInteger ≤ value.num ∧ value.num ≤ maxSafeInteger then
        some ⟨value.num, accepted.2⟩
      else
        none
  | _ => none

/-- `Schema.String` with filters. -/
def string (accepts : JsString → Bool) : Decoder JsString
  | .string text => if accepts text then some text else none
  | _ => none

/-- `Schema.String` with filters that the decoded text carries with it. -/
def filtered (accepts : JsString → Bool) :
    Decoder { text : JsString // accepts text = true }
  | .string text =>
      if accepted : accepts text = true then some ⟨text, accepted⟩ else none
  | _ => none

/-- `Schema.Literal` whose members are told apart by their names. -/
def enumeration {α : Type u} (name : α → JsString) (members : List α) :
    Decoder α
  | .string text => members.find? (fun member => name member = text)
  | _ => none

/-- `Schema.NullOr`. -/
def nullOr {α : Type u} (decode : Decoder α) : Decoder (Option α)
  | .null => some none
  | value => (decode value).map some

/-- `Schema.Literal` of strings. -/
def literal (texts : List JsString) : Decoder JsString :=
  string (fun text => texts.contains text)

/-- `Schema.Literal` of a number. -/
def literalNumber (expected : Rat) : Decoder Unit
  | .number value => if value = expected then some () else none
  | _ => none

/-- `Schema.Array`. -/
def array {α : Type u} (decode : Decoder α) : Decoder (List α)
  | .array items => items.mapM decode
  | _ => none

/-- The properties of an object, for `Schema.Struct`. -/
def struct : Decoder (List (JsString × JsValue))
  | .object fields => some fields
  | _ => none

/-- `Schema.Struct` with `onExcessProperty: "error"`. -/
def exactStruct (names : List JsString) : Decoder (List (JsString × JsValue))
  | .object fields =>
      if fields.all (fun field => names.contains field.1) then some fields
      else none
  | _ => none

/-- A field that has to be present. -/
def required {α : Type u} (name : JsString) (decode : Decoder α)
    (fields : List (JsString × JsValue)) : Option α :=
  (JsValue.property name fields).bind decode

/-- `Schema.optional`; parsed JSON holds no `undefined`. -/
def optional {α : Type u} (name : JsString) (decode : Decoder α)
    (fields : List (JsString × JsValue)) : Option (Option α) :=
  match JsValue.property name fields with
  | none => some none
  | some value => (decode value).map some

section Lemmas

variable {α : Type u} {value : JsValue} {least : Int} {text : JsString}
  {accepts : JsString → Bool}

theorem integer_eq_some_iff {number : SafeInteger least} :
    integer least value = some number ↔
      value = .number (number.val : Rat) := by
  constructor
  · intro decoded
    cases value with
    | number found =>
        simp only [integer] at decoded
        split at decoded
        · rename_i accepted
          cases decoded
          congr 1
          exact (Rat.den_eq_one_iff found).mp accepted.1 |>.symm
        · cases decoded
    | _ => cases decoded
  · rintro rfl
    have accepted := number.property
    simp [integer, accepted]

theorem string_eq_some_iff :
    string accepts value = some text ↔
      value = .string text ∧ accepts text = true := by
  constructor
  · intro decoded
    cases value with
    | string found =>
        simp only [string] at decoded
        split at decoded
        · rename_i accepted
          cases decoded
          exact ⟨rfl, accepted⟩
        · cases decoded
    | _ => cases decoded
  · rintro ⟨rfl, accepted⟩
    exact if_pos accepted

theorem filtered_eq_some_iff
    {text : { text : JsString // accepts text = true }} :
    filtered accepts value = some text ↔ value = .string text.val := by
  constructor
  · intro decoded
    cases value with
    | string found =>
        simp only [filtered] at decoded
        split at decoded
        · cases decoded
          rfl
        · cases decoded
    | _ => cases decoded
  · rintro rfl
    exact dif_pos text.property

theorem literalNumber_eq_some_iff {expected : Rat} :
    literalNumber expected value = some () ↔ value = .number expected := by
  constructor
  · intro decoded
    cases value with
    | number found =>
        simp only [literalNumber] at decoded
        split at decoded
        · rename_i same
          rw [same]
        · cases decoded
    | _ => cases decoded
  · rintro rfl
    exact if_pos rfl

theorem exactStruct_eq_some_iff {names : List JsString}
    {fields : List (JsString × JsValue)} :
    exactStruct names value = some fields ↔
      value = .object fields ∧ ∀ field ∈ fields, field.1 ∈ names := by
  constructor
  · intro decoded
    cases value with
    | object found =>
        simp only [exactStruct] at decoded
        split at decoded
        · rename_i named
          cases decoded
          exact ⟨rfl, by simpa using named⟩
        · cases decoded
    | _ => cases decoded
  · rintro ⟨rfl, named⟩
    exact if_pos (by simpa using named)

variable {decode : Decoder α} {name other : JsString}
  {fields : List (JsString × JsValue)}

theorem required_cons_self :
    required name decode ((name, value) :: fields) = decode value := by
  simp [required, JsValue.property]

theorem required_cons_of_ne (different : other ≠ name) :
    required name decode ((other, value) :: fields) =
      required name decode fields := by
  simp [required, JsValue.property, different]

end Lemmas

end Schema

end EcmaScript
