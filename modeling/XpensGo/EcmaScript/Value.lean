/-!
# ECMAScript strings, JSON values and dates

Strings are sequences of UTF-16 code units, which need not be well formed: a
surrogate may stand alone.  `codePoints` is the iteration order of
`for (const character of value)`.
-/

namespace EcmaScript

/-- A code unit of UTF-16. -/
abbrev CodeUnit := UInt16

/-- A string is a sequence of code units. -/
abbrev JsString := List CodeUnit

namespace JsString

/-- The string with these characters. -/
def ofString (text : String) : JsString :=
  text.toList.map (fun character => UInt16.ofNat character.toNat)

/-- The text of code units below the surrogates. -/
def toText (text : JsString) : String :=
  String.ofList (text.map (fun unit => Char.ofNat unit.toNat))

private theorem toNat_ofNat {code : Nat} (valid : code.isValidChar) :
    (Char.ofNat code).toNat = code := by
  unfold Char.ofNat
  rw [dif_pos valid]
  rfl

theorem ofString_toText {text : JsString}
    (plain : text.all (· < 0x80) = true) : ofString text.toText = text := by
  unfold ofString toText
  rw [String.toList_ofList, List.map_map]
  refine (List.map_congr_left ?_).trans (List.map_id text)
  intro unit member
  have small := List.all_eq_true.mp plain unit member
  have code : unit.toNat < 0x80 := by
    simpa [UInt16.lt_iff_toNat_lt] using small
  change UInt16.ofNat (Char.ofNat unit.toNat).toNat = unit
  rw [toNat_ofNat (.inl (by omega))]
  exact UInt16.ofNat_toNat

@[simp] theorem length_toText (text : JsString) :
    text.toText.length = text.length := by
  simp [toText]

/-- The first unit of a pair. -/
def isHighSurrogate (unit : CodeUnit) : Bool :=
  0xd800 ≤ unit && unit ≤ 0xdbff

/-- The second unit of a pair. -/
def isLowSurrogate (unit : CodeUnit) : Bool :=
  0xdc00 ≤ unit && unit ≤ 0xdfff

/-- The code points of the string iterator; an unpaired surrogate is a code
point of its own. -/
def codePoints : JsString → List Nat
  | [] => []
  | [unit] => [unit.toNat]
  | first :: second :: rest =>
      if isHighSurrogate first && isLowSurrogate second then
        ((first.toNat - 0xd800) * 0x400 + (second.toNat - 0xdc00) + 0x10000) ::
          codePoints rest
      else
        first.toNat :: codePoints (second :: rest)

end JsString

/-- Values that `JSON.parse` and a structural decoder can produce. -/
inductive JsValue where
  | null
  | boolean (value : Bool)
  | number (value : Rat)
  | string (text : JsString)
  | array (items : List JsValue)
  | object (fields : List (JsString × JsValue))

namespace JsValue

/-- Property access; a missing property is `undefined`. -/
def property (name : JsString) : List (JsString × JsValue) → Option JsValue
  | [] => none
  | (field, value) :: fields =>
      if field = name then some value else property name fields

/-- Somewhere in a value an object has a property of this name. -/
inductive Contains (name : JsString) (property : JsValue) : JsValue → Prop where
  | here {fields : List (JsString × JsValue)} :
      (name, property) ∈ fields →
      Contains name property (.object fields)
  | field {fields : List (JsString × JsValue)} {other : JsString}
      {value : JsValue} :
      (other, value) ∈ fields →
      Contains name property value →
      Contains name property (.object fields)
  | item {items : List JsValue} {value : JsValue} :
      value ∈ items →
      Contains name property value →
      Contains name property (.array items)

section Containment

variable {name : JsString} {property : JsValue}

theorem contains_object {fields : List (JsString × JsValue)} :
    Contains name property (.object fields) ↔
      ∃ field ∈ fields, field = (name, property) ∨
        Contains name property field.2 := by
  constructor
  · intro contained
    cases contained with
    | here member => exact ⟨_, member, .inl rfl⟩
    | field member inner => exact ⟨_, member, .inr inner⟩
  · rintro ⟨field, member, rfl | inner⟩
    · exact .here member
    · exact .field member inner

theorem mem_of_property {fields : List (JsString × JsValue)}
    (found : JsValue.property name fields = some property) :
    (name, property) ∈ fields := by
  induction fields with
  | nil => cases found
  | cons field fields induction =>
      obtain ⟨other, value⟩ := field
      rw [JsValue.property] at found
      split at found
      · rename_i same
        subst same
        cases found
        exact List.mem_cons_self
      · exact List.mem_cons_of_mem _ (induction found)

theorem property_of_mem {fields : List (JsString × JsValue)}
    (distinct : (fields.map Prod.fst).Nodup)
    (member : (name, property) ∈ fields) :
    JsValue.property name fields = some property := by
  induction fields with
  | nil => cases member
  | cons field fields induction =>
      obtain ⟨other, value⟩ := field
      obtain ⟨fresh, distinct⟩ := List.nodup_cons.mp distinct
      rw [JsValue.property]
      rcases List.mem_cons.mp member with same | later
      · cases same
        exact if_pos rfl
      · have different : other ≠ name := by
          rintro rfl
          exact fresh (List.mem_map.mpr ⟨_, later, rfl⟩)
        rw [if_neg different]
        exact induction distinct later

theorem contains_array {items : List JsValue} :
    Contains name property (.array items) ↔
      ∃ item ∈ items, Contains name property item := by
  constructor
  · intro contained
    cases contained with
    | item member inner => exact ⟨_, member, inner⟩
  · rintro ⟨item, member, inner⟩
    exact .item member inner

@[simp] theorem not_contains_boolean {value : Bool} :
    ¬Contains name property (.boolean value) := by
  rintro ⟨⟩

@[simp] theorem not_contains_number {value : Rat} :
    ¬Contains name property (.number value) := by
  rintro ⟨⟩

@[simp] theorem not_contains_string {text : JsString} :
    ¬Contains name property (.string text) := by
  rintro ⟨⟩

end Containment

end JsValue

/-- The built-in date functions that the program relies on: `Date.parse`, with
`none` for `NaN`, and `toISOString`. -/
structure DateBuiltins where
  parse : JsString → Option Int
  toISOString : Int → JsString

end EcmaScript
