import XpensGo.EcmaScript.Value

/-!
# Values that a column takes

A statement fails on a value that the type of its column refuses, before any
constraint is checked.  The driver binds the JSON value `null` as SQL `NULL`.
-/

namespace Postgres

open EcmaScript

/-- `TEXT` refuses the character U+0000. -/
def isText (text : JsString) : Bool :=
  text.all (· ≠ 0)

/-- `JSONB` refuses the escapes of U+0000 and of unpaired surrogates. -/
def isJsonbText (text : JsString) : Bool :=
  (JsString.codePoints text).all (fun codePoint =>
    codePoint ≠ 0 && !(0xd800 ≤ codePoint && codePoint ≤ 0xdfff))

mutual

/-- A value that a `JSONB` column takes. -/
def isJsonb : JsValue → Bool
  | .null | .boolean _ | .number _ => true
  | .string text => isJsonbText text
  | .array items => areJsonb items
  | .object fields => areJsonbFields fields

def areJsonb : List JsValue → Bool
  | [] => true
  | item :: items => isJsonb item && areJsonb items

def areJsonbFields : List (JsString × JsValue) → Bool
  | [] => true
  | (name, value) :: fields =>
      isJsonbText name && isJsonb value && areJsonbFields fields

end

/-- `sql.json(value)`. -/
def bindJson : JsValue → Option JsValue
  | .null => none
  | value => some value

theorem bindJson_eq_some {value bound : JsValue}
    (stored : bindJson value = some bound) : bound = value := by
  cases value with
  | null => cases stored
  | boolean | number | string | array | object =>
      cases stored
      rfl

end Postgres
