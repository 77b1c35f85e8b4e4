import XpensGo.EcmaScript.Value
import Mathlib.Data.List.TakeWhile

/-!
# Addresses and their search parameters

`SearchParams` is the serializer and the parser of the form encoding, over
UTF-8.  `Url` reads and writes the parts of an address as they stand: it covers
absolute addresses that are their own serialization up to the query.
-/

namespace EcmaScript

open JsString

namespace Utf8

/-- The bytes of a code point; a lone surrogate becomes U+FFFD. -/
def encodeCodePoint (code : Nat) : List UInt8 :=
  if code < 0x80 then
    [UInt8.ofNat code]
  else if code < 0x800 then
    [UInt8.ofNat (0xc0 + code / 0x40), UInt8.ofNat (0x80 + code % 0x40)]
  else if 0xd800 ≤ code && code ≤ 0xdfff then
    [0xef, 0xbf, 0xbd]
  else if code < 0x10000 then
    [UInt8.ofNat (0xe0 + code / 0x1000),
      UInt8.ofNat (0x80 + code / 0x40 % 0x40), UInt8.ofNat (0x80 + code % 0x40)]
  else
    [UInt8.ofNat (0xf0 + code / 0x40000),
      UInt8.ofNat (0x80 + code / 0x1000 % 0x40),
      UInt8.ofNat (0x80 + code / 0x40 % 0x40), UInt8.ofNat (0x80 + code % 0x40)]

/-- The UTF-8 bytes of a text. -/
def encode (text : JsString) : List UInt8 :=
  (codePoints text).flatMap encodeCodePoint

/-- A decoder between two bytes: the bytes that are still needed, the code point
so far, and the bounds of the next byte. -/
structure Decoder where
  needed : Nat
  code : Nat
  lower : UInt8
  upper : UInt8

namespace Decoder

/-- The decoder between two characters. -/
def ready : Decoder :=
  { needed := 0
    code := 0
    lower := 0x80
    upper := 0xbf }

/-- What a byte emits that begins a sequence. -/
def first (byte : UInt8) : List Nat × Decoder :=
  if byte < 0x80 then
    ([byte.toNat], ready)
  else if 0xc2 ≤ byte && byte ≤ 0xdf then
    ([], { ready with needed := 1, code := byte.toNat % 0x20 })
  else if 0xe0 ≤ byte && byte ≤ 0xef then
    ([], { needed := 2
           code := byte.toNat % 0x10
           lower := if byte = 0xe0 then 0xa0 else 0x80
           upper := if byte = 0xed then 0x9f else 0xbf })
  else if 0xf0 ≤ byte && byte ≤ 0xf4 then
    ([], { needed := 3
           code := byte.toNat % 0x8
           lower := if byte = 0xf0 then 0x90 else 0x80
           upper := if byte = 0xf4 then 0x8f else 0xbf })
  else
    ([0xfffd], ready)

def step (decoder : Decoder) (byte : UInt8) : List Nat × Decoder :=
  if decoder.needed = 0 then
    first byte
  else if decoder.lower ≤ byte && byte ≤ decoder.upper then
    if decoder.needed = 1 then
      ([decoder.code * 0x40 + byte.toNat % 0x40], ready)
    else
      ([], { ready with
              needed := decoder.needed - 1
              code := decoder.code * 0x40 + byte.toNat % 0x40 })
  else
    -- the byte that broke a sequence is read again
    (0xfffd :: (first byte).1, (first byte).2)

/-- The code points of some bytes, with U+FFFD for an error. -/
def run : Decoder → List UInt8 → List Nat
  | decoder, [] => if decoder.needed = 0 then [] else [0xfffd]
  | decoder, byte :: bytes =>
      (decoder.step byte).1 ++ run (decoder.step byte).2 bytes

end Decoder

/-- The code units of a code point. -/
def ofCodePoint (code : Nat) : JsString :=
  if code < 0x10000 then
    [UInt16.ofNat code]
  else
    [UInt16.ofNat (0xd800 + (code - 0x10000) / 0x400),
      UInt16.ofNat (0xdc00 + (code - 0x10000) % 0x400)]

/-- `new TextDecoder().decode`. -/
def decode (bytes : List UInt8) : JsString :=
  (Decoder.ready.run bytes).flatMap ofCodePoint

section Ascii

variable {unit : CodeUnit} {text : JsString}

private theorem toNat_lt_of_ascii (ascii : unit < 0x80) : unit.toNat < 0x80 := by
  simpa [UInt16.lt_iff_toNat_lt] using ascii

theorem codePoints_of_ascii (ascii : text.all (· < 0x80) = true) :
    codePoints text = text.map UInt16.toNat := by
  induction text using codePoints.induct with
  | case1 => rfl
  | case2 unit => rfl
  | case3 first second rest surrogates induction =>
      simp only [List.all_cons, Bool.and_eq_true, decide_eq_true_eq] at ascii
      simp only [isHighSurrogate, Bool.and_eq_true, decide_eq_true_eq,
        UInt16.le_iff_toNat_le, UInt16.reduceToNat] at surrogates
      have small := toNat_lt_of_ascii ascii.1
      omega
  | case4 first second rest single induction =>
      rw [List.all_cons, Bool.and_eq_true] at ascii
      rw [codePoints, if_neg single, induction ascii.2]
      rfl

private theorem encodeCodePoint_of_ascii (ascii : unit < 0x80) :
    encodeCodePoint unit.toNat = [unit.toUInt8] := by
  rw [encodeCodePoint, if_pos (toNat_lt_of_ascii ascii), UInt16.toUInt8]

theorem encode_of_ascii (ascii : text.all (· < 0x80) = true) :
    encode text = text.map UInt16.toUInt8 := by
  rw [encode, codePoints_of_ascii ascii, List.flatMap_map]
  induction text with
  | nil => rfl
  | cons unit text induction =>
      simp only [List.all_cons, Bool.and_eq_true, decide_eq_true_eq] at ascii
      rw [List.flatMap_cons, encodeCodePoint_of_ascii ascii.1,
        induction ascii.2]
      rfl

private theorem run_of_ascii (ascii : text.all (· < 0x80) = true) :
    Decoder.ready.run (text.map UInt16.toUInt8) = text.map UInt16.toNat := by
  induction text with
  | nil => rfl
  | cons unit text induction =>
      simp only [List.all_cons, Bool.and_eq_true, decide_eq_true_eq] at ascii
      have small := toNat_lt_of_ascii ascii.1
      have same : unit.toUInt8.toNat = unit.toNat := by
        rw [UInt16.toNat_toUInt8]
        omega
      have begins : unit.toUInt8 < 0x80 := by
        rw [UInt8.lt_iff_toNat_lt, same]
        exact small
      have idle : Decoder.ready.needed = 0 := rfl
      have stepped : Decoder.ready.step unit.toUInt8 =
          ([unit.toNat], Decoder.ready) := by
        rw [Decoder.step, if_pos idle, Decoder.first, if_pos begins, same]
      rw [List.map_cons, Decoder.run, stepped, induction ascii.2]
      rfl

theorem decode_of_ascii (ascii : text.all (· < 0x80) = true) :
    decode (text.map UInt16.toUInt8) = text := by
  rw [decode, run_of_ascii ascii, List.flatMap_map]
  induction text with
  | nil => rfl
  | cons unit text induction =>
      simp only [List.all_cons, Bool.and_eq_true, decide_eq_true_eq] at ascii
      have small := unit.toNat_lt
      rw [List.flatMap_cons, induction ascii.2, ofCodePoint,
        if_pos (by omega), UInt16.ofNat_toNat]
      rfl

end Ascii

end Utf8

/-- The names and values of a query. -/
abbrev SearchParams := List (JsString × JsString)

namespace SearchParams

/-- The code points that the serializer keeps. -/
def isKept (code : Nat) : Bool :=
  (0x41 ≤ code && code ≤ 0x5a) || (0x61 ≤ code && code ≤ 0x7a) ||
    (0x30 ≤ code && code ≤ 0x39) || code == 0x2a || code == 0x2d ||
    code == 0x2e || code == 0x5f

/-- A hexadecimal digit in upper case. -/
def hexDigit (value : UInt8) : CodeUnit :=
  if value < 10 then 0x30 + value.toUInt16 else 0x37 + value.toUInt16

/-- A byte as `%` and two digits. -/
def percentEncode (byte : UInt8) : JsString :=
  [0x25, hexDigit (byte / 16), hexDigit (byte % 16)]

def encodeComponent (text : JsString) : JsString :=
  (codePoints text).flatMap (fun code =>
    if isKept code then [UInt16.ofNat code]
    else if code = 0x20 then [0x2b]
    else (Utf8.encodeCodePoint code).flatMap percentEncode)

/-- The serializer of `application/x-www-form-urlencoded`. -/
def serialize (entries : SearchParams) : JsString :=
  List.intercalate [0x26] (entries.map (fun entry =>
    encodeComponent entry.1 ++ 0x3d :: encodeComponent entry.2))

/-- The value of a hexadecimal digit. -/
def hexValue (byte : UInt8) : Option UInt8 :=
  if 0x30 ≤ byte && byte ≤ 0x39 then some (byte - 0x30)
  else if 0x41 ≤ byte && byte ≤ 0x46 then some (byte - 0x37)
  else if 0x61 ≤ byte && byte ≤ 0x66 then some (byte - 0x57)
  else none

/-- The byte that `%` and two hexadecimal digits stand for. -/
def escaped (byte high low : UInt8) : Option UInt8 :=
  if byte = 0x25 then do
    let highValue ← hexValue high
    let lowValue ← hexValue low
    pure (highValue * 16 + lowValue)
  else
    none

/-- The bytes of a percent-encoded sequence. -/
def percentDecode : List UInt8 → List UInt8
  | byte :: high :: low :: rest =>
      match escaped byte high low with
      | some value => value :: percentDecode rest
      | none => byte :: percentDecode (high :: low :: rest)
  | bytes => bytes

def decodeComponent (bytes : List UInt8) : JsString :=
  Utf8.decode (percentDecode (bytes.map (fun byte =>
    if byte = 0x2b then 0x20 else byte)))

/-- The constructor `URLSearchParams` on a query. -/
def parse (query : JsString) : SearchParams :=
  (((Utf8.encode query).splitOn 0x26).filter (fun entry => entry ≠ [])).map
    (fun entry =>
      (decodeComponent (entry.takeWhile (· ≠ 0x3d)),
        decodeComponent ((entry.dropWhile (· ≠ 0x3d)).drop 1)))

/-- The first value of a name. -/
def get (name : JsString) (entries : SearchParams) : Option JsString :=
  entries.lookup name

/-- The first value of a name is replaced and its others are removed. -/
def set (name value : JsString) : SearchParams → SearchParams
  | [] => [(name, value)]
  | entry :: entries =>
      if entry.1 = name then
        (name, value) :: entries.filter (fun entry => entry.1 ≠ name)
      else
        entry :: set name value entries

section Kept

variable {unit : CodeUnit} {text name value : JsString}

/-- A text that the form encoding leaves as it is. -/
def isKeptText (text : JsString) : Bool :=
  text.all (fun unit => isKept unit.toNat)

private theorem ascii_of_kept (kept : isKept unit.toNat = true) :
    unit < 0x80 ∧ unit ≠ 0x23 := by
  simp only [isKept, Bool.or_eq_true, Bool.and_eq_true, decide_eq_true_eq,
    beq_iff_eq, UInt16.lt_iff_toNat_lt, ne_eq, ← UInt16.toNat_inj,
    UInt16.reduceToNat] at kept ⊢
  omega

private theorem byte_of_kept (kept : isKept unit.toNat = true) :
    unit.toUInt8 ≠ 0x25 ∧ unit.toUInt8 ≠ 0x26 ∧ unit.toUInt8 ≠ 0x2b ∧
      unit.toUInt8 ≠ 0x3d := by
  simp only [isKept, Bool.or_eq_true, Bool.and_eq_true, decide_eq_true_eq,
    beq_iff_eq, ne_eq, ← UInt8.toNat_inj, UInt16.toNat_toUInt8,
    UInt8.reduceToNat] at kept ⊢
  omega

private theorem ascii_of_isKeptText (kept : isKeptText text = true) :
    text.all (· < 0x80) = true := by
  rw [isKeptText, List.all_eq_true] at kept
  rw [List.all_eq_true]
  intro unit member
  simpa using (ascii_of_kept (kept unit member)).1

private theorem byte_of_isKeptText {byte : UInt8}
    (kept : isKeptText text = true) (member : byte ∈ text.map UInt16.toUInt8) :
    byte ≠ 0x25 ∧ byte ≠ 0x26 ∧ byte ≠ 0x2b ∧ byte ≠ 0x3d := by
  obtain ⟨unit, present, rfl⟩ := List.mem_map.mp member
  exact byte_of_kept (List.all_eq_true.mp kept unit present)

theorem ne_hash_of_isKeptText (kept : isKeptText text = true)
    (member : unit ∈ text) : unit ≠ 0x23 :=
  (ascii_of_kept (List.all_eq_true.mp kept unit member)).2

theorem encodeComponent_of_kept (kept : isKeptText text = true) :
    encodeComponent text = text := by
  rw [encodeComponent, Utf8.codePoints_of_ascii (ascii_of_isKeptText kept),
    List.flatMap_map]
  induction text with
  | nil => rfl
  | cons unit text induction =>
      simp only [isKeptText, List.all_cons, Bool.and_eq_true] at kept
      rw [List.flatMap_cons, induction kept.2, if_pos kept.1,
        UInt16.ofNat_toNat]
      rfl

private theorem percentDecode_of_unescaped {bytes : List UInt8}
    (unescaped : ∀ byte ∈ bytes, byte ≠ 0x25) : percentDecode bytes = bytes := by
  induction bytes using percentDecode.induct with
  | case1 byte high low rest value found induction =>
      have different := unescaped byte List.mem_cons_self
      rw [escaped, if_neg different] at found
      cases found
  | case2 byte high low rest found induction =>
      rw [percentDecode, found]
      simp only
      rw [induction]
      intro other member
      exact unescaped other (List.mem_cons_of_mem byte member)
  | case3 bytes few =>
      rw [percentDecode]
      exact few

theorem decodeComponent_of_kept (kept : isKeptText text = true) :
    decodeComponent (text.map UInt16.toUInt8) = text := by
  have spaced : (text.map UInt16.toUInt8).map
      (fun byte => if byte = 0x2b then 0x20 else byte) =
        text.map UInt16.toUInt8 := by
    refine (List.map_congr_left ?_).trans (List.map_id _)
    intro byte member
    exact if_neg (byte_of_isKeptText kept member).2.2.1
  have decoded := percentDecode_of_unescaped
    (fun byte member => (@byte_of_isKeptText text byte kept member).1)
  rw [decodeComponent, spaced, decoded,
    Utf8.decode_of_ascii (ascii_of_isKeptText kept)]

theorem serialize_of_kept (keptName : isKeptText name = true)
    (keptValue : isKeptText value = true) :
    serialize [(name, value)] = name ++ 0x3d :: value := by
  simp [serialize, encodeComponent_of_kept keptName,
    encodeComponent_of_kept keptValue]

theorem parse_serialize_of_kept (keptName : isKeptText name = true)
    (keptValue : isKeptText value = true) :
    parse (serialize [(name, value)]) = [(name, value)] := by
  have ascii : (name ++ 0x3d :: value).all (· < 0x80) = true := by
    rw [List.all_append, List.all_cons, ascii_of_isKeptText keptName,
      ascii_of_isKeptText keptValue]
    rfl
  have encoded : Utf8.encode (name ++ 0x3d :: value) =
      name.map UInt16.toUInt8 ++ 0x3d :: value.map UInt16.toUInt8 := by
    rw [Utf8.encode_of_ascii ascii, List.map_append, List.map_cons]
    rfl
  have single : (name.map UInt16.toUInt8 ++
      0x3d :: value.map UInt16.toUInt8).splitOn 0x26 =
        [name.map UInt16.toUInt8 ++ 0x3d :: value.map UInt16.toUInt8] := by
    apply List.splitOnP_eq_singleton
    intro byte member
    rw [beq_eq_false_iff_ne]
    rcases List.mem_append.mp member with before | after
    · exact (byte_of_isKeptText keptName before).2.1
    · rcases List.mem_cons.mp after with rfl | after
      · decide
      · exact (byte_of_isKeptText keptValue after).2.1
  have named : ∀ byte ∈ name.map UInt16.toUInt8,
      decide (byte ≠ 0x3d) = true := by
    intro byte member
    exact decide_eq_true (byte_of_isKeptText keptName member).2.2.2
  rw [serialize_of_kept keptName keptValue, parse, encoded, single,
    List.filter_cons_of_pos (by simp), List.filter_nil, List.map_singleton,
    List.takeWhile_append_of_pos named, List.dropWhile_append_of_pos named]
  simp [decodeComponent_of_kept keptName, decodeComponent_of_kept keptValue]

end Kept

end SearchParams

/-- The parts of an address; a location is what precedes `?`. -/
structure Url where
  location : JsString
  query : Option JsString
  fragment : Option JsString
  deriving DecidableEq

namespace Url

/-- What follows the first mark of a text, if it has one. -/
def after (mark : CodeUnit) (text : JsString) : Option JsString :=
  match text.dropWhile (· ≠ mark) with
  | [] => none
  | _ :: rest => some rest

/-- The constructor `URL`. -/
def parse (text : JsString) : Url :=
  let beforeFragment := text.takeWhile (· ≠ 0x23)
  { location := beforeFragment.takeWhile (· ≠ 0x3f)
    query := after 0x3f beforeFragment
    fragment := after 0x23 text }

def marked (mark : CodeUnit) : Option JsString → JsString
  | none => []
  | some text => mark :: text

/-- The serialization of a URL. -/
def toString (url : Url) : JsString :=
  url.location ++ (marked 0x3f url.query ++ marked 0x23 url.fragment)

/-- The parameters of the query. -/
def searchParams (url : Url) : SearchParams :=
  SearchParams.parse (url.query.getD [])

/-- `searchParams.set`, which writes the query anew. -/
def setSearchParam (name value : JsString) (url : Url) : Url :=
  { url with
    query := some (SearchParams.serialize (url.searchParams.set name value)) }

section Kept

variable {mark : CodeUnit} {text rest location name value : JsString}

private theorem takeWhile_of_unmarked (unmarked : ∀ unit ∈ text, unit ≠ mark) :
    text.takeWhile (· ≠ mark) = text := by
  rw [List.takeWhile_eq_self_iff]
  intro unit member
  exact decide_eq_true (unmarked unit member)

private theorem after_of_unmarked (unmarked : ∀ unit ∈ text, unit ≠ mark) :
    after mark text = none := by
  have dropped : text.dropWhile (· ≠ mark) = [] := by
    rw [List.dropWhile_eq_nil_iff]
    intro unit member
    exact decide_eq_true (unmarked unit member)
  rw [after, dropped]

private theorem takeWhile_of_marked (unmarked : ∀ unit ∈ text, unit ≠ mark) :
    (text ++ mark :: rest).takeWhile (· ≠ mark) = text := by
  rw [List.takeWhile_append_of_pos
    (fun unit member => decide_eq_true (unmarked unit member))]
  simp

private theorem after_of_marked (unmarked : ∀ unit ∈ text, unit ≠ mark) :
    after mark (text ++ mark :: rest) = some rest := by
  have dropped : (text ++ mark :: rest).dropWhile (· ≠ mark) = mark :: rest := by
    rw [List.dropWhile_append_of_pos
      (fun unit member => decide_eq_true (unmarked unit member))]
    simp
  rw [after, dropped]

/-- A location without a query or a fragment. -/
def IsLocation (location : JsString) : Prop :=
  ∀ unit ∈ location, unit ≠ 0x23 ∧ unit ≠ 0x3f

theorem parse_location (plain : IsLocation location) :
    parse location =
      { location := location
        query := none
        fragment := none } := by
  have bare : ∀ unit ∈ location, unit ≠ 0x23 :=
    fun unit member => (plain unit member).1
  have unqueried : ∀ unit ∈ location, unit ≠ 0x3f :=
    fun unit member => (plain unit member).2
  simp only [parse, takeWhile_of_unmarked bare, takeWhile_of_unmarked unqueried,
    after_of_unmarked bare, after_of_unmarked unqueried]

theorem parse_toString (plain : IsLocation location)
    (bare : ∀ unit ∈ value, unit ≠ 0x23) :
    parse (toString
        { location := location
          query := some value
          fragment := none }) =
      { location := location
        query := some value
        fragment := none } := by
  have written : toString ⟨location, some value, none⟩ =
      location ++ 0x3f :: value := by
    simp [toString, marked]
  have whole : ∀ unit ∈ location ++ 0x3f :: value, unit ≠ 0x23 := by
    intro unit member
    rcases List.mem_append.mp member with before | after
    · exact (plain unit before).1
    · rcases List.mem_cons.mp after with rfl | after
      · decide
      · exact bare unit after
  have unqueried : ∀ unit ∈ location, unit ≠ 0x3f :=
    fun unit member => (plain unit member).2
  rw [written]
  simp only [parse, takeWhile_of_unmarked whole, after_of_unmarked whole,
    takeWhile_of_marked unqueried, after_of_marked unqueried]

/-- A parameter of units that are kept is read from the address in which it is
set. -/
theorem get_setSearchParam_of_kept (plain : IsLocation location)
    (keptName : SearchParams.isKeptText name = true)
    (keptValue : SearchParams.isKeptText value = true) :
    (parse (toString
      (setSearchParam name value (parse location)))).searchParams.get name =
        some value := by
  have bare : ∀ unit ∈ SearchParams.serialize [(name, value)],
      unit ≠ 0x23 := by
    rw [SearchParams.serialize_of_kept keptName keptValue]
    intro unit member
    rcases List.mem_append.mp member with before | after
    · exact SearchParams.ne_hash_of_isKeptText keptName before
    · rcases List.mem_cons.mp after with rfl | after
      · decide
      · exact SearchParams.ne_hash_of_isKeptText keptValue after
  have unset : searchParams ⟨location, none, none⟩ = [] := rfl
  rw [parse_location plain, setSearchParam, unset, SearchParams.set,
    parse_toString plain bare, searchParams, Option.getD_some,
    SearchParams.parse_serialize_of_kept keptName keptValue]
  simp [SearchParams.get]

end Kept

end Url

end EcmaScript
