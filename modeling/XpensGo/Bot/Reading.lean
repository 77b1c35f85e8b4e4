import XpensGo.Bot.Database
import XpensGo.EcmaScript.TextCodec
import XpensGo.Python.RegExp

/-!
# Readings of messages and of cells

The amount, the day and the description that a pasted message names, and what
the cells of a statement denote.
-/

namespace XpensGo

namespace Bot

open Python

variable {α : Type}

/-- Built-in functions on a text: whether `\w` and `\d` match a character,
`lower`, `float` with the text of its error, and the ISO text of the date that
`strptime` reads with a format. -/
structure SmsReader (α : Type) where
  isWord : Char → Bool
  isDecimal : Char → Bool
  lower : String → String
  float : String → Except String α
  strptime : String → String → Option String

section Messages

variable (reader : SmsReader α)

/-- `split_sms`. -/
def splitSms (rawText : String) : List String :=
  let text := strip rawText
  let blankLines : Pattern :=
    .sequences [.exactly "\n", .spaces, .repeated (· = '\n') 1 none true]
  if text.isEmpty then []
  else (((blankLines.split text).map strip).filter (!·.isEmpty)).take 50

namespace SmsReader

/-- `(?:Rs\.?|INR|₹)`. -/
def currency : Pattern :=
  .choices (.sequence (.anyCase "Rs") (.optional (.exactly ".")))
    [.anyCase "INR", .exactly "₹"]

/-- `([\d,]+(?:\.\d{1,2})?)`. -/
def number : Pattern :=
  .group (.sequence
    (.repeated (fun char => reader.isDecimal char || char = ',') 1 none true)
    (.optional (.sequence (.exactly ".")
      (.repeated reader.isDecimal 1 (some 2) true))))

/-- `[^;]+?`. -/
def clause : Pattern :=
  .repeated (· ≠ ';') 1 none false

/-- The patterns of `_amount`. -/
def amountPatterns : List Pattern :=
  [.sequences [currency, .spaces, reader.number, .someSpaces,
      .choices (.anyCase "debited") [.anyCase "credited"]],
    .sequences [.choices
        (.sequence (.anyCase "debited")
          (.optional (.sequence .someSpaces (.anyCase "for"))))
        [.sequences [.anyCase "credited", .someSpaces, .anyCase "to",
          .someSpaces, clause, .someSpaces, .anyCase "on", .someSpaces,
          .repeated (!isSpace ·) 1 none true, .someSpaces, .anyCase "by",
          .someSpaces, clause]],
      .spaces, .optional (.sequence (.anyCase "for") .spaces), currency,
      .spaces, reader.number],
    .sequences [.choices
        (.sequences [.anyCase "Paid", .someSpaces, .anyCase "Rs",
          .optional (.exactly ".")])
        [.sequences [.anyCase "You paid", .someSpaces, .exactly "₹"]],
      .spaces, reader.number]]

/-- What the group of the first pattern that is found captures. -/
def firstCaptured (patterns : List Pattern) (text : String) : Option String :=
  (patterns.findSome? (·.search text)).bind (·.captured)

/-- `_amount`. -/
def amount (text : String) : Except String (Option α) :=
  match firstCaptured reader.amountPatterns text with
  | none => .ok none
  | some number => (reader.float (remove "," number)).map some

/-- `\b(\d{2})[- ]?(\d{2}|[A-Za-z]{3})[- ]?(\d{2,4})\b`. -/
def datePattern : Pattern :=
  let separator : Pattern :=
    .optional (.one (fun char => char = '-' || char = ' '))
  let letter (char : Char) : Bool :=
    ('A' ≤ char && char ≤ 'Z') || ('a' ≤ char && char ≤ 'z')
  .sequences [.boundary reader.isWord, .repeated reader.isDecimal 2 (some 2) true,
    separator, .choices (.repeated reader.isDecimal 2 (some 2) true)
      [.repeated letter 3 (some 3) true],
    separator, .repeated reader.isDecimal 2 (some 4) true,
    .boundary reader.isWord]

/-- `_date`; a text without a date is of the day in India. -/
def date (now : Int) (text : String) : String :=
  ((reader.datePattern.search text).bind (fun found =>
    ["%d-%m-%y", "%d-%b-%y", "%d%b%y", "%d %b %y", "%d-%m-%Y",
      "%d-%b-%Y"].findSome? (reader.strptime found.text))).getD
    (isoformat (istDate now))

/-- `(.+?)`. -/
def phrase : Pattern :=
  .group (.repeated (· ≠ '\n') 1 none false)

/-- The patterns of `_description`. -/
def descriptionPatterns : List Pattern :=
  let sentenceEnd : Pattern := .sequence (.exactly ".") (.one isSpace)
  [.sequences [.anyCase "towards", .someSpaces, phrase, .choices sentenceEnd
      [.sequences [.exactly ".", .spaces, .anyCase "-SBI"], .ending]],
    .sequences [.boundary reader.isWord, .anyCase "at", .someSpaces, phrase,
      .choices sentenceEnd
        [.sequences [.exactly ".", .spaces, .exactly "-"], .ending]],
    .sequences [.boundary reader.isWord, .anyCase "to", .someSpaces,
      .optional (.sequence (.anyCase "VPA") .someSpaces), phrase,
      .choices (.sequence .someSpaces
          (.choices (.anyCase "via") [.anyCase "using"]))
        [.sequence .spaces (.exactly "("), .exactly ".", .ending]]]

/-- `_description`. -/
def description (text : String) : String :=
  match firstCaptured reader.descriptionPatterns text with
  | none => "Transaction"
  | some named =>
      stripWhere (fun char => char = ' ' || char = '.' || char = ';') named

/-- `re.search(r"\bcredited\b", text, re.I)`. -/
def isCredited (text : String) : Bool :=
  ((Pattern.sequences [.boundary reader.isWord, .anyCase "credited",
    .boundary reader.isWord]).search text).isSome

/-- `re.search(r"\b(?:trf to|to)\s+[A-Z][A-Z ]+", text)`. -/
def namesPayee (text : String) : Bool :=
  let capital (char : Char) : Bool := 'A' ≤ char && char ≤ 'Z'
  ((Pattern.sequences [.boundary reader.isWord,
    .choices (.exactly "trf to") [.exactly "to"], .someSpaces, .one capital,
    .repeated (fun char => capital char || char = ' ') 1 none true]).search
      text).isSome

end SmsReader

end Messages

/-- Built-in functions on a file: the rows of `csv.reader` in strict mode, each
with `line_num` after it, up to a malformed one, and whether there is one; the
magnitude and the negation of a number and whether it is below zero. -/
structure StatementReader (α : Type) where
  csvRows : String → List (List String × Nat) × Bool
  abs : α → α
  negate : α → α
  isNegative : α → Bool

section Cells

/-- `file.decode("utf-8-sig")`. -/
def decodeSignedUtf8 (file : List UInt8) : Option String :=
  (EcmaScript.Utf8.Decoder.ready.runFatal file).map (fun codes =>
    String.ofList ((EcmaScript.Utf8.withoutMark codes).map Char.ofNat))

/-- The text of each row: its lines, without the end of the last one. -/
def withRawRows (lines : List String) :
    Nat → List (List String × Nat) → List (List String × String)
  | _, [] => []
  | start, (row, line) :: rows =>
      (row, rstripWhere (fun char => char = '\r' || char = '\n')
        (String.join ((lines.take line).drop start))) ::
          withRawRows lines line rows

variable (reader : SmsReader α) (statements : StatementReader α)

/-- `_normalise_header`. -/
def normaliseHeader (header : String) : String :=
  String.ofList ((reader.lower header).toList.filter (fun char =>
    ('a' ≤ char && char ≤ 'z') || ('0' ≤ char && char ≤ '9')))

/-- `_csv_amount`. -/
def csvAmount (value : String) : Option α :=
  let cleaned := [",", "₹", "INR", "Rs.", "Rs"].foldl
    (fun text word => remove word text) (strip value)
  let negative := startsWith '-' cleaned ||
    (startsWith '(' cleaned && endsWith ')' cleaned)
  match reader.float
    (stripWhere (fun char => char = '(' || char = ')') cleaned) with
  | .error _ => none
  | .ok number =>
      let amount := statements.abs number
      some (if negative then statements.negate amount else amount)

/-- `_csv_date`. -/
def csvDate (now : Int) (value : String) : String :=
  let candidate := strip value
  (["%Y-%m-%d", "%d/%m/%Y", "%d-%m-%Y", "%d/%m/%y", "%d-%m-%y", "%d %b %Y",
    "%d-%b-%Y"].findSome? (reader.strptime candidate)).getD
      (reader.date now candidate)

/-- `_csv_type`, on a cell if there is one. -/
def csvType (cell : Option String) (amount : α) : EntryType :=
  let normalised := normaliseHeader reader (cell.getD "")
  if normalised ∈ ["credit", "cr", "c", "deposit", "income"] then .credit
  else if normalised ∈ ["debit", "dr", "d", "withdrawal", "expense"] then
    .debit
  else if statements.isNegative amount then .credit
  else .debit

end Cells

end Bot

end XpensGo
