import Mathlib.Data.List.Sort
import XpensGo.EcmaScript.Calendar
import XpensGo.Relational.Statements
import XpensGo.Transition.Confinement

/-!
# The ledger of the bot

The SQLite tables of the Python bot.  Timestamps are in seconds, dates are the
ISO texts that the code compares, and amounts are of an arbitrary type with the
operations that the code applies to its `REAL` columns.
-/

namespace XpensGo

open EcmaScript Relational Transition

namespace Bot

/-- Arithmetic of `float` and of `REAL` columns, and the built-in functions on
text and dates that the handlers call. -/
structure Builtins (α : Type) where
  zero : α
  /-- `SUM` of the amounts of some rows. -/
  sum : List α → α
  subtract : α → α → α
  divide : α → Int → α
  /-- `(spent / limit) * 100`. -/
  percent : α → α → α
  /-- `percent < threshold`. -/
  isBelow : α → Nat → Bool
  /-- `amount > 0`, as a `CHECK` of a column that is not null. -/
  isPositive : α → Bool
  /-- `amount <= 0`. -/
  isNonPositive : α → Bool
  isFinite : α → Bool
  equal : α → α → Bool
  /-- `>`, as `ORDER BY amount DESC` compares. -/
  greater : α → α → Bool
  /-- `date.fromisoformat`, as an ordinal. -/
  dateFromIsoformat : String → Option Int
  /-- `description LIKE '%text%' COLLATE NOCASE`. -/
  contains : String → String → Bool
  /-- `payee.strip().lower()`. -/
  normalizePayee : String → String
  /-- `SequenceMatcher(None, old.lower(), new.lower()).ratio() >= 0.8`. -/
  isSimilar : String → String → Bool
  /-- SQLite takes the numbers as parameters of one statement. -/
  bindable : List Int → Bool

/-- `DEFAULT_CATEGORIES`. -/
def defaultCategories : List String :=
  ["Food & Dining", "Groceries", "Transport", "Rent & Utilities", "Shopping",
    "Entertainment", "Health", "Education", "Personal Care", "Subscriptions",
    "Travel", "Family & Gifts", "Fees & Charges", "Other"]

/-- `ledger_id_for`: every user has one ledger. -/
def ledgerIdFor (userId : String) : String :=
  "user:" ++ userId

theorem ledgerIdFor_injective : Function.Injective ledgerIdFor := by
  intro first second same
  exact (String.append_right_inj "user:").mp same

@[simp] theorem ledgerIdFor_inj {first second : String} :
    ledgerIdFor first = ledgerIdFor second ↔ first = second :=
  ledgerIdFor_injective.eq_iff

/-- Money that is spent, or received. -/
inductive EntryType where
  | debit
  | credit
  deriving DecidableEq

/-- The type that a text names. -/
def EntryType.ofText? : String → Option EntryType
  | "debit" => some .debit
  | "credit" => some .credit
  | _ => none

/-- Where an entry comes from. -/
inductive EntrySource where
  | manual
  | sms
  | statement
  deriving DecidableEq

/-- A row of `users`. -/
structure UserRow where
  displayName : Option String
  onboardedAt : Option Int := none
  deriving DecidableEq

/-- A row of `entries`; a deleted entry keeps its row. -/
structure EntryRow (α : Type) where
  ledgerId : String
  userId : String
  paidBy : String
  type : EntryType
  amount : α
  category : String
  description : String
  txnDate : String
  source : EntrySource
  rawInput : Option String := none
  deletedAt : Option Int := none
  deriving DecidableEq

/-- A row of `pending_entries`: a transaction that is held. -/
structure PendingRow (α : Type) where
  ledgerId : String
  userId : String
  type : EntryType
  amount : α
  category : String
  description : String
  txnDate : String
  source : EntrySource
  rawInput : String
  createdAt : Int
  deriving DecidableEq

/-- Whose message it is. -/
inductive ContextRole where
  | user
  | assistant
  deriving DecidableEq

/-- A row of `conversation_context`. -/
structure ContextRow where
  userId : String
  role : ContextRole
  content : String
  createdAt : Int
  deriving DecidableEq

/-- The primary key of `alerts_sent`. -/
structure AlertKey where
  ledgerId : String
  category : String
  month : String
  threshold : Nat
  deriving DecidableEq

/-- A row of `cost_log`. -/
structure CostRow (α : Type) where
  userId : Option String
  operation : String
  model : String
  inputTokens : Nat
  outputTokens : Nat
  costUsd : α
  deriving DecidableEq

/-- The tables; budgets are addressed by ledger and category, remembered payees
by user and payee, categories by user and name. -/
structure BotDatabase (α : Type) where
  users : Table String UserRow := .empty
  entries : AutoTable (EntryRow α) := {}
  pending : AutoTable (PendingRow α) := {}
  budgets : Table (String × String) α := .empty
  payeeMemory : Table (String × String) String := .empty
  customCategories : Table (String × String) Unit := .empty
  context : AutoTable ContextRow := {}
  alertsSent : Table AlertKey Unit := .empty
  costLog : AutoTable (CostRow α) := {}

/-- Handlers answer with a value, or with the text of an error that
`dispatch_tool` reports to the model. -/
abbrev BotHandler (α β : Type) := Handler (BotDatabase α) String β

section Dates

/-- The date in India, five and a half hours ahead. -/
def istDate (now : Int) : Calendar.Date :=
  Calendar.dateFromDay ((now + 19800) / 86400)

/-- The last digits of a number, as many as the width says. -/
def decimalDigits : Nat → Nat → List Char
  | 0, _ => []
  | width + 1, value =>
      decimalDigits width (value / 10) ++ [Char.ofNat (0x30 + value % 10)]

/-- `strftime("%Y-%m")`. -/
def monthText (date : Calendar.Date) : String :=
  String.ofList (decimalDigits 4 date.year.toNat ++
    '-' :: decimalDigits 2 date.month)

/-- `date.isoformat()`. -/
def isoformat (date : Calendar.Date) : String :=
  monthText date ++ String.ofList ('-' :: decimalDigits 2 date.day)

/-- The first day of the month of a date. -/
def monthStart (date : Calendar.Date) : Calendar.Date :=
  { date with day := 1 }

/-- The first day of the following month. -/
def nextMonthStart (date : Calendar.Date) : Calendar.Date :=
  if date.month = 12 then
    { year := date.year + 1, month := 1, day := 1 }
  else
    { date with month := date.month + 1, day := 1 }

end Dates

end Bot

end XpensGo
