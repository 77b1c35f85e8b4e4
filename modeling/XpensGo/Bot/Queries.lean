import XpensGo.Bot.Entries

/-!
# Questions about the ledger

`query_ledger` reads the entries of the caller's ledger and writes nothing.
-/

namespace XpensGo

open Relational Transition

namespace Bot

variable {α : Type}

/-- The arguments of `query_ledger`. -/
structure QuerySlots where
  metric : String
  type : String
  category : Option String
  descriptionContains : Option String
  dateFrom : String
  dateTo : String
  compareDateFrom : Option String
  compareDateTo : Option String
  groupBy : String

/-- The metrics that a query may ask for. -/
def metrics : List String :=
  ["total", "list", "max", "avg_per_day", "count", "budget_status"]

/-- The types that a query may select. -/
def entryTypes : List String :=
  ["debit", "credit", "all"]

/-- The answer to a query, by its metric. -/
inductive Metric (α : Type) where
  | total (total : α)
  | groups (groups : List (String × α))
  | entries (entries : List (Nat × EntryRow α))
  | entry (entry : Option (Nat × EntryRow α))
  | avgPerDay (total : α) (days : Int) (average : α)
  | count (count : Nat)
  | budgets (budgets : List (BudgetLine α))

/-- What `query_ledger` returns. -/
structure QueryAnswer (α : Type) where
  metric : String
  type : String
  dateFrom : String
  dateTo : String
  answer : Metric α
  comparison : Option (String × String × Metric α)

variable (builtins : Builtins α)

/-- `_date_slot`. -/
def dateSlot (name value : String) : BotHandler α String :=
  match builtins.dateFromIsoformat value with
  | none => throw (name ++ " must be YYYY-MM-DD")
  | some _ => pure value

/-- The conditions of `_entry_filters` on a row of the ledger. -/
def isFiltered (slots : QuerySlots) (entryType dateFrom dateTo : String)
    (row : EntryRow α) : Bool :=
  row.deletedAt.isNone && (dateFrom ≤ row.txnDate && (row.txnDate ≤ dateTo &&
    ((entryType = "all" || EntryType.ofText? entryType = some row.type) &&
      (slots.category.all (fun category => row.category = category) &&
        slots.descriptionContains.all (fun text =>
          builtins.contains text row.description)))))

/-- The check of `_entry_filters`. -/
def checkFilters (slots : QuerySlots) : BotHandler α Unit :=
  if slots.category = some "" then
    throw "category must be a non-empty string"
  else
    pure ()

/-- `SELECT … FROM entries WHERE …`, by key. -/
def selectEntries (ledgerId : String) (condition : EntryRow α → Bool) :
    BotHandler α (List (Nat × EntryRow α)) :=
  Handler.read (fun db => db.entries.select (fun _ row =>
    row.ledgerId = ledgerId && condition row))

/-- `ORDER BY txn_date DESC, id DESC`. -/
def isLater (first second : Nat × EntryRow α) : Prop :=
  second.2.txnDate < first.2.txnDate ∨
    (second.2.txnDate = first.2.txnDate ∧ second.1 ≤ first.1)

instance : DecidableRel (isLater (α := α)) :=
  fun _ _ => inferInstanceAs (Decidable (_ ∨ _))

/-- `ORDER BY amount DESC, txn_date DESC, id DESC`. -/
def isLarger (first second : Nat × EntryRow α) : Prop :=
  builtins.greater first.2.amount second.2.amount = true ∨
    (builtins.greater second.2.amount first.2.amount = false ∧
      isLater first second)

instance : DecidableRel (isLarger builtins) :=
  fun _ _ => inferInstanceAs (Decidable (_ ∨ _))

/-- The amounts of some entries. -/
def amounts (rows : List (Nat × EntryRow α)) : List α :=
  rows.map (fun entry => entry.2.amount)

/-- `GROUP BY column ORDER BY column`. -/
def groupTotals (column : EntryRow α → String)
    (rows : List (Nat × EntryRow α)) : List (String × α) :=
  (((rows.map (fun entry => column entry.2)).dedup).insertionSort
    (· ≤ ·)).map (fun value =>
      (value, builtins.sum (amounts (rows.filter (fun entry =>
        column entry.2 = value)))))

/-- A quotient that does not exist ends the turn. -/
def averagePerDay (total : α) (days : Int) : BotHandler α α :=
  Handler.attempt (fun db =>
    if days ≠ 0 then some (builtins.divide total days, db) else none)

/-- `(date.fromisoformat(date_to) - date.fromisoformat(date_from)).days + 1`. -/
def countDays (dateFrom dateTo : String) : Int :=
  (builtins.dateFromIsoformat dateTo).getD 0 -
    (builtins.dateFromIsoformat dateFrom).getD 0 + 1

/-- `_query_metric`. -/
def queryMetric (slots : QuerySlots) (ledgerId entryType dateFrom dateTo :
    String) : BotHandler α (Metric α) := do
  checkFilters slots
  let rows ← selectEntries ledgerId
    (isFiltered builtins slots entryType dateFrom dateTo)
  match slots.metric with
  | "total" =>
      match slots.groupBy with
      | "none" => pure (.total (builtins.sum (amounts rows)))
      | "category" =>
          pure (.groups (groupTotals builtins EntryRow.category rows))
      | "txn_date" =>
          pure (.groups (groupTotals builtins EntryRow.txnDate rows))
      | _ => throw "group_by must be category, txn_date, or none"
  | "list" => pure (.entries ((rows.insertionSort isLater).take 200))
  | "max" => pure (.entry (rows.insertionSort (isLarger builtins)).head?)
  | "avg_per_day" => do
      let total := builtins.sum (amounts rows)
      let days := countDays builtins dateFrom dateTo
      let average ← averagePerDay builtins total days
      pure (.avgPerDay total days average)
  | "count" => pure (.count rows.length)
  | _ => do
      -- budget status is of debits, whatever type was asked for
      let budgets ← Handler.read (budgetLines builtins ledgerId
        (fun category => slots.category.all (fun asked => category = asked))
        (isFiltered builtins slots "debit" dateFrom dateTo))
      pure (.budgets budgets)

/-- The dates to compare with, if they are asked for. -/
def compareDates (slots : QuerySlots) :
    BotHandler α (Option (String × String)) :=
  match slots.compareDateFrom, slots.compareDateTo with
  | none, none => pure none
  | some compareFrom, some compareTo => do
      let compareFrom ← dateSlot builtins "compare_date_from" compareFrom
      let compareTo ← dateSlot builtins "compare_date_to" compareTo
      if compareTo < compareFrom then
        throw "compare_date_from must not be after compare_date_to"
      else
        pure (some (compareFrom, compareTo))
  | _, _ => throw "compare_date_from and compare_date_to must be set together"

def queryComparison (slots : QuerySlots) (ledgerId entryType : String) :
    Option (String × String) → BotHandler α
      (Option (String × String × Metric α))
  | none => pure none
  | some (compareFrom, compareTo) => do
      let answer ← queryMetric builtins slots ledgerId entryType compareFrom
        compareTo
      pure (some (compareFrom, compareTo, answer))

/-- `query_ledger`. -/
def queryLedger (userId : String) (slots : QuerySlots) :
    BotHandler α (QueryAnswer α) :=
  if slots.metric ∉ metrics then
    throw ("unsupported metric: " ++ slots.metric)
  else if slots.type ∉ entryTypes then
    throw ("unsupported entry type: " ++ slots.type)
  else do
    let dateFrom ← dateSlot builtins "date_from" slots.dateFrom
    let dateTo ← dateSlot builtins "date_to" slots.dateTo
    if dateTo < dateFrom then
      throw "date_from must not be after date_to"
    else do
      let compared ← compareDates builtins slots
      let type := if slots.metric = "budget_status" then "debit" else slots.type
      let answer ← queryMetric builtins slots (ledgerIdFor userId) type
        dateFrom dateTo
      let comparison ← queryComparison builtins slots (ledgerIdFor userId) type
        compared
      pure { metric := slots.metric
             type := type
             dateFrom := dateFrom
             dateTo := dateTo
             answer := answer
             comparison := comparison }

end Bot

end XpensGo
