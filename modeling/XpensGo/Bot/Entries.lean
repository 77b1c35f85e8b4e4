import XpensGo.Bot.Database

/-!
# Entries and budgets

The tools that write the ledger and the budgets, statement by statement.  Their
arguments are typed as the strict tool schemas promise, and `user_id` is never
one of them.  An error that a handler raises is caught by `dispatch_tool` and
leaves the statements made so far; a violated constraint ends the whole turn.
-/

namespace XpensGo

open Relational Transition

namespace Bot

variable {α : Type}

/-- The fields of an entry before it is stored. -/
structure ParsedEntry (α : Type) where
  type : EntryType
  amount : α
  category : String
  description : String
  txnDate : String

/-- The row that is inserted for a parsed transaction. -/
def ParsedEntry.row (entry : ParsedEntry α) (userId : String)
    (source : EntrySource) (rawInput : Option String) : EntryRow α :=
  { ledgerId := ledgerIdFor userId
    userId := userId
    paidBy := userId
    type := entry.type
    amount := entry.amount
    category := entry.category
    description := entry.description
    txnDate := entry.txnDate
    source := source
    rawInput := rawInput }

/-- `INSERT INTO entries`, with `lastrowid`. -/
def insertEntry (builtins : Builtins α) (row : EntryRow α) :
    BotHandler α Nat :=
  Handler.attempt (fun db =>
    if builtins.isPositive row.amount then
      some ((db.entries.insert row).1,
        { db with entries := (db.entries.insert row).2 })
    else
      none)

/-- `SET onboarded_at = COALESCE(onboarded_at, datetime('now'))`. -/
def markOnboarded (userId : String) (now : Int) : BotHandler α Unit :=
  Handler.statement (fun db =>
    ((), { db with
      users := db.users.modify userId (fun row =>
        { row with onboardedAt := row.onboardedAt.or (some now) }) }))

/-- Parameters that SQLite does not take end the turn. -/
def bindParameters (builtins : Builtins α) (numbers : List Int) :
    BotHandler α Unit :=
  Handler.attempt (fun db =>
    if builtins.bindable numbers then some ((), db) else none)

section Entries

/-- An entry as the model submits it. -/
structure NewEntry (α : Type) where
  type : String
  amount : α
  category : String
  description : String
  txnDate : String

/-- A payee and the category that the user has named for it. -/
structure TaughtPayee where
  payee : String
  category : String

/-- The arguments of `log_entries`. -/
structure LogEntriesPayload (α : Type) where
  entries : List (NewEntry α)
  teachPayee : Option TaughtPayee

variable (builtins : Builtins α)

/-- The body of the loop of `log_entries`. -/
def logEntry (userId : String) (entry : NewEntry α) :
    BotHandler α (Nat × ParsedEntry α) :=
  if entry.category ∉ defaultCategories then
    throw ("unsupported category: " ++ entry.category)
  else
    match EntryType.ofText? entry.type with
    | none => throw ("unsupported entry type: " ++ entry.type)
    | some type =>
        if builtins.isNonPositive entry.amount then
          throw "amount must be greater than zero"
        else do
          let logged : ParsedEntry α :=
            { type := type
              amount := entry.amount
              category := entry.category
              description := entry.description
              txnDate := entry.txnDate }
          let id ← insertEntry builtins (logged.row userId .manual none)
          pure (id, logged)

/-- `INSERT INTO payee_memory … ON CONFLICT DO UPDATE`. -/
def rememberPayee (userId payee category : String) : BotHandler α Unit :=
  Handler.statement (fun db =>
    ((), { db with
      payeeMemory := db.payeeMemory.upsert (userId, payee) category
        (fun _ => category) }))

/-- The category of a payee is remembered, if one is taught. -/
def teachPayee (userId : String) : Option TaughtPayee → BotHandler α Unit
  | none => pure ()
  | some taught =>
      if taught.category ∉ defaultCategories then
        throw ("unsupported category: " ++ taught.category)
      else
        rememberPayee userId (builtins.normalizePayee taught.payee)
          taught.category

/-- `log_entries`. -/
def logEntries (userId : String) (now : Int)
    (payload : LogEntriesPayload α) :
    BotHandler α (List (Nat × ParsedEntry α)) :=
  if payload.entries.isEmpty then
    throw "at least one entry is required"
  else do
    let inserted ← payload.entries.mapM (logEntry builtins userId)
    markOnboarded userId now
    teachPayee builtins userId payload.teachPayee
    pure inserted

/-- A live row of a ledger. -/
def isLive (ledgerId : String) (row : EntryRow α) : Bool :=
  row.ledgerId = ledgerId && row.deletedAt.isNone

/-- `UPDATE entries SET category … RETURNING`. -/
def updateCategory (userId : String) (entryId : Int) (category : String) :
    BotHandler α (Option (Nat × EntryRow α)) :=
  Handler.statement (fun db =>
    let updated : Nat → EntryRow α → Bool := fun id row =>
      (id : Int) = entryId && isLive (ledgerIdFor userId) row
    ((db.entries.select updated).head?.map (fun entry =>
        (entry.1, { entry.2 with category := category })),
      { db with
        entries := db.entries.updateWhere updated (fun row =>
          { row with category := category }) }))

/-- `recategorize_entry`. -/
def recategorizeEntry (userId : String) (entryId : Int) (category : String) :
    BotHandler α (Nat × EntryRow α) :=
  if category ∉ defaultCategories then
    throw ("unsupported category: " ++ category)
  else do
    bindParameters builtins [entryId]
    match ← updateCategory userId entryId category with
    | none => throw "entry not found"
    | some entry => pure entry

/-- `SELECT … ORDER BY id DESC LIMIT 1`. -/
def newestEntry (userId : String) :
    BotHandler α (Option (Nat × EntryRow α)) :=
  Handler.read (fun db =>
    (db.entries.select (fun _ row =>
      isLive (ledgerIdFor userId) row)).getLast?)

/-- `UPDATE entries SET deleted_at = datetime('now')`. -/
def softDelete (userId : String) (entryId : Nat) (now : Int) :
    BotHandler α Unit :=
  Handler.statement (fun db =>
    ((), { db with
      entries := db.entries.updateWhere
        (fun id row => id = entryId && row.ledgerId = ledgerIdFor userId)
        (fun row => { row with deletedAt := some now }) }))

/-- `delete_last_entry`. -/
def deleteLastEntry (userId : String) (now : Int) :
    BotHandler α (Nat × EntryRow α) := do
  match ← newestEntry userId with
  | none => throw "no live entry to delete"
  | some entry => do
      softDelete userId entry.1 now
      pure entry

/-- The deletions of `purge_my_data` and its update of `cost_log`. -/
def purged (userId : String) (db : BotDatabase α) : BotDatabase α :=
  { users := db.users.deleteWhere (fun key _ => key = userId)
    entries := db.entries.deleteWhere (fun _ row => row.userId = userId)
    pending := db.pending.deleteWhere (fun _ row => row.userId = userId)
    budgets := db.budgets.deleteWhere (fun key _ =>
      key.1 = ledgerIdFor userId)
    payeeMemory := db.payeeMemory.deleteWhere (fun key _ => key.1 = userId)
    customCategories := db.customCategories.deleteWhere (fun key _ =>
      key.1 = userId)
    context := db.context.deleteWhere (fun _ row => row.userId = userId)
    alertsSent := db.alertsSent.deleteWhere (fun key _ =>
      key.ledgerId = ledgerIdFor userId)
    costLog := db.costLog.updateWhere (fun _ row => row.userId = some userId)
      (fun row => { row with userId := none }) }

/-- `purge_my_data`; what the turns have cost stays, of nobody. -/
def purgeMyData (userId : String) : BotHandler α Unit :=
  Handler.statement (fun db => ((), purged userId db))

end Entries

section Budgets

/-- A budget with its spend, as `manage_budget` and `query_ledger` list it. -/
structure BudgetLine (α : Type) where
  category : String
  monthlyLimit : α
  spent : α
  remaining : α
  percentUsed : α

variable (builtins : Builtins α)

/-- The budgets of a ledger, by category, with the sum of those of its entries
that meet a condition. -/
def budgetLines (ledgerId : String) (listed : String → Bool)
    (counted : EntryRow α → Bool) (db : BotDatabase α) :
    List (BudgetLine α) :=
  ((db.budgets.select (fun key _ =>
      key.1 = ledgerId && listed key.2)).insertionSort
    (fun first second => first.1.2 ≤ second.1.2)).map (fun budget =>
      let spent := builtins.sum ((db.entries.select (fun _ row =>
        row.ledgerId = ledgerId && (row.category = budget.1.2 &&
          counted row))).map (fun entry => entry.2.amount))
      { category := budget.1.2
        monthlyLimit := budget.2
        spent := spent
        remaining := builtins.subtract budget.2 spent
        percentUsed := builtins.percent spent budget.2 })

/-- Live debits of the month in India. -/
def isSpentThisMonth (now : Int) (row : EntryRow α) : Bool :=
  row.type = .debit && (row.deletedAt.isNone &&
    (isoformat (monthStart (istDate now)) ≤ row.txnDate &&
      row.txnDate < isoformat (nextMonthStart (istDate now))))

/-- The arguments of `manage_budget`. -/
structure BudgetPayload (α : Type) where
  action : String
  category : Option String
  monthlyLimit : Option α

/-- What `manage_budget` answers. -/
inductive BudgetAnswer (α : Type) where
  | set (category : String) (monthlyLimit : α)
  | list (budgets : List (BudgetLine α))

/-- `INSERT INTO budgets … ON CONFLICT DO UPDATE`. -/
def upsertBudget (userId category : String) (limit : α) :
    BotHandler α Unit :=
  Handler.attempt (fun db =>
    if builtins.isPositive limit then
      some ((), { db with
        budgets := db.budgets.upsert (ledgerIdFor userId, category) limit
          (fun _ => limit) })
    else
      none)

/-- `manage_budget`. -/
def manageBudget (userId : String) (now : Int) (payload : BudgetPayload α) :
    BotHandler α (BudgetAnswer α) :=
  if payload.action = "set" then
    let category := payload.category.getD "None"
    if payload.category.isNone ∨ category ∉ defaultCategories then
      throw ("unsupported category: " ++ category)
    else
      match payload.monthlyLimit with
      | none => throw "monthly_limit must be greater than zero"
      | some limit =>
          if !builtins.isFinite limit || builtins.isNonPositive limit then
            throw "monthly_limit must be greater than zero"
          else do
            upsertBudget builtins userId category limit
            pure (.set category limit)
  else if payload.action = "list" then do
    let budgets ← Handler.read (budgetLines builtins (ledgerIdFor userId)
      (fun _ => true) (isSpentThisMonth now))
    pure (.list budgets)
  else
    throw ("unsupported budget action: " ++ payload.action)

end Budgets

end Bot

end XpensGo
