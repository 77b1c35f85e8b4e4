import Mathlib.Data.List.Infix
import XpensGo.Bot.Entries
import XpensGo.Bot.Reading

/-!
# Pasted messages and statements

Transactions are read from a pasted text or from a CSV file, and stored one
after the other: one that resembles a live entry is held until the user
confirms or discards it.
-/

namespace XpensGo

open Relational Transition

namespace Bot

variable {α : Type}

/-- `SAMPLE_UPI_REF`: a message with it is shown, but not stored. -/
def sampleUpiRef : String := "000000424242"

/-- `MERCHANT_CATEGORIES`, in the order of the dictionary. -/
def merchantCategories : List (String × String) :=
  [("blinkit", "Groceries"), ("zepto", "Groceries"),
    ("instamart", "Groceries"), ("bigbasket", "Groceries"),
    ("general store", "Groceries"), ("kirana", "Groceries"),
    ("zomato", "Food & Dining"), ("swiggy", "Food & Dining"),
    ("uber", "Transport"), ("ola", "Transport"), ("rapido", "Transport"),
    ("metro", "Transport"), ("petrol", "Transport"),
    ("netflix", "Subscriptions"), ("hotstar", "Subscriptions"),
    ("gym", "Subscriptions"), ("myntra", "Shopping"), ("amazon", "Shopping"),
    ("apollo pharmacy", "Health"), ("makemytrip", "Travel"),
    ("bookmyshow", "Entertainment"), ("electricity", "Rent & Utilities"),
    ("bses", "Rent & Utilities"), ("recharge", "Rent & Utilities")]

/-- `word in text`. -/
def occursIn (word text : String) : Bool :=
  decide (word.toList <:+: text.toList)

/-- `_category`, of a description in lower case. -/
def categoryOf (lower : String) : String :=
  ((merchantCategories.find? (fun entry => occursIn entry.1 lower)).map
    Prod.snd).getD "Other"

section Pending

variable (builtins : Builtins α)

/-- The row that holds a parsed transaction. -/
def ParsedEntry.pendingRow (entry : ParsedEntry α) (userId : String)
    (source : EntrySource) (rawInput : String) (now : Int) : PendingRow α :=
  { ledgerId := ledgerIdFor userId
    userId := userId
    type := entry.type
    amount := entry.amount
    category := entry.category
    description := entry.description
    txnDate := entry.txnDate
    source := source
    rawInput := rawInput
    createdAt := now }

/-- `INSERT INTO pending_entries`. -/
def insertPending (row : PendingRow α) : BotHandler α Nat :=
  Handler.attempt (fun db =>
    if builtins.isPositive row.amount then
      some ((db.pending.insert row).1,
        { db with pending := (db.pending.insert row).2 })
    else
      none)

/-- `DELETE … WHERE created_at < datetime('now', '-24 hours')`, of all users. -/
def expirePending (now : Int) : BotHandler α Unit :=
  Handler.statement (fun db =>
    ((), { db with
      pending := db.pending.deleteWhere (fun _ row =>
        row.createdAt < now - 86400) }))

/-- `DELETE FROM pending_entries WHERE user_id = ?`. -/
def clearPending (userId : String) : BotHandler α Unit :=
  Handler.statement (fun db =>
    ((), { db with
      pending := db.pending.deleteWhere (fun _ row =>
        row.userId = userId) }))

/-- A live entry of the ledger that a transaction resembles. -/
def resembles (ledgerId : String) (entry : ParsedEntry α)
    (row : EntryRow α) : Bool :=
  isLive ledgerId row && (builtins.equal row.amount entry.amount &&
    (row.txnDate = entry.txnDate &&
      builtins.isSimilar row.description entry.description))

/-- `_is_duplicate`. -/
def isDuplicate (ledgerId : String) (entry : ParsedEntry α) :
    BotHandler α Bool :=
  Handler.read (fun db =>
    !(db.entries.select (fun _ row =>
      resembles builtins ledgerId entry row)).isEmpty)

/-- Where a transaction is stored. -/
inductive Stored where
  | pending (id : Nat)
  | inserted (id : Nat)
  deriving DecidableEq

/-- A transaction that resembles a live entry is held, any other is entered. -/
def storeTransaction (userId : String) (source : EntrySource) (now : Int)
    (entry : ParsedEntry α) (rawInput : String) : BotHandler α Stored := do
  let duplicate ← isDuplicate builtins (ledgerIdFor userId) entry
  if duplicate then do
    let id ← insertPending builtins
      (entry.pendingRow userId source rawInput now)
    pure (.pending id)
  else do
    let id ← insertEntry builtins (entry.row userId source (some rawInput))
    pure (.inserted id)

end Pending

section Messages

variable (builtins : Builtins α) (reader : SmsReader α)

/-- What comes of a part of the pasted text. -/
inductive ChunkOutcome (α : Type) where
  | skipped
  | dryRun (entry : ParsedEntry α)
  | stored (stored : Stored) (entry : ParsedEntry α)

/-- The transaction that a part of the text describes. -/
def parsedEntry (now : Int) (chunk : String) (amount : α) : ParsedEntry α :=
  { type := if reader.isCredited chunk then .credit else .debit
    amount := amount
    category := categoryOf (reader.lower (reader.description chunk))
    description := reader.description chunk
    txnDate := reader.date now chunk }

/-- The body of the loop of `parse_transactions`. -/
def parseChunk (userId : String) (now : Int) (chunk : String) :
    BotHandler α (ChunkOutcome α) :=
  match reader.amount chunk with
  | .error error => throw error
  | .ok none => pure .skipped
  | .ok (some amount) =>
      let entry := parsedEntry reader now chunk amount
      if occursIn sampleUpiRef chunk then
        pure (.dryRun entry)
      else do
        let stored ← storeTransaction builtins userId .sms now entry chunk
        pure (.stored stored entry)

/-- The transaction was entered. -/
def ChunkOutcome.isInserted : ChunkOutcome α → Bool
  | .stored (.inserted _) _ => true
  | _ => false

/-- An inserted debit of category `Other` whose text names a payee. -/
def unknownPayee (chunk : String) : ChunkOutcome α → Option String
  | .stored (.inserted _) entry =>
      if entry.category = "Other" && (entry.type = .debit &&
          reader.namesPayee chunk) then
        some entry.description
      else
        none
  | _ => none

/-- What `parse_transactions` returns. -/
structure ParseResult (α : Type) where
  outcomes : List (ChunkOutcome α)
  unknownPayees : List String

/-- Users are onboarded with their first entries. -/
def onboardIf (inserted : Bool) (userId : String) (now : Int) :
    BotHandler α Unit :=
  if inserted then markOnboarded userId now else pure ()

/-- `parse_transactions`. -/
def parseTransactions (userId : String) (now : Int) (rawText : String) :
    BotHandler α (ParseResult α) := do
  expirePending now
  clearPending userId
  let outcomes ← (splitSms rawText).mapM
    (parseChunk builtins reader userId now)
  onboardIf (outcomes.any ChunkOutcome.isInserted) userId now
  pure { outcomes := outcomes
         unknownPayees :=
           ((splitSms rawText).zip outcomes).filterMap (fun pair =>
             unknownPayee reader pair.1 pair.2) }

/-- `SELECT … FROM pending_entries WHERE user_id = ? AND id IN (…)`. -/
def selectPending (userId : String) (pendingIds : List Int) :
    BotHandler α (List (Nat × PendingRow α)) :=
  Handler.read (fun db =>
    db.pending.select (fun id row =>
      row.userId = userId && (id : Int) ∈ pendingIds))

/-- `DELETE FROM pending_entries WHERE user_id = ? AND id IN (…)`. -/
def deletePending (userId : String) (pendingIds : List Int) :
    BotHandler α Unit :=
  Handler.statement (fun db =>
    ((), { db with
      pending := db.pending.deleteWhere (fun id row =>
        row.userId = userId && (id : Int) ∈ pendingIds) }))

/-- The row that `log` makes of a held transaction. -/
def PendingRow.entryRow (row : PendingRow α) (userId : String) : EntryRow α :=
  { ledgerId := row.ledgerId
    userId := userId
    paidBy := userId
    type := row.type
    amount := row.amount
    category := row.category
    description := row.description
    txnDate := row.txnDate
    source := row.source
    rawInput := some row.rawInput }

/-- `resolve_pending`: held transactions of the user are entered or dropped. -/
def resolvePending (userId : String) (pendingIds : List Int)
    (action : String) : BotHandler α Nat :=
  if action ∉ ["log", "discard"] then
    throw "action must be log or discard"
  else if pendingIds.isEmpty then
    pure 0
  else do
    bindParameters builtins pendingIds
    let rows ← selectPending userId pendingIds
    let _ ← (if action = "log" then rows else []).mapM (fun row =>
      insertEntry builtins (row.2.entryRow userId))
    deletePending userId pendingIds
    pure rows.length

end Messages

section Files

/-- `_CSV_HEADERS`. -/
def csvHeaders : List (String × List String) :=
  [("date", ["date", "transactiondate", "txndate", "valuedate",
      "posteddate"]),
    ("amount", ["amount", "transactionamount", "txnamount", "amountinr",
      "withdrawalamount"]),
    ("description", ["description", "narration", "particulars", "details",
      "transactiondetails", "merchant", "payee"]),
    ("type", ["type", "transactiontype", "txntype", "debitcredit",
      "debitcreditindicator", "drcr"])]

/-- `MAX_CSV_BYTES`. -/
def maxCsvBytes : Nat := 1024 * 1024
/-- `MAX_CSV_ROWS`. -/
def maxCsvRows : Nat := 500

/-- The reasons of `_csv_clarification`. -/
inductive Clarification where
  | fileTooLarge
  | tooManyRows
  | invalidCsv
  | missingColumns (fields : List String)
  deriving DecidableEq

variable (builtins : Builtins α) (reader : SmsReader α)
  (statements : StatementReader α)

/-- The first column with a known header of the field. -/
def csvColumn (headers : List String) (field : String) : Option Nat :=
  headers.findIdx? (fun header =>
    normaliseHeader reader header ∈ (csvHeaders.lookup field).getD [])

/-- The positions of the columns of a file. -/
structure CsvColumns where
  date : Nat
  amount : Nat
  description : Nat
  type : Option Nat

/-- `_csv_columns`, or the columns that are missing. -/
def csvColumns (headers : List String) : Except Clarification CsvColumns :=
  match csvColumn reader headers "date", csvColumn reader headers "amount",
    csvColumn reader headers "description" with
  | some date, some amount, some description =>
      .ok { date := date
            amount := amount
            description := description
            type := csvColumn reader headers "type" }
  | _, _, _ =>
      .error (.missingColumns (["date", "amount", "description"].filter
        (fun field => (csvColumn reader headers field).isNone)))

/-- A row of the file, where the columns are not beyond its end. -/
def csvEntry (now : Int) (columns : CsvColumns) (row : List String) :
    Option (ParsedEntry α) := do
  let date ← row[columns.date]?
  let amountCell ← row[columns.amount]?
  let descriptionCell ← row[columns.description]?
  let type ← match columns.type with
    | none => some none
    | some column => (row[column]?).map some
  let amount ← csvAmount reader statements amountCell
  if builtins.equal amount builtins.zero then
    none
  else
    let stripped := Python.strip descriptionCell
    let description := if stripped.isEmpty then "Transaction" else stripped
    pure { type := csvType reader statements type amount
           amount := statements.abs amount
           category := categoryOf (reader.lower description)
           description := description
           txnDate := csvDate reader now date }

/-- The file is read as a whole before anything is stored; it has a header. -/
def readStatement (now : Int) (file : List UInt8) :
    Except Clarification (List (ParsedEntry α × String)) :=
  if maxCsvBytes < file.length then
    .error .fileTooLarge
  else
    match decodeSignedUtf8 file with
    | none => .error .invalidCsv
    | some text =>
        match statements.csvRows text with
        | ([], _) => .error .invalidCsv
        | ((headers, start) :: rows, malformed) => do
            let columns ← csvColumns reader headers
            if maxCsvRows < rows.length then
              .error .tooManyRows
            else if malformed then
              .error .invalidCsv
            else
              .ok ((withRawRows (Python.splitlines text) start rows).filterMap
                (fun row =>
                  (csvEntry builtins reader statements now columns row.1).map
                    (fun entry => (entry, row.2))))

/-- The rows of a statement are stored one after the other. -/
def storeStatement (userId : String) (now : Int)
    (rows : List (ParsedEntry α × String)) :
    BotHandler α (List (ChunkOutcome α)) := do
  expirePending now
  clearPending userId
  let outcomes ← rows.mapM (fun row => do
    let stored ← storeTransaction builtins userId .statement now row.1 row.2
    pure (ChunkOutcome.stored stored row.1))
  onboardIf (outcomes.any ChunkOutcome.isInserted) userId now
  pure outcomes

/-- `parse_csv_statement`. -/
def parseCsvStatement (userId : String) (now : Int) (file : List UInt8) :
    BotHandler α (Except Clarification (List (ChunkOutcome α))) :=
  match readStatement builtins reader statements now file with
  | .error clarification => pure (.error clarification)
  | .ok rows => do
      let outcomes ← storeStatement builtins userId now rows
      pure (.ok outcomes)

end Files

end Bot

end XpensGo
