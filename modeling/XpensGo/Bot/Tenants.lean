import XpensGo.Bot.Agent

/-!
# Tenants of the bot

Whatever the agent asks for, the answer to an update depends on the caller's
rows and on the generated keys only, and other users' rows stay as they are,
apart from held transactions that are older than a day.
-/

namespace XpensGo

open Relational Transition

namespace Bot

variable {α : Type}

/-- The rows of one user. -/
structure TenantRows (α : Type) where
  user : Option UserRow
  entries : List (Nat × EntryRow α)
  pending : List (Nat × PendingRow α)
  budgets : List ((String × String) × α)
  payees : List ((String × String) × String)
  customCategories : List ((String × String) × Unit)
  context : List ContextRow
  alerts : List (AlertKey × Unit)
  costs : List (CostRow α)
  deriving DecidableEq

/-- The rows of all tables that belong to a user. -/
def rowsOf (userId : String) (db : BotDatabase α) : TenantRows α :=
  { user := db.users.find? userId
    entries := db.entries.select (fun _ row =>
      row.ledgerId = ledgerIdFor userId)
    pending := db.pending.select (fun _ row => row.userId = userId)
    budgets := db.budgets.select (fun key _ => key.1 = ledgerIdFor userId)
    payees := db.payeeMemory.select (fun key _ => key.1 = userId)
    customCategories := db.customCategories.select (fun key _ =>
      key.1 = userId)
    context := (db.context.select (fun _ row => row.userId = userId)).map
      Prod.snd
    alerts := db.alertsSent.select (fun key _ =>
      key.ledgerId = ledgerIdFor userId)
    costs := (db.costLog.select (fun _ row =>
      row.userId = some userId)).map Prod.snd }

/-- What an answer to the user may depend on: the user's rows, and the largest
keys of entries and of held transactions. -/
structure Visible (α : Type) where
  rows : TenantRows α
  lastEntry : Nat
  lastPending : Nat
  deriving DecidableEq

/-- The user's rows, and the largest keys that SQLite has given out. -/
def visibleTo (userId : String) (db : BotDatabase α) : Visible α :=
  { rows := rowsOf userId db
    lastEntry := db.entries.sequence
    lastPending := db.pending.sequence }

/-- Ledgers are those of the users of their rows. -/
structure OwnLedgers (db : BotDatabase α) : Prop where
  entries : db.entries.All (fun row => row.ledgerId = ledgerIdFor row.userId)
  pending : db.pending.All (fun row => row.ledgerId = ledgerIdFor row.userId)

/-- The rows of a user are kept, apart from held transactions that are more than
a day old at a time, if there is such a time. -/
structure KeepsRows (latest : Option Int) (before after : TenantRows α) :
    Prop where
  rest : { after with pending := before.pending } = before
  held : after.pending.Sublist before.pending
  recent : ∀ bound, latest = some bound → ∀ entry ∈ before.pending,
    bound - 86400 ≤ entry.2.createdAt → entry ∈ after.pending

/-- A time is no later than another, if there is another. -/
def NotAfter (latest : Option Int) (now : Int) : Prop :=
  ∀ bound, latest = some bound → now ≤ bound

/-- The rows of all other users are kept. -/
def KeepsOthers (userId : String) (latest : Option Int)
    (before after : BotDatabase α) : Prop :=
  ∀ other, other ≠ userId → KeepsRows latest (rowsOf other before)
    (rowsOf other after)

/-- What a tool may do: the rows of all others are kept, and nothing is added to
the user's conversation. -/
structure ToolKeeps (userId : String) (latest : Option Int)
    (before after : BotDatabase α) : Prop where
  others : KeepsOthers userId latest before after
  context : (rowsOf userId after).context.Sublist
    (rowsOf userId before).context

section Rules

variable {userId : String} {latest : Option Int}

theorem KeepsRows.refl (rows : TenantRows α) : KeepsRows latest rows rows where
  rest := rfl
  held := List.Sublist.refl _
  recent := fun _ _ _ member _ => member

theorem KeepsRows.trans {first middle last : TenantRows α}
    (left : KeepsRows latest first middle)
    (right : KeepsRows latest middle last) : KeepsRows latest first last where
  rest := by
    rw [← left.rest, ← right.rest]
  held := right.held.trans left.held
  recent := fun bound same entry member kept =>
    right.recent bound same entry
      (left.recent bound same entry member kept) kept

theorem keepsOthers_repeatable (userId : String) (latest : Option Int) :
    Repeatable (KeepsOthers (α := α) userId latest) where
  refl := fun _ _ _ => KeepsRows.refl _
  trans := fun left right other foreign =>
    (left other foreign).trans (right other foreign)

theorem toolKeeps_repeatable (userId : String) (latest : Option Int) :
    Repeatable (ToolKeeps (α := α) userId latest) where
  refl := fun db =>
    ⟨(keepsOthers_repeatable userId latest).refl db, List.Sublist.refl _⟩
  trans := fun left right =>
    ⟨(keepsOthers_repeatable userId latest).trans left.others right.others,
      right.context.trans left.context⟩

/-- A tool on behalf of a user is confined to the user's rows. -/
abbrev ConfinedTo (userId : String) (latest : Option Int) {β : Type}
    (handler : BotHandler α β) : Prop :=
  Confined OwnLedgers (visibleTo userId) (ToolKeeps userId latest) handler

/-- A turn on behalf of a user is confined to the user's rows; it may add to the
user's conversation. -/
abbrev TurnConfined (userId : String) (latest : Option Int) {β : Type}
    (handler : BotHandler α β) : Prop :=
  Confined OwnLedgers (visibleTo userId) (KeepsOthers userId latest) handler

theorem turnConfined_of_confined {β : Type} {handler : BotHandler α β}
    (confined : ConfinedTo userId latest handler) :
    TurnConfined userId latest handler :=
  confined.mono (fun keeps => keeps.others)

theorem turnConfined_bind {β γ : Type} {first : BotHandler α β}
    {next : β → BotHandler α γ} (confined : TurnConfined userId latest first)
    (continues : ∀ value, TurnConfined userId latest (next value)) :
    TurnConfined userId latest (first >>= next) :=
  Confined.bind (keepsOthers_repeatable userId latest) confined continues

theorem turnConfined_pure {β : Type} (value : β) :
    TurnConfined (α := α) userId latest (pure value) :=
  Confined.pure (keepsOthers_repeatable userId latest) value

/-- A statement that leaves the rows of all others as they are. -/
theorem confinedTo_statement {β : Type}
    {run : BotDatabase α → β × BotDatabase α} (act : Visible α → β × Visible α)
    (owned : ∀ db, OwnLedgers db → OwnLedgers (run db).2)
    (others : ∀ db other, OwnLedgers db → other ≠ userId →
      rowsOf other (run db).2 = rowsOf other db)
    (acts : ∀ db, OwnLedgers db →
      ((run db).1, visibleTo userId (run db).2) = act (visibleTo userId db))
    (context : ∀ part : Visible α,
      (act part).2.rows.context.Sublist part.rows.context) :
    ConfinedTo userId latest (Handler.statement run) := by
  apply Confined.statement act
  · intro db holds
    refine ⟨owned db holds, ?_, ?_⟩
    · intro other foreign
      rw [others db other holds foreign]
      exact KeepsRows.refl _
    · have moved := congrArg (fun result : β × Visible α =>
        result.2.rows.context) (acts db holds)
      simp only at moved
      change (visibleTo userId (run db).2).rows.context.Sublist _
      rw [moved]
      exact context (visibleTo userId db)
  · exact acts

theorem confinedTo_pure {β : Type} (value : β) :
    ConfinedTo (α := α) userId latest (pure value) :=
  Confined.pure (toolKeeps_repeatable userId latest) value

theorem confinedTo_throw {β : Type} (error : String) :
    ConfinedTo (α := α) (β := β) userId latest (throw error) :=
  Confined.throw (toolKeeps_repeatable userId latest) error

theorem confinedTo_bind {β γ : Type} {first : BotHandler α β}
    {next : β → BotHandler α γ} (confined : ConfinedTo userId latest first)
    (continues : ∀ value, ConfinedTo userId latest (next value)) :
    ConfinedTo userId latest (first >>= next) :=
  Confined.bind (toolKeeps_repeatable userId latest) confined continues

theorem confinedTo_mapM {β γ : Type} {each : γ → BotHandler α β}
    {items : List γ}
    (confined : ∀ item ∈ items, ConfinedTo userId latest (each item)) :
    ConfinedTo userId latest (items.mapM each) :=
  Confined.mapM (toolKeeps_repeatable userId latest) confined

theorem confinedTo_read {β : Type} {query : BotDatabase α → β}
    (answer : Visible α → β)
    (answers : ∀ db, query db = answer (visibleTo userId db)) :
    ConfinedTo userId latest (Handler.read query) :=
  Confined.read (toolKeeps_repeatable userId latest) answer
    (fun db _ => answers db)

end Rules

section Statements

variable {userId : String} {latest : Option Int}

theorem ledger_ne {other : String} (foreign : other ≠ userId) :
    ledgerIdFor userId ≠ ledgerIdFor other :=
  fun same => foreign (ledgerIdFor_injective same).symm

theorem confinedTo_insertEntry (builtins : Builtins α) {row : EntryRow α}
    (ledger : row.ledgerId = ledgerIdFor userId)
    (user : row.userId = userId) :
    ConfinedTo userId latest (insertEntry builtins row) := by
  apply Confined.guarded
  apply confinedTo_statement (fun part =>
    (part.lastEntry + 1, { part with
      rows := { part.rows with
        entries := part.rows.entries ++ [(part.lastEntry + 1, row)] }
      lastEntry := part.lastEntry + 1 }))
  · intro db holds
    exact ⟨holds.entries.insert (by rw [ledger, user]), holds.pending⟩
  · intro db other _ foreign
    have kept : (db.entries.insert row).2.select (fun _ row =>
        row.ledgerId = ledgerIdFor other) =
          db.entries.select (fun _ row =>
            row.ledgerId = ledgerIdFor other) := by
      rw [AutoTable.select_insert]
      simp [ledger, Ne.symm foreign]
    simp only [rowsOf, kept]
  · intro db _
    simp only [visibleTo, rowsOf, AutoTable.select_insert, ledger,
      decide_true, if_true]
    rfl
  · intro part
    exact List.Sublist.refl _

theorem confinedTo_insertPending (builtins : Builtins α) {row : PendingRow α}
    (ledger : row.ledgerId = ledgerIdFor userId)
    (user : row.userId = userId) :
    ConfinedTo userId latest (insertPending builtins row) := by
  apply Confined.guarded
  apply confinedTo_statement (fun part =>
    (part.lastPending + 1, { part with
      rows := { part.rows with
        pending := part.rows.pending ++ [(part.lastPending + 1, row)] }
      lastPending := part.lastPending + 1 }))
  · intro db holds
    exact ⟨holds.entries, holds.pending.insert (by rw [ledger, user])⟩
  · intro db other _ foreign
    have kept : (db.pending.insert row).2.select (fun _ row =>
        row.userId = other) =
          db.pending.select (fun _ row => row.userId = other) := by
      rw [AutoTable.select_insert]
      simp [user, Ne.symm foreign]
    simp only [rowsOf, kept]
  · intro db _
    simp only [visibleTo, rowsOf, AutoTable.select_insert, user,
      decide_true, if_true]
    rfl
  · intro part
    exact List.Sublist.refl _

theorem confinedTo_bindParameters (builtins : Builtins α)
    (numbers : List Int) :
    ConfinedTo userId latest (bindParameters builtins numbers) := by
  apply Confined.guarded
  apply confinedTo_read (fun _ => ())
  intro db
  rfl

theorem confinedTo_markOnboarded (now : Int) :
    ConfinedTo (α := α) userId latest (markOnboarded userId now) := by
  apply confinedTo_statement (fun part => ((), { part with
    rows := { part.rows with
      user := part.rows.user.map (fun row =>
        { row with onboardedAt := row.onboardedAt.or (some now) }) } }))
  · intro db holds
    exact ⟨holds.entries, holds.pending⟩
  · intro db other _ foreign
    simp only [rowsOf, Table.find?_modify_of_ne _ _ foreign]
  · intro db _
    simp only [visibleTo, rowsOf, Table.find?_modify_self]
  · intro part
    exact List.Sublist.refl _

theorem confinedTo_upsertUser (displayName : Option String) :
    ConfinedTo (α := α) userId latest (upsertUser userId displayName) := by
  apply confinedTo_statement (fun part => ((), { part with
    rows := { part.rows with
      user := some (part.rows.user.elim { displayName := displayName }
        (fun row => { row with
          displayName := displayName.or row.displayName })) } }))
  · intro db holds
    exact ⟨holds.entries, holds.pending⟩
  · intro db other _ foreign
    simp only [rowsOf, Table.find?_upsert, if_neg foreign]
  · intro db _
    simp only [visibleTo, rowsOf, Table.find?_upsert, if_true]
  · intro part
    exact List.Sublist.refl _

theorem confinedTo_rememberPayee (payee category : String) :
    ConfinedTo (α := α) userId latest
      (rememberPayee userId payee category) := by
  apply confinedTo_statement (fun part => ((), { part with
    rows := { part.rows with
      payees := Table.upsertRow part.rows.payees (userId, payee) category
        (fun _ => category) } }))
  · intro db holds
    exact ⟨holds.entries, holds.pending⟩
  · intro db other _ foreign
    have kept := Table.select_upsert_of_false db.payeeMemory (userId, payee)
      category (fun _ => category) (fun key => decide (key.1 = other))
      (decide_eq_false (Ne.symm foreign))
    simp only [rowsOf, kept]
  · intro db _
    have moved := Table.select_upsert db.payeeMemory (userId, payee) category
      (fun _ => category) (fun key => decide (key.1 = userId))
      (decide_eq_true rfl)
    simp only [visibleTo, rowsOf, moved]
  · intro part
    exact List.Sublist.refl _

theorem confinedTo_upsertBudget (builtins : Builtins α) (category : String)
    (limit : α) :
    ConfinedTo userId latest
      (upsertBudget builtins userId category limit) := by
  apply Confined.guarded
  apply confinedTo_statement (fun part => ((), { part with
    rows := { part.rows with
      budgets := Table.upsertRow part.rows.budgets
        (ledgerIdFor userId, category) limit (fun _ => limit) } }))
  · intro db holds
    exact ⟨holds.entries, holds.pending⟩
  · intro db other _ foreign
    have kept := Table.select_upsert_of_false db.budgets
      (ledgerIdFor userId, category) limit (fun _ => limit)
      (fun key => decide (key.1 = ledgerIdFor other))
      (decide_eq_false (ledger_ne foreign))
    simp only [rowsOf, kept]
  · intro db _
    have moved := Table.select_upsert db.budgets (ledgerIdFor userId, category)
      limit (fun _ => limit) (fun key => decide (key.1 = ledgerIdFor userId))
      (decide_eq_true rfl)
    simp only [visibleTo, rowsOf, moved]
  · intro part
    exact List.Sublist.refl _

theorem ledger_of_isLive {row : EntryRow α}
    (live : isLive (ledgerIdFor userId) row = true) :
    row.ledgerId = ledgerIdFor userId := by
  unfold isLive at live
  exact of_decide_eq_true (Bool.and_eq_true_iff.mp live).1

/-- An update of rows of the user's ledger that stay in it. -/
theorem confinedTo_updateEntries {β : Type}
    (updated : Nat → EntryRow α → Bool) (set : EntryRow α → EntryRow α)
    (answer : List (Nat × EntryRow α) → β)
    (within : ∀ key row, updated key row = true →
      row.ledgerId = ledgerIdFor userId)
    (ledger : ∀ row, (set row).ledgerId = row.ledgerId)
    (user : ∀ row, (set row).userId = row.userId) :
    ConfinedTo userId latest (Handler.statement (fun db : BotDatabase α =>
      (answer (db.entries.select updated),
        { db with entries := db.entries.updateWhere updated set }))) := by
  apply confinedTo_statement (fun part =>
    (answer (part.rows.entries.filter (fun entry => updated entry.1 entry.2)),
      { part with
        rows := { part.rows with
          entries := part.rows.entries.map (fun entry =>
            (entry.1, if updated entry.1 entry.2 then set entry.2
              else entry.2)) } }))
  · intro db holds
    refine ⟨holds.entries.updateWhere ?_, holds.pending⟩
    intro row owned
    rw [ledger, user, owned]
  · intro db other _ foreign
    have kept : (db.entries.updateWhere updated set).select (fun _ row =>
        row.ledgerId = ledgerIdFor other) =
          db.entries.select (fun _ row =>
            row.ledgerId = ledgerIdFor other) := by
      apply AutoTable.select_updateWhere_of_disjoint
      · intro key row met
        rw [within key row met]
        exact decide_eq_false (ledger_ne foreign)
      · intro key row met
        rw [ledger, within key row met]
        exact decide_eq_false (ledger_ne foreign)
    simp only [rowsOf, kept]
  · intro db _
    have moved : (db.entries.updateWhere updated set).select (fun _ row =>
        row.ledgerId = ledgerIdFor userId) =
          (db.entries.select (fun _ row =>
            row.ledgerId = ledgerIdFor userId)).map (fun entry =>
              (entry.1, if updated entry.1 entry.2 then set entry.2
                else entry.2)) := by
      apply Table.select_updateWhere
      intro key row _
      rw [ledger]
    have shown : db.entries.select updated =
        (db.entries.select (fun _ row =>
          row.ledgerId = ledgerIdFor userId)).filter (fun entry =>
            updated entry.1 entry.2) := by
      apply AutoTable.select_of_implies
      intro key row met
      exact decide_eq_true (within key row met)
    simp only [visibleTo, rowsOf, moved, shown]
    rfl
  · intro part
    exact List.Sublist.refl _

theorem confinedTo_updateCategory (entryId : Int) (category : String) :
    ConfinedTo (α := α) userId latest
      (updateCategory userId entryId category) := by
  apply confinedTo_updateEntries (β := Option (Nat × EntryRow α))
    (fun id row => (id : Int) = entryId && isLive (ledgerIdFor userId) row)
    (fun row => { row with category := category })
    (fun rows => rows.head?.map (fun entry : Nat × EntryRow α =>
      (entry.1, { entry.2 with category := category })))
  · intro key row met
    exact ledger_of_isLive (Bool.and_eq_true_iff.mp met).2
  · intro row
    rfl
  · intro row
    rfl

theorem confinedTo_softDelete (entryId : Nat) (now : Int) :
    ConfinedTo (α := α) userId latest (softDelete userId entryId now) := by
  apply confinedTo_updateEntries
    (fun id row => id = entryId && row.ledgerId = ledgerIdFor userId)
    (fun row => { row with deletedAt := some now }) (fun _ => ())
  · intro key row met
    exact of_decide_eq_true (Bool.and_eq_true_iff.mp met).2
  · intro row
    rfl
  · intro row
    rfl

/-- A query of rows of the user's ledger. -/
theorem select_entries_eq (condition : Nat → EntryRow α → Bool)
    (within : ∀ key row, condition key row = true →
      row.ledgerId = ledgerIdFor userId) (db : BotDatabase α) :
    db.entries.select condition =
      (rowsOf userId db).entries.filter (fun entry =>
        condition entry.1 entry.2) :=
  AutoTable.select_of_implies (fun key row met =>
    decide_eq_true (within key row met))

theorem confinedTo_newestEntry :
    ConfinedTo (α := α) userId latest (newestEntry userId) := by
  apply confinedTo_read (fun part =>
    (part.rows.entries.filter (fun entry =>
      isLive (ledgerIdFor userId) entry.2)).getLast?)
  intro db
  rw [select_entries_eq _ (fun _ _ met => ledger_of_isLive met)]
  rfl

theorem confinedTo_isDuplicate (builtins : Builtins α)
    (entry : ParsedEntry α) :
    ConfinedTo userId latest
      (isDuplicate builtins (ledgerIdFor userId) entry) := by
  apply confinedTo_read (fun part =>
    !(part.rows.entries.filter (fun stored =>
      resembles builtins (ledgerIdFor userId) entry stored.2)).isEmpty)
  intro db
  rw [select_entries_eq (fun _ row =>
    resembles builtins (ledgerIdFor userId) entry row) (fun _ _ met =>
      ledger_of_isLive (Bool.and_eq_true_iff.mp met).1)]
  rfl

theorem confinedTo_selectEntries (condition : EntryRow α → Bool) :
    ConfinedTo userId latest
      (selectEntries (ledgerIdFor userId) condition) := by
  apply confinedTo_read (fun part =>
    part.rows.entries.filter (fun entry =>
      entry.2.ledgerId = ledgerIdFor userId && condition entry.2))
  intro db
  rw [select_entries_eq _ (fun _ _ met =>
    of_decide_eq_true (Bool.and_eq_true_iff.mp met).1)]
  rfl

theorem confinedTo_budgetLines (builtins : Builtins α)
    (listed : String → Bool) (counted : EntryRow α → Bool) :
    ConfinedTo userId latest (Handler.read
      (budgetLines builtins (ledgerIdFor userId) listed counted)) := by
  apply confinedTo_read (fun part =>
    ((part.rows.budgets.filter (fun budget =>
        budget.1.1 = ledgerIdFor userId && listed budget.1.2)).insertionSort
      (fun first second => first.1.2 ≤ second.1.2)).map (fun budget =>
        let spent := builtins.sum ((part.rows.entries.filter (fun entry =>
          entry.2.ledgerId = ledgerIdFor userId &&
            (entry.2.category = budget.1.2 && counted entry.2))).map
              (fun entry => entry.2.amount))
        { category := budget.1.2
          monthlyLimit := budget.2
          spent := spent
          remaining := builtins.subtract budget.2 spent
          percentUsed := builtins.percent spent budget.2 }))
  intro db
  have budgets : db.budgets.select (fun key _ =>
      key.1 = ledgerIdFor userId && listed key.2) =
        (db.budgets.select (fun key _ =>
          key.1 = ledgerIdFor userId)).filter (fun budget =>
            budget.1.1 = ledgerIdFor userId && listed budget.1.2) := by
    apply Table.select_of_implies
    intro key row met
    exact (Bool.and_eq_true_iff.mp met).1
  unfold budgetLines
  rw [budgets]
  apply List.map_congr_left
  intro budget _
  rw [select_entries_eq _ (fun _ _ met =>
    of_decide_eq_true (Bool.and_eq_true_iff.mp met).1)]
  rfl

theorem confinedTo_expirePending {now : Int} (past : NotAfter latest now) :
    ConfinedTo (α := α) userId latest (expirePending now) := by
  apply Confined.statement (fun part => ((), { part with
    rows := { part.rows with
      pending := part.rows.pending.filter (fun entry =>
        !decide (entry.2.createdAt < now - 86400)) } }))
  · intro db holds
    refine ⟨⟨holds.entries, holds.pending.deleteWhere _⟩, ?_,
      List.Sublist.refl _⟩
    intro other _
    constructor
    · rfl
    · simp only [rowsOf, AutoTable.select_deleteWhere]
      exact List.filter_sublist
    · intro bound same entry member recent
      simp only [rowsOf, AutoTable.select_deleteWhere]
      apply List.mem_filter.mpr
      refine ⟨member, ?_⟩
      have earlier : now ≤ bound := past bound same
      have kept : ¬entry.2.createdAt < now - 86400 := by omega
      simp [kept]
  · intro db _
    simp only [visibleTo, rowsOf, AutoTable.select_deleteWhere]
    rfl

theorem confinedTo_deletePendingWhere (deleted : Nat → PendingRow α → Bool)
    (within : ∀ key row, deleted key row = true → row.userId = userId) :
    ConfinedTo userId latest (Handler.statement (fun db : BotDatabase α =>
      ((), { db with pending := db.pending.deleteWhere deleted }))) := by
  apply confinedTo_statement (fun part => ((), { part with
    rows := { part.rows with
      pending := part.rows.pending.filter (fun entry =>
        !deleted entry.1 entry.2) } }))
  · intro db holds
    exact ⟨holds.entries, holds.pending.deleteWhere _⟩
  · intro db other _ foreign
    have kept : (db.pending.deleteWhere deleted).select (fun _ row =>
        row.userId = other) =
          db.pending.select (fun _ row => row.userId = other) := by
      apply AutoTable.select_deleteWhere_of_disjoint
      intro key row _ met
      rw [within key row met]
      exact decide_eq_false (Ne.symm foreign)
    simp only [rowsOf, kept]
  · intro db _
    simp only [visibleTo, rowsOf, AutoTable.select_deleteWhere]
    rfl
  · intro part
    exact List.Sublist.refl _

theorem confinedTo_clearPending :
    ConfinedTo (α := α) userId latest (clearPending userId) := by
  apply confinedTo_deletePendingWhere (fun _ row => row.userId = userId)
  intro key row met
  exact of_decide_eq_true met

theorem confinedTo_deletePending (pendingIds : List Int) :
    ConfinedTo (α := α) userId latest
      (deletePending userId pendingIds) := by
  apply confinedTo_deletePendingWhere (fun id row =>
    row.userId = userId && (id : Int) ∈ pendingIds)
  intro key row met
  exact of_decide_eq_true (Bool.and_eq_true_iff.mp met).1

theorem confinedTo_selectPending (pendingIds : List Int) :
    ConfinedTo (α := α) userId latest
      (selectPending userId pendingIds) := by
  apply confinedTo_read (fun part =>
    part.rows.pending.filter (fun entry =>
      entry.2.userId = userId && (entry.1 : Int) ∈ pendingIds))
  intro db
  change _ = (db.pending.select (fun _ row => row.userId = userId)).filter _
  apply AutoTable.select_of_implies
  intro key row met
  exact (Bool.and_eq_true_iff.mp met).1

theorem turnConfined_insertContext (now : Int) (role : ContextRole)
    (content : String) :
    TurnConfined (α := α) userId latest
      (insertContext userId now role content) := by
  apply Confined.statement (fun part => ((), { part with
    rows := { part.rows with
      context := part.rows.context ++
        [{ userId := userId
           role := role
           content := content
           createdAt := now }] } }))
  · intro db holds
    refine ⟨⟨holds.entries, holds.pending⟩, ?_⟩
    intro other foreign
    simp only [rowsOf, AutoTable.select_insert,
      decide_eq_false (Ne.symm foreign), Bool.false_eq_true, if_false,
      List.append_nil]
    exact KeepsRows.refl _
  · intro db _
    simp only [visibleTo, rowsOf, AutoTable.select_insert, decide_true,
      if_true, List.map_append, List.map_cons, List.map_nil]

theorem confinedTo_expireContext (now : Int) :
    ConfinedTo (α := α) userId latest (expireContext userId now) := by
  apply confinedTo_statement (fun part => ((), { part with
    rows := { part.rows with
      context := part.rows.context.filter (fun row =>
        !(row.userId = userId && row.createdAt < now - 604800)) } }))
  · intro db holds
    exact ⟨holds.entries, holds.pending⟩
  · intro db other _ foreign
    have kept : (db.context.deleteWhere (fun _ row =>
        row.userId = userId && row.createdAt < now - 604800)).select
          (fun _ row => row.userId = other) =
            db.context.select (fun _ row => row.userId = other) := by
      apply AutoTable.select_deleteWhere_of_disjoint
      intro key row _ met
      rw [of_decide_eq_true (Bool.and_eq_true_iff.mp met).1]
      exact decide_eq_false (Ne.symm foreign)
    simp only [rowsOf, kept]
  · intro db _
    simp only [visibleTo, rowsOf, AutoTable.select_deleteWhere,
      List.filter_map]
    rfl
  · intro part
    exact List.filter_sublist

theorem confinedTo_createResponse (builtins : Builtins α) (agent : Agent α)
    (shown : List (Shown α)) :
    ConfinedTo userId latest
      (createResponse builtins agent userId shown) := by
  apply Confined.attempt (fun part => (agent shown).map (fun response =>
    (response, { part with
      rows := { part.rows with
        costs := part.rows.costs ++
          [{ userId := some userId
             operation := "agent_turn"
             model := "gpt-5.4-nano"
             inputTokens := response.inputTokens
             outputTokens := response.outputTokens
             costUsd := builtins.zero }] } })))
  · intro db answer final holds ran
    obtain ⟨response, _, same⟩ := Option.map_eq_some_iff.mp ran
    cases same
    refine ⟨⟨holds.entries, holds.pending⟩, ?_, List.Sublist.refl _⟩
    intro other foreign
    have unselected : (some userId = some other) = False :=
      eq_false (fun same => foreign (Option.some.inj same).symm)
    simp only [rowsOf, AutoTable.select_insert, unselected, decide_false]
    simp only [Bool.false_eq_true, if_false, List.append_nil]
    exact KeepsRows.refl _
  · intro db _
    simp only [Option.map_map, Function.comp_def, visibleTo, rowsOf,
      AutoTable.select_insert, decide_true, if_true, List.map_append,
      List.map_cons, List.map_nil]

theorem rowsOf_purged_of_ne {db : BotDatabase α} {other : String}
    (holds : OwnLedgers db) (foreign : other ≠ userId) :
    rowsOf other (purged userId db) = rowsOf other db := by
  have user : (db.users.deleteWhere (fun key _ => key = userId)).find? other
      = db.users.find? other := by
    rw [Table.find?_deleteWhere]
    cases db.users.find? other with
    | none => rfl
    | some row => rw [Option.filter_some, if_pos (by simp [foreign])]
  have entries : (db.entries.deleteWhere (fun _ row =>
      row.userId = userId)).select (fun _ row =>
        row.ledgerId = ledgerIdFor other) =
          db.entries.select (fun _ row =>
            row.ledgerId = ledgerIdFor other) := by
    apply AutoTable.select_deleteWhere_of_disjoint
    intro key row member met
    rw [holds.entries _ member, of_decide_eq_true met]
    exact decide_eq_false (ledger_ne foreign)
  have pending : (db.pending.deleteWhere (fun _ row =>
      row.userId = userId)).select (fun _ row => row.userId = other) =
        db.pending.select (fun _ row => row.userId = other) :=
    AutoTable.select_deleteWhere_of_ne
      (fun _ (row : PendingRow α) => row.userId) foreign
  have context : (db.context.deleteWhere (fun _ row =>
      row.userId = userId)).select (fun _ row => row.userId = other) =
        db.context.select (fun _ row => row.userId = other) :=
    AutoTable.select_deleteWhere_of_ne
      (fun _ (row : ContextRow) => row.userId) foreign
  have budgets : (db.budgets.deleteWhere (fun key _ =>
      key.1 = ledgerIdFor userId)).select (fun key _ =>
        key.1 = ledgerIdFor other) =
          db.budgets.select (fun key _ => key.1 = ledgerIdFor other) :=
    Table.select_deleteWhere_of_ne db.budgets (fun key _ => key.1)
      (ledger_ne foreign).symm
  have payees : (db.payeeMemory.deleteWhere (fun key _ =>
      key.1 = userId)).select (fun key _ => key.1 = other) =
        db.payeeMemory.select (fun key _ => key.1 = other) :=
    Table.select_deleteWhere_of_ne db.payeeMemory (fun key _ => key.1) foreign
  have categories : (db.customCategories.deleteWhere (fun key _ =>
      key.1 = userId)).select (fun key _ => key.1 = other) =
        db.customCategories.select (fun key _ => key.1 = other) :=
    Table.select_deleteWhere_of_ne db.customCategories (fun key _ => key.1)
      foreign
  have alerts : (db.alertsSent.deleteWhere (fun key _ =>
      key.ledgerId = ledgerIdFor userId)).select (fun key _ =>
        key.ledgerId = ledgerIdFor other) =
          db.alertsSent.select (fun key _ =>
            key.ledgerId = ledgerIdFor other) :=
    Table.select_deleteWhere_of_ne db.alertsSent (fun key _ => key.ledgerId)
      (ledger_ne foreign).symm
  have costs : (db.costLog.updateWhere (fun _ row =>
      row.userId = some userId) (fun row =>
        { row with userId := none })).select (fun _ row =>
          row.userId = some other) =
            db.costLog.select (fun _ row => row.userId = some other) := by
    apply AutoTable.select_updateWhere_of_disjoint
    · intro key row met
      rw [of_decide_eq_true met]
      exact decide_eq_false (fun same =>
        foreign (Option.some.inj same).symm)
    · intro key row _
      rfl
  simp only [rowsOf, purged, user, entries, pending, context, budgets,
    payees, categories, alerts, costs]

/-- What is left of a user whose data were purged. -/
def noRows : TenantRows α :=
  { user := none
    entries := []
    pending := []
    budgets := []
    payees := []
    customCategories := []
    context := []
    alerts := []
    costs := [] }

theorem rowsOf_purged {db : BotDatabase α} (holds : OwnLedgers db) :
    rowsOf userId (purged userId db) = noRows := by
  have user : (db.users.deleteWhere (fun key _ => key = userId)).find? userId
      = none := by
    rw [Table.find?_deleteWhere]
    simp
  have entries : (db.entries.deleteWhere (fun _ row =>
      row.userId = userId)).select (fun _ row =>
        row.ledgerId = ledgerIdFor userId) = [] := by
    apply AutoTable.select_deleteWhere_of_covers
    intro key row member met
    have owner : row.ledgerId = ledgerIdFor row.userId :=
      holds.entries _ member
    rw [of_decide_eq_true met] at owner
    exact decide_eq_true (ledgerIdFor_injective owner).symm
  have costs : (db.costLog.updateWhere (fun _ row =>
      row.userId = some userId) (fun row =>
        { row with userId := none })).select (fun _ row =>
          row.userId = some userId) = [] := by
    apply AutoTable.select_updateWhere_of_covers
    · intro key row met
      exact met
    · intro key row
      rfl
  have pending : (db.pending.deleteWhere (fun _ row =>
      row.userId = userId)).select (fun _ row => row.userId = userId) = [] :=
    AutoTable.select_deleteWhere_of_covers (fun _ _ _ met => met)
  have context : (db.context.deleteWhere (fun _ row =>
      row.userId = userId)).select (fun _ row => row.userId = userId) = [] :=
    AutoTable.select_deleteWhere_of_covers (fun _ _ _ met => met)
  simp only [rowsOf, purged, user, entries, costs, pending,
    context, Table.select_deleteWhere_of_covers _ (fun _ _ _ met => met)]
  rfl

theorem confinedTo_purgeMyData :
    ConfinedTo (α := α) userId latest (purgeMyData userId) := by
  apply confinedTo_statement (fun part => ((), { part with rows := noRows }))
  · intro db holds
    exact ⟨holds.entries.deleteWhere _, holds.pending.deleteWhere _⟩
  · intro db other holds foreign
    exact rowsOf_purged_of_ne holds foreign
  · intro db holds
    have rows : rowsOf userId (purged userId db) = noRows :=
      rowsOf_purged holds
    simp only [visibleTo, rows]
    rfl
  · intro part
    exact List.nil_sublist _

end Statements

end Bot

end XpensGo
