import XpensGo.Bot.Tenants
import XpensGo.Transition.System

/-!
# Isolation of tenants

The tools, the turns and the updates are confined because their statements are.
-/

namespace XpensGo

open Relational Transition

namespace Bot

variable {α : Type} {userId : String} {latest : Option Int}
  (builtins : Builtins α)

section Tools

theorem confinedTo_logEntry (entry : NewEntry α) :
    ConfinedTo userId latest (logEntry builtins userId entry) := by
  unfold logEntry
  split
  · exact confinedTo_throw _
  · split
    · exact confinedTo_throw _
    · split
      · exact confinedTo_throw _
      · apply confinedTo_bind
        · exact confinedTo_insertEntry builtins rfl rfl
        · intro id
          exact confinedTo_pure _

theorem confinedTo_teachPayee (taught : Option TaughtPayee) :
    ConfinedTo userId latest (teachPayee builtins userId taught) := by
  cases taught with
  | none => exact confinedTo_pure ()
  | some taught =>
      apply Confined.ite
      · intro _
        exact confinedTo_throw _
      · intro _
        exact confinedTo_rememberPayee _ _

theorem confinedTo_logEntries (now : Int) (payload : LogEntriesPayload α) :
    ConfinedTo userId latest (logEntries builtins userId now payload) := by
  unfold logEntries
  split
  · exact confinedTo_throw _
  · apply confinedTo_bind
    · exact confinedTo_mapM (fun entry _ => confinedTo_logEntry builtins entry)
    · intro inserted
      apply confinedTo_bind (confinedTo_markOnboarded now)
      intro _
      apply confinedTo_bind (confinedTo_teachPayee builtins _)
      intro _
      exact confinedTo_pure inserted

theorem confinedTo_recategorizeEntry (entryId : Int) (category : String) :
    ConfinedTo userId latest
      (recategorizeEntry builtins userId entryId category) := by
  unfold recategorizeEntry
  split
  · exact confinedTo_throw _
  · apply confinedTo_bind (confinedTo_bindParameters builtins _)
    intro _
    apply confinedTo_bind (confinedTo_updateCategory entryId category)
    intro updated
    cases updated with
    | none => exact confinedTo_throw _
    | some entry => exact confinedTo_pure entry

theorem confinedTo_deleteLastEntry (now : Int) :
    ConfinedTo (α := α) userId latest (deleteLastEntry userId now) := by
  unfold deleteLastEntry
  apply confinedTo_bind confinedTo_newestEntry
  intro newest
  cases newest with
  | none => exact confinedTo_throw _
  | some entry =>
      apply confinedTo_bind (confinedTo_softDelete entry.1 now)
      intro _
      exact confinedTo_pure entry

theorem confinedTo_manageBudget (now : Int) (payload : BudgetPayload α) :
    ConfinedTo userId latest (manageBudget builtins userId now payload) := by
  unfold manageBudget
  split
  · simp only
    split
    · exact confinedTo_throw _
    · split
      · exact confinedTo_throw _
      · split
        · exact confinedTo_throw _
        · apply confinedTo_bind (confinedTo_upsertBudget builtins _ _)
          intro _
          exact confinedTo_pure _
  · split
    · apply confinedTo_bind (confinedTo_budgetLines builtins _ _)
      intro budgets
      exact confinedTo_pure _
    · exact confinedTo_throw _

theorem confinedTo_storeTransaction (source : EntrySource) (now : Int)
    (entry : ParsedEntry α) (rawInput : String) :
    ConfinedTo userId latest
      (storeTransaction builtins userId source now entry rawInput) := by
  unfold storeTransaction
  apply confinedTo_bind (confinedTo_isDuplicate builtins entry)
  intro duplicate
  split
  · apply confinedTo_bind
    · exact confinedTo_insertPending builtins rfl rfl
    · intro id
      exact confinedTo_pure _
  · apply confinedTo_bind
    · exact confinedTo_insertEntry builtins rfl rfl
    · intro id
      exact confinedTo_pure _

theorem confinedTo_parseChunk (reader : SmsReader α) (now : Int)
    (chunk : String) :
    ConfinedTo userId latest
      (parseChunk builtins reader userId now chunk) := by
  unfold parseChunk
  split
  · exact confinedTo_throw _
  · exact confinedTo_pure _
  · simp only
    split
    · exact confinedTo_pure _
    · apply confinedTo_bind (confinedTo_storeTransaction builtins _ now _ _)
      intro stored
      exact confinedTo_pure _

theorem confinedTo_onboardIf (inserted : Bool) (now : Int) :
    ConfinedTo (α := α) userId latest (onboardIf inserted userId now) := by
  unfold onboardIf
  split
  · exact confinedTo_markOnboarded now
  · exact confinedTo_pure ()

theorem confinedTo_parseTransactions (reader : SmsReader α) {now : Int}
    (past : NotAfter latest now) (rawText : String) :
    ConfinedTo userId latest
      (parseTransactions builtins reader userId now rawText) := by
  unfold parseTransactions
  apply confinedTo_bind (confinedTo_expirePending past)
  intro _
  apply confinedTo_bind confinedTo_clearPending
  intro _
  apply confinedTo_bind
  · exact confinedTo_mapM (fun chunk _ =>
      confinedTo_parseChunk builtins reader now chunk)
  · intro outcomes
    apply confinedTo_bind (confinedTo_onboardIf _ now)
    intro _
    exact confinedTo_pure _

theorem confinedTo_storeStatement {now : Int} (past : NotAfter latest now)
    (rows : List (ParsedEntry α × String)) :
    ConfinedTo userId latest (storeStatement builtins userId now rows) := by
  unfold storeStatement
  apply confinedTo_bind (confinedTo_expirePending past)
  intro _
  apply confinedTo_bind confinedTo_clearPending
  intro _
  apply confinedTo_bind
  · apply confinedTo_mapM
    intro row _
    apply confinedTo_bind (confinedTo_storeTransaction builtins _ now _ _)
    intro stored
    exact confinedTo_pure _
  · intro outcomes
    apply confinedTo_bind (confinedTo_onboardIf _ now)
    intro _
    exact confinedTo_pure outcomes

theorem confinedTo_resolvePending (pendingIds : List Int) (action : String) :
    ConfinedTo userId latest
      (resolvePending builtins userId pendingIds action) := by
  unfold resolvePending
  split
  · exact confinedTo_throw _
  · split
    · exact confinedTo_pure 0
    · apply confinedTo_bind (confinedTo_bindParameters builtins _)
      intro _
      apply Confined.bind_of_answers (toolKeeps_repeatable userId latest)
        (P := fun rows => ∀ entry ∈ rows, entry.2.userId = userId ∧
          entry.2.ledgerId = ledgerIdFor userId)
        (confinedTo_selectPending pendingIds)
      · intro db rows middle holds answered
        cases answered
        intro entry member
        obtain ⟨present, met⟩ := List.mem_filter.mp member
        have user : entry.2.userId = userId :=
          of_decide_eq_true (Bool.and_eq_true_iff.mp met).1
        have ledger : entry.2.ledgerId = ledgerIdFor entry.2.userId :=
          holds.pending entry present
        rw [user] at ledger
        exact ⟨user, ledger⟩
      · intro rows owned
        apply confinedTo_bind
        · apply confinedTo_mapM
          intro entry member
          have listed : entry ∈ rows := by
            split at member
            · exact member
            · cases member
          exact confinedTo_insertEntry builtins (owned entry listed).2 rfl
        · intro _
          apply confinedTo_bind (confinedTo_deletePending pendingIds)
          intro _
          exact confinedTo_pure _

theorem confinedTo_dateSlot (name value : String) :
    ConfinedTo userId latest (dateSlot builtins name value) := by
  unfold dateSlot
  split
  · exact confinedTo_throw _
  · exact confinedTo_pure value

theorem confinedTo_averagePerDay (total : α) (days : Int) :
    ConfinedTo userId latest (averagePerDay builtins total days) := by
  apply Confined.guarded
  apply confinedTo_read (fun _ => builtins.divide total days)
  intro db
  rfl

theorem confinedTo_queryMetric (slots : QuerySlots)
    (entryType dateFrom dateTo : String) :
    ConfinedTo userId latest (queryMetric builtins slots (ledgerIdFor userId)
      entryType dateFrom dateTo) := by
  unfold queryMetric
  apply confinedTo_bind
  · unfold checkFilters
    split
    · exact confinedTo_throw _
    · exact confinedTo_pure ()
  · intro _
    apply confinedTo_bind (confinedTo_selectEntries _)
    intro rows
    split
    · split
      · exact confinedTo_pure _
      · exact confinedTo_pure _
      · exact confinedTo_pure _
      · exact confinedTo_throw _
    · exact confinedTo_pure _
    · exact confinedTo_pure _
    · simp only
      apply confinedTo_bind (confinedTo_averagePerDay builtins _ _)
      intro average
      exact confinedTo_pure _
    · exact confinedTo_pure _
    · apply confinedTo_bind (confinedTo_budgetLines builtins _ _)
      intro budgets
      exact confinedTo_pure _

theorem confinedTo_compareDates (slots : QuerySlots) :
    ConfinedTo userId latest (compareDates builtins slots) := by
  unfold compareDates
  split
  · exact confinedTo_pure none
  · apply confinedTo_bind (confinedTo_dateSlot builtins _ _)
    intro compareFrom
    apply confinedTo_bind (confinedTo_dateSlot builtins _ _)
    intro compareTo
    split
    · exact confinedTo_throw _
    · exact confinedTo_pure _
  · exact confinedTo_throw _

theorem confinedTo_queryComparison (slots : QuerySlots) (entryType : String)
    (dates : Option (String × String)) :
    ConfinedTo userId latest (queryComparison builtins slots
      (ledgerIdFor userId) entryType dates) := by
  unfold queryComparison
  split
  · exact confinedTo_pure none
  · apply confinedTo_bind (confinedTo_queryMetric builtins slots _ _ _)
    intro answer
    exact confinedTo_pure _

theorem confinedTo_queryLedger (slots : QuerySlots) :
    ConfinedTo userId latest (queryLedger builtins userId slots) := by
  unfold queryLedger
  split
  · exact confinedTo_throw _
  · split
    · exact confinedTo_throw _
    · apply confinedTo_bind (confinedTo_dateSlot builtins _ _)
      intro dateFrom
      apply confinedTo_bind (confinedTo_dateSlot builtins _ _)
      intro dateTo
      split
      · exact confinedTo_throw _
      · apply confinedTo_bind (confinedTo_compareDates builtins slots)
        intro compared
        simp only
        apply confinedTo_bind (confinedTo_queryMetric builtins slots _ _ _)
        intro answer
        apply confinedTo_bind (confinedTo_queryComparison builtins slots _ _)
        intro comparison
        exact confinedTo_pure _

end Tools

section Updates

variable (reader : SmsReader α)

theorem confinedTo_dispatchTool {now : Int} (past : NotAfter latest now)
    (call : ToolCall α) :
    ConfinedTo userId latest
      (dispatchTool builtins reader userId now call) := by
  apply Confined.caught
  cases call with
  | logEntries payload =>
      apply confinedTo_bind (confinedTo_logEntries builtins now payload)
      intro inserted
      exact confinedTo_pure _
  | parseTransactions rawText =>
      apply confinedTo_bind
        (confinedTo_parseTransactions builtins reader past rawText)
      intro result
      exact confinedTo_pure _
  | resolvePending pendingIds action =>
      apply confinedTo_bind
        (confinedTo_resolvePending builtins pendingIds action)
      intro count
      exact confinedTo_pure _
  | queryLedger slots =>
      apply confinedTo_bind (confinedTo_queryLedger builtins slots)
      intro answer
      exact confinedTo_pure _
  | manageBudget payload =>
      apply confinedTo_bind (confinedTo_manageBudget builtins now payload)
      intro answer
      exact confinedTo_pure _
  | deleteLastEntry =>
      apply confinedTo_bind (confinedTo_deleteLastEntry now)
      intro entry
      exact confinedTo_pure _
  | recategorizeEntry entryId category =>
      apply confinedTo_bind
        (confinedTo_recategorizeEntry builtins entryId category)
      intro entry
      exact confinedTo_pure _
  | purgeMyData userConfirmed =>
      apply Confined.ite
      · intro _
        apply confinedTo_bind confinedTo_purgeMyData
        intro _
        exact confinedTo_pure _
      · intro _
        exact confinedTo_throw _
  | unknown name => exact confinedTo_throw _
  | malformed error => exact confinedTo_throw _

/-- The calls of a response are dispatched no later than a time. -/
def CallsBefore (latest : Option Int) (response : AgentResponse α) : Prop :=
  ∀ call ∈ response.calls, NotAfter latest call.1

/-- No response arrives later than a time. -/
def AgentBefore (latest : Option Int) (agent : Agent α) : Prop :=
  ∀ shown response, agent shown = some response → CallsBefore latest response

variable {agent : Agent α} (punctual : AgentBefore latest agent)

theorem turnConfined_finishTurn (now : Int) (text reply : String) :
    TurnConfined (α := α) userId latest
      (finishTurn userId now text reply) := by
  unfold finishTurn appendContext
  apply turnConfined_bind
  · apply turnConfined_bind (turnConfined_insertContext now .user text)
    intro _
    apply turnConfined_bind (turnConfined_insertContext now .assistant reply)
    intro _
    exact turnConfined_of_confined (confinedTo_expireContext now)
  · intro _
    exact turnConfined_pure reply

theorem confinedTo_calls {response : AgentResponse α}
    (before : CallsBefore latest response) :
    ConfinedTo userId latest (response.calls.mapM (fun call =>
      dispatchTool builtins reader userId call.1 call.2)) := by
  apply confinedTo_mapM
  intro call member
  exact confinedTo_dispatchTool builtins reader (before call member) _

theorem confinedTo_knownPayees :
    ConfinedTo (α := α) userId latest (knownPayees userId) := by
  apply confinedTo_read (fun part =>
    (((part.rows.payees.insertionSort
      (fun first second => first.1.2 ≤ second.1.2)).take 20).map
        (fun entry => (entry.1.2, entry.2))))
  intro db
  rfl

theorem confinedTo_loadContext (now : Int) :
    ConfinedTo (α := α) userId latest (loadContext userId now) := by
  apply confinedTo_read (fun part =>
    (((part.rows.context.filter (fun row => row.userId = userId &&
      now - 604800 ≤ row.createdAt)).reverse.take 10).reverse).map
        (fun row => (row.role, row.content)))
  intro db
  have shown : db.context.select (fun _ row => row.userId = userId &&
      now - 604800 ≤ row.createdAt) =
        (db.context.select (fun _ row => row.userId = userId)).filter
          (fun entry => entry.2.userId = userId &&
            now - 604800 ≤ entry.2.createdAt) := by
    apply AutoTable.select_of_implies
    intro key row met
    exact (Bool.and_eq_true_iff.mp met).1
  rw [shown]
  simp only [visibleTo, rowsOf, List.filter_map, List.map_reverse,
    List.map_take, List.map_map]
  rfl

theorem responded_of_createResponse {shown : List (Shown α)}
    {response : AgentResponse α} {db final : BotDatabase α}
    (answered : createResponse builtins agent userId shown db =
      some (.ok response, final)) : agent shown = some response := by
  obtain ⟨result, attempted, same⟩ := Option.map_eq_some_iff.mp answered
  obtain ⟨found, responded, same'⟩ := Option.map_eq_some_iff.mp attempted
  cases same'
  cases same
  exact responded

include punctual

/-- What follows a response may rely on the times of its calls. -/
theorem turnConfined_respond {β : Type} {shown : List (Shown α)}
    {next : AgentResponse α → BotHandler α β}
    (continues : ∀ response, CallsBefore latest response →
      TurnConfined userId latest (next response)) :
    TurnConfined userId latest
      (createResponse builtins agent userId shown >>= next) := by
  apply Confined.bind_of_answers (keepsOthers_repeatable userId latest)
    (turnConfined_of_confined
      (confinedTo_createResponse builtins agent shown))
  · intro db response middle _ answered
    exact punctual shown response
      (responded_of_createResponse builtins answered)
  · exact continues

theorem turnConfined_toolLoop (text : String) (rounds : Nat) :
    ∀ (shown : List (Shown α)) (response : AgentResponse α),
      CallsBefore latest response →
      TurnConfined userId latest
        (toolLoop builtins reader agent userId text rounds shown response) := by
  induction rounds with
  | zero =>
      intro shown response _
      exact turnConfined_finishTurn _ _ _
  | succ rounds induction =>
      intro shown response before
      apply Confined.ite
      · intro _
        exact turnConfined_finishTurn _ _ _
      · intro _
        apply turnConfined_bind
        · exact turnConfined_of_confined
            (confinedTo_calls builtins reader before)
        · intro outputs
          apply turnConfined_respond builtins punctual
          intro response' before'
          exact induction _ response' before'

theorem turnConfined_processMessage (now : Int) (text : String) :
    TurnConfined userId latest
      (processMessage builtins reader agent userId now text) := by
  unfold processMessage
  apply turnConfined_bind (turnConfined_of_confined
    confinedTo_knownPayees)
  intro payees
  apply turnConfined_bind (turnConfined_of_confined
    (confinedTo_loadContext now))
  intro context
  apply turnConfined_respond builtins punctual
  intro response before
  exact turnConfined_toolLoop builtins reader punctual _ _ _ response before

end Updates

section System

variable (reader : SmsReader α) (statements : StatementReader α)

theorem confinedTo_isOnboarded :
    ConfinedTo (α := α) userId latest (isOnboarded userId) := by
  apply confinedTo_read (fun part =>
    part.rows.user.any (fun row => row.onboardedAt.isSome))
  intro db
  rfl

theorem confinedTo_onboardedReply (wasOnboarded : Bool) :
    ConfinedTo (α := α) userId latest
      (onboardedReply wasOnboarded userId) := by
  unfold onboardedReply
  split
  · exact confinedTo_pure _
  · apply confinedTo_bind confinedTo_isOnboarded
    intro onboarded
    exact confinedTo_pure _

theorem confinedTo_allowedAgentTurn (now : Int) :
    ConfinedTo (α := α) userId latest (allowedAgentTurn userId now) := by
  apply confinedTo_read (fun part =>
    decide (turnsSince (now - 3600) part.rows.context < 30) &&
      decide (turnsSince (now - 86400) part.rows.context < 150))
  intro db
  rfl

theorem turnConfined_textMessage (now : Int) (text : String) {agent : Agent α}
    (punctual : AgentBefore latest agent) :
    TurnConfined userId latest
      (textMessage builtins userId reader now text agent) := by
  unfold textMessage
  split
  · exact turnConfined_pure _
  · apply turnConfined_bind (turnConfined_of_confined
      (confinedTo_allowedAgentTurn now))
    intro allowed
    split
    · apply turnConfined_bind (turnConfined_of_confined
        confinedTo_isOnboarded)
      intro wasOnboarded
      apply turnConfined_bind
      · exact Confined.transaction (keepsOthers_repeatable userId latest)
          (turnConfined_processMessage builtins reader punctual _ _)
      · intro turn
        cases turn with
        | none => exact turnConfined_pure _
        | some reply =>
            apply turnConfined_bind (turnConfined_of_confined
              (confinedTo_onboardedReply wasOnboarded))
            intro further
            exact turnConfined_pure _
    · exact turnConfined_pure _

theorem confinedTo_csvDocument {now : Int} (past : NotAfter latest now)
    (file : List UInt8) :
    ConfinedTo userId latest
      (csvDocument builtins userId reader statements now file) := by
  unfold csvDocument
  split
  · exact confinedTo_pure _
  · apply confinedTo_bind confinedTo_isOnboarded
    intro wasOnboarded
    apply confinedTo_bind
    · apply Confined.transaction (toolKeeps_repeatable userId latest)
      unfold parseCsvStatement
      split
      · exact confinedTo_pure _
      · apply confinedTo_bind (confinedTo_storeStatement builtins past _)
        intro outcomes
        exact confinedTo_pure _
    · intro stored
      cases stored with
      | none => exact confinedTo_pure _
      | some result =>
          apply confinedTo_bind
          · cases result with
            | error reason => exact confinedTo_pure _
            | ok outcomes => exact confinedTo_onboardedReply wasOnboarded
          · intro further
            exact confinedTo_pure _

/-- The update and the calls that it leads to come no later than a time. -/
def Update.Before (latest : Option Int) (now : Int) : Update α → Prop
  | .start => True
  | .ping => True
  | .text _ agent => AgentBefore latest agent
  | .csvDocument _ => NotAfter latest now

theorem turnConfined_handleUpdate (displayName : Option String) {now : Int}
    {update : Update α} (past : update.Before latest now) :
    TurnConfined userId latest (handleUpdate builtins userId reader statements
      displayName now update) := by
  unfold handleUpdate
  apply turnConfined_bind (turnConfined_of_confined
    (confinedTo_upsertUser displayName))
  intro _
  cases update with
  | start => exact turnConfined_pure _
  | ping => exact turnConfined_pure _
  | text text agent =>
      exact turnConfined_textMessage builtins reader now text past
  | csvDocument file =>
      exact turnConfined_of_confined
        (confinedTo_csvDocument builtins reader statements past file)

/-- The bot handles one update after the other, and alerts are marked as sent
in between. -/
inductive BotLabel (α : Type) where
  | update (userId : String) (displayName : Option String) (now : Int)
      (update : Update α)
  | markAlertSent (key : AlertKey)

/-- `mark_alert_sent`. -/
def markAlertSent (key : AlertKey) (db : BotDatabase α) : BotDatabase α :=
  { db with alertsSent := db.alertsSent.insertMissing key () }

/-- The database after an update, or after an alert was marked. -/
def botNext (db : BotDatabase α) : BotLabel α → Option (BotDatabase α)
  | .update userId displayName now update =>
      (handleUpdate builtins userId reader statements displayName now update
        db).map Prod.snd
  | .markAlertSent key => some (markAlertSent key db)

/-- The bot, from an empty database. -/
def botSystem : System (BotDatabase α) (BotLabel α) :=
  { Initial := fun db => db = {}
    next := botNext builtins reader statements }

/-- The step is none of the user's, and its calls come no later than a time. -/
def BotLabel.Foreign (userId : String) (latest : Option Int) : BotLabel α → Prop
  | .update caller _ now sent => caller ≠ userId ∧ sent.Before latest now
  | .markAlertSent key => key.ledgerId ≠ ledgerIdFor userId

variable {builtins reader statements}

theorem rowsOf_markAlertSent {key : AlertKey} (db : BotDatabase α)
    (foreign : key.ledgerId ≠ ledgerIdFor userId) :
    rowsOf userId (markAlertSent key db) = rowsOf userId db := by
  have kept : (db.alertsSent.insertMissing key ()).select (fun key _ =>
      key.ledgerId = ledgerIdFor userId) =
        db.alertsSent.select (fun key _ =>
          key.ledgerId = ledgerIdFor userId) := by
    unfold Table.insertMissing
    split
    · exact Table.select_push_of_false _ _ (decide_eq_false foreign)
    · rfl
  simp only [rowsOf, markAlertSent, kept]

theorem KeepsRows.of_foreign {db db' : BotDatabase α} {label : BotLabel α}
    (holds : OwnLedgers db) (foreign : label.Foreign userId latest)
    (taken : botNext builtins reader statements db label = some db') :
    KeepsRows latest (rowsOf userId db) (rowsOf userId db') := by
  cases label with
  | update caller displayName now update =>
      obtain ⟨other, past⟩ := foreign
      obtain ⟨result, ran, rfl⟩ := Option.map_eq_some_iff.mp taken
      have confined : TurnConfined caller latest _ :=
        turnConfined_handleUpdate builtins reader statements displayName past
      exact (confined.keeps holds ran).2 userId other.symm
  | markAlertSent key =>
      cases taken
      rw [rowsOf_markAlertSent db foreign]
      exact KeepsRows.refl _

theorem notAfter_none (now : Int) : NotAfter none now :=
  fun _ same => (Option.some_ne_none _ same.symm).elim

theorem Update.before_none (now : Int) (update : Update α) :
    update.Before none now := by
  cases update with
  | start => exact trivial
  | ping => exact trivial
  | text text agent => exact fun _ _ _ _ _ => notAfter_none _
  | csvDocument file => exact notAfter_none now

theorem ownLedgers_of_reachable {db : BotDatabase α}
    (reached : (botSystem builtins reader statements).Reachable db) :
    OwnLedgers db := by
  apply System.Reachable.invariant _ _ reached
  · intro db initial
    rw [initial]
    exact ⟨fun _ member => (List.not_mem_nil member).elim,
      fun _ member => (List.not_mem_nil member).elim⟩
  · intro db label db' _ holds taken
    cases label with
    | update caller displayName now update =>
        obtain ⟨result, ran, rfl⟩ := Option.map_eq_some_iff.mp taken
        have confined : TurnConfined caller none _ :=
          turnConfined_handleUpdate builtins reader statements displayName
            (update.before_none now)
        exact (confined.keeps holds ran).1
    | markAlertSent key =>
        cases taken
        exact ⟨holds.entries, holds.pending⟩

/-- What a user is answered, and the rows of the user afterwards, depend on the
user's rows and the largest keys only, whatever the agent asks for, and the
update keeps the rows of all others. -/
theorem updates_confined {db db' : BotDatabase α}
    (reached : (botSystem builtins reader statements).Reachable db)
    (reached' : (botSystem builtins reader statements).Reachable db')
    (same : visibleTo userId db = visibleTo userId db')
    (displayName : Option String) {now : Int} {update : Update α}
    (past : update.Before latest now) :
    let handled := handleUpdate builtins userId reader statements displayName
      now update
    (handled db).map (fun result => (result.1, visibleTo userId result.2)) =
        (handled db').map (fun result =>
          (result.1, visibleTo userId result.2)) ∧
      ∀ outcome final, handled db = some (outcome, final) →
        ∀ other, other ≠ userId →
          KeepsRows latest (rowsOf other db) (rowsOf other final) := by
  have holds := ownLedgers_of_reachable reached
  have confined : TurnConfined userId latest _ :=
    turnConfined_handleUpdate builtins reader statements displayName past
  refine ⟨confined.depends holds (ownLedgers_of_reachable reached') same, ?_⟩
  intro outcome final ran
  exact (confined.keeps holds ran).2

/-- Whole numbers as amounts, with texts that are read as they are. -/
def wholeBuiltins : Builtins Int :=
  { zero := 0
    sum := List.sum
    subtract := fun left right => left - right
    divide := fun total days => total / days
    percent := fun spent limit => spent * 100 / limit
    isBelow := fun percent threshold => percent < threshold
    isPositive := fun amount => 0 < amount
    isNonPositive := fun amount => amount ≤ 0
    isFinite := fun _ => true
    equal := fun left right => left = right
    greater := fun left right => right < left
    dateFromIsoformat := fun _ => none
    contains := fun text description => occursIn text description
    normalizePayee := fun payee => payee
    isSimilar := fun old new => old = new
    bindable := fun numbers => numbers.all (fun number =>
      -9223372036854775808 ≤ number && number ≤ 9223372036854775807) }

/-- The readings of ASCII texts without dates and with whole amounts. -/
def plainReader : SmsReader Int :=
  { isWord := fun char => char.isAlphanum || char = '_'
    isDecimal := Char.isDigit
    lower := fun text => String.ofList (text.toList.map Char.toLower)
    float := fun text =>
      if text.toList.all Char.isDigit && !text.isEmpty then
        .ok (text.toList.foldl (fun (value : Int) digit =>
          10 * value + (digit.toNat - 0x30)) 0)
      else
        .error "could not convert string to float"
    strptime := fun _ _ => none }

/-- Rows of cells without quotes, one for each line. -/
def plainStatements : StatementReader Int :=
  { csvRows := fun text =>
      ((text.toList.splitOn '\n').zipIdx.map (fun line =>
        ((line.1.splitOn ',').map String.ofList, line.2 + 1)), false)
    abs := fun amount => amount.natAbs
    negate := fun amount => -amount
    isNegative := fun amount => amount < 0 }

/-- An agent that makes its calls in the first round. -/
def callingAgent (now : Int) (calls : List (ToolCall Int)) : Agent Int :=
  fun shown =>
    some { now := now
           calls :=
             if shown.length = 1 then calls.map (fun call => (now, call))
             else []
           outputText := "Done"
           inputTokens := 1
           outputTokens := 1 }

theorem callingAgent_before (now : Int) (calls : List (ToolCall Int)) :
    AgentBefore (some now) (callingAgent now calls) := by
  intro shown response responded call member bound same
  cases responded
  cases same
  simp only at member
  split at member
  · obtain ⟨_, _, rfl⟩ := List.mem_map.mp member
    exact le_refl now
  · exact (List.not_mem_nil member).elim

/-- A message that leads to the calls. -/
def messageOf (userId : String) (now : Int) (calls : List (ToolCall Int)) :
    BotLabel Int :=
  .update userId none now (.text "please" (callingAgent now calls))

theorem messageOf_foreign {other now : Int} {calls : List (ToolCall Int)}
    {caller : String} (foreign : caller ≠ userId) (past : now ≤ other) :
    (messageOf caller now calls).Foreign userId (some other) := by
  refine ⟨foreign, ?_⟩
  intro shown response responded call member bound same
  cases same
  exact (callingAgent_before now calls shown response responded call member
    now rfl).trans past

/-- An entry, a payee, a budget, and a payment pasted twice, which is held the
second time. -/
def householdCalls : List (ToolCall Int) :=
  [.logEntries
      { entries :=
          [{ type := "debit"
             amount := 90
             category := "Groceries"
             description := "Rice"
             txnDate := "2026-07-03" }]
        teachPayee := some { payee := "asha", category := "Groceries" } },
    .manageBudget
      { action := "set"
        category := some "Groceries"
        monthlyLimit := some 500 },
    .parseTransactions "Paid Rs 5\n\nPaid Rs 5"]

/-- Calls that name the entry and the held transaction of the household. -/
def guestCalls : List (ToolCall Int) :=
  [.parseTransactions "Paid Rs 7\n\nPaid Rs 7",
    .recategorizeEntry 1 "Other", .resolvePending [1] "discard",
    .deleteLastEntry]

/-- A household's message, then one of a guest. -/
def householdRun (guest : String) : List (BotLabel Int) :=
  [messageOf "1" 0 householdCalls, messageOf guest 60 guestCalls]

/-- The bot on whole amounts and plain texts. -/
abbrev sampleBot : System (BotDatabase Int) (BotLabel Int) :=
  botSystem wholeBuiltins plainReader plainStatements

/-- The household cannot tell the guests apart, and leaves a guest's rows as
they are. -/
theorem updates_confined_household :
    ∃ db db' : BotDatabase Int,
      sampleBot.run {} (householdRun "2") = some db ∧
      sampleBot.run {} (householdRun "3") = some db' ∧
      let handled := handleUpdate wholeBuiltins "1" plainReader plainStatements
        none 120 (.text "again" (callingAgent 120 householdCalls))
      ((rowsOf "2" db).entries.length, (rowsOf "2" db).pending.length,
          (handled db).isSome) = (1, 1, true) ∧
      (handled db).map (fun result => (result.1, visibleTo "1" result.2)) =
          (handled db').map (fun result =>
            (result.1, visibleTo "1" result.2)) ∧
        ∀ outcome final, handled db = some (outcome, final) →
          ∀ other, other ≠ "1" →
            KeepsRows (some 120) (rowsOf other db) (rowsOf other final) := by
  obtain ⟨db, ran, guest⟩ := (Option.any_eq_true _ _).mp
    (show (sampleBot.run {} (householdRun "2")).any (fun db =>
      ((rowsOf "2" db).entries.length, (rowsOf "2" db).pending.length,
        (handleUpdate wholeBuiltins "1" plainReader plainStatements none 120
          (.text "again" (callingAgent 120 householdCalls)) db).isSome) =
            (1, 1, true)) = true by decide +kernel)
  have same : (sampleBot.run {} (householdRun "2")).map (visibleTo "1") =
      (sampleBot.run {} (householdRun "3")).map (visibleTo "1") := by
    decide +kernel
  rw [ran] at same
  obtain ⟨db', ran', seen⟩ := Option.map_eq_some_iff.mp same.symm
  exact ⟨db, db', ran, ran', of_decide_eq_true guest,
    updates_confined (System.reachable_of_run rfl ran)
      (System.reachable_of_run rfl ran') seen.symm none
      (callingAgent_before 120 householdCalls)⟩

/-- Whatever others send, in any order and number, and whatever alerts of theirs
are marked, the rows of a user stay as they are. -/
theorem rows_kept_by_others {db db' : BotDatabase α}
    (reached : (botSystem builtins reader statements).Reachable db)
    {labels : List (BotLabel α)}
    (foreign : ∀ label ∈ labels, label.Foreign userId latest)
    (ran : (botSystem builtins reader statements).run db labels = some db') :
    KeepsRows latest (rowsOf userId db) (rowsOf userId db') := by
  induction labels generalizing db with
  | nil =>
      cases ran
      exact KeepsRows.refl _
  | cons label labels induction =>
      simp only [System.run] at ran
      split at ran
      · cases ran
      · rename_i middle taken
        have first := KeepsRows.of_foreign (ownLedgers_of_reachable reached)
          (foreign label List.mem_cons_self) taken
        have rest := induction (reached.step taken)
          (fun other member => foreign other (List.mem_cons_of_mem _ member))
          ran
        exact first.trans rest

/-- A guest names the household's rows, another purges, and an alert of a guest
is marked. -/
def guestLabels : List (BotLabel Int) :=
  [messageOf "2" 60 guestCalls, messageOf "3" 90 [.purgeMyData true],
    .markAlertSent
      { ledgerId := ledgerIdFor "2"
        category := "Other"
        month := "1970-01"
        threshold := 80 }]

/-- A household keeps its entries, its budget and its held transaction. -/
theorem rows_kept_by_others_household :
    ∃ db db' : BotDatabase Int,
      sampleBot.run {} [messageOf "1" 0 householdCalls] = some db ∧
      sampleBot.run db guestLabels = some db' ∧
      ((rowsOf "1" db).entries.length, (rowsOf "1" db).pending.length,
          (rowsOf "1" db).budgets) =
        (2, 1, [((ledgerIdFor "1", "Groceries"), 500)]) ∧
      KeepsRows (some 120) (rowsOf "1" db) (rowsOf "1" db') := by
  obtain ⟨db, ran, rest⟩ := (Option.any_eq_true _ _).mp
    (show (sampleBot.run {} [messageOf "1" 0 householdCalls]).any (fun db =>
      ((rowsOf "1" db).entries.length, (rowsOf "1" db).pending.length,
          (rowsOf "1" db).budgets) =
        (2, 1, [((ledgerIdFor "1", "Groceries"), 500)]) ∧
      (sampleBot.run db guestLabels).isSome) = true by decide +kernel)
  obtain ⟨rows, more⟩ := of_decide_eq_true rest
  obtain ⟨db', ran'⟩ := Option.isSome_iff_exists.mp more
  refine ⟨db, db', ran, ran', rows, ?_⟩
  apply rows_kept_by_others (System.reachable_of_run rfl ran) _ ran'
  intro label member
  simp only [guestLabels, List.mem_cons, List.not_mem_nil, or_false] at member
  rcases member with rfl | rfl | rfl
  · exact messageOf_foreign (by decide) (by decide)
  · exact messageOf_foreign (by decide) (by decide)
  · show ledgerIdFor "2" ≠ ledgerIdFor "1"
    decide

end System

end Bot

end XpensGo
