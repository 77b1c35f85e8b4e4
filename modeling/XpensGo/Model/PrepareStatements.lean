import XpensGo.Model.StoreCases
import XpensGo.Postgres.ReadCommitted

/-!
# The statements of prepare

`prepare` as a program of single statements: the first look at the identifier,
the insertion and the locking of the two budget accounts, the second look under
their locks, the reservation and the insertion of the operation.  A call that
reserves nothing goes from its first look to the insertion.
-/

namespace XpensGo

open EcmaScript Postgres Relational Transition

/-- Rows and keys that one transaction keeps from the others. -/
inductive PrepareLock where
  | account (key : BudgetAccountKey)
  | operation (operationId : ModelOperationId)
  deriving DecidableEq, Repr

inductive PreparePhase where
  | checking
  | insertingEnvironment
  | insertingUser
  | lockingEnvironment
  | lockingUser (environmentBudget : Option BudgetAccountRow)
  | rechecking (environmentBudget userBudget : Option BudgetAccountRow)
  | reserving
  | inserting
  | committing (outcome : PrepareModelOperationOutcome)
  | failing (failure : ModelStoreFailure)

abbrev PrepareAnswer := Except ModelStoreFailure PrepareModelOperationOutcome

/-- The two accounts that a call charges. -/
def PrepareModelOperationStoreInput.charge
    (input : PrepareModelOperationStoreInput) (clock : DatabaseClock) :
    BudgetCharge :=
  { environmentBudgetKey := input.environmentBudgetKey
    userId := input.userId
    periodStart := clock.currentDate.monthStart }

namespace ModelDatabase

section Statements

/-- One row of `INSERT INTO model_budget_accounts … ON CONFLICT DO NOTHING`. -/
def openAccount (db : ModelDatabase) (key : BudgetAccountKey)
    (ceiling : Nat) : ModelDatabase :=
  { db with
    accounts := db.accounts.insertMissing key { ceilingMicroUsd := ceiling } }

/-- An insertion locks a new key; an existing row is left to its lock. -/
def openLock (db : ModelDatabase) (key : BudgetAccountKey) :
    Option PrepareLock :=
  if (db.accounts.find? key).isNone then some (.account key) else none

/-- `UPDATE model_budget_accounts` and the record of the thresholds. -/
def chargeAccounts (db : ModelDatabase) (charge : BudgetCharge)
    (reservation : Int) : Option ModelDatabase := do
  let reserved ← db.updateBudgetAccounts charge (fun account =>
    { account with
      reservedMicroUsd := account.reservedMicroUsd + reservation })
  pure (reserved.recordBudgetThresholds charge)

theorem find?_openAccount {db : ModelDatabase} {key other : BudgetAccountKey}
    {ceiling : Nat} :
    (db.openAccount key ceiling).accounts.find? other =
      if other = key then
        some ((db.accounts.find? key).getD { ceilingMicroUsd := ceiling })
      else
        db.accounts.find? other :=
  Table.find?_insertMissing db.accounts key _ other

end Statements

end ModelDatabase

/-- The denial of a reservation on the rows that were read under lock. -/
def reservationDenial (charge : BudgetCharge) (reservation : Int)
    (environmentBudget userBudget : Option BudgetAccountRow) :
    Option ModelStoreFailure :=
  if environmentBudget.any (·.killSwitch) then
    some (.killSwitchEngaged charge.environmentBudgetKey)
  else if environmentBudget.all (fun budget =>
      budget.spend + reservation > budget.ceilingMicroUsd) then
    some (.budgetExceeded .environmentMonth)
  else if userBudget.all (fun budget =>
      budget.spend + reservation > budget.ceilingMicroUsd) then
    some (.budgetExceeded .userMonth)
  else
    none

namespace PreparePhase

/-- The phase after a look at the identifier of the operation. -/
def afterLook (fresh : PreparePhase) : Option PrepareAnswer → PreparePhase
  | none => fresh
  | some (.ok outcome) => .committing outcome
  | some (.error failure) => .failing failure

/-- The phase after both accounts are locked. -/
def afterLocks (environmentBudget userBudget : Option BudgetAccountRow) :
    PreparePhase :=
  if environmentBudget.isNone || userBudget.isNone then
    .failing (.persistenceUnavailable .prepare)
  else
    .rechecking environmentBudget userBudget

/-- The phase after a statement that may violate a constraint. -/
def afterWrite (next : PreparePhase) (written : Option ModelDatabase) :
    PreparePhase :=
  if written.isSome then next else .failing (.persistenceUnavailable .prepare)

end PreparePhase

section Program

variable (input : PrepareModelOperationStoreInput)

/-- The phase after the checks on the budgets. -/
def PreparePhase.afterBudgets (charge : BudgetCharge)
    (environmentBudget userBudget : Option BudgetAccountRow) : PreparePhase :=
  match reservationDenial charge input.reservedCostMicroUsd environmentBudget
    userBudget with
  | some failure => .failing failure
  | none => .reserving

/-- The phase of a call that found its identifier unused. -/
def PreparePhase.afterCheck : PreparePhase :=
  if 0 < input.reservedCostMicroUsd then .insertingEnvironment else .inserting

def prepareInstruction (clock : DatabaseClock) :
    PreparePhase →
      Instruction ModelDatabase PrepareLock PreparePhase PrepareAnswer
  | .checking =>
      .statement (fun _ => none) id (fun db =>
        PreparePhase.afterLook (.afterCheck input) (db.duplicatePrepare input))
  | .insertingEnvironment =>
      .statement
        (fun db => db.openLock (input.charge clock).environmentAccount)
        (fun db => db.openAccount (input.charge clock).environmentAccount
          input.environmentMonthlyCeilingMicroUsd)
        (fun _ => .insertingUser)
  | .insertingUser =>
      .statement
        (fun db => db.openLock (input.charge clock).userAccount)
        (fun db => db.openAccount (input.charge clock).userAccount
          input.userMonthlyCeilingMicroUsd)
        (fun _ => .lockingEnvironment)
  | .lockingEnvironment =>
      .statement
        (fun _ => some (.account (input.charge clock).environmentAccount)) id
        (fun db => .lockingUser
          (db.accounts.find? (input.charge clock).environmentAccount))
  | .lockingUser environmentBudget =>
      .statement
        (fun _ => some (.account (input.charge clock).userAccount)) id
        (fun db => PreparePhase.afterLocks environmentBudget
          (db.accounts.find? (input.charge clock).userAccount))
  | .rechecking environmentBudget userBudget =>
      .statement (fun _ => none) id (fun db =>
        PreparePhase.afterLook
          (.afterBudgets input (input.charge clock) environmentBudget
            userBudget)
          (db.duplicatePrepare input))
  | .reserving =>
      .statement (fun _ => none)
        (fun db => (db.chargeAccounts (input.charge clock)
          input.reservedCostMicroUsd).getD db)
        (fun db => PreparePhase.afterWrite .inserting
          (db.chargeAccounts (input.charge clock) input.reservedCostMicroUsd))
  | .inserting =>
      .statement (fun _ => some (.operation input.operationId))
        (fun db => (db.insertOperation input.operationId
          (input.preparedRow clock)).getD db)
        (fun db => PreparePhase.afterWrite
          (.committing (.prepared input.operationId))
          (db.insertOperation input.operationId (input.preparedRow clock)))
  | .committing outcome => .commit (.ok outcome)
  | .failing failure => .rollback (.error failure)

def prepareProgram :
    Program ModelDatabase PrepareLock DatabaseClock PreparePhase
      PrepareAnswer :=
  { start := .checking
    instruction := prepareInstruction input }

/-- Any number of calls with one identifier and one input, on the rows that
`start` holds. -/
def prepareSystem (start : ModelDatabase) :
    System
      (Sessions ModelDatabase PrepareLock DatabaseClock PreparePhase
        PrepareAnswer)
      (SessionAction DatabaseClock) :=
  (prepareProgram input).system (· = start)

/-- Statements that a call has left. -/
def PreparePhase.rank : PreparePhase → Nat
  | .checking => 8
  | .insertingEnvironment => 7
  | .insertingUser => 6
  | .lockingEnvironment => 5
  | .lockingUser _ => 4
  | .rechecking _ _ => 3
  | .reserving => 2
  | .inserting => 1
  | .committing _ | .failing _ => 0

theorem prepareProgram_descends :
    (prepareProgram input).Descends PreparePhase.rank := by
  intro clock phase lock write next instruction view
  cases phase with
  | checking =>
      cases instruction
      simp only [PreparePhase.afterLook, PreparePhase.afterCheck]
      split
      · split <;> simp [PreparePhase.rank]
      · simp [PreparePhase.rank]
      · simp [PreparePhase.rank]
  | rechecking environmentBudget userBudget =>
      cases instruction
      simp only [PreparePhase.afterLook, PreparePhase.afterBudgets]
      split
      · split <;> simp [PreparePhase.rank]
      · simp [PreparePhase.rank]
      · simp [PreparePhase.rank]
  | lockingUser environmentBudget =>
      cases instruction
      simp only [PreparePhase.afterLocks]
      split <;> simp [PreparePhase.rank]
  | reserving | inserting =>
      cases instruction
      simp only [PreparePhase.afterWrite]
      split <;> simp [PreparePhase.rank]
  | insertingEnvironment | insertingUser | lockingEnvironment =>
      cases instruction
      simp [PreparePhase.rank]
  | committing outcome | failing failure => cases instruction

/-- The checks of a reservation are made on the rows that were locked. -/
theorem reserveBudget_eq {db : ModelDatabase} {charge : BudgetCharge}
    {reservation : Int} {environmentBudget userBudget : BudgetAccountRow}
    (environmentFound : db.accounts.find? charge.environmentAccount =
      some environmentBudget)
    (userFound : db.accounts.find? charge.userAccount = some userBudget) :
    db.reserveBudget charge reservation .prepare =
      ((reservationDenial charge reservation (some environmentBudget)
        (some userBudget)).elim
          (require (.persistenceUnavailable .prepare)
            (db.chargeAccounts charge reservation))
          .error) := by
  unfold ModelDatabase.reserveBudget reservationDenial
  rw [environmentFound, userFound]
  simp only [Option.any_some, Option.all_some]
  by_cases engaged : environmentBudget.killSwitch = true
  · simp [engaged]
  · by_cases environmentFull : environmentBudget.spend + reservation >
        environmentBudget.ceilingMicroUsd
    · simp [engaged, environmentFull]
    · by_cases userFull : userBudget.spend + reservation >
          userBudget.ceilingMicroUsd
      · simp [engaged, environmentFull, userFull]
      · simp only [engaged, environmentFull, userFull, decide_false, if_false,
          Bool.false_eq_true, Option.elim_none]
        unfold ModelDatabase.chargeAccounts
        cases db.updateBudgetAccounts charge (fun account =>
          { account with
            reservedMicroUsd := account.reservedMicroUsd + reservation }) with
        | none => rfl
        | some reserved => rfl

section Alone

variable (clock : DatabaseClock) (start view : ModelDatabase)

/-- The end of a transaction that began on `start`. -/
private def ending
    (result : Except ModelStoreFailure
      (PrepareModelOperationOutcome × ModelDatabase)) :
    Option (PrepareAnswer × ModelDatabase) :=
  some (withTransaction (fun _ => result) start)

private theorem alone_inserting (fuel : Nat) :
    (prepareProgram input).runAlone clock start (fuel + 2) .inserting view =
      ending start (view.insertPrepared clock input) := by
  change (prepareProgram input).runAlone clock start (fuel + 1)
    (PreparePhase.afterWrite _ (view.insertOperation input.operationId
      (input.preparedRow clock))) ((view.insertOperation input.operationId
        (input.preparedRow clock)).getD view) = _
  unfold ModelDatabase.insertPrepared
  cases view.insertOperation input.operationId (input.preparedRow clock) with
  | none => rfl
  | some written => rfl

private theorem alone_reserving (fuel : Nat) :
    (prepareProgram input).runAlone clock start (fuel + 3) .reserving view =
      ending start (require (.persistenceUnavailable .prepare)
        (view.chargeAccounts (input.charge clock)
          input.reservedCostMicroUsd) >>= fun reserved =>
            reserved.insertPrepared clock input) := by
  change (prepareProgram input).runAlone clock start (fuel + 2)
    (PreparePhase.afterWrite _ (view.chargeAccounts (input.charge clock)
      input.reservedCostMicroUsd)) ((view.chargeAccounts (input.charge clock)
        input.reservedCostMicroUsd).getD view) = _
  cases view.chargeAccounts (input.charge clock)
    input.reservedCostMicroUsd with
  | none => rfl
  | some reserved => exact alone_inserting input clock start reserved fuel

private theorem alone_rechecking
    {environmentBudget userBudget : BudgetAccountRow} (fuel : Nat)
    (unused : view.duplicatePrepare input = none)
    (environmentFound : view.accounts.find?
      (input.charge clock).environmentAccount = some environmentBudget)
    (userFound : view.accounts.find? (input.charge clock).userAccount =
      some userBudget) :
    (prepareProgram input).runAlone clock start (fuel + 4)
        (.rechecking (some environmentBudget) (some userBudget)) view =
      ending start (view.reserveBudget (input.charge clock)
        input.reservedCostMicroUsd .prepare >>= fun reserved =>
          reserved.insertPrepared clock input) := by
  change (prepareProgram input).runAlone clock start (fuel + 3)
    (PreparePhase.afterLook (.afterBudgets input (input.charge clock)
      (some environmentBudget) (some userBudget))
        (view.duplicatePrepare input)) view = _
  rw [unused, reserveBudget_eq environmentFound userFound]
  simp only [PreparePhase.afterLook, PreparePhase.afterBudgets]
  cases reservationDenial (input.charge clock) input.reservedCostMicroUsd
    (some environmentBudget) (some userBudget) with
  | none => exact alone_reserving input clock start view fuel
  | some failure => rfl

private theorem opened_found :
    ∃ environmentBudget userBudget,
      (view.insertBudgetAccounts (input.charge clock)
          input.environmentMonthlyCeilingMicroUsd
          input.userMonthlyCeilingMicroUsd).accounts.find?
        (input.charge clock).environmentAccount = some environmentBudget ∧
      (view.insertBudgetAccounts (input.charge clock)
          input.environmentMonthlyCeilingMicroUsd
          input.userMonthlyCeilingMicroUsd).accounts.find?
        (input.charge clock).userAccount = some userBudget := by
  obtain ⟨environmentBudget, environmentFound⟩ := Option.isSome_iff_exists.mp
    ((Table.find?_insertAllMissing_isSome view.accounts
      [((input.charge clock).environmentAccount,
          { ceilingMicroUsd := input.environmentMonthlyCeilingMicroUsd }),
        ((input.charge clock).userAccount,
          { ceilingMicroUsd := input.userMonthlyCeilingMicroUsd })]
      (input.charge clock).environmentAccount).mpr (.inr (by simp)))
  obtain ⟨userBudget, userFound⟩ := Option.isSome_iff_exists.mp
    ((Table.find?_insertAllMissing_isSome view.accounts
      [((input.charge clock).environmentAccount,
          { ceilingMicroUsd := input.environmentMonthlyCeilingMicroUsd }),
        ((input.charge clock).userAccount,
          { ceilingMicroUsd := input.userMonthlyCeilingMicroUsd })]
      (input.charge clock).userAccount).mpr (.inr (by simp)))
  exact ⟨environmentBudget, userBudget, environmentFound, userFound⟩

/-- A call that nothing disturbs is the transaction `prepare`. -/
theorem prepareProgram_runAlone :
    (prepareProgram input).runAlone clock start 9 .checking start =
      some (withTransaction (ModelDatabase.prepare clock input) start) := by
  change (prepareProgram input).runAlone clock start 8
    (PreparePhase.afterLook (.afterCheck input)
      (start.duplicatePrepare input)) start =
        ending start (start.prepare clock input)
  unfold ModelDatabase.prepare
  cases looked : start.duplicatePrepare input with
  | some answer =>
      cases answer with
      | ok outcome => rfl
      | error failure => rfl
  | none =>
      simp only [PreparePhase.afterLook, PreparePhase.afterCheck]
      by_cases billed : 0 < input.reservedCostMicroUsd
      · rw [if_pos billed, if_pos billed]
        obtain ⟨environmentBudget, userBudget, environmentFound, userFound⟩ :=
          opened_found input clock start
        -- The accounts were inserted without touching the operations.
        have unused : (start.insertBudgetAccounts (input.charge clock)
            input.environmentMonthlyCeilingMicroUsd
            input.userMonthlyCeilingMicroUsd).duplicatePrepare input =
              none := looked
        change (prepareProgram input).runAlone clock start 5
          (.lockingUser ((start.insertBudgetAccounts (input.charge clock)
            input.environmentMonthlyCeilingMicroUsd
            input.userMonthlyCeilingMicroUsd).accounts.find?
              (input.charge clock).environmentAccount))
          (start.insertBudgetAccounts (input.charge clock)
            input.environmentMonthlyCeilingMicroUsd
            input.userMonthlyCeilingMicroUsd) = _
        rw [environmentFound]
        change (prepareProgram input).runAlone clock start 4
          (PreparePhase.afterLocks (some environmentBudget)
            ((start.insertBudgetAccounts (input.charge clock)
              input.environmentMonthlyCeilingMicroUsd
              input.userMonthlyCeilingMicroUsd).accounts.find?
                (input.charge clock).userAccount)) _ = _
        rw [userFound]
        refine (alone_rechecking input clock start _ 0 unused
          environmentFound userFound).trans ?_
        unfold PrepareModelOperationStoreInput.charge at *
        simp [environmentFound, userFound, unused]
      · rw [if_neg billed, if_neg billed]
        exact alone_inserting input clock start start 6

/-- A call that starts when no other call is in progress can run to its end,
and what it commits and answers is what the transaction `prepare` does. -/
theorem exists_run_prepare {session : SessionId}
    {state : Sessions ModelDatabase PrepareLock DatabaseClock PreparePhase
      PrepareAnswer}
    (absent : state.sessions.find? session = none)
    (alone : ∀ other transaction,
      state.sessions.find? other ≠ some (.running transaction)) :
    ∃ labels state', (prepareSystem input start).run state
        (.start session clock :: labels) = some state' ∧
      state'.committed =
          (withTransaction (ModelDatabase.prepare clock input)
            state.committed).2 ∧
        state'.sessions.find? session = some (.ended
          (withTransaction (ModelDatabase.prepare clock input)
            state.committed).1) :=
  exists_run_of_start absent
    (fun _ other transaction _ found => (alone other transaction found).elim)
    (prepareProgram_runAlone input clock state.committed)

end Alone

end Program

end XpensGo
