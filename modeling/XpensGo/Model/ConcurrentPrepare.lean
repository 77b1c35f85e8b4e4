import XpensGo.Model.BudgetAccounts
import XpensGo.Model.PrepareLocks

/-!
# Concurrent calls of prepare

Calls that share one identifier and one input.  A call that reserves budget
looks for its identifier again once it holds its accounts, which all calls of
one month share.  A call that reserves nothing, or one of another month, shares
no lock before it inserts: of two calls that have both found nothing, the
second one to insert violates the primary key and fails.
-/

namespace XpensGo

open EcmaScript Postgres Relational Transition

namespace ModelDatabase

section Accounts

variable {db : ModelDatabase} {key other : BudgetAccountKey} {ceiling : Nat}

/-- Both accounts of a call, inserted where they are missing. -/
def openAccounts (db : ModelDatabase) (input : PrepareModelOperationStoreInput)
    (clock : DatabaseClock) : ModelDatabase :=
  (db.openAccount (input.charge clock).environmentAccount
    input.environmentMonthlyCeilingMicroUsd).openAccount
      (input.charge clock).userAccount input.userMonthlyCeilingMicroUsd

theorem chargeAccounts_eq_some {charge : BudgetCharge} {reservation : Int}
    {charged : ModelDatabase}
    (updated : db.chargeAccounts charge reservation = some charged) :
    charged = db.reserve charge reservation := by
  simp only [chargeAccounts, Option.bind_eq_bind, Option.bind_eq_some_iff]
    at updated
  obtain ⟨reserved, statement, rest⟩ := updated
  have reserved := updateBudgetAccounts_eq_some statement
  subst reserved
  exact (Option.some.inj rest).symm

end Accounts

end ModelDatabase

section Calls

variable (start : ModelDatabase) (input : PrepareModelOperationStoreInput)

/-- An account as it was at the start, or as a call opens it. -/
def baseAccount (key : BudgetAccountKey) : BudgetAccountRow :=
  (start.accounts.find? key).getD
    { ceilingMicroUsd :=
        match key.scope with
        | .environment _ => input.environmentMonthlyCeilingMicroUsd
        | .user _ => input.userMonthlyCeilingMicroUsd }

/-- Everything that a call needs in order to be prepared. -/
structure Admission (clock : DatabaseClock) : Prop where
  unused : start.operations.find? input.operationId = none
  known : input.userId ∈ start.users
  valid : (input.preparedRow clock).accepted = true
  undenied : 0 < input.reservedCostMicroUsd →
    reservationDenial (input.charge clock) input.reservedCostMicroUsd
      (some (baseAccount start input (input.charge clock).environmentAccount))
      (some (baseAccount start input (input.charge clock).userAccount)) = none
  chargeable : 0 < input.reservedCostMicroUsd → ∀ key,
    (input.charge clock).covers key = true →
    ({ baseAccount start input key with
      reservedMicroUsd := (baseAccount start input key).reservedMicroUsd +
        input.reservedCostMicroUsd } : BudgetAccountRow).check = true

/-- Accounts may have been opened, but none was charged. -/
structure Uncharged (db : ModelDatabase) : Prop where
  rows : ∀ key row, db.accounts.find? key = some row →
    row = baseAccount start input key
  kept : ∀ key, (start.accounts.find? key).isSome = true →
    (db.accounts.find? key).isSome = true

/-- One reservation was made, by a call with the given clock. -/
structure ChargedOnce (clock : DatabaseClock) (db : ModelDatabase) : Prop where
  rows : ∀ key row, db.accounts.find? key = some row →
    row.reservedMicroUsd = (baseAccount start input key).reservedMicroUsd +
      (if (input.charge clock).covers key then
        (input.reservedCostMicroUsd : Int)
      else 0) ∧
      row.settledMicroUsd = (baseAccount start input key).settledMicroUsd
  kept : ∀ key, (start.accounts.find? key).isSome = true →
    (db.accounts.find? key).isSome = true
  covered : 0 < input.reservedCostMicroUsd → ∀ key,
    (input.charge clock).covers key = true →
    (db.accounts.find? key).isSome = true

/-- The committed rows before and after the operation was prepared. -/
inductive CommittedRows : Option DatabaseClock → ModelDatabase → Prop where
  | unprepared {db : ModelDatabase} :
      db.users = start.users →
      db.operations = start.operations →
      Uncharged start input db →
      CommittedRows none db
  | prepared {clock : DatabaseClock} {db : ModelDatabase}
      (fresh : input.operationId ∉ start.operations.rows.map Prod.fst) :
      db.users = start.users →
      db.operations = start.operations.push input.operationId
        (input.preparedRow clock) fresh →
      ChargedOnce start input clock db →
      CommittedRows (some clock) db

/-- The writes of a call up to its reservation. -/
def reservingWrites (clock : DatabaseClock) (db : ModelDatabase) :
    ModelDatabase :=
  if 0 < input.reservedCostMicroUsd then
    ((db.openAccounts input clock).chargeAccounts (input.charge clock)
      input.reservedCostMicroUsd).getD (db.openAccounts input clock)
  else
    db

def insertingWrites (clock : DatabaseClock) (db : ModelDatabase) :
    ModelDatabase :=
  ((reservingWrites input clock db).insertOperation input.operationId
    (input.preparedRow clock)).getD (reservingWrites input clock db)

/-- What is known of a running call: its writes, the accounts it has read, and
whether the operation was committed. -/
inductive CallHolds (winner : Option DatabaseClock) (clock : DatabaseClock) :
    PreparePhase → (ModelDatabase → ModelDatabase) → Prop where
  | checking : CallHolds winner clock .checking id
  | insertingEnvironment :
      0 < input.reservedCostMicroUsd →
      CallHolds winner clock .insertingEnvironment id
  | insertingUser :
      0 < input.reservedCostMicroUsd →
      CallHolds winner clock .insertingUser (fun db =>
        db.openAccount (input.charge clock).environmentAccount
          input.environmentMonthlyCeilingMicroUsd)
  | lockingEnvironment :
      0 < input.reservedCostMicroUsd →
      CallHolds winner clock .lockingEnvironment (fun db =>
        db.openAccounts input clock)
  | lockingUser {environmentBudget : BudgetAccountRow} :
      0 < input.reservedCostMicroUsd →
      (winner = none → environmentBudget =
        baseAccount start input (input.charge clock).environmentAccount) →
      CallHolds winner clock (.lockingUser (some environmentBudget))
        (fun db => db.openAccounts input clock)
  | rechecking {environmentBudget userBudget : BudgetAccountRow} :
      0 < input.reservedCostMicroUsd →
      (winner = none → environmentBudget =
        baseAccount start input (input.charge clock).environmentAccount) →
      (winner = none → userBudget =
        baseAccount start input (input.charge clock).userAccount) →
      CallHolds winner clock
        (.rechecking (some environmentBudget) (some userBudget))
        (fun db => db.openAccounts input clock)
  | reserving :
      0 < input.reservedCostMicroUsd →
      winner = none →
      CallHolds winner clock .reserving (fun db =>
        db.openAccounts input clock)
  | inserting :
      winner = none →
      CallHolds winner clock .inserting (reservingWrites input clock)
  | prepared :
      winner = none →
      CallHolds winner clock (.committing (.prepared input.operationId))
        (insertingWrites input clock)
  | duplicateAtOnce :
      winner.isSome = true →
      CallHolds winner clock (.committing (.duplicate input.operationId)) id
  | duplicateUnderLocks :
      winner.isSome = true →
      0 < input.reservedCostMicroUsd →
      CallHolds winner clock (.committing (.duplicate input.operationId))
        (fun db => db.openAccounts input clock)

end Calls

section Accounts

variable {start db : ModelDatabase} {input : PrepareModelOperationStoreInput}
  {clock : DatabaseClock} {key : BudgetAccountKey}

/-- A ceiling under which some call opens an account. -/
def OpensAt (input : PrepareModelOperationStoreInput)
    (key : BudgetAccountKey) (ceiling : Nat) : Prop :=
  ∀ start : ModelDatabase, start.accounts.find? key = none →
    baseAccount start input key = { ceilingMicroUsd := ceiling }

theorem opensAt_environment (input : PrepareModelOperationStoreInput)
    (clock : DatabaseClock) :
    OpensAt input (input.charge clock).environmentAccount
      input.environmentMonthlyCeilingMicroUsd := by
  intro start absent
  rw [baseAccount, absent]
  rfl

theorem opensAt_user (input : PrepareModelOperationStoreInput)
    (clock : DatabaseClock) :
    OpensAt input (input.charge clock).userAccount
      input.userMonthlyCeilingMicroUsd := by
  intro start absent
  rw [baseAccount, absent]
  rfl

/-- An account that no call has opened was not there at the start. -/
theorem absent_at_start
    (kept : ∀ key, (start.accounts.find? key).isSome = true →
      (db.accounts.find? key).isSome = true)
    (absent : db.accounts.find? key = none) :
    start.accounts.find? key = none := by
  cases present : start.accounts.find? key with
  | none => rfl
  | some row =>
      have still := kept key (by rw [present]; rfl)
      rw [absent] at still
      cases still

private theorem kept_openAccount {ceiling : Nat}
    (kept : ∀ other, (start.accounts.find? other).isSome = true →
      (db.accounts.find? other).isSome = true)
    (other : BudgetAccountKey)
    (present : (start.accounts.find? other).isSome = true) :
    ((db.openAccount key ceiling).accounts.find? other).isSome = true := by
  rw [ModelDatabase.find?_openAccount]
  split
  · rfl
  · exact kept other present

theorem uncharged_start (start : ModelDatabase)
    (input : PrepareModelOperationStoreInput) :
    Uncharged start input start where
  rows := by
    intro key row found
    simp [baseAccount, found]
  kept := fun _ present => present

theorem Uncharged.openAccount {ceiling : Nat}
    (uncharged : Uncharged start input db)
    (opens : OpensAt input key ceiling) :
    Uncharged start input (db.openAccount key ceiling) where
  rows := by
    intro other row found
    rcases Table.find?_insertMissing_cases found with
      present | ⟨rfl, absent, rfl⟩
    · exact uncharged.rows other row present
    · exact (opens start (absent_at_start uncharged.kept absent)).symm
  kept := kept_openAccount uncharged.kept

theorem ChargedOnce.openAccount {ceiling : Nat}
    (billed : 0 < input.reservedCostMicroUsd)
    (charged : ChargedOnce start input clock db)
    (opens : OpensAt input key ceiling) :
    ChargedOnce start input clock (db.openAccount key ceiling) where
  rows := by
    intro other row found
    rcases Table.find?_insertMissing_cases found with
      present | ⟨rfl, absent, rfl⟩
    · exact charged.rows other row present
    · have uncovered : (input.charge clock).covers other = false := by
        by_contra covers
        have opened := charged.covered billed other (by simpa using covers)
        rw [absent] at opened
        cases opened
      rw [opens start (absent_at_start charged.kept absent), uncovered]
      exact ⟨(Int.add_zero _).symm, rfl⟩
  kept := kept_openAccount charged.kept
  covered := by
    intro _ other covers
    rw [ModelDatabase.find?_openAccount]
    split
    · rfl
    · exact charged.covered billed other covers

theorem Uncharged.openAccounts (uncharged : Uncharged start input db)
    (clock : DatabaseClock) :
    Uncharged start input (db.openAccounts input clock) :=
  (uncharged.openAccount (opensAt_environment input clock)).openAccount
    (opensAt_user input clock)

theorem ChargedOnce.openAccounts {other : DatabaseClock}
    (billed : 0 < input.reservedCostMicroUsd)
    (charged : ChargedOnce start input clock db) :
    ChargedOnce start input clock (db.openAccounts input other) :=
  (charged.openAccount billed (opensAt_environment input other)).openAccount
    billed (opensAt_user input other)

theorem openAccounts_isSome (covers : (input.charge clock).covers key = true) :
    ((db.openAccounts input clock).accounts.find? key).isSome = true := by
  unfold ModelDatabase.openAccounts
  rw [ModelDatabase.find?_openAccount]
  rcases BudgetCharge.covers_iff.mp covers with environment | user
  · split
    · rfl
    · rw [ModelDatabase.find?_openAccount, if_pos environment]
      rfl
  · rw [if_pos user]
    rfl

/-- The reservation of an admitted call is the only one. -/
theorem Uncharged.reserve (uncharged : Uncharged start input db) :
    ChargedOnce start input clock
      ((db.openAccounts input clock).reserve (input.charge clock)
        input.reservedCostMicroUsd) where
  rows := by
    intro key row found
    rw [ModelDatabase.find?_reserve, Option.map_eq_some_iff] at found
    obtain ⟨before, present, rfl⟩ := found
    cases (uncharged.openAccounts clock).rows key before present
    exact ⟨ModelDatabase.reservedAccount_reservedMicroUsd,
      ModelDatabase.reservedAccount_settledMicroUsd⟩
  kept := by
    intro key present
    rw [ModelDatabase.find?_reserve, Option.isSome_map]
    exact (uncharged.openAccounts clock).kept key present
  covered := by
    intro _ key covers
    rw [ModelDatabase.find?_reserve, Option.isSome_map]
    exact openAccounts_isSome covers

theorem Uncharged.unbilled (uncharged : Uncharged start input db)
    (unbilled : ¬0 < input.reservedCostMicroUsd) :
    ChargedOnce start input clock db where
  rows := by
    intro key row found
    cases uncharged.rows key row found
    have zero : input.reservedCostMicroUsd = 0 := by omega
    simp [zero]
  kept := uncharged.kept
  covered := fun billed => (unbilled billed).elim

end Accounts

section Admission

variable {start db : ModelDatabase} {input : PrepareModelOperationStoreInput}
  {clock : DatabaseClock}

open ModelDatabase

theorem duplicatePrepare_of_unused
    (unused : db.operations.find? input.operationId = none) :
    db.duplicatePrepare input = none := by
  simp [duplicatePrepare, unused]

private theorem unused_of_duplicatePrepare
    (looked : db.duplicatePrepare input = none) :
    db.operations.find? input.operationId = none := by
  unfold duplicatePrepare at looked
  split at looked
  · assumption
  · split at looked <;> cases looked

theorem insertOperation_isSome
    (known : input.userId ∈ db.users)
    (valid : (input.preparedRow clock).accepted = true)
    (fresh : input.operationId ∉ db.operations.rows.map Prod.fst) :
    db.insertOperation input.operationId (input.preparedRow clock) =
      some { db with
        operations := db.operations.push input.operationId
          (input.preparedRow clock) fresh } := by
  have user : (input.preparedRow clock).userId ∈ db.users := known
  have inserted := Table.insert?_eq_some_iff.mpr ⟨valid, fresh, rfl⟩
  simp [insertOperation, user, inserted]

/-- What `insertOperation` checks of the row that a call inserts. -/
private theorem insertPrepared_checks {db' : ModelDatabase}
    {outcome : PrepareModelOperationOutcome}
    (inserted : db.insertPrepared clock input = .ok (outcome, db')) :
    input.userId ∈ db.users ∧ (input.preparedRow clock).accepted = true := by
  obtain ⟨written, statement, _⟩ := bind_eq_ok.mp inserted
  exact insertOperation_checks (require_eq_ok.mp statement)

private theorem admitted_reservation {reserved : ModelDatabase}
    (reserving : (start.openAccounts input clock).reserveBudget
      (input.charge clock) input.reservedCostMicroUsd .prepare =
        .ok reserved) :
    reservationDenial (input.charge clock) input.reservedCostMicroUsd
        (some (baseAccount start input
          (input.charge clock).environmentAccount))
        (some (baseAccount start input (input.charge clock).userAccount)) =
          none ∧
      ∀ key, (input.charge clock).covers key = true →
        ({ baseAccount start input key with
          reservedMicroUsd := (baseAccount start input key).reservedMicroUsd +
            input.reservedCostMicroUsd } : BudgetAccountRow).check = true := by
  have opened : Uncharged start input (start.openAccounts input clock) :=
    Uncharged.openAccounts (uncharged_start start input) clock
  have found : ∀ key, (input.charge clock).covers key = true →
      (start.openAccounts input clock).accounts.find? key =
        some (baseAccount start input key) := by
    intro key covers
    obtain ⟨row, present⟩ :=
      Option.isSome_iff_exists.mp (@openAccounts_isSome start _ _ _ covers)
    rw [present, opened.rows key row present]
  rw [reserveBudget_eq (found _ (by simp)) (found _ (by simp))] at reserving
  cases denial : reservationDenial (input.charge clock)
    input.reservedCostMicroUsd
    (some (baseAccount start input (input.charge clock).environmentAccount))
    (some (baseAccount start input (input.charge clock).userAccount)) with
  | some failure =>
      rw [denial] at reserving
      cases reserving
  | none =>
      rw [denial] at reserving
      refine ⟨rfl, ?_⟩
      intro key covers
      have charged := require_eq_ok.mp reserving
      simp only [chargeAccounts, updateBudgetAccounts, Option.bind_eq_bind,
        Option.bind_eq_some_iff] at charged
      obtain ⟨_, ⟨accounts, updated, _⟩, _⟩ := charged
      exact (Table.updateWhere?_eq_some_iff.mp updated).1 key _
        (found key covers) covers

theorem admission_of_prepare {db' : ModelDatabase}
    (prepared : start.prepare clock input =
      .ok (.prepared input.operationId, db')) :
    Admission start input clock := by
  unfold ModelDatabase.prepare at prepared
  cases looked : start.duplicatePrepare input with
  | some answer =>
      rw [looked] at prepared
      unfold duplicatePrepare at looked
      split at looked
      · cases looked
      · split at looked
        · cases looked
          cases prepared
        · cases looked
          cases prepared
  | none =>
      rw [looked] at prepared
      have unused := unused_of_duplicatePrepare looked
      by_cases billed : 0 < input.reservedCostMicroUsd
      · rw [if_pos billed] at prepared
        simp only at prepared
        split at prepared
        · cases prepared
        · have looked' : (start.openAccounts input clock).duplicatePrepare
              input = none := looked
          split at prepared
          · rename_i answer answered
            cases looked'.symm.trans answered
          · obtain ⟨reserved, reserving, inserted⟩ := bind_eq_ok.mp prepared
            obtain ⟨known, valid⟩ := insertPrepared_checks inserted
            obtain ⟨undenied, chargeable⟩ :=
              admitted_reservation reserving
            refine ⟨unused, ?_, valid, fun _ => undenied, fun _ =>
              chargeable⟩
            obtain ⟨_, _, rfl⟩ := reserveBudget_eq_ok reserving
            exact known
      · rw [if_neg billed] at prepared
        obtain ⟨known, valid⟩ := insertPrepared_checks prepared
        exact ⟨unused, known, valid, fun other => (billed other).elim,
          fun other => (billed other).elim⟩

end Admission

section Execution

variable {start db view : ModelDatabase}
  {input : PrepareModelOperationStoreInput} {clock : DatabaseClock}
  {winner : Option DatabaseClock}

open ModelDatabase

theorem CommittedRows.looks_unused (rows : CommittedRows start input none db)
    (admission : Admission start input clock)
    (operations : view.operations = db.operations) :
    view.duplicatePrepare input = none := by
  cases rows with
  | unprepared _ same =>
      apply duplicatePrepare_of_unused
      rw [operations, same]
      exact admission.unused

theorem CommittedRows.looks_used {prepared : DatabaseClock}
    (rows : CommittedRows start input (some prepared) db)
    (operations : view.operations = db.operations) :
    view.duplicatePrepare input =
      some (.ok (.duplicate input.operationId)) := by
  cases rows with
  | prepared fresh _ pushed =>
      have found : view.operations.find? input.operationId =
          some (input.preparedRow prepared) := by
        rw [operations, pushed]
        exact Table.find?_push_self _ _ fresh
      have digest : (input.preparedRow prepared).inputDigest =
          input.inputDigest := rfl
      simp [duplicatePrepare, found, digest]

theorem CommittedRows.openAccounts
    (rows : CommittedRows start input winner db)
    (billed : 0 < input.reservedCostMicroUsd) :
    CommittedRows start input winner (db.openAccounts input clock) := by
  cases rows with
  | unprepared users operations uncharged =>
      exact .unprepared users operations (uncharged.openAccounts clock)
  | prepared fresh users operations charged =>
      exact .prepared fresh users operations (charged.openAccounts billed)

/-- The reservation of an admitted call violates no constraint. -/
theorem chargeAccounts_of_admission (uncharged : Uncharged start input db)
    (admission : Admission start input clock)
    (billed : 0 < input.reservedCostMicroUsd) :
    (db.openAccounts input clock).chargeAccounts (input.charge clock)
        input.reservedCostMicroUsd =
      some ((db.openAccounts input clock).reserve (input.charge clock)
        input.reservedCostMicroUsd) := by
  have valid : ∀ key row,
      (db.openAccounts input clock).accounts.find? key = some row →
      (input.charge clock).covers key = true →
      ({ row with
        reservedMicroUsd := row.reservedMicroUsd +
          input.reservedCostMicroUsd } : BudgetAccountRow).check = true := by
    intro key row found covers
    cases (uncharged.openAccounts clock).rows key row found
    exact admission.chargeable billed key covers
  have updated := Table.updateWhere?_eq_some_iff.mpr ⟨valid, rfl⟩
  simp only [chargeAccounts, updateBudgetAccounts, updated]
  rfl

theorem reservingWrites_of_unprepared
    (rows : CommittedRows start input none db)
    (admission : Admission start input clock) :
    (reservingWrites input clock db).users = start.users ∧
      (reservingWrites input clock db).operations = start.operations ∧
        ChargedOnce start input clock (reservingWrites input clock db) := by
  cases rows with
  | unprepared users operations uncharged =>
      unfold reservingWrites
      by_cases billed : 0 < input.reservedCostMicroUsd
      · rw [if_pos billed,
          chargeAccounts_of_admission uncharged admission billed]
        exact ⟨users, operations, uncharged.reserve⟩
      · rw [if_neg billed]
        exact ⟨users, operations, uncharged.unbilled billed⟩

/-- A call that was the only one to find nothing inserts its row. -/
theorem insertOperation_of_unprepared
    (rows : CommittedRows start input none db)
    (admission : Admission start input clock) :
    ∃ inserted, (reservingWrites input clock db).insertOperation
        input.operationId (input.preparedRow clock) = some inserted ∧
      CommittedRows start input (some clock) inserted := by
  obtain ⟨users, operations, charged⟩ :=
    reservingWrites_of_unprepared rows admission
  have startFresh := Table.find?_eq_none_iff.mp admission.unused
  have fresh : input.operationId ∉
      (reservingWrites input clock db).operations.rows.map Prod.fst := by
    rw [operations]
    exact startFresh
  have known : input.userId ∈ (reservingWrites input clock db).users := by
    rw [users]
    exact admission.known
  refine ⟨_, insertOperation_isSome known admission.valid fresh, ?_⟩
  refine .prepared startFresh users ?_ ?_
  · simp only [operations]
  · exact ⟨charged.rows, charged.kept, charged.covered⟩

private theorem opened_read {key : BudgetAccountKey}
    (rows : CommittedRows start input winner db)
    (covers : (input.charge clock).covers key = true) :
    ∃ budget, (db.openAccounts input clock).accounts.find? key =
        some budget ∧
      (winner = none → budget = baseAccount start input key) := by
  obtain ⟨budget, found⟩ :=
    Option.isSome_iff_exists.mp (@openAccounts_isSome db input clock _ covers)
  refine ⟨budget, found, ?_⟩
  rintro rfl
  cases rows with
  | unprepared _ _ uncharged =>
      exact (uncharged.openAccounts clock).rows key budget found

private theorem CallHolds.check (rows : CommittedRows start input winner db)
    (admission : Admission start input clock) :
    CallHolds start input winner clock
      (PreparePhase.afterLook (.afterCheck input)
        (db.duplicatePrepare input)) id := by
  cases winner with
  | some prepared =>
      rw [rows.looks_used rfl]
      exact .duplicateAtOnce rfl
  | none =>
      rw [rows.looks_unused admission rfl]
      simp only [PreparePhase.afterLook, PreparePhase.afterCheck]
      split
      · rename_i billed
        exact .insertingEnvironment billed
      · rename_i unbilled
        have same : reservingWrites input clock = id := by
          funext rows
          exact if_neg unbilled
        rw [← same]
        exact .inserting rfl

private theorem CallHolds.recheck
    {environmentBudget userBudget : BudgetAccountRow}
    (rows : CommittedRows start input winner db)
    (admission : Admission start input clock)
    (billed : 0 < input.reservedCostMicroUsd)
    (environmentRead : winner = none → environmentBudget =
      baseAccount start input (input.charge clock).environmentAccount)
    (userRead : winner = none → userBudget =
      baseAccount start input (input.charge clock).userAccount) :
    CallHolds start input winner clock
      (PreparePhase.afterLook
        (.afterBudgets input (input.charge clock) (some environmentBudget)
          (some userBudget))
        ((db.openAccounts input clock).duplicatePrepare input))
      (fun db => db.openAccounts input clock) := by
  have operations : (db.openAccounts input clock).operations =
      db.operations := rfl
  cases winner with
  | some prepared =>
      rw [rows.looks_used operations]
      exact .duplicateUnderLocks rfl billed
  | none =>
      rw [rows.looks_unused admission operations, environmentRead rfl,
        userRead rfl]
      simp only [PreparePhase.afterLook, PreparePhase.afterBudgets,
        admission.undenied billed]
      exact .reserving billed rfl

/-- What a statement leaves true of its own call. -/
theorem CallHolds.execute {phase : PreparePhase}
    {writes : ModelDatabase → ModelDatabase}
    {lock : ModelDatabase → Option PrepareLock}
    {write : ModelDatabase → ModelDatabase}
    {next : ModelDatabase → PreparePhase}
    (holds : CallHolds start input winner clock phase writes)
    (rows : CommittedRows start input winner db)
    (admission : Admission start input clock)
    (instruction : prepareInstruction input clock phase =
      .statement lock write next) :
    CallHolds start input winner clock (next (writes db))
      (fun rows => write (writes rows)) := by
  cases holds with
  | checking =>
      cases instruction
      exact .check rows admission
  | insertingEnvironment billed =>
      cases instruction
      exact .insertingUser billed
  | insertingUser billed =>
      cases instruction
      exact .lockingEnvironment billed
  | lockingEnvironment billed =>
      cases instruction
      obtain ⟨budget, found, read⟩ := opened_read rows
        (BudgetCharge.covers_environmentAccount (input.charge clock))
      change CallHolds start input winner clock (.lockingUser
        ((db.openAccounts input clock).accounts.find?
          (input.charge clock).environmentAccount)) _
      rw [found]
      exact .lockingUser billed read
  | @lockingUser environmentBudget billed environmentRead =>
      cases instruction
      obtain ⟨budget, found, read⟩ := opened_read rows
        (BudgetCharge.covers_userAccount (input.charge clock))
      change CallHolds start input winner clock
        (PreparePhase.afterLocks (some environmentBudget)
          ((db.openAccounts input clock).accounts.find?
            (input.charge clock).userAccount)) _
      rw [found]
      exact .rechecking billed environmentRead read
  | rechecking billed environmentRead userRead =>
      cases instruction
      exact .recheck rows admission billed environmentRead userRead
  | reserving billed unprepared =>
      cases instruction
      cases unprepared
      cases rows with
      | unprepared _ _ uncharged =>
          have charged :=
            chargeAccounts_of_admission uncharged admission billed
          have phase : PreparePhase.afterWrite .inserting
              ((db.openAccounts input clock).chargeAccounts
                (input.charge clock) input.reservedCostMicroUsd) =
                  .inserting := by
            rw [charged]
            rfl
          have same : (fun rows : ModelDatabase =>
              ((rows.openAccounts input clock).chargeAccounts
                (input.charge clock) input.reservedCostMicroUsd).getD
                  (rows.openAccounts input clock)) =
              reservingWrites input clock := by
            funext rows
            exact (if_pos billed).symm
          change CallHolds start input none clock (PreparePhase.afterWrite _
            ((db.openAccounts input clock).chargeAccounts
              (input.charge clock) input.reservedCostMicroUsd)) _
          rw [phase, same]
          exact .inserting rfl
  | inserting unprepared =>
      cases instruction
      cases unprepared
      obtain ⟨inserted, statement, _⟩ :=
        insertOperation_of_unprepared rows admission
      have phase : PreparePhase.afterWrite
          (.committing (.prepared input.operationId))
          ((reservingWrites input clock db).insertOperation input.operationId
            (input.preparedRow clock)) =
              .committing (.prepared input.operationId) := by
        rw [statement]
        rfl
      change CallHolds start input none clock (PreparePhase.afterWrite _
        ((reservingWrites input clock db).insertOperation input.operationId
          (input.preparedRow clock))) _
      rw [phase]
      exact .prepared rfl
  | prepared | duplicateAtOnce | duplicateUnderLocks => cases instruction

end Execution

section Runs

variable (start : ModelDatabase) (input : PrepareModelOperationStoreInput)

/-- The call has taken its last look at the identifier and found nothing. -/
def PreparePhase.isDecided : PreparePhase → Bool
  | .reserving | .inserting | .committing (.prepared _) => true
  | _ => false

/-- The next statement is the last look at the identifier. -/
def PreparePhase.looksLast : PreparePhase → Bool
  | .checking => input.reservedCostMicroUsd = 0
  | .rechecking _ _ => true
  | _ => false

/-- The budgets admit every call. -/
def CallsAdmitted : SessionAction DatabaseClock → Prop
  | .start _ clock => ∃ db, start.prepare clock input =
      .ok (.prepared input.operationId, db)
  | .step _ => True

/-- No call takes its last look at the identifier while another one, which
found nothing, has not ended. -/
def LastLookAlone (state : PrepareCalls) :
    SessionAction DatabaseClock → Prop
  | .start _ _ => True
  | .step session => ∀ transaction : PrepareTransaction,
      state.sessions.find? session = some (.running transaction) →
      transaction.phase.looksLast input = true →
      ∀ other (running : PrepareTransaction), other ≠ session →
        state.sessions.find? other = some (.running running) →
        running.phase.isDecided = false

/-- The calls before and after one of them has prepared the operation. -/
structure CallsHold (winner : Option (SessionId × DatabaseClock))
    (state : PrepareCalls) : Prop where
  rows : CommittedRows start input (winner.map Prod.snd) state.committed
  running : ∀ session (transaction : PrepareTransaction),
    state.sessions.find? session = some (.running transaction) →
    Admission start input transaction.parameter ∧
      CallHolds start input (winner.map Prod.snd) transaction.parameter
        transaction.phase transaction.writes
  decided : ∀ session other (transaction running : PrepareTransaction),
    state.sessions.find? session = some (.running transaction) →
    state.sessions.find? other = some (.running running) →
    transaction.phase.isDecided = true → running.phase.isDecided = true →
    session = other
  ended : ∀ session answer,
    state.sessions.find? session = some (.ended answer) →
    (winner.map Prod.fst = some session ∧
      answer = .ok (.prepared input.operationId)) ∨
      (winner.isSome = true ∧ winner.map Prod.fst ≠ some session ∧
        answer = .ok (.duplicate input.operationId))
  prepared : ∀ session clock, winner = some (session, clock) →
    state.sessions.find? session =
      some (.ended (.ok (.prepared input.operationId)))

variable {start input} {state state' : PrepareCalls}
  {winner : Option (SessionId × DatabaseClock)} {session : SessionId}
  {transaction : PrepareTransaction}

private theorem duplicatePrepare_undecided {db : ModelDatabase}
    {answer : PrepareAnswer} (fresh : PreparePhase)
    (looked : db.duplicatePrepare input = some answer) :
    (PreparePhase.afterLook fresh (some answer)).isDecided = false := by
  unfold ModelDatabase.duplicatePrepare at looked
  split at looked
  · cases looked
  · split at looked
    · cases looked
      rfl
    · cases looked
      rfl

private theorem looksLast_of_decided
    {lock : ModelDatabase → Option PrepareLock}
    {write : ModelDatabase → ModelDatabase}
    {next : ModelDatabase → PreparePhase} {clock : DatabaseClock}
    {phase : PreparePhase} {view : ModelDatabase}
    (instruction : prepareInstruction input clock phase =
      .statement lock write next)
    (undecided : phase.isDecided = false)
    (decided : (next view).isDecided = true) :
    phase.looksLast input = true := by
  cases phase with
  | checking =>
      cases instruction
      change (PreparePhase.afterLook (.afterCheck input)
        (view.duplicatePrepare input)).isDecided = true at decided
      cases looked : view.duplicatePrepare input with
      | some answer =>
          rw [looked, duplicatePrepare_undecided _ looked] at decided
          cases decided
      | none =>
          rw [looked] at decided
          simp only [PreparePhase.afterLook, PreparePhase.afterCheck]
            at decided
          split at decided
          · cases decided
          · rename_i unbilled
            exact decide_eq_true (by omega)
  | rechecking environmentBudget userBudget => rfl
  | lockingUser environmentBudget =>
      cases instruction
      simp only [PreparePhase.afterLocks] at decided
      split at decided
      · cases decided
      · cases decided
  | insertingEnvironment | insertingUser | lockingEnvironment =>
      cases instruction
      cases decided
  | reserving | inserting => cases undecided
  | committing outcome | failing failure => cases instruction

private theorem CallsHold.winner_ne {other : SessionId} {clock : DatabaseClock}
    (holds : CallsHold start input winner state)
    (won : winner = some (other, clock))
    (found : state.sessions.find? session = some (.running transaction)) :
    other ≠ session := by
  rintro rfl
  have ended := holds.prepared other clock won
  rw [found] at ended
  cases ended

private theorem CallsHold.decided_endSession {answer : PrepareAnswer}
    (holds : CallsHold start input winner state)
    (left right : SessionId) (leftCall rightCall : PrepareTransaction)
    (leftFound : (state.setSession session (.ended answer)).sessions.find?
      left = some (.running leftCall))
    (rightFound : (state.setSession session (.ended answer)).sessions.find?
      right = some (.running rightCall))
    (leftDecided : leftCall.phase.isDecided = true)
    (rightDecided : rightCall.phase.isDecided = true) : left = right :=
  holds.decided left right leftCall rightCall
    (Sessions.find?_endSession leftFound).2
    (Sessions.find?_endSession rightFound).2 leftDecided rightDecided

/-- The rows that an undecided call has read need not be current once another
call has prepared the operation. -/
private theorem CallHolds.outdated {clock prepared : DatabaseClock}
    {phase : PreparePhase} {writes : ModelDatabase → ModelDatabase}
    (holds : CallHolds start input none clock phase writes)
    (undecided : phase.isDecided = false) :
    CallHolds start input (some prepared) clock phase writes := by
  cases holds with
  | checking => exact .checking
  | insertingEnvironment billed => exact .insertingEnvironment billed
  | insertingUser billed => exact .insertingUser billed
  | lockingEnvironment billed => exact .lockingEnvironment billed
  | lockingUser billed => exact .lockingUser billed (fun other => nomatch other)
  | rechecking billed =>
      exact .rechecking billed (fun other => nomatch other)
        (fun other => nomatch other)
  | reserving | inserting | prepared => cases undecided
  | duplicateAtOnce won | duplicateUnderLocks won => cases won

private theorem CallsHold.begin {clock : DatabaseClock}
    (holds : CallsHold start input winner state)
    (absent : state.sessions.find? session = none)
    (admission : Admission start input clock) :
    CallsHold start input winner
      { state with
        sessions := state.sessions.insertMissing session
          (.running
            { parameter := clock
              phase := .checking
              writes := id
              locks := [] }) } where
  rows := holds.rows
  running := by
    intro other running present
    rcases Sessions.find?_start absent present with ⟨_, same⟩ | ⟨_, earlier⟩
    · cases same
      exact ⟨admission, .checking⟩
    · exact holds.running other running earlier
  decided := by
    intro left right leftCall rightCall leftFound rightFound leftDecided
      rightDecided
    rcases Sessions.find?_start absent leftFound with
      ⟨_, leftNew⟩ | ⟨_, leftEarlier⟩
    · cases leftNew
      cases leftDecided
    · rcases Sessions.find?_start absent rightFound with
        ⟨_, rightNew⟩ | ⟨_, rightEarlier⟩
      · cases rightNew
        cases rightDecided
      · exact holds.decided left right leftCall rightCall leftEarlier
          rightEarlier leftDecided rightDecided
  ended := by
    intro other answer present
    rcases Sessions.find?_start absent present with ⟨_, same⟩ | ⟨_, earlier⟩
    · cases same
    · exact holds.ended other answer earlier
  prepared := by
    intro other clock won
    have ended := holds.prepared other clock won
    have different : other ≠ session := by
      rintro rfl
      rw [absent] at ended
      cases ended
    simp only [Table.find?_insertMissing, different, if_false]
    exact ended

private theorem CallsHold.execute
    {lock : ModelDatabase → Option PrepareLock}
    {write : ModelDatabase → ModelDatabase}
    {next : ModelDatabase → PreparePhase}
    (holds : CallsHold start input winner state)
    (alone : LastLookAlone input state (.step session))
    (found : state.sessions.find? session = some (.running transaction))
    (instruction : prepareInstruction input transaction.parameter
      transaction.phase = .statement lock write next) :
    CallsHold start input winner
      (state.setSession session
        (.running (transaction.execute state.committed lock write next)))
    where
  rows := holds.rows
  running := by
    intro other running present
    rcases Sessions.find?_setSession present with ⟨_, same⟩ | ⟨_, earlier⟩
    · cases same
      obtain ⟨admission, holding⟩ := holds.running session transaction found
      exact ⟨admission, holding.execute holds.rows admission instruction⟩
    · exact holds.running other running earlier
  decided := by
    have becomes : ∀ other (running : PrepareTransaction), other ≠ session →
        state.sessions.find? other = some (.running running) →
        running.phase.isDecided = true →
        (transaction.execute state.committed lock write
          next).phase.isDecided = false := by
      intro other running different present decided
      by_contra itself
      cases before : transaction.phase.isDecided with
      | true =>
          exact different (holds.decided other session running transaction
            present found decided before)
      | false =>
          have last := looksLast_of_decided instruction before
            (by simpa [Transaction.execute] using itself)
          rw [alone transaction found last other running different present]
            at decided
          cases decided
    intro left right leftCall rightCall leftFound rightFound leftDecided
      rightDecided
    rcases Sessions.find?_setSession leftFound with
      ⟨leftSame, leftNew⟩ | ⟨leftOther, leftEarlier⟩
    · rcases Sessions.find?_setSession rightFound with
        ⟨rightSame, _⟩ | ⟨rightOther, rightEarlier⟩
      · rw [leftSame, rightSame]
      · cases leftNew
        rw [becomes right rightCall rightOther rightEarlier rightDecided]
          at leftDecided
        cases leftDecided
    · rcases Sessions.find?_setSession rightFound with
        ⟨_, rightNew⟩ | ⟨_, rightEarlier⟩
      · cases rightNew
        rw [becomes left leftCall leftOther leftEarlier leftDecided]
          at rightDecided
        cases rightDecided
      · exact holds.decided left right leftCall rightCall leftEarlier
          rightEarlier leftDecided rightDecided
  ended := by
    intro other answer present
    rcases Sessions.find?_setSession present with ⟨_, same⟩ | ⟨_, earlier⟩
    · cases same
    · exact holds.ended other answer earlier
  prepared := by
    intro other clock won
    have ended := holds.prepared other clock won
    have different := holds.winner_ne won found
    simp only [Sessions.setSession, Table.find?_modify_of_ne _ _ different]
    exact ended

private theorem CallsHold.commitDuplicate {rows : ModelDatabase}
    (holds : CallsHold start input winner state)
    (found : state.sessions.find? session = some (.running transaction))
    (won : winner.isSome = true)
    (committed : CommittedRows start input (winner.map Prod.snd) rows) :
    CallsHold start input winner
      (state.commit session rows
        (.ok (.duplicate input.operationId))) where
  rows := committed
  running := by
    intro other running present
    obtain ⟨_, earlier⟩ := Sessions.find?_endSession present
    exact holds.running other running earlier
  decided := holds.decided_endSession
  ended := by
    intro other answer present
    rcases Sessions.find?_setSession present with ⟨same, ended⟩ | ⟨_, earlier⟩
    · cases ended
      refine .inr ⟨won, ?_, rfl⟩
      intro winning
      obtain ⟨⟨winnerId, clock⟩, equal⟩ := Option.isSome_iff_exists.mp won
      rw [equal] at winning
      cases Option.some.inj winning
      exact (holds.winner_ne equal found same).elim
    · exact holds.ended other answer earlier
  prepared := by
    intro other clock winning
    have ended := holds.prepared other clock winning
    have different := holds.winner_ne winning found
    simp only [Sessions.commit, Sessions.setSession,
      Table.find?_modify_of_ne _ _ different]
    exact ended

private theorem CallsHold.commitPrepared {rows : ModelDatabase}
    (holds : CallsHold start input none state)
    (found : state.sessions.find? session = some (.running transaction))
    (decided : transaction.phase.isDecided = true)
    (committed :
      CommittedRows start input (some transaction.parameter) rows) :
    CallsHold start input (some (session, transaction.parameter))
      (state.commit session rows
        (.ok (.prepared input.operationId))) where
  rows := committed
  running := by
    intro other running present
    obtain ⟨different, earlier⟩ := Sessions.find?_endSession present
    obtain ⟨admission, holding⟩ := holds.running other running earlier
    have undecided : running.phase.isDecided = false := by
      by_contra itself
      exact different (holds.decided other session running transaction earlier
        found (by simpa using itself) decided)
    exact ⟨admission, holding.outdated undecided⟩
  decided := holds.decided_endSession
  ended := by
    intro other answer present
    rcases Sessions.find?_setSession present with ⟨same, ended⟩ | ⟨_, earlier⟩
    · cases ended
      rw [same]
      exact .inl ⟨rfl, rfl⟩
    · rcases holds.ended other answer earlier with ⟨won, _⟩ | ⟨won, _⟩
      · cases won
      · cases won
  prepared := by
    intro other clock winning
    cases Option.some.inj winning
    simp [Sessions.commit, Sessions.setSession, found]

theorem CallsHold.step {action : SessionAction DatabaseClock}
    (holds : CallsHold start input winner state)
    (admitted : CallsAdmitted start input action)
    (alone : LastLookAlone input state action)
    (step : SessionStep (prepareProgram input) state action state') :
    ∃ winner', CallsHold start input winner' state' := by
  cases step with
  | started absent =>
      obtain ⟨db, prepared⟩ := admitted
      exact ⟨winner, holds.begin absent (admission_of_prepare prepared)⟩
  | executed found instruction =>
      exact ⟨winner, holds.execute alone found instruction⟩
  | @committed session transaction answer found instruction =>
      obtain ⟨clock, phase, writes, locks⟩ := transaction
      obtain ⟨admission, holding⟩ : Admission start input clock ∧
          CallHolds start input (winner.map Prod.snd) clock phase writes :=
        holds.running session _ found
      have rows := holds.rows
      cases holding with
      | prepared unprepared =>
          cases instruction
          cases winner with
          | some won => cases unprepared
          | none =>
              obtain ⟨inserted, statement, committed⟩ :=
                insertOperation_of_unprepared rows admission
              have view : insertingWrites input clock state.committed =
                  inserted := by
                unfold insertingWrites
                rw [statement]
                rfl
              rw [← view] at committed
              exact ⟨_, holds.commitPrepared found rfl committed⟩
      | duplicateAtOnce won =>
          cases instruction
          rw [Option.isSome_map] at won
          exact ⟨winner, holds.commitDuplicate found won rows⟩
      | duplicateUnderLocks won billed =>
          cases instruction
          rw [Option.isSome_map] at won
          exact ⟨winner, holds.commitDuplicate found won
            (rows.openAccounts billed)⟩
      | _ => cases instruction
  | @rolledBack session transaction answer found instruction =>
      obtain ⟨clock, phase, writes, locks⟩ := transaction
      obtain ⟨admission, holding⟩ : Admission start input clock ∧
          CallHolds start input (winner.map Prod.snd) clock phase writes :=
        holds.running session _ found
      cases holding <;> cases instruction

end Runs

end XpensGo
