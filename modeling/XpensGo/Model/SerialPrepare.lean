import Mathlib.Data.List.Pairwise
import XpensGo.Model.OperationIdentity
import XpensGo.Postgres.Serializability

/-!
# Serial calls of prepare

Any number of calls of `prepare`, with any requests and clocks, leave the rows
and give the answers of calls that are made one after the other.  Only a call
whose identifier is taken after its first look may end differently from a whole
call: as a duplicate that leaves its accounts open, or with a refusal that
leaves the rows alone.
-/

namespace XpensGo

open EcmaScript Postgres Relational Transition

namespace PrepareCall

variable (call : PrepareCall)

def charge : BudgetCharge :=
  call.input.charge call.clock

/-- The rows after a call has opened its accounts. -/
def opened (db : ModelDatabase) : ModelDatabase :=
  db.openAccounts call.input call.clock

/-- The denial of the reservation of a call on its opened accounts. -/
def denial (db : ModelDatabase) : Option ModelStoreFailure :=
  reservationDenial call.charge call.input.reservedCostMicroUsd
    ((call.opened db).accounts.find? call.charge.environmentAccount)
    ((call.opened db).accounts.find? call.charge.userAccount)

/-- The charge of a call violates no constraint. -/
def charges (db : ModelDatabase) : Bool :=
  ((call.opened db).chargeAccounts call.charge
    call.input.reservedCostMicroUsd).isSome

end PrepareCall

/-- How a call may end on the rows that are committed when it ends. -/
inductive PrepareAllows (call : PrepareCall) (db : ModelDatabase) :
    PrepareAnswer → ModelDatabase → Prop where
  | whole {answer : PrepareAnswer} {db' : ModelDatabase} :
      withTransaction (ModelDatabase.prepare call.clock call.input) db =
        (answer, db') →
      PrepareAllows call db answer db'
  | duplicate {row : ModelOperationRow} :
      0 < call.input.reservedCostMicroUsd →
      db.operations.find? call.input.operationId = some row →
      row.inputDigest = call.input.inputDigest →
      PrepareAllows call db (.ok (.duplicate call.input.operationId))
        (call.opened db)
  | refused {row : ModelOperationRow} {failure : ModelStoreFailure} :
      db.operations.find? call.input.operationId = some row →
      failure = .persistenceUnavailable .prepare ∨
        0 < call.input.reservedCostMicroUsd ∧
          call.denial db = some failure →
      PrepareAllows call db (.error failure) db

/-- The end of another transaction leaves alone what these locks keep. -/
structure Undisturbed (locks : List PrepareLock) (db db' : ModelDatabase) :
    Prop where
  users : db'.users = db.users
  terms : TermsPersist db db'
  unused : ∀ operationId, .operation operationId ∈ locks →
    db.operations.find? operationId = none →
    db'.operations.find? operationId = none
  accounts : ∀ key, .account key ∈ locks →
    db'.accounts.find? key = db.accounts.find? key
  kept : ∀ key, db.HasAccount key → db'.HasAccount key

section Accounts

variable {db db' : ModelDatabase} {call : PrepareCall}
  {locks : List PrepareLock} {key : BudgetAccountKey}

theorem ModelDatabase.find?_openAccounts_of_eq
    {input : PrepareModelOperationStoreInput} {clock : DatabaseClock}
    (same : db'.accounts.find? key = db.accounts.find? key) :
    (db'.openAccounts input clock).accounts.find? key =
      (db.openAccounts input clock).accounts.find? key := by
  have different : (input.charge clock).userAccount ≠
      (input.charge clock).environmentAccount := by
    simp [BudgetCharge.userAccount, BudgetCharge.environmentAccount]
  unfold ModelDatabase.openAccounts
  simp only [ModelDatabase.find?_openAccount]
  by_cases user : key = (input.charge clock).userAccount
  · subst user
    simp only [if_true, different, if_false, same]
  · by_cases environment : key = (input.charge clock).environmentAccount
    · subst environment
      simp only [user, if_true, if_false, same]
    · simp only [user, environment, if_false, same]

theorem ModelDatabase.chargeAccounts_isSome_iff {charge : BudgetCharge}
    {reservation : Int} :
    (db.chargeAccounts charge reservation).isSome = true ↔
      ∀ key row, db.accounts.find? key = some row →
        charge.covers key = true →
        ({ row with
          reservedMicroUsd := row.reservedMicroUsd + reservation } :
            BudgetAccountRow).check = true := by
  constructor
  · intro charged
    obtain ⟨written, charged⟩ := Option.isSome_iff_exists.mp charged
    simp only [chargeAccounts, updateBudgetAccounts, Option.bind_eq_bind,
      Option.bind_eq_some_iff] at charged
    obtain ⟨_, ⟨accounts, updated, _⟩, _⟩ := charged
    exact (Table.updateWhere?_eq_some_iff.mp updated).1
  · intro valid
    have updated := Table.updateWhere?_eq_some_iff.mpr ⟨valid, rfl⟩
    simp only [chargeAccounts, updateBudgetAccounts, updated]
    rfl

/-- A call that keeps both of its accounts from the others. -/
structure HoldsAccounts (call : PrepareCall) (locks : List PrepareLock) :
    Prop where
  environment : .account call.charge.environmentAccount ∈ locks
  user : .account call.charge.userAccount ∈ locks

theorem HoldsAccounts.covers (holds : HoldsAccounts call locks)
    (covered : call.charge.covers key = true) : .account key ∈ locks := by
  rcases BudgetCharge.covers_iff.mp covered with rfl | rfl
  · exact holds.environment
  · exact holds.user

theorem Undisturbed.opened (undisturbed : Undisturbed locks db db')
    (held : .account key ∈ locks) :
    (call.opened db').accounts.find? key =
      (call.opened db).accounts.find? key :=
  ModelDatabase.find?_openAccounts_of_eq (undisturbed.accounts key held)

theorem Undisturbed.denial (undisturbed : Undisturbed locks db db')
    (holds : HoldsAccounts call locks) : call.denial db' = call.denial db := by
  unfold PrepareCall.denial
  rw [undisturbed.opened holds.environment, undisturbed.opened holds.user]

theorem Undisturbed.charges (undisturbed : Undisturbed locks db db')
    (holds : HoldsAccounts call locks) :
    call.charges db' = call.charges db := by
  apply Bool.eq_iff_iff.mpr
  unfold PrepareCall.charges
  rw [ModelDatabase.chargeAccounts_isSome_iff,
    ModelDatabase.chargeAccounts_isSome_iff]
  refine forall_congr' fun key => ?_
  refine forall_congr' fun row => ?_
  constructor
  · intro valid found covered
    rw [← undisturbed.opened (holds.covers covered)] at found
    exact valid found covered
  · intro valid found covered
    rw [undisturbed.opened (holds.covers covered)] at found
    exact valid found covered

/-- An account that is stored, or that a call has inserted. -/
def Opened (db : ModelDatabase) (locks : List PrepareLock)
    (key : BudgetAccountKey) : Prop :=
  db.HasAccount key ∨ .account key ∈ locks

theorem Opened.undisturbed (opened : Opened db locks key)
    (undisturbed : Undisturbed locks db db') : Opened db' locks key :=
  opened.imp_left (undisturbed.kept key)

theorem opened_openLock {view : ModelDatabase}
    (opens : ∀ other, view.HasAccount other → Opened db locks other) :
    Opened db ((view.openLock key).toList ++ locks) key := by
  by_cases present : view.HasAccount key
  · exact (opens key present).imp_right (List.mem_append_right _)
  · refine .inr (List.mem_append_left _ ?_)
    rw [Option.mem_toList, openLock_eq_some]
    exact ⟨present, rfl⟩

end Accounts

section Calls

variable (db : ModelDatabase) (call : PrepareCall) (locks : List PrepareLock)

/-- A call that has passed the checks on its budgets, if it reserves. -/
def IsFunded : Prop :=
  0 < call.input.reservedCostMicroUsd →
    HoldsAccounts call locks ∧ call.denial db = none ∧
      call.charges db = true

/-- Why a call fails. -/
inductive CallFails : ModelStoreFailure → Prop where
  | conflicting {row : ModelOperationRow} :
      db.operations.find? call.input.operationId = some row →
      row.inputDigest ≠ call.input.inputDigest →
      CallFails (.inputConflict call.input.operationId)
  | denied {failure : ModelStoreFailure} :
      0 < call.input.reservedCostMicroUsd →
      HoldsAccounts call locks →
      call.denial db = some failure →
      CallFails failure
  | uncharged :
      0 < call.input.reservedCostMicroUsd →
      HoldsAccounts call locks →
      call.denial db = none →
      call.charges db = false →
      CallFails (.persistenceUnavailable .prepare)
  | uninserted :
      IsFunded db call locks →
      (call.input.userId ∉ db.users ∨
        (call.input.preparedRow call.clock).accepted = false ∨
        ∃ row, db.operations.find? call.input.operationId = some row) →
      CallFails (.persistenceUnavailable .prepare)

/-- What is known of a running call when these rows are committed. -/
inductive CallMoves :
    PreparePhase → (ModelDatabase → ModelDatabase) → Prop where
  | checking : CallMoves .checking id
  | insertingEnvironment :
      0 < call.input.reservedCostMicroUsd →
      CallMoves .insertingEnvironment id
  | insertingUser :
      0 < call.input.reservedCostMicroUsd →
      Opened db locks call.charge.environmentAccount →
      CallMoves .insertingUser (fun db =>
        db.openAccount call.charge.environmentAccount
          call.input.environmentMonthlyCeilingMicroUsd)
  | lockingEnvironment :
      0 < call.input.reservedCostMicroUsd →
      Opened db locks call.charge.environmentAccount →
      Opened db locks call.charge.userAccount →
      CallMoves .lockingEnvironment call.opened
  | lockingUser {environmentBudget : Option BudgetAccountRow} :
      0 < call.input.reservedCostMicroUsd →
      .account call.charge.environmentAccount ∈ locks →
      Opened db locks call.charge.userAccount →
      (call.opened db).accounts.find? call.charge.environmentAccount =
        environmentBudget →
      CallMoves (.lockingUser environmentBudget) call.opened
  | rechecking {environmentBudget userBudget : Option BudgetAccountRow} :
      0 < call.input.reservedCostMicroUsd →
      HoldsAccounts call locks →
      (call.opened db).accounts.find? call.charge.environmentAccount =
        environmentBudget →
      (call.opened db).accounts.find? call.charge.userAccount =
        userBudget →
      CallMoves (.rechecking environmentBudget userBudget) call.opened
  | reserving :
      0 < call.input.reservedCostMicroUsd →
      HoldsAccounts call locks →
      call.denial db = none →
      CallMoves .reserving call.opened
  | inserting :
      IsFunded db call locks →
      CallMoves .inserting (reservingWrites call.input call.clock)
  | prepared :
      IsFunded db call locks →
      .operation call.input.operationId ∈ locks →
      call.input.userId ∈ db.users →
      (call.input.preparedRow call.clock).accepted = true →
      db.operations.find? call.input.operationId = none →
      CallMoves (.committing (.prepared call.input.operationId))
        (insertingWrites call.input call.clock)
  | duplicateAtOnce {row : ModelOperationRow} :
      db.operations.find? call.input.operationId = some row →
      row.inputDigest = call.input.inputDigest →
      CallMoves (.committing (.duplicate call.input.operationId)) id
  | duplicateUnderLocks {row : ModelOperationRow} :
      0 < call.input.reservedCostMicroUsd →
      HoldsAccounts call locks →
      db.operations.find? call.input.operationId = some row →
      row.inputDigest = call.input.inputDigest →
      CallMoves (.committing (.duplicate call.input.operationId))
        call.opened
  | failing {failure : ModelStoreFailure}
      {writes : ModelDatabase → ModelDatabase} :
      CallFails db call locks failure →
      CallMoves (.failing failure) writes

end Calls

section Others

variable {db db' : ModelDatabase} {call : PrepareCall}
  {locks : List PrepareLock} {phase : PreparePhase}
  {writes : ModelDatabase → ModelDatabase} {failure : ModelStoreFailure}

theorem IsFunded.undisturbed (funded : IsFunded db call locks)
    (undisturbed : Undisturbed locks db db') : IsFunded db' call locks := by
  intro billed
  obtain ⟨holds, undenied, charges⟩ := funded billed
  refine ⟨holds, ?_, ?_⟩
  · rw [undisturbed.denial holds, undenied]
  · rw [undisturbed.charges holds, charges]

theorem CallFails.undisturbed (fails : CallFails db call locks failure)
    (undisturbed : Undisturbed locks db db') :
    CallFails db' call locks failure := by
  cases fails with
  | conflicting found different =>
      obtain ⟨row, still, terms⟩ := undisturbed.terms _ _ found
      refine .conflicting still ?_
      rw [terms]
      exact different
  | denied billed holds denied =>
      refine .denied billed holds ?_
      rw [undisturbed.denial holds, denied]
  | uncharged billed holds undenied uncharged =>
      refine .uncharged billed holds ?_ ?_
      · rw [undisturbed.denial holds, undenied]
      · rw [undisturbed.charges holds, uncharged]
  | uninserted funded violates =>
      refine .uninserted (funded.undisturbed undisturbed) ?_
      rcases violates with unknown | invalid | ⟨row, found⟩
      · rw [← undisturbed.users] at unknown
        exact .inl unknown
      · exact .inr (.inl invalid)
      · obtain ⟨row', still, _⟩ := undisturbed.terms _ _ found
        exact .inr (.inr ⟨row', still⟩)

theorem CallMoves.undisturbed (moves : CallMoves db call locks phase writes)
    (undisturbed : Undisturbed locks db db') :
    CallMoves db' call locks phase writes := by
  cases moves with
  | checking => exact .checking
  | insertingEnvironment billed => exact .insertingEnvironment billed
  | insertingUser billed environment =>
      exact .insertingUser billed (environment.undisturbed undisturbed)
  | lockingEnvironment billed environment user =>
      exact .lockingEnvironment billed (environment.undisturbed undisturbed)
        (user.undisturbed undisturbed)
  | lockingUser billed locked user read =>
      refine .lockingUser billed locked (user.undisturbed undisturbed) ?_
      rw [undisturbed.opened locked, read]
  | rechecking billed holds environmentRead userRead =>
      refine .rechecking billed holds ?_ ?_
      · rw [undisturbed.opened holds.environment, environmentRead]
      · rw [undisturbed.opened holds.user, userRead]
  | reserving billed holds undenied =>
      refine .reserving billed holds ?_
      rw [undisturbed.denial holds, undenied]
  | inserting funded => exact .inserting (funded.undisturbed undisturbed)
  | prepared funded locked known valid unused =>
      refine .prepared (funded.undisturbed undisturbed) locked ?_ valid
        (undisturbed.unused _ locked unused)
      rw [undisturbed.users]
      exact known
  | duplicateAtOnce found digest =>
      obtain ⟨row, still, terms⟩ := undisturbed.terms _ _ found
      refine .duplicateAtOnce still ?_
      rw [terms]
      exact digest
  | duplicateUnderLocks billed holds found digest =>
      obtain ⟨row, still, terms⟩ := undisturbed.terms _ _ found
      refine .duplicateUnderLocks billed holds still ?_
      rw [terms]
      exact digest
  | failing fails => exact .failing (fails.undisturbed undisturbed)

end Others

section Execution

variable {db : ModelDatabase} {call : PrepareCall}
  {locks : List PrepareLock} {phase : PreparePhase}
  {writes : ModelDatabase → ModelDatabase}

theorem Opened.mono {locks' : List PrepareLock} {key : BudgetAccountKey}
    (opened : Opened db locks key)
    (grown : ∀ lock ∈ locks, lock ∈ locks') : Opened db locks' key :=
  opened.imp_right (grown _)

/-- A call finds in its view only accounts that it has opened or that are
stored. -/
private theorem hasAccount_opened {key : BudgetAccountKey}
    {opening : BudgetAccountKey} {ceiling : Nat}
    (opened : Opened db locks opening)
    (present : (db.openAccount opening ceiling).HasAccount key) :
    Opened db locks key := by
  rcases hasAccount_openAccount.mp present with rfl | before
  · exact opened
  · exact .inl before

theorem reservingWrites_keeps (input : PrepareModelOperationStoreInput)
    (clock : DatabaseClock) (db : ModelDatabase) :
    (reservingWrites input clock db).operations = db.operations ∧
      (reservingWrites input clock db).users = db.users := by
  unfold reservingWrites
  split
  · cases charged : (db.openAccounts input clock).chargeAccounts
      (input.charge clock) input.reservedCostMicroUsd with
    | none => exact ⟨rfl, rfl⟩
    | some reserved =>
        cases ModelDatabase.chargeAccounts_eq_some charged
        exact ⟨rfl, rfl⟩
  · exact ⟨rfl, rfl⟩

private theorem CallMoves.look {fresh : PreparePhase} {view : ModelDatabase}
    (operations : view.operations = db.operations)
    (duplicate : ∀ row,
      db.operations.find? call.input.operationId = some row →
      row.inputDigest = call.input.inputDigest →
      CallMoves db call locks
        (.committing (.duplicate call.input.operationId)) writes)
    (unmet : CallMoves db call locks fresh writes) :
    CallMoves db call locks
      (PreparePhase.afterLook fresh (view.duplicatePrepare call.input))
      writes := by
  unfold ModelDatabase.duplicatePrepare
  rw [operations]
  cases found : db.operations.find? call.input.operationId with
  | none => exact unmet
  | some row =>
      simp only
      split
      · rename_i different
        exact .failing (.conflicting found different)
      · rename_i same
        exact duplicate row found (by simpa using same)

private theorem CallMoves.check :
    CallMoves db call locks
      (PreparePhase.afterLook (.afterCheck call.input)
        (db.duplicatePrepare call.input)) id := by
  refine .look rfl (fun row found same => .duplicateAtOnce found same) ?_
  unfold PreparePhase.afterCheck
  split
  · rename_i billed
    exact .insertingEnvironment billed
  · rename_i unbilled
    have same : reservingWrites call.input call.clock = id := by
      funext rows
      exact if_neg unbilled
    rw [← same]
    exact .inserting (fun billed => (unbilled billed).elim)

private theorem CallMoves.recheck
    {environmentBudget userBudget : Option BudgetAccountRow}
    (billed : 0 < call.input.reservedCostMicroUsd)
    (holds : HoldsAccounts call locks)
    (environmentRead : (call.opened db).accounts.find?
      call.charge.environmentAccount = environmentBudget)
    (userRead : (call.opened db).accounts.find? call.charge.userAccount =
      userBudget) :
    CallMoves db call locks
      (PreparePhase.afterLook
        (.afterBudgets call.input call.charge environmentBudget userBudget)
        ((call.opened db).duplicatePrepare call.input)) call.opened := by
  have denial : call.denial db = reservationDenial call.charge
      call.input.reservedCostMicroUsd environmentBudget userBudget := by
    rw [PrepareCall.denial, environmentRead, userRead]
  refine .look rfl (fun row found same =>
    .duplicateUnderLocks billed holds found same) ?_
  unfold PreparePhase.afterBudgets
  rw [← denial]
  cases denied : call.denial db with
  | none => exact .reserving billed holds denied
  | some failure => exact .failing (.denied billed holds denied)

private theorem CallMoves.lockUser
    {environmentBudget : Option BudgetAccountRow}
    (billed : 0 < call.input.reservedCostMicroUsd)
    (holds : HoldsAccounts call locks)
    (read : (call.opened db).accounts.find?
      call.charge.environmentAccount = environmentBudget) :
    CallMoves db call locks
      (PreparePhase.afterLocks environmentBudget
        ((call.opened db).accounts.find? call.charge.userAccount))
      call.opened := by
  have environment := @openAccounts_isSome db call.input call.clock _
    (BudgetCharge.covers_environmentAccount call.charge)
  have user := @openAccounts_isSome db call.input call.clock _
    (BudgetCharge.covers_userAccount call.charge)
  obtain ⟨environmentRow, environmentFound⟩ :=
    Option.isSome_iff_exists.mp environment
  obtain ⟨userRow, userFound⟩ := Option.isSome_iff_exists.mp user
  have same : environmentBudget = some environmentRow :=
    read.symm.trans environmentFound
  have found : (call.opened db).accounts.find? call.charge.userAccount =
      some userRow := userFound
  rw [found, same]
  rw [same] at read
  exact .rechecking billed holds read found

private theorem CallMoves.reserve
    (billed : 0 < call.input.reservedCostMicroUsd)
    (holds : HoldsAccounts call locks)
    (undenied : call.denial db = none) :
    CallMoves db call locks
      (PreparePhase.afterWrite .inserting
        ((call.opened db).chargeAccounts call.charge
          call.input.reservedCostMicroUsd))
      (fun rows => ((call.opened rows).chargeAccounts call.charge
        call.input.reservedCostMicroUsd).getD (call.opened rows)) := by
  unfold PreparePhase.afterWrite
  split
  · rename_i charged
    have same : (fun rows => ((call.opened rows).chargeAccounts call.charge
        call.input.reservedCostMicroUsd).getD (call.opened rows)) =
        reservingWrites call.input call.clock := by
      funext rows
      exact (if_pos billed).symm
    rw [same]
    exact .inserting (fun _ => ⟨holds, undenied, charged⟩)
  · rename_i uncharged
    exact .failing (.uncharged billed holds undenied (by
      simpa [PrepareCall.charges] using uncharged))

private theorem CallMoves.insert (funded : IsFunded db call locks)
    (locked : .operation call.input.operationId ∈ locks) :
    CallMoves db call locks
      (PreparePhase.afterWrite
        (.committing (.prepared call.input.operationId))
        ((reservingWrites call.input call.clock db).insertOperation
          call.input.operationId (call.input.preparedRow call.clock)))
      (insertingWrites call.input call.clock) := by
  obtain ⟨operations, users⟩ :=
    reservingWrites_keeps call.input call.clock db
  cases inserted : (reservingWrites call.input call.clock db).insertOperation
    call.input.operationId (call.input.preparedRow call.clock) with
  | some written =>
      obtain ⟨known, fresh, _⟩ :=
        ModelDatabase.insertOperation_eq_some inserted
      refine .prepared funded locked ?_
        (ModelDatabase.insertOperation_checks inserted).2 ?_
      · rw [← users]
        exact known
      · rw [← operations]
        exact Table.find?_eq_none_iff.mpr fresh
  | none =>
      refine .failing (.uninserted funded ?_)
      by_contra holds
      simp only [not_or, not_not, Bool.not_eq_false, not_exists] at holds
      obtain ⟨known, valid, unused⟩ := holds
      have fresh : call.input.operationId ∉
          (reservingWrites call.input call.clock db).operations.rows.map
            Prod.fst := by
        apply Table.find?_eq_none_iff.mp
        rw [operations]
        exact Option.eq_none_iff_forall_ne_some.mpr unused
      rw [← users] at known
      rw [insertOperation_isSome known valid fresh] at inserted
      cases inserted

/-- A statement keeps what is known of its call. -/
theorem CallMoves.execute {lock : ModelDatabase → Option PrepareLock}
    {write : ModelDatabase → ModelDatabase}
    {next : ModelDatabase → PreparePhase}
    (moves : CallMoves db call locks phase writes)
    (instruction : prepareInstruction call.input call.clock phase =
      .statement lock write next) :
    CallMoves db call ((lock (writes db)).toList ++ locks)
      (next (writes db)) (fun rows => write (writes rows)) := by
  cases moves with
  | checking =>
      cases instruction
      exact .check
  | insertingEnvironment billed =>
      cases instruction
      exact .insertingUser billed (opened_openLock fun _ => .inl)
  | insertingUser billed environment =>
      cases instruction
      refine .lockingEnvironment billed
        (environment.mono fun _ => List.mem_append_right _) ?_
      apply opened_openLock
      intro other present
      exact hasAccount_opened environment present
  | lockingEnvironment billed environment user =>
      cases instruction
      exact .lockingUser billed
        (List.mem_append_left _ (Option.mem_toList.mpr rfl))
        (user.mono fun _ => List.mem_append_right _) rfl
  | lockingUser billed locked user read =>
      cases instruction
      exact .lockUser billed
        ⟨List.mem_append_right _ locked,
          List.mem_append_left _ (Option.mem_toList.mpr rfl)⟩ read
  | rechecking billed holds environmentRead userRead =>
      cases instruction
      exact .recheck billed holds environmentRead userRead
  | reserving billed holds undenied =>
      cases instruction
      exact .reserve billed holds undenied
  | inserting funded =>
      cases instruction
      refine .insert ?_ (List.mem_append_left _ (Option.mem_toList.mpr rfl))
      intro billed
      obtain ⟨⟨environment, user⟩, undenied, charges⟩ := funded billed
      exact ⟨⟨List.mem_append_right _ environment,
        List.mem_append_right _ user⟩, undenied, charges⟩
  | prepared | duplicateAtOnce | duplicateUnderLocks | failing =>
      cases instruction

end Execution

section Whole

variable {db : ModelDatabase} {call : PrepareCall}
  {locks : List PrepareLock} {failure : ModelStoreFailure}

open ModelDatabase

private theorem prepare_of_billed
    (unused : db.operations.find? call.input.operationId = none)
    (billed : 0 < call.input.reservedCostMicroUsd) :
    db.prepare call.clock call.input =
      (call.denial db).elim
          (require (.persistenceUnavailable .prepare)
            ((call.opened db).chargeAccounts call.charge
              call.input.reservedCostMicroUsd)) .error >>=
        fun reserved => reserved.insertPrepared call.clock call.input := by
  have looked : db.duplicatePrepare call.input = none :=
    duplicatePrepare_of_unused unused
  have lookedAgain : (call.opened db).duplicatePrepare call.input = none :=
    looked
  obtain ⟨environmentRow, environmentStored⟩ := Option.isSome_iff_exists.mp
    (@openAccounts_isSome db call.input call.clock _
      (BudgetCharge.covers_environmentAccount call.charge))
  obtain ⟨userRow, userStored⟩ := Option.isSome_iff_exists.mp
    (@openAccounts_isSome db call.input call.clock _
      (BudgetCharge.covers_userAccount call.charge))
  have environmentFound : (call.opened db).accounts.find?
      call.charge.environmentAccount = some environmentRow :=
    environmentStored
  have userFound : (call.opened db).accounts.find? call.charge.userAccount =
      some userRow := userStored
  have denial : call.denial db = reservationDenial call.charge
      call.input.reservedCostMicroUsd (some environmentRow)
        (some userRow) := by
    rw [PrepareCall.denial, environmentFound, userFound]
  rw [denial, ← reserveBudget_eq environmentFound userFound]
  have present : (((call.opened db).accounts.find?
      call.charge.environmentAccount).isNone ||
        ((call.opened db).accounts.find?
          call.charge.userAccount).isNone) = false := by
    rw [environmentFound, userFound]
    rfl
  unfold prepare
  rw [looked]
  simp only [if_pos billed]
  rw [if_neg]
  swap
  · exact fun missing => Bool.false_ne_true (present.symm.trans missing)
  generalize duplicate : duplicatePrepare call.input _ = answer
  have unanswered : answer = none := duplicate.symm.trans lookedAgain
  rw [unanswered]
  rfl

private theorem prepare_of_funded (funded : IsFunded db call locks)
    (unused : db.operations.find? call.input.operationId = none) :
    db.prepare call.clock call.input =
      (reservingWrites call.input call.clock db).insertPrepared call.clock
        call.input := by
  by_cases billed : 0 < call.input.reservedCostMicroUsd
  · obtain ⟨_, undenied, charges⟩ := funded billed
    obtain ⟨reserved, charged⟩ := Option.isSome_iff_exists.mp charges
    have statement : (db.openAccounts call.input call.clock).chargeAccounts
        (call.input.charge call.clock) call.input.reservedCostMicroUsd =
          some reserved := charged
    have writes : reservingWrites call.input call.clock db = reserved := by
      unfold reservingWrites
      rw [if_pos billed, statement]
      rfl
    rw [prepare_of_billed unused billed, undenied, charged, writes]
    rfl
  · have writes : reservingWrites call.input call.clock db = db :=
      if_neg billed
    unfold prepare
    rw [duplicatePrepare_of_unused unused, if_neg billed, writes]

theorem CallFails.allows (fails : CallFails db call locks failure) :
    PrepareAllows call db (.error failure) db := by
  have whole : db.prepare call.clock call.input = .error failure →
      PrepareAllows call db (.error failure) db := by
    intro failed
    apply PrepareAllows.whole
    simp [withTransaction, failed]
  cases fails with
  | conflicting found different =>
      apply whole
      have looked : db.duplicatePrepare call.input =
          some (.error (.inputConflict call.input.operationId)) := by
        simp [duplicatePrepare, found, different]
      unfold prepare
      rw [looked]
      rfl
  | denied billed holds denied =>
      cases stored : db.operations.find? call.input.operationId with
      | some row => exact .refused stored (.inr ⟨billed, denied⟩)
      | none =>
          apply whole
          rw [prepare_of_billed stored billed, denied]
          rfl
  | uncharged billed holds undenied uncharged =>
      cases stored : db.operations.find? call.input.operationId with
      | some row => exact .refused stored (.inl rfl)
      | none =>
          apply whole
          have nothing : (call.opened db).chargeAccounts call.charge
              call.input.reservedCostMicroUsd = none := by
            simpa [PrepareCall.charges] using uncharged
          rw [prepare_of_billed stored billed, undenied, nothing]
          rfl
  | uninserted funded violates =>
      cases stored : db.operations.find? call.input.operationId with
      | some row => exact .refused stored (.inl rfl)
      | none =>
          apply whole
          rw [prepare_of_funded funded stored]
          have refused : (reservingWrites call.input call.clock
              db).insertOperation call.input.operationId
                (call.input.preparedRow call.clock) = none := by
            by_contra written
            obtain ⟨written, inserted⟩ :=
              Option.ne_none_iff_exists'.mp written
            obtain ⟨known, valid⟩ :=
              ModelDatabase.insertOperation_checks inserted
            rw [(reservingWrites_keeps call.input call.clock db).2] at known
            rcases violates with unknown | invalid | ⟨row, found⟩
            · exact unknown known
            · rw [valid] at invalid
              cases invalid
            · rw [stored] at found
              cases found
          unfold insertPrepared
          rw [refused]
          rfl

private theorem insertingWrites_eq (funded : IsFunded db call locks)
    (known : call.input.userId ∈ db.users)
    (valid : (call.input.preparedRow call.clock).accepted = true)
    (unused : db.operations.find? call.input.operationId = none) :
    ∃ fresh,
      insertingWrites call.input call.clock db =
        { reservingWrites call.input call.clock db with
          operations :=
            (reservingWrites call.input call.clock db).operations.push
              call.input.operationId (call.input.preparedRow call.clock)
              fresh } ∧
      db.prepare call.clock call.input = .ok
        (.prepared call.input.operationId,
          insertingWrites call.input call.clock db) := by
  obtain ⟨operations, users⟩ :=
    reservingWrites_keeps call.input call.clock db
  have fresh : call.input.operationId ∉
      (reservingWrites call.input call.clock db).operations.rows.map
        Prod.fst := by
    apply Table.find?_eq_none_iff.mp
    rw [operations]
    exact unused
  rw [← users] at known
  have inserted := insertOperation_isSome known valid fresh
  refine ⟨fresh, ?_, ?_⟩
  · unfold insertingWrites
    rw [inserted]
    rfl
  · rw [prepare_of_funded funded unused, insertPrepared, insertingWrites,
      inserted]
    rfl

end Whole

section Commits

variable {db : ModelDatabase} {call : PrepareCall}
  {locks held : List PrepareLock} {outcome : PrepareModelOperationOutcome}
  {writes : ModelDatabase → ModelDatabase}

theorem undisturbed_of_eq {db' : ModelDatabase}
    (users : db'.users = db.users)
    (operations : db'.operations = db.operations)
    (accounts : ∀ key, .account key ∈ held →
      db'.accounts.find? key = db.accounts.find? key)
    (kept : ∀ key, db.HasAccount key → db'.HasAccount key) :
    Undisturbed held db db' where
  users := users
  terms := (commitsOperations_of_eq none users operations).terms
  unused := by
    intro operationId _ absent
    rw [operations]
    exact absent
  accounts := accounts
  kept := kept

private theorem find?_opened_of_ne {key : BudgetAccountKey}
    (environment : key ≠ call.charge.environmentAccount)
    (user : key ≠ call.charge.userAccount) :
    (call.opened db).accounts.find? key = db.accounts.find? key := by
  unfold PrepareCall.charge at environment user
  unfold PrepareCall.opened ModelDatabase.openAccounts
  rw [ModelDatabase.find?_openAccount, if_neg user,
    ModelDatabase.find?_openAccount, if_neg environment]

private theorem kept_opened {key : BudgetAccountKey}
    (present : db.HasAccount key) : (call.opened db).HasAccount key :=
  hasAccount_openAccount.mpr (.inr
    (hasAccount_openAccount.mpr (.inr present)))

private theorem not_covered {key : BudgetAccountKey}
    (holds : HoldsAccounts call locks)
    (apart : ∀ lock ∈ held, lock ∉ locks) (other : .account key ∈ held) :
    call.charge.covers key = false := by
  cases covered : call.charge.covers key with
  | false => rfl
  | true => exact (apart _ other (holds.covers covered)).elim

private theorem opened_undisturbed (holds : HoldsAccounts call locks)
    (apart : ∀ lock ∈ held, lock ∉ locks) :
    Undisturbed held db (call.opened db) := by
  refine undisturbed_of_eq rfl rfl ?_ (fun _ => kept_opened)
  intro key other
  have uncovered := not_covered holds apart other
  apply find?_opened_of_ne
  · rintro rfl
    simp at uncovered
  · rintro rfl
    simp at uncovered

private theorem reservingWrites_undisturbed
    (funded : IsFunded db call locks)
    (apart : ∀ lock ∈ held, lock ∉ locks) :
    Undisturbed held db (reservingWrites call.input call.clock db) := by
  obtain ⟨operations, users⟩ :=
    reservingWrites_keeps call.input call.clock db
  by_cases billed : 0 < call.input.reservedCostMicroUsd
  · obtain ⟨holds, _, charges⟩ := funded billed
    obtain ⟨reserved, charged⟩ := Option.isSome_iff_exists.mp charges
    have statement : (db.openAccounts call.input call.clock).chargeAccounts
        (call.input.charge call.clock) call.input.reservedCostMicroUsd =
          some reserved := charged
    have writes : reservingWrites call.input call.clock db =
        (call.opened db).reserve call.charge
          call.input.reservedCostMicroUsd := by
      unfold reservingWrites
      rw [if_pos billed, statement]
      exact ModelDatabase.chargeAccounts_eq_some charged
    refine undisturbed_of_eq users operations ?_ ?_
    · intro key other
      have uncovered := not_covered holds apart other
      have different : key ≠ call.charge.environmentAccount := by
        rintro rfl
        simp at uncovered
      have opened : (call.opened db).accounts.find? key =
          db.accounts.find? key :=
        (opened_undisturbed holds apart).accounts key other
      rw [writes, ModelDatabase.find?_reserve, opened]
      cases db.accounts.find? key with
      | none => rfl
      | some account =>
          simp [ModelDatabase.reservedAccount, uncovered, different]
    · intro key present
      have opened : (call.opened db).HasAccount key := kept_opened present
      rw [writes, ModelDatabase.HasAccount, ModelDatabase.find?_reserve,
        Option.isSome_map]
      exact opened
  · have writes : reservingWrites call.input call.clock db = db :=
      if_neg billed
    rw [writes]
    exact undisturbed_of_eq rfl rfl (fun _ _ => rfl) (fun _ present => present)

theorem CallMoves.commit
    (moves : CallMoves db call locks (.committing outcome) writes)
    (apart : ∀ lock ∈ held, lock ∉ locks) :
    Undisturbed held db (writes db) := by
  cases moves with
  | duplicateAtOnce =>
      exact undisturbed_of_eq rfl rfl (fun _ _ => rfl)
        (fun _ present => present)
  | duplicateUnderLocks billed holds =>
      exact opened_undisturbed holds apart
  | prepared funded locked known valid unused =>
      have reserved := reservingWrites_undisturbed funded apart
      obtain ⟨operations, _⟩ :=
        reservingWrites_keeps call.input call.clock db
      obtain ⟨fresh, inserted, _⟩ :=
        insertingWrites_eq funded known valid unused
      rw [inserted]
      refine ⟨reserved.users, ?_, ?_, reserved.accounts, reserved.kept⟩
      · intro other row found
        rw [← operations] at found
        exact ⟨row, Table.find?_push_of_some fresh found, rfl⟩
      · intro other holding absent
        rw [Table.find?_push, if_neg, operations]
        · exact absent
        · rintro rfl
          exact apart _ holding locked

theorem CallMoves.allows
    (moves : CallMoves db call locks (.committing outcome) writes) :
    PrepareAllows call db (.ok outcome) (writes db) := by
  cases moves with
  | duplicateAtOnce found same =>
      apply PrepareAllows.whole
      have looked : db.duplicatePrepare call.input =
          some (.ok (.duplicate call.input.operationId)) := by
        simp [ModelDatabase.duplicatePrepare, found, same]
      unfold withTransaction ModelDatabase.prepare
      rw [looked]
      rfl
  | duplicateUnderLocks billed _ found same =>
      exact .duplicate billed found same
  | prepared funded _ known valid unused =>
      obtain ⟨_, _, prepared⟩ := insertingWrites_eq funded known valid unused
      apply PrepareAllows.whole
      simp [withTransaction, prepared]

end Commits

section Runs

/-- What is known of a running call. -/
def RequestMoves (db : ModelDatabase) (transaction : RequestTransaction) :
    Prop :=
  CallMoves db transaction.parameter transaction.locks transaction.phase
    transaction.writes

theorem requestProgram_maintains : requestProgram.Maintains RequestMoves where
  starts := fun _ _ => .checking
  keeps := fun moves instruction => CallMoves.execute moves instruction
  survives := by
    intro db ending transaction answer ended instruction moves apart
    obtain ⟨call, phase, writes, locks⟩ := ending
    cases phase with
    | committing outcome => exact moves.undisturbed (ended.commit apart)
    | _ => cases instruction

theorem requestProgram_endsAllowed :
    EndsAllowed requestProgram PrepareAllows RequestMoves where
  committed := by
    intro db transaction answer moves instruction
    obtain ⟨call, phase, writes, locks⟩ := transaction
    cases phase with
    | committing outcome =>
        cases instruction
        exact moves.allows
    | _ => cases instruction
  rolledBack := by
    intro db transaction answer moves instruction
    obtain ⟨call, phase, writes, locks⟩ := transaction
    cases phase with
    | failing failure =>
        cases instruction
        cases moves with
        | failing fails => exact fails.allows
    | _ => cases instruction

/-- In every interleaving of their statements, any calls of `prepare` with any
requests and clocks leave the rows, and give the answers, of the calls one
after the other in the order in which they end. -/
theorem prepare_serialized {rows : ModelDatabase}
    {actions : List (SessionAction PrepareCall)} {state : PrepareRequests}
    (ran : (requestProgram.system (fun _ => True)).run { committed := rows }
      actions = some state) :
    Serialized requestProgram PrepareAllows rows actions state :=
  requestProgram_maintains.serialized requestProgram_endsAllowed trivial ran

/-- Two users ask for one identifier, and the second one finds it taken only
under its locks. -/
def lateDuplicateRun : List (SessionAction PrepareCall) :=
  [.start 0 (sampleCall sampleUser 0), .start 1 (sampleCall otherUser 5),
    .step 0, .step 1] ++
    List.replicate 8 (.step 0) ++ List.replicate 6 (.step 1)

def answersDuplicate (session : SessionId) (state : PrepareRequests) : Bool :=
  match state.sessions.find? session with
  | some (.ended (.ok (.duplicate operationId))) =>
      operationId = sampleOperation
  | _ => false

theorem prepare_serialized_late_duplicate :
    ∃ state, answersDuplicate 1 state = true ∧
      Serialized requestProgram PrepareAllows requestsStart.committed
        lateDuplicateRun state := by
  have ran : ((requestProgram.system (fun _ => True)).run requestsStart
      lateDuplicateRun).any (answersDuplicate 1) = true := by
    decide +kernel
  obtain ⟨state, ran, answered⟩ := (Option.any_eq_true _ _).mp ran
  exact ⟨state, answered, prepare_serialized ran⟩

end Runs

section Operations

variable {call : PrepareCall} {db db' : ModelDatabase}
  {answer : PrepareAnswer} {rows last : ModelDatabase}
  {endings : List (Ending PrepareCall PrepareAnswer)}
  {operationId : ModelOperationId}

/-- A call inserts its operation under an unused identifier and says so, or
leaves all operations as they are. -/
theorem PrepareAllows.operations (allowed : PrepareAllows call db answer db') :
    (answer = .ok (.prepared call.input.operationId) ∧
        ∃ fresh, db'.operations = db.operations.push call.input.operationId
          (call.input.preparedRow call.clock) fresh) ∨
      (∀ operationId, answer ≠ .ok (.prepared operationId)) ∧
        db'.operations = db.operations := by
  cases allowed with
  | duplicate | refused => exact .inr ⟨by simp, rfl⟩
  | whole ran =>
      rcases withTransaction_cases
        (ModelDatabase.prepare call.clock call.input) db with
        ⟨failure, _, rolledBack⟩ | ⟨outcome, committed, prepared, done⟩
      · rw [rolledBack] at ran
        cases ran
        exact .inr ⟨by simp, rfl⟩
      · rw [done] at ran
        cases ran
        cases ModelDatabase.prepare_eq_ok prepared with
        | duplicate => exact .inr ⟨by simp, rfl⟩
        | @prepared reserved fresh reserves =>
            have fresh' : call.input.operationId ∉
                db.operations.rows.map Prod.fst := by
              rw [← reserves.operations]
              exact fresh
            refine .inl ⟨rfl, fresh', ?_⟩
            simp only [reserves.operations]

theorem PrepareAllows.duplicates
    (allowed : PrepareAllows call db (.ok (.duplicate operationId)) db') :
    (db.operations.find? operationId).isSome = true := by
  cases allowed with
  | duplicate _ found =>
      rw [found]
      rfl
  | whole ran =>
      rcases withTransaction_cases
        (ModelDatabase.prepare call.clock call.input) db with
        ⟨failure, _, rolledBack⟩ | ⟨outcome, committed, prepared, done⟩
      · rw [rolledBack] at ran
        cases ran
      · rw [done] at ran
        cases ran
        cases ModelDatabase.prepare_eq_ok prepared with
        | duplicate found =>
            rw [found]
            rfl

/-- Not both calls have prepared one identifier. -/
def PreparedApart (earlier later : Ending PrepareCall PrepareAnswer) : Prop :=
  ∀ operationId, earlier.outcome = .ok (.prepared operationId) →
    later.outcome ≠ .ok (.prepared operationId)

instance : Std.Symm PreparedApart where
  symm := fun _ _ apart operationId again outcome =>
    apart operationId outcome again

/-- What calls made one after the other do to the operations. -/
structure PreparedInTurn (rows : ModelDatabase)
    (endings : List (Ending PrepareCall PrepareAnswer))
    (last : ModelDatabase) : Prop where
  kept : ∀ operationId row, rows.operations.find? operationId = some row →
    last.operations.find? operationId = some row
  stored : ∀ ending ∈ endings, ∀ operationId,
    ending.outcome = .ok (.prepared operationId) →
    operationId = ending.parameter.input.operationId ∧
      rows.operations.find? operationId = none ∧
      last.operations.find? operationId =
        some (ending.parameter.input.preparedRow ending.parameter.clock)
  prepared : ∀ operationId,
    (last.operations.find? operationId).isSome = true →
    (rows.operations.find? operationId).isSome = true ∨
      ∃ ending ∈ endings, ending.outcome = .ok (.prepared operationId)
  once : endings.Pairwise PreparedApart
  duplicated : ∀ ending ∈ endings, ∀ operationId,
    ending.outcome = .ok (.duplicate operationId) →
    (last.operations.find? operationId).isSome = true

theorem PreparedInTurn.start (rows : ModelDatabase) :
    PreparedInTurn rows [] rows where
  kept := fun _ _ found => found
  stored := fun _ member => by cases member
  prepared := fun _ present => .inl present
  once := .nil
  duplicated := fun _ member => by cases member

private theorem isSome_of_kept
    (kept : ∀ operationId row,
      db.operations.find? operationId = some row →
      db'.operations.find? operationId = some row)
    (present : (db.operations.find? operationId).isSome = true) :
    (db'.operations.find? operationId).isSome = true := by
  obtain ⟨row, found⟩ := Option.isSome_iff_exists.mp present
  rw [kept operationId row found]
  rfl

theorem PreparedInTurn.end {ending : Ending PrepareCall PrepareAnswer}
    (inTurn : PreparedInTurn rows endings db)
    (allowed : PrepareAllows ending.parameter db ending.outcome db') :
    PreparedInTurn rows (endings ++ [ending]) db' := by
  have keeps : ∀ operationId row,
      db.operations.find? operationId = some row →
      db'.operations.find? operationId = some row := by
    intro operationId row found
    rcases allowed.operations with ⟨_, fresh, pushed⟩ | ⟨_, same⟩
    · rw [pushed]
      exact Table.find?_push_of_some fresh found
    · rw [same]
      exact found
  refine ⟨fun _ _ found => keeps _ _ (inTurn.kept _ _ found), ?_, ?_, ?_, ?_⟩
  · intro other member operationId outcome
    rcases List.mem_append.mp member with earlier | new
    · obtain ⟨same, absent, found⟩ :=
        inTurn.stored other earlier operationId outcome
      exact ⟨same, absent, keeps _ _ found⟩
    · cases List.mem_singleton.mp new
      rcases allowed.operations with ⟨answered, fresh, pushed⟩ | ⟨never, _⟩
      · rw [answered] at outcome
        cases outcome
        refine ⟨rfl, ?_, ?_⟩
        · have absent := Table.find?_eq_none_iff.mpr fresh
          refine Option.eq_none_iff_forall_ne_some.mpr ?_
          intro row found
          rw [inTurn.kept _ row found] at absent
          cases absent
        · rw [pushed]
          exact Table.find?_push_self _ _ fresh
      · exact (never operationId outcome).elim
  · intro operationId present
    rcases allowed.operations with ⟨answered, fresh, pushed⟩ | ⟨_, same⟩
    · by_cases own : operationId = ending.parameter.input.operationId
      · subst own
        exact .inr ⟨ending, by simp, answered⟩
      · rw [pushed, Table.find?_push, if_neg own] at present
        exact (inTurn.prepared operationId present).imp_right
          fun ⟨other, member, outcome⟩ =>
            ⟨other, List.mem_append_left _ member, outcome⟩
    · rw [same] at present
      exact (inTurn.prepared operationId present).imp_right
        fun ⟨other, member, outcome⟩ =>
          ⟨other, List.mem_append_left _ member, outcome⟩
  · refine List.pairwise_append.mpr ⟨inTurn.once, List.pairwise_singleton _ _,
      ?_⟩
    intro earlier member later new operationId outcome again
    cases List.mem_singleton.mp new
    obtain ⟨_, _, found⟩ := inTurn.stored earlier member operationId outcome
    rcases allowed.operations with ⟨answered, fresh, _⟩ | ⟨never, _⟩
    · rw [answered] at again
      cases again
      rw [Table.find?_eq_none_iff.mpr fresh] at found
      cases found
    · exact never operationId again
  · intro other member operationId outcome
    rcases List.mem_append.mp member with earlier | new
    · exact isSome_of_kept keeps
        (inTurn.duplicated other earlier operationId outcome)
    · cases List.mem_singleton.mp new
      rw [outcome] at allowed
      exact isSome_of_kept keeps allowed.duplicates

theorem preparedInTurn_of_serial
    (serial : Serial PrepareAllows rows endings last) :
    PreparedInTurn rows endings last := by
  induction serial with
  | start => exact .start rows
  | ended _ allowed inTurn => exact inTurn.end allowed

/-- In every interleaving, an identifier that was unused at the start is
stored exactly if one call, and only one, has answered that it prepared it;
the stored row is the row of that call, and a duplicate is only reported of a
stored operation. -/
theorem operation_prepared_by_one_call
    {actions : List (SessionAction PrepareCall)} {state : PrepareRequests}
    (ran : (requestProgram.system (fun _ => True)).run { committed := rows }
      actions = some state)
    (absent : rows.operations.find? operationId = none) :
    ((state.committed.operations.find? operationId).isSome = true ↔
      ∃ session, state.sessions.find? session =
        some (.ended (.ok (.prepared operationId)))) ∧
    (∀ session other,
      state.sessions.find? session =
        some (.ended (.ok (.prepared operationId))) →
      state.sessions.find? other =
        some (.ended (.ok (.prepared operationId))) →
      other = session) ∧
    (∀ session, state.sessions.find? session =
        some (.ended (.ok (.prepared operationId))) →
      ∃ call, .start session call ∈ actions ∧
        operationId = call.input.operationId ∧
        state.committed.operations.find? operationId =
          some (call.input.preparedRow call.clock)) ∧
    ∀ session, state.sessions.find? session =
        some (.ended (.ok (.duplicate operationId))) →
      (state.committed.operations.find? operationId).isSome = true := by
  obtain ⟨serial, recorded⟩ :=
    requestProgram_maintains.serialized requestProgram_endsAllowed trivial ran
  have inTurn := preparedInTurn_of_serial serial
  refine ⟨⟨?_, ?_⟩, ?_, ?_, ?_⟩
  · intro present
    rcases inTurn.prepared operationId present with
      earlier | ⟨ending, member, outcome⟩
    · rw [absent] at earlier
      cases earlier
    · refine ⟨ending.session, ?_⟩
      rw [← outcome]
      exact recorded.present ending member
  · rintro ⟨session, found⟩
    obtain ⟨call, member, _⟩ := recorded.ended session _ found
    obtain ⟨_, _, stored⟩ := inTurn.stored _ member operationId rfl
    rw [stored]
    rfl
  · intro session other found again
    obtain ⟨call, member, _⟩ := recorded.ended session _ found
    obtain ⟨otherCall, otherMember, _⟩ := recorded.ended other _ again
    by_contra different
    have apart := inTurn.once.forall member otherMember (by
      rintro same
      cases same
      exact different rfl)
    exact apart operationId rfl rfl
  · intro session found
    obtain ⟨call, member, started⟩ := recorded.ended session _ found
    obtain ⟨same, _, stored⟩ := inTurn.stored _ member operationId rfl
    exact ⟨call, started, same, stored⟩
  · intro session found
    obtain ⟨call, member, _⟩ := recorded.ended session _ found
    exact inTurn.duplicated _ member operationId rfl

theorem operation_prepared_by_one_call_late_duplicate :
    ∃ state, answersDuplicate 1 state = true ∧
      (state.committed.operations.find? sampleOperation).isSome = true ∧
      ∃ session, state.sessions.find? session =
        some (.ended (.ok (.prepared sampleOperation))) := by
  have ran : ((requestProgram.system (fun _ => True)).run requestsStart
      lateDuplicateRun).any (fun state => answersDuplicate 1 state &&
        (state.committed.operations.find? sampleOperation).isSome) =
          true := by
    decide +kernel
  obtain ⟨state, ran, passed⟩ := (Option.any_eq_true _ _).mp ran
  rw [Bool.and_eq_true] at passed
  exact ⟨state, passed.1, passed.2,
    (operation_prepared_by_one_call ran rfl).1.mp passed.2⟩

end Operations

end XpensGo
