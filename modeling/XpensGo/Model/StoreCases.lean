import XpensGo.Model.Store

/-!
# What a committed store transaction can do

`ReservationEffect`, `PrepareEffect`, `RestartEffect`, `ClaimEffect` and
`CompleteEffect` list the committed outcomes of the store, each with the
conditions under which it is taken and with the tables it leaves.  The tables
are written with unconstrained updates, since a committed statement violated no
constraint.
-/

namespace XpensGo

open EcmaScript Postgres Relational

section EffectiveCompletion

variable {row : ModelOperationRow} {clock : DatabaseClock}
  {completion : ModelOperationCompletion}

@[simp] theorem effectiveCompletion_disposition :
    (row.effectiveCompletion clock completion).disposition =
      completion.disposition := by
  unfold ModelOperationRow.effectiveCompletion
  split <;> rfl

@[simp] theorem effectiveCompletion_observedFailure :
    (row.effectiveCompletion clock completion).observedFailure =
      completion.observedFailure := by
  unfold ModelOperationRow.effectiveCompletion
  split <;> rfl

/-- A retry is scheduled only if it was asked for and starts before the
deadline. -/
theorem effectiveCompletion_schedules {delay : Int}
    (scheduled : (row.effectiveCompletion clock completion).retryPlan =
      .scheduleTransientRateLimit delay) :
    ∃ asked, completion.retryPlan = .scheduleTransientRateLimit asked ∧
      delay = max 1000 asked ∧
        clock.currentTimestamp.getTime + delay ≤ row.deadlineAt.getTime := by
  unfold ModelOperationRow.effectiveCompletion at scheduled
  split at scheduled
  · rename_i unplanned
    rw [unplanned] at scheduled
    cases scheduled
  · rename_i asked planned
    dsimp only at scheduled
    split at scheduled
    · rename_i fits
      cases scheduled
      exact ⟨asked, planned, rfl, fits⟩
    · cases scheduled

end EffectiveCompletion

section AcceptedRows

variable {row : ModelOperationRow}

theorem ModelOperationRow.accepted_iff :
    row.accepted = true ↔ row.storable = true ∧ row.check = true := by
  simp [ModelOperationRow.accepted]

theorem ModelOperationRow.terminalComplete_of_check
    (check : row.check = true) : row.terminalComplete = true := by
  simp only [ModelOperationRow.check, Bool.and_eq_true] at check
  exact check.2

/-- A final completion writes a complete row unless a success has no result. -/
theorem ModelOperationRow.settle_terminalComplete {clock : DatabaseClock}
    {completion : ModelOperationCompletion}
    {result : Option ModelGatewaySuccess} {reserved settlement : Int} :
    (row.settle clock completion result reserved
        settlement).terminalComplete = true ↔
      (completion.disposition = .succeeded →
        (result.bind (fun success => bindJson success.output)).isSome =
          true) := by
  cases disposition : completion.disposition <;>
    simp [ModelOperationRow.terminalComplete, ModelOperationRow.settle,
      ModelCompletionDisposition.status, disposition]

/-- An accepted success stores the output of the response. -/
theorem ModelOperationRow.settle_resultJson {clock : DatabaseClock}
    {completion : ModelOperationCompletion} {success : ModelGatewaySuccess}
    {reserved settlement : Int}
    (succeeded : completion.disposition = .succeeded)
    (accepted : (row.settle clock completion (some success) reserved
      settlement).accepted = true) :
    (row.settle clock completion (some success) reserved
      settlement).resultJson = some success.output := by
  have complete := ModelOperationRow.terminalComplete_of_check
    (ModelOperationRow.accepted_iff.mp accepted).2
  obtain ⟨bound, stored⟩ := Option.isSome_iff_exists.mp
    (ModelOperationRow.settle_terminalComplete.mp complete succeeded)
  rw [Option.bind_some] at stored
  simp only [ModelOperationRow.settle, succeeded, if_true, Option.bind_some]
  rw [stored, bindJson_eq_some stored]

end AcceptedRows

namespace ModelDatabase

section Updates

def setOperation (db : ModelDatabase) (operationId : ModelOperationId)
    (set : ModelOperationRow → ModelOperationRow) : ModelDatabase :=
  { db with operations := db.operations.modify operationId set }

def setDispatchedAttempt (db : ModelDatabase) (attemptId : ModelAttemptId)
    (set : ModelAttemptRow → ModelAttemptRow) : ModelDatabase :=
  { db with
    attempts := db.attempts.updateWhere
      (fun key row => key = attemptId && row.status = .dispatched) set }

def setAccounts (db : ModelDatabase) (charge : BudgetCharge)
    (set : BudgetAccountRow → BudgetAccountRow) : ModelDatabase :=
  { db with
    accounts := db.accounts.updateWhere (fun key _ => charge.covers key) set }

def reserve (db : ModelDatabase) (charge : BudgetCharge)
    (reservation : Int) : ModelDatabase :=
  (db.setAccounts charge (fun account =>
    { account with
      reservedMicroUsd := account.reservedMicroUsd + reservation }))
    |>.recordBudgetThresholds charge

def release (db : ModelDatabase) (row : ModelOperationRow)
    (settlement : Int) : ModelDatabase :=
  if row.provider = .deterministic ∨ row.reservedCostMicroUsd = 0 then
    db
  else
    db.setAccounts row.charge (fun account =>
      { account with
        reservedMicroUsd := account.reservedMicroUsd - row.reservedCostMicroUsd
        settledMicroUsd := account.settledMicroUsd + settlement })

variable {db db' : ModelDatabase}

/-! Reservations and settlements touch nothing but the budget tables. -/

@[simp] theorem setOperation_users {operationId : ModelOperationId}
    {set : ModelOperationRow → ModelOperationRow} :
    (db.setOperation operationId set).users = db.users := rfl

@[simp] theorem setOperation_accounts {operationId : ModelOperationId}
    {set : ModelOperationRow → ModelOperationRow} :
    (db.setOperation operationId set).accounts = db.accounts := rfl

@[simp] theorem setOperation_alerts {operationId : ModelOperationId}
    {set : ModelOperationRow → ModelOperationRow} :
    (db.setOperation operationId set).alerts = db.alerts := rfl

@[simp] theorem setOperation_operations {operationId : ModelOperationId}
    {set : ModelOperationRow → ModelOperationRow} :
    (db.setOperation operationId set).operations =
      db.operations.modify operationId set := rfl

@[simp] theorem setOperation_attempts {operationId : ModelOperationId}
    {set : ModelOperationRow → ModelOperationRow} :
    (db.setOperation operationId set).attempts = db.attempts := rfl

@[simp] theorem setDispatchedAttempt_accounts {attemptId : ModelAttemptId}
    {set : ModelAttemptRow → ModelAttemptRow} :
    (db.setDispatchedAttempt attemptId set).accounts = db.accounts := rfl

@[simp] theorem setDispatchedAttempt_alerts {attemptId : ModelAttemptId}
    {set : ModelAttemptRow → ModelAttemptRow} :
    (db.setDispatchedAttempt attemptId set).alerts = db.alerts := rfl

@[simp] theorem setDispatchedAttempt_operations {attemptId : ModelAttemptId}
    {set : ModelAttemptRow → ModelAttemptRow} :
    (db.setDispatchedAttempt attemptId set).operations = db.operations := rfl

@[simp] theorem release_operations {row : ModelOperationRow}
    {settlement : Int} :
    (db.release row settlement).operations = db.operations := by
  unfold release
  split <;> rfl

@[simp] theorem release_setDispatchedAttempt_accounts
    {attemptId : ModelAttemptId} {set : ModelAttemptRow → ModelAttemptRow}
    {row : ModelOperationRow} {settlement : Int} :
    ((db.setDispatchedAttempt attemptId set).release row settlement).accounts =
      (db.release row settlement).accounts := by
  unfold release
  split <;> rfl

@[simp] theorem release_attempts {row : ModelOperationRow}
    {settlement : Int} :
    (db.release row settlement).attempts = db.attempts := by
  unfold release
  split <;> rfl

@[simp] theorem release_alerts {row : ModelOperationRow}
    {settlement : Int} :
    (db.release row settlement).alerts = db.alerts := by
  unfold release
  split <;> rfl

theorem updateOperation_eq_some {operationId : ModelOperationId}
    {set : ModelOperationRow → ModelOperationRow}
    (updated : db.updateOperation operationId set = some db') :
    db' = db.setOperation operationId set := by
  simp only [updateOperation, Option.bind_eq_bind, Option.bind_eq_some_iff]
    at updated
  obtain ⟨operations, modified, rest⟩ := updated
  obtain ⟨_, rfl⟩ := Table.modify?_eq_some_iff.mp modified
  exact (Option.some.inj rest).symm

/-- An update writes a row that is accepted. -/
theorem updateOperation_accepted {operationId : ModelOperationId}
    {set : ModelOperationRow → ModelOperationRow} {row : ModelOperationRow}
    (updated : db.updateOperation operationId set = some db')
    (found : db.operations.find? operationId = some row) :
    (set row).accepted = true := by
  simp only [updateOperation, Option.bind_eq_bind, Option.bind_eq_some_iff]
    at updated
  obtain ⟨operations, modified, _⟩ := updated
  exact (Table.modify?_eq_some_iff.mp modified).1 row found

theorem updateDispatchedAttempt_eq_some {attemptId : ModelAttemptId}
    {set : ModelAttemptRow → ModelAttemptRow}
    (updated : db.updateDispatchedAttempt attemptId set = some db') :
    db' = db.setDispatchedAttempt attemptId set := by
  simp only [updateDispatchedAttempt, Option.bind_eq_bind,
    Option.bind_eq_some_iff] at updated
  obtain ⟨attempts, modified, rest⟩ := updated
  obtain ⟨_, rfl⟩ := Table.updateWhere?_eq_some_iff.mp modified
  exact (Option.some.inj rest).symm

theorem updateBudgetAccounts_eq_some {charge : BudgetCharge}
    {set : BudgetAccountRow → BudgetAccountRow}
    (updated : db.updateBudgetAccounts charge set = some db') :
    db' = db.setAccounts charge set := by
  simp only [updateBudgetAccounts, Option.bind_eq_bind,
    Option.bind_eq_some_iff] at updated
  obtain ⟨accounts, modified, rest⟩ := updated
  obtain ⟨_, rfl⟩ := Table.updateWhere?_eq_some_iff.mp modified
  exact (Option.some.inj rest).symm

theorem releaseReservation_eq_some {row : ModelOperationRow}
    {settlement : Int}
    (released : db.releaseReservation row settlement = some db') :
    db' = db.release row settlement := by
  unfold releaseReservation at released
  unfold release
  split at released
  · rename_i skipped
    rw [if_pos skipped]
    exact (Option.some.inj released).symm
  · rename_i charged
    rw [if_neg charged]
    exact updateBudgetAccounts_eq_some released

theorem insertOperation_eq_some {operationId : ModelOperationId}
    {row : ModelOperationRow}
    (inserted : db.insertOperation operationId row = some db') :
    row.userId ∈ db.users ∧
      ∃ fresh : operationId ∉ db.operations.rows.map Prod.fst,
        db' = { db with
          operations := db.operations.push operationId row fresh } := by
  unfold insertOperation at inserted
  split at inserted
  · rename_i known
    simp only [Option.bind_eq_bind, Option.bind_eq_some_iff] at inserted
    obtain ⟨operations, pushed, rest⟩ := inserted
    obtain ⟨_, fresh, rfl⟩ := Table.insert?_eq_some_iff.mp pushed
    exact ⟨known, fresh, (Option.some.inj rest).symm⟩
  · cases inserted

theorem insertOperation_checks {operationId : ModelOperationId}
    {row : ModelOperationRow}
    (inserted : db.insertOperation operationId row = some db') :
    row.userId ∈ db.users ∧ row.accepted = true := by
  unfold insertOperation at inserted
  split at inserted
  · rename_i known
    simp only [Option.bind_eq_bind, Option.bind_eq_some_iff] at inserted
    obtain ⟨operations, pushed, _⟩ := inserted
    exact ⟨known, (Table.insert?_eq_some_iff.mp pushed).1⟩
  · cases inserted

theorem insertAttempt_eq_some {attemptId : ModelAttemptId}
    {row : ModelAttemptRow}
    (inserted : db.insertAttempt attemptId row = some db') :
    ∃ fresh : attemptId ∉ db.attempts.rows.map Prod.fst,
      db' = { db with attempts := db.attempts.push attemptId row fresh } := by
  unfold insertAttempt at inserted
  split at inserted
  · simp only [Option.bind_eq_bind, Option.bind_eq_some_iff] at inserted
    obtain ⟨attempts, pushed, rest⟩ := inserted
    obtain ⟨_, fresh, rfl⟩ := Table.insert?_eq_some_iff.mp pushed
    exact ⟨fresh, (Option.some.inj rest).symm⟩
  · cases inserted

end Updates

section Reservations

/-- An account that takes a reservation without passing its ceiling. -/
def HasRoom (db : ModelDatabase) (key : BudgetAccountKey)
    (reservation : Int) : Prop :=
  ∃ account, db.accounts.find? key = some account ∧
    account.spend + reservation ≤ account.ceilingMicroUsd

/-- The reservation step of `prepare` and `restart`. -/
inductive ReservationEffect (db : ModelDatabase) (charge : BudgetCharge)
    (environmentCeiling userCeiling : Nat) (reservation : Int)
    (billed : Prop) : ModelDatabase → Prop where
  | unbilled :
      ¬billed →
      ReservationEffect db charge environmentCeiling userCeiling reservation
        billed db
  | charged {funded : ModelDatabase} :
      billed →
      funded = db.insertBudgetAccounts charge environmentCeiling userCeiling →
      funded.HasRoom charge.environmentAccount reservation →
      funded.HasRoom charge.userAccount reservation →
      ReservationEffect db charge environmentCeiling userCeiling reservation
        billed (funded.reserve charge reservation)

variable {db reserved : ModelDatabase} {charge : BudgetCharge}

theorem ReservationEffect.operations {environmentCeiling userCeiling : Nat}
    {reservation : Int} {billed : Prop}
    (reserves : ReservationEffect db charge environmentCeiling userCeiling
      reservation billed reserved) :
    reserved.operations = db.operations := by
  cases reserves with
  | unbilled => rfl
  | charged _ funded =>
      subst funded
      rfl

theorem ReservationEffect.attempts {environmentCeiling userCeiling : Nat}
    {reservation : Int} {billed : Prop}
    (reserves : ReservationEffect db charge environmentCeiling userCeiling
      reservation billed reserved) :
    reserved.attempts = db.attempts := by
  cases reserves with
  | unbilled => rfl
  | charged _ funded =>
      subst funded
      rfl

theorem ReservationEffect.users {environmentCeiling userCeiling : Nat}
    {reservation : Int} {billed : Prop}
    (reserves : ReservationEffect db charge environmentCeiling userCeiling
      reservation billed reserved) :
    reserved.users = db.users := by
  cases reserves with
  | unbilled => rfl
  | charged _ funded =>
      subst funded
      rfl

theorem reserveBudget_eq_ok {reservation : Int}
    {operation : ModelStoreOperation}
    (succeeded : db.reserveBudget charge reservation operation =
      .ok reserved) :
    db.HasRoom charge.environmentAccount reservation ∧
      db.HasRoom charge.userAccount reservation ∧
        reserved = db.reserve charge reservation := by
  unfold reserveBudget at succeeded
  split at succeeded
  · cases succeeded
  · rename_i environmentBudget environmentFound
    split at succeeded
    · cases succeeded
    · split at succeeded
      · cases succeeded
      · rename_i environmentRoom
        split at succeeded
        · cases succeeded
        · rename_i userBudget userFound
          split at succeeded
          · cases succeeded
          · rename_i userRoom
            obtain ⟨updated, statement, rest⟩ := bind_eq_ok.mp succeeded
            have written :=
              updateBudgetAccounts_eq_some (require_eq_ok.mp statement)
            subst written
            exact ⟨⟨_, environmentFound, by omega⟩, ⟨_, userFound, by omega⟩,
              (Except.ok.inj rest).symm⟩

end Reservations

section Prepare

variable {clock : DatabaseClock} {input : PrepareModelOperationStoreInput}
  {db db' : ModelDatabase} {outcome : PrepareModelOperationOutcome}

inductive PrepareEffect (clock : DatabaseClock)
    (input : PrepareModelOperationStoreInput) (db : ModelDatabase) :
    PrepareModelOperationOutcome → ModelDatabase → Prop where
  | duplicate {existing : ModelOperationRow} :
      db.operations.find? input.operationId = some existing →
      existing.inputDigest = input.inputDigest →
      PrepareEffect clock input db (.duplicate input.operationId) db
  | prepared {reserved : ModelDatabase}
      (fresh : input.operationId ∉ reserved.operations.rows.map Prod.fst) :
      ReservationEffect db (input.preparedRow clock).charge
        input.environmentMonthlyCeilingMicroUsd
        input.userMonthlyCeilingMicroUsd input.reservedCostMicroUsd
        (0 < input.reservedCostMicroUsd) reserved →
      (input.preparedRow clock).accepted = true →
      PrepareEffect clock input db (.prepared input.operationId)
        { reserved with
          operations := reserved.operations.push input.operationId
            (input.preparedRow clock) fresh }

private theorem duplicatePrepare_eq_ok
    (answered : db.duplicatePrepare input = some (.ok outcome)) :
    PrepareEffect clock input db outcome db := by
  unfold duplicatePrepare at answered
  split at answered
  · cases answered
  · rename_i existing found
    split at answered
    · cases answered
    · rename_i same
      cases answered
      exact .duplicate found (not_not.mp same)

private theorem insertPrepared_eq_ok {reserved : ModelDatabase}
    (inserted : reserved.insertPrepared clock input = .ok (outcome, db'))
    (reserves : ReservationEffect db (input.preparedRow clock).charge
      input.environmentMonthlyCeilingMicroUsd
      input.userMonthlyCeilingMicroUsd input.reservedCostMicroUsd
      (0 < input.reservedCostMicroUsd) reserved) :
    PrepareEffect clock input db outcome db' := by
  obtain ⟨written, statement, rest⟩ := bind_eq_ok.mp inserted
  have accepted := (insertOperation_checks (require_eq_ok.mp statement)).2
  obtain ⟨_, fresh, rfl⟩ :=
    insertOperation_eq_some (require_eq_ok.mp statement)
  cases rest
  exact .prepared fresh reserves accepted

theorem prepare_eq_ok
    (prepared : db.prepare clock input = .ok (outcome, db')) :
    PrepareEffect clock input db outcome db' := by
  unfold prepare at prepared
  split at prepared
  · rename_i answer answered
    cases answer with
    | error failure => cases prepared
    | ok outcome =>
        cases prepared
        exact duplicatePrepare_eq_ok answered
  · rename_i unused
    split at prepared
    · rename_i billed
      simp only at prepared
      split at prepared
      · cases prepared
      · split at prepared
        · rename_i answer answered
          -- The accounts were inserted without touching the operations.
          have same : db.duplicatePrepare input = some answer := answered
          simp [unused] at same
        · obtain ⟨reserved, reserving, inserted⟩ := bind_eq_ok.mp prepared
          obtain ⟨environmentRoom, userRoom, rfl⟩ :=
            reserveBudget_eq_ok reserving
          exact insertPrepared_eq_ok inserted
            (.charged billed rfl environmentRoom userRoom)
    · rename_i unbilled
      exact insertPrepared_eq_ok prepared (.unbilled unbilled)

end Prepare

section Restart

variable {clock : DatabaseClock} {input : RestartModelOperationStoreInput}
  {db db' : ModelDatabase} {outcome : RestartModelOperationOutcome}

inductive RestartEffect (clock : DatabaseClock)
    (input : RestartModelOperationStoreInput) (db : ModelDatabase) :
    RestartModelOperationOutcome → ModelDatabase → Prop where
  | duplicate {source existing : ModelOperationRow} :
      db.operations.find? input.sourceOperationId = some source →
      source.userId = input.userId →
      db.operations.find? input.restartedOperationId = some existing →
      existing.rootOperationId = source.rootOperationId →
      existing.restartedFromOperationId = some input.sourceOperationId →
      existing.userId = input.userId →
      RestartEffect clock input db (.duplicate input.restartedOperationId) db
  | restarted {source : ModelOperationRow} {reserved : ModelDatabase}
      (fresh :
        input.restartedOperationId ∉ reserved.operations.rows.map Prod.fst) :
      db.operations.find? input.sourceOperationId = some source →
      source.userId = input.userId →
      source.status = .outcomeUnknown →
      (db.lineageRestarts source.rootOperationId).length <
        source.explicitRestartLimit →
      ReservationEffect db
        (source.restartedRow clock input.sourceOperationId
          source.reservedCostMicroUsd).charge
        source.environmentMonthlyCeilingMicroUsd
        source.userMonthlyCeilingMicroUsd source.reservedCostMicroUsd
        (source.provider = .openai ∧ 0 < source.reservedCostMicroUsd)
        reserved →
      RestartEffect clock input db (.restarted input.restartedOperationId)
        { reserved with
          operations := reserved.operations.push input.restartedOperationId
            (source.restartedRow clock input.sourceOperationId
              source.reservedCostMicroUsd) fresh }

theorem reserveRestart_eq_ok {source : ModelOperationRow}
    {reserved : ModelDatabase}
    (reserving : db.reserveRestart clock source = .ok reserved) :
    ReservationEffect db
      (source.restartedRow clock input.sourceOperationId
        source.reservedCostMicroUsd).charge
      source.environmentMonthlyCeilingMicroUsd
      source.userMonthlyCeilingMicroUsd source.reservedCostMicroUsd
      (source.provider = .openai ∧ 0 < source.reservedCostMicroUsd)
      reserved := by
  unfold reserveRestart at reserving
  simp only at reserving
  split at reserving
  · rename_i billed
    obtain ⟨environmentRoom, userRoom, rfl⟩ := reserveBudget_eq_ok reserving
    exact .charged billed rfl environmentRoom userRoom
  · rename_i unbilled
    cases reserving
    exact .unbilled unbilled

theorem restart_eq_ok
    (restarted : db.restart clock input = .ok (outcome, db')) :
    RestartEffect clock input db outcome db' := by
  obtain ⟨source, read, restarted⟩ := bind_eq_ok.mp restarted
  have found := require_eq_ok.mp read
  split at restarted
  · cases restarted
  · rename_i owned
    have owned := not_not.mp owned
    split at restarted
    · rename_i existing existingFound
      split at restarted
      · cases restarted
      · rename_i matching
        cases restarted
        simp only [not_or, not_not] at matching
        exact .duplicate found owned existingFound matching.1 matching.2.1
          matching.2.2
    · split at restarted
      · cases restarted
      · rename_i unknown
        split at restarted
        · cases restarted
        · rename_i remaining
          obtain ⟨reserved, reserving, restarted⟩ := bind_eq_ok.mp restarted
          obtain ⟨written, statement, rest⟩ := bind_eq_ok.mp restarted
          obtain ⟨_, fresh, rfl⟩ :=
            insertOperation_eq_some (require_eq_ok.mp statement)
          cases rest
          refine .restarted fresh found owned (not_not.mp unknown)
            (by omega) ?_
          exact reserveRestart_eq_ok reserving

end Restart

section Claim

variable {clock : DatabaseClock} {operationId : ModelOperationId}
  {db db' : ModelDatabase} {outcome : ClaimModelOperationOutcome}

/-- The budget gate of a dispatch and the daily counter it takes. -/
inductive DispatchGate (clock : DatabaseClock) (row : ModelOperationRow)
    (db : ModelDatabase) : ModelDatabase → Prop where
  | deterministic :
      row.provider ≠ .openai → DispatchGate clock row db db
  | openai {control : BudgetAccountRow} {counted : ModelDatabase} :
      row.provider = .openai →
      db.accounts.find? row.charge.environmentAccount = some control →
      control.killSwitch = false →
      db.takeDailyDispatch row.userId clock.currentDate
        row.dailyDispatchLimit = some counted →
      DispatchGate clock row db counted

inductive ClaimEffect (clock : DatabaseClock) (workerNow : Int)
    (generated : ModelAttemptId) (operationId : ModelOperationId)
    (db : ModelDatabase) :
    ClaimModelOperationOutcome → ModelDatabase → Prop where
  | stored {row : ModelOperationRow}
      {completion : ModelOperationCompletion} :
      db.operations.find? operationId = some row →
      row.status.isTerminal = true →
      row.toCompletion workerNow = .ok completion →
      ClaimEffect clock workerNow generated operationId db
        (.completed completion) db
  | leased {row : ModelOperationRow} {leaseUntil : Timestamp} :
      db.operations.find? operationId = some row →
      row.status = .dispatched →
      row.currentLeaseUntil = some leaseUntil →
      clock.currentTimestamp.getTime < leaseUntil.getTime →
      ClaimEffect clock workerNow generated operationId db
        (.deferred
          (max 1 (leaseUntil.getTime - clock.currentTimestamp.getTime))) db
  | expired {row : ModelOperationRow} {attemptId : ModelAttemptId}
      {leaseUntil : Timestamp} :
      db.operations.find? operationId = some row →
      row.status = .dispatched →
      row.currentAttemptId = some attemptId →
      row.currentLeaseUntil = some leaseUntil →
      leaseUntil.getTime ≤ clock.currentTimestamp.getTime →
      ClaimEffect clock workerNow generated operationId db
        (.completed
          (finalCompletion .outcomeUnknown .modelAttemptLeaseExpired))
        ((db.setDispatchedAttempt attemptId
          (ModelAttemptRow.expireLease clock)).setOperation operationId
            (ModelOperationRow.expireLease clock))
  | waiting {row : ModelOperationRow} {wait : Int} :
      db.operations.find? operationId = some row →
      row.retryWait clock.currentTimestamp.getTime = some wait →
      ClaimEffect clock workerNow generated operationId db
        (.deferred (max 1 wait)) db
  | rejected {row : ModelOperationRow} {failure : ObservedFailure}
      {clearsClaim : Bool} :
      db.operations.find? operationId = some row →
      row.status = .prepared ∨ row.status = .retryScheduled →
      ClaimEffect clock workerNow generated operationId db
        (.rejected (finalCompletion .explicitlyRejected failure))
        ((db.release row 0).setOperation operationId
          (ModelOperationRow.rejectBeforeDispatch clock failure clearsClaim))
  | dispatched {row : ModelOperationRow} {counted : ModelDatabase}
      (fresh : generated ∉ counted.attempts.rows.map Prod.fst) :
      db.operations.find? operationId = some row →
      row.status = .prepared ∨ row.status = .retryScheduled →
      clock.currentTimestamp.getTime < row.deadlineAt.getTime →
      row.httpDispatchCount < row.maximumHttpDispatches →
      DispatchGate clock row db counted →
      ClaimEffect clock workerNow generated operationId db
        (.claimed (row.claimedAttempt clock operationId generated))
        ({ counted with
            attempts := counted.attempts.push generated
              (row.dispatchedAttempt clock operationId) fresh }.setOperation
          operationId (ModelOperationRow.dispatch clock generated))

variable {workerNow : Int} {generated : ModelAttemptId}
  {row : ModelOperationRow}

theorem DispatchGate.counted {counted : ModelDatabase}
    (passed : DispatchGate clock row db counted) :
    ∃ dispatchCounters,
      counted = { db with dispatchCounters := dispatchCounters } := by
  cases passed with
  | deterministic => exact ⟨db.dispatchCounters, rfl⟩
  | openai _ _ _ taken =>
      unfold takeDailyDispatch at taken
      split at taken
      · exact ⟨_, (Option.some.inj taken).symm⟩
      · split at taken
        · exact ⟨_, (Option.some.inj taken).symm⟩
        · cases taken

private theorem rejectBeforeDispatch_eq_ok {failure : ObservedFailure}
    {clearsClaim : Bool}
    (found : db.operations.find? operationId = some row)
    (active : row.status = .prepared ∨ row.status = .retryScheduled)
    (rejected : db.rejectBeforeDispatch clock operationId row failure
      clearsClaim = .ok (outcome, db')) :
    ClaimEffect clock workerNow generated operationId db outcome db' := by
  obtain ⟨released, releasing, rejected⟩ := bind_eq_ok.mp rejected
  obtain ⟨written, updating, rest⟩ := bind_eq_ok.mp rejected
  have released := releaseReservation_eq_some (require_eq_ok.mp releasing)
  subst released
  have written := updateOperation_eq_some (require_eq_ok.mp updating)
  subst written
  cases rest
  exact .rejected found active

private theorem dispatchAttempt_eq_ok {counted : ModelDatabase}
    (found : db.operations.find? operationId = some row)
    (active : row.status = .prepared ∨ row.status = .retryScheduled)
    (early : clock.currentTimestamp.getTime < row.deadlineAt.getTime)
    (remaining : row.httpDispatchCount < row.maximumHttpDispatches)
    (passed : DispatchGate clock row db counted)
    (dispatched : counted.dispatchAttempt clock operationId row generated =
      .ok (outcome, db')) :
    ClaimEffect clock workerNow generated operationId db outcome db' := by
  obtain ⟨inserted, inserting, dispatched⟩ := bind_eq_ok.mp dispatched
  obtain ⟨written, updating, rest⟩ := bind_eq_ok.mp dispatched
  obtain ⟨fresh, rfl⟩ := insertAttempt_eq_some (require_eq_ok.mp inserting)
  have written := updateOperation_eq_some (require_eq_ok.mp updating)
  subst written
  cases rest
  exact .dispatched fresh found active early remaining passed

private theorem claimReady_eq_ok
    (found : db.operations.find? operationId = some row)
    (active : row.status = .prepared ∨ row.status = .retryScheduled)
    (claimed : db.claimReady clock operationId row generated =
      .ok (outcome, db')) :
    ClaimEffect clock workerNow generated operationId db outcome db' := by
  unfold claimReady at claimed
  split at claimed
  · exact rejectBeforeDispatch_eq_ok found active claimed
  · rename_i early
    split at claimed
    · exact rejectBeforeDispatch_eq_ok found active claimed
    · rename_i remaining
      split at claimed
      · rename_i openai
        split at claimed
        · cases claimed
        · rename_i control controlFound
          split at claimed
          · exact rejectBeforeDispatch_eq_ok found active claimed
          · rename_i disengaged
            split at claimed
            · exact rejectBeforeDispatch_eq_ok found active claimed
            · rename_i counted taken
              exact dispatchAttempt_eq_ok found active (by omega) (by omega)
                (.openai openai controlFound (by simpa using disengaged)
                  taken) claimed
      · rename_i deterministic
        exact dispatchAttempt_eq_ok found active (by omega) (by omega)
          (.deterministic deterministic) claimed

theorem claim_eq_ok
    (claimed : db.claim clock operationId workerNow generated =
      .ok (outcome, db')) :
    ClaimEffect clock workerNow generated operationId db outcome db' := by
  obtain ⟨row, read, claimed⟩ := bind_eq_ok.mp claimed
  have found := require_eq_ok.mp read
  dsimp only at claimed
  split at claimed
  · rename_i terminal
    obtain ⟨completion, answered, rest⟩ := bind_eq_ok.mp claimed
    cases rest
    exact .stored found terminal answered
  · rename_i unfinished
    split at claimed
    · rename_i dispatched
      split at claimed
      · rename_i attemptId leaseUntil current lease
        split at claimed
        · rename_i held
          cases claimed
          exact .leased found dispatched lease held
        · rename_i elapsed
          obtain ⟨written, expiring, rest⟩ := bind_eq_ok.mp claimed
          have expiring := require_eq_ok.mp expiring
          simp only [expireLease, Option.bind_eq_bind,
            Option.bind_eq_some_iff] at expiring
          obtain ⟨attempted, attempting, updating⟩ := expiring
          have attempted := updateDispatchedAttempt_eq_some attempting
          subst attempted
          have written := updateOperation_eq_some updating
          subst written
          cases rest
          exact .expired found dispatched current lease (by omega)
      · cases claimed
    · rename_i undispatched
      have active := ModelOperationStatus.active_of_undispatched
        (Bool.not_eq_true _ ▸ unfinished) undispatched
      split at claimed
      · rename_i wait waits
        cases claimed
        exact .waiting found waits
      · exact claimReady_eq_ok found active claimed

end Claim

section Complete

variable {clock : DatabaseClock} {workerNow : Int}
  {input : CompleteModelOperationInput} {db db' : ModelDatabase}
  {completion : ModelOperationCompletion}

/-- A completion of unknown outcome keeps its reservation. -/
def releaseSettled (db : ModelDatabase) (row : ModelOperationRow)
    (completion : ModelOperationCompletion)
    (result : Option ModelGatewaySuccess) : ModelDatabase :=
  if completion.disposition = .outcomeUnknown then db
  else db.release row (row.settlement completion result)

@[simp] theorem releaseSettled_operations {row : ModelOperationRow}
    {result : Option ModelGatewaySuccess} :
    (db.releaseSettled row completion result).operations =
      db.operations := by
  unfold releaseSettled
  split <;> simp

@[simp] theorem releaseSettled_attempts {row : ModelOperationRow}
    {result : Option ModelGatewaySuccess} :
    (db.releaseSettled row completion result).attempts = db.attempts := by
  unfold releaseSettled
  split <;> simp

@[simp] theorem releaseSettled_alerts {row : ModelOperationRow}
    {result : Option ModelGatewaySuccess} :
    (db.releaseSettled row completion result).alerts = db.alerts := by
  unfold releaseSettled
  split <;> simp

inductive CompleteEffect (clock : DatabaseClock) (workerNow : Int)
    (input : CompleteModelOperationInput) (db : ModelDatabase) :
    ModelOperationCompletion → ModelDatabase → Prop where
  | stale {row : ModelOperationRow} {completion : ModelOperationCompletion} :
      db.operations.find? input.operationId = some row →
      row.status ≠ .dispatched ∨ row.currentAttemptId ≠ some input.attemptId →
      row.status.isTerminal = true →
      row.toCompletion workerNow = .ok completion →
      CompleteEffect clock workerNow input db completion db
  | scheduled {row : ModelOperationRow}
      {completion : ModelOperationCompletion} {delay : Int} :
      db.operations.find? input.operationId = some row →
      row.status = .dispatched →
      row.currentAttemptId = some input.attemptId →
      completion = row.effectiveCompletion clock input.completion →
      completion.retryPlan = .scheduleTransientRateLimit delay →
      CompleteEffect clock workerNow input db completion
        ((db.setDispatchedAttempt input.attemptId
          (ModelAttemptRow.complete clock completion
            input.result)).setOperation input.operationId
              (ModelOperationRow.scheduleRetry clock completion delay))
  | settled {row : ModelOperationRow}
      {completion : ModelOperationCompletion} :
      db.operations.find? input.operationId = some row →
      row.status = .dispatched →
      row.currentAttemptId = some input.attemptId →
      completion = row.effectiveCompletion clock input.completion →
      completion.retryPlan = .none →
      (row.settle clock completion input.result row.reservedCostMicroUsd
        (row.settlement completion input.result)).accepted = true →
      CompleteEffect clock workerNow input db completion
        (((db.setDispatchedAttempt input.attemptId
          (ModelAttemptRow.complete clock completion
            input.result)).releaseSettled row completion
              input.result).setOperation input.operationId
                (ModelOperationRow.settle clock completion input.result
                  row.reservedCostMicroUsd
                  (row.settlement completion input.result)))

private theorem settle_eq_some {row : ModelOperationRow}
    {result : Option ModelGatewaySuccess}
    (released : (if completion.disposition = .outcomeUnknown then some db
      else db.releaseReservation row (row.settlement completion result)) =
        some db') :
    db' = db.releaseSettled row completion result := by
  unfold releaseSettled
  split at released
  · rename_i unknown
    rw [if_pos unknown]
    exact (Option.some.inj released).symm
  · rename_i known
    rw [if_neg known]
    exact releaseReservation_eq_some released

theorem complete_eq_ok
    (completed : db.complete clock input workerNow = .ok (completion, db')) :
    CompleteEffect clock workerNow input db completion db' := by
  obtain ⟨row, read, completed⟩ := bind_eq_ok.mp completed
  have found := require_eq_ok.mp read
  split at completed
  · rename_i stale
    split at completed
    · rename_i terminal
      obtain ⟨stored, answered, rest⟩ := bind_eq_ok.mp completed
      cases rest
      exact .stale found stale terminal answered
    · cases completed
  · rename_i current
    simp only [not_or, not_not] at current
    obtain ⟨answered, answering, completed⟩ := bind_eq_ok.mp completed
    have answered := updateDispatchedAttempt_eq_some (require_eq_ok.mp answering)
    subst answered
    split at completed
    · rename_i delay planned
      obtain ⟨written, updating, rest⟩ := bind_eq_ok.mp completed
      have written := updateOperation_eq_some (require_eq_ok.mp updating)
      subst written
      cases rest
      exact .scheduled found current.1 current.2 rfl planned
    · rename_i planned
      obtain ⟨released, releasing, completed⟩ := bind_eq_ok.mp completed
      have released := settle_eq_some (require_eq_ok.mp releasing)
      subst released
      obtain ⟨written, updating, rest⟩ := bind_eq_ok.mp completed
      have accepted := updateOperation_accepted (require_eq_ok.mp updating)
        (show _ = some row by simpa using found)
      have written := updateOperation_eq_some (require_eq_ok.mp updating)
      subst written
      cases rest
      exact .settled found current.1 current.2 rfl planned accepted

end Complete

end ModelDatabase

end XpensGo
