import XpensGo.Model.BudgetThresholds
import XpensGo.Model.DailyDispatch
import XpensGo.Model.Finality
import XpensGo.Model.RowChecks

/-!
# Legal writes

In every reachable state each statement of `prepare`, `claim`, `complete` and
`restart` keeps the CHECK constraints of the rows it writes, so none of the four
transactions is aborted by one.
-/

namespace XpensGo

open EcmaScript Postgres Relational Transition ModelDatabase

/-- The constraints of all tables.  Constraints on the spelling of a column and
on the sign of a token count hold by the types of the columns. -/
structure LegalRows (db : ModelDatabase) : Prop where
  operations : ∀ operationId row,
    db.operations.find? operationId = some row → row.check = true
  attempts : ∀ attemptId attempt,
    db.attempts.find? attemptId = some attempt → attempt.check = true
  accounts : ∀ key account,
    db.accounts.find? key = some account → account.check = true
  alerts : ∀ key threshold,
    (db.alerts.find? (key, threshold)).isSome = true →
    threshold ∈ budgetThresholds
  counters : ∀ key count,
    db.dispatchCounters.find? key = some count → 0 < count

/-- A successful response whose output is the JSON value `null`. -/
def ModelGatewayResult.isNull : ModelGatewayResult → Bool
  | .ok success => (bindJson success.output).isNone
  | .error _ => false

/-- The row that `complete` writes to the operation of a current attempt. -/
def ModelOperationRow.completed (dates : DateBuiltins) (clock : DatabaseClock)
    (attempt : ClaimedModelAttempt) (result : ModelGatewayResult)
    (row : ModelOperationRow) : ModelOperationRow :=
  let completion :=
    row.effectiveCompletion clock (submittedCompletion dates attempt result)
  match completion.retryPlan with
  | .scheduleTransientRateLimit delayMilliseconds =>
      row.scheduleRetry clock completion delayMilliseconds
  | .none =>
      row.settle clock completion result.toOption row.reservedCostMicroUsd
        (row.settlement completion result.toOption)

section Results

variable {dates : DateBuiltins} {attempt : ClaimedModelAttempt}
  {result : ModelGatewayResult}

theorem isNull_of_schedules {delay : Int}
    (scheduled : (submittedCompletion dates attempt result).retryPlan =
      .scheduleTransientRateLimit delay) : result.isNull = false := by
  cases result with
  | error failure => rfl
  | ok success =>
      simp only [submittedCompletion] at scheduled
      split at scheduled <;> cases scheduled

/-- A submitted success has a result unless its output is bound as `NULL`;
an output that is rejected for a date is an object. -/
theorem submittedCompletion_bound_iff :
    ((submittedCompletion dates attempt result).disposition = .succeeded →
        (result.toOption.bind (fun success =>
          bindJson success.output)).isSome = true) ↔
      result.isNull = false := by
  cases result with
  | error failure =>
      refine iff_of_true ?_ rfl
      intro succeeded
      exact (classifyModelGatewayFailure_ne_succeeded succeeded).elim
  | ok success =>
      simp only [ModelGatewayResult.isNull, Except.toOption, Option.bind_some,
        Option.isNone_eq_false_iff]
      refine ⟨?_, fun bound _ => bound⟩
      intro stored
      cases output : success.output with
      | null =>
          rw [output] at stored
          apply stored
          simp [submittedCompletion, output, containsInvalidExtractedDate]
      | boolean | number | string | array | object => rfl

end Results

section Tables

variable {dates : DateBuiltins} {db db' reserved : ModelDatabase}

private theorem attempts_setDispatchedAttempt_check
    {current : ModelAttemptId} {set : ModelAttemptRow → ModelAttemptRow}
    (legal : ∀ attemptId attempt,
      db.attempts.find? attemptId = some attempt → attempt.check = true)
    (written : ∀ attempt : ModelAttemptRow, attempt.check = true →
      (set attempt).check = true)
    (attemptId : ModelAttemptId) (attempt : ModelAttemptRow)
    (found : (db.setDispatchedAttempt current set).attempts.find? attemptId =
      some attempt) : attempt.check = true := by
  rw [setDispatchedAttempt, Table.find?_updateWhere,
    Option.map_eq_some_iff] at found
  obtain ⟨before, beforeFound, rfl⟩ := found
  split
  · exact written before (legal attemptId before beforeFound)
  · exact legal attemptId before beforeFound

theorem expireLease_check {clock : DatabaseClock} {attempt : ModelAttemptRow}
    (legal : attempt.check = true) :
    (attempt.expireLease clock).check = true := by
  simp only [ModelAttemptRow.check, Bool.and_eq_true] at legal
  simp [ModelAttemptRow.check, ModelAttemptRow.expireLease,
    of_decide_eq_true legal.1]

theorem complete_check {clock : DatabaseClock} {attempt : ModelAttemptRow}
    {completion : ModelOperationCompletion}
    {result : Option ModelGatewaySuccess} (legal : attempt.check = true) :
    (attempt.complete clock completion result).check = true := by
  simp only [ModelAttemptRow.check, Bool.and_eq_true] at legal
  simp [ModelAttemptRow.check, ModelAttemptRow.complete,
    of_decide_eq_true legal.1]

theorem dispatchedAttempt_check {clock : DatabaseClock}
    {row : ModelOperationRow} {operationId : ModelOperationId} :
    (row.dispatchedAttempt clock operationId).check = true := by
  simp [ModelAttemptRow.check, ModelOperationRow.dispatchedAttempt]

theorem attempts_check_invariant (dates : DateBuiltins) :
    DatabaseInvariant dates (fun db => ∀ attemptId attempt,
      db.attempts.find? attemptId = some attempt →
      attempt.check = true) where
  initially := by
    intro users attemptId attempt found
    simp at found
  prepared := by
    intro clock request input outcome db db' legal _ prepares
    cases prepares with
    | duplicate => exact legal
    | prepared _ reserves =>
        rw [← reserves.attempts] at legal
        exact legal
  restarted := by
    intro clock input outcome db db' legal restarts
    cases restarts with
    | duplicate => exact legal
    | restarted _ _ _ _ _ reserves =>
        rw [← reserves.attempts] at legal
        exact legal
  claimed := by
    intro clock workerNow generated operationId outcome db db' legal claims
    cases claims with
    | stored | leased | waiting => exact legal
    | expired =>
        exact attempts_setDispatchedAttempt_check legal
          (fun _ => expireLease_check)
    | rejected => simpa using legal
    | dispatched fresh _ _ _ _ passed =>
        obtain ⟨dispatchCounters, rfl⟩ := passed.counted
        intro attemptId attempt found
        simp only [setOperation_attempts, Table.find?_push] at found
        split at found
        · cases found
          exact dispatchedAttempt_check
        · exact legal attemptId attempt found
  completed := by
    intro clock workerNow operationId attempt result completion db db' legal
      completes
    cases completes with
    | stale => exact legal
    | scheduled =>
        exact attempts_setDispatchedAttempt_check legal
          (fun _ => complete_check)
    | settled =>
        simp only [setOperation_attempts, releaseSettled_attempts]
        exact attempts_setDispatchedAttempt_check legal
          (fun _ => complete_check)

private theorem ceilings_reserve {charge : BudgetCharge}
    {environmentCeiling userCeiling : Nat} {reservation : Int} {billed : Prop}
    (legal : ∀ key account, db.accounts.find? key = some account →
      0 ≤ account.ceilingMicroUsd)
    (reserves : ReservationEffect db charge environmentCeiling userCeiling
      reservation billed reserved) (key : BudgetAccountKey)
    (account : BudgetAccountRow)
    (found : reserved.accounts.find? key = some account) :
    0 ≤ account.ceilingMicroUsd := by
  cases reserves with
  | unbilled => exact legal key account found
  | charged _ funded =>
      subst funded
      rw [find?_reserve, Option.map_eq_some_iff] at found
      obtain ⟨before, beforeFound, rfl⟩ := found
      rw [reservedAccount_ceilingMicroUsd]
      rcases find?_insertBudgetAccounts beforeFound with
        present | ⟨_, _, _, _, positive⟩
      · exact legal key before present
      · exact positive

private theorem ceilings_release {row : ModelOperationRow} {settlement : Int}
    (legal : ∀ key account, db.accounts.find? key = some account →
      0 ≤ account.ceilingMicroUsd)
    (key : BudgetAccountKey) (account : BudgetAccountRow)
    (found : (db.release row settlement).accounts.find? key = some account) :
    0 ≤ account.ceilingMicroUsd := by
  rw [find?_release, Option.map_eq_some_iff] at found
  obtain ⟨before, beforeFound, rfl⟩ := found
  have positive := legal key before beforeFound
  split
  · exact positive
  · exact positive

theorem ceilings_nonneg_invariant (dates : DateBuiltins) :
    DatabaseInvariant dates (fun db => ∀ key account,
      db.accounts.find? key = some account →
      0 ≤ account.ceilingMicroUsd) where
  initially := by
    intro users key account found
    simp at found
  prepared := by
    intro clock request input outcome db db' legal _ prepares
    cases prepares with
    | duplicate => exact legal
    | prepared _ reserves =>
        intro key account found
        exact ceilings_reserve legal reserves key account found
  restarted := by
    intro clock input outcome db db' legal restarts
    cases restarts with
    | duplicate => exact legal
    | restarted _ _ _ _ _ reserves =>
        intro key account found
        exact ceilings_reserve legal reserves key account found
  claimed := by
    intro clock workerNow generated operationId outcome db db' legal claims
    cases claims with
    | stored | leased | waiting | expired => exact legal
    | rejected => exact ceilings_release legal
    | dispatched _ _ _ _ _ passed =>
        obtain ⟨dispatchCounters, rfl⟩ := passed.counted
        exact legal
  completed := by
    intro clock workerNow operationId attempt result completion db db' legal
      completes
    cases completes with
    | stale | scheduled => exact legal
    | settled =>
        intro key account found
        simp only [setOperation_accounts, releaseSettled] at found
        split at found
        · exact legal key account found
        · rw [release_setDispatchedAttempt_accounts] at found
          exact ceilings_release legal key account found

/-- Alerts name supported thresholds. -/
def SupportedAlerts (db : ModelDatabase) : Prop :=
  ∀ key threshold, (db.alerts.find? (key, threshold)).isSome = true →
    threshold ∈ budgetThresholds

private theorem supportedAlerts_reserve {charge : BudgetCharge}
    {environmentCeiling userCeiling : Nat} {reservation : Int} {billed : Prop}
    (supported : SupportedAlerts db)
    (reserves : ReservationEffect db charge environmentCeiling userCeiling
      reservation billed reserved) : SupportedAlerts reserved := by
  cases reserves with
  | unbilled => exact supported
  | charged _ funded =>
      subst funded
      intro key threshold found
      rcases find?_alerts_reserve.mp found with
        earlier | ⟨_, _, _, named, _⟩
      · exact supported key threshold earlier
      · exact named

theorem supportedAlerts_invariant (dates : DateBuiltins) :
    DatabaseInvariant dates SupportedAlerts where
  initially := by
    intro users key threshold found
    simp at found
  prepared := by
    intro clock request input outcome db db' supported _ prepares
    cases prepares with
    | duplicate => exact supported
    | prepared _ reserves =>
        intro key threshold found
        exact supportedAlerts_reserve supported reserves key threshold found
  restarted := by
    intro clock input outcome db db' supported restarts
    cases restarts with
    | duplicate => exact supported
    | restarted _ _ _ _ _ reserves =>
        intro key threshold found
        exact supportedAlerts_reserve supported reserves key threshold found
  claimed := by
    intro clock workerNow generated operationId outcome db db' supported claims
    cases claims with
    | stored | leased | waiting | expired => exact supported
    | rejected =>
        intro key threshold found
        simp only [setOperation_alerts, release_alerts] at found
        exact supported key threshold found
    | dispatched _ _ _ _ _ passed =>
        obtain ⟨dispatchCounters, rfl⟩ := passed.counted
        exact supported
  completed := by
    intro clock workerNow operationId attempt result completion db db'
      supported completes
    cases completes with
    | stale | scheduled => exact supported
    | settled =>
        intro key threshold found
        simp only [setOperation_alerts, releaseSettled_alerts,
          setDispatchedAttempt_alerts] at found
        exact supported key threshold found

end Tables

section Statements

variable {db : ModelDatabase} {operationId : ModelOperationId}
  {row : ModelOperationRow}

theorem updateOperation_eq_setOperation
    {set : ModelOperationRow → ModelOperationRow}
    (found : db.operations.find? operationId = some row)
    (legal : (set row).accepted = true) :
    db.updateOperation operationId set =
      some (db.setOperation operationId set) := by
  have modified := @Table.modify?_eq_some_iff _ _ _ db.operations
    (db.operations.modify operationId set) ModelOperationRow.accepted
    operationId set
  unfold updateOperation
  rw [modified.mpr ⟨?_, rfl⟩]
  · rfl
  · intro present presentFound
    cases found.symm.trans presentFound
    exact legal

theorem updateDispatchedAttempt_eq_setDispatchedAttempt
    {attemptId : ModelAttemptId} {set : ModelAttemptRow → ModelAttemptRow}
    (legal : ∀ attempt, db.attempts.find? attemptId = some attempt →
      (set attempt).check = true) :
    db.updateDispatchedAttempt attemptId set =
      some (db.setDispatchedAttempt attemptId set) := by
  unfold updateDispatchedAttempt
  rw [Table.updateWhere?_eq_some_iff.mpr ⟨?_, rfl⟩]
  · rfl
  · intro key attempt found selected
    simp only [Bool.and_eq_true, decide_eq_true_eq] at selected
    rw [selected.1] at found
    exact legal attempt found

theorem updateBudgetAccounts_eq_setAccounts {charge : BudgetCharge}
    {set : BudgetAccountRow → BudgetAccountRow}
    (legal : ∀ key account, db.accounts.find? key = some account →
      charge.covers key = true → (set account).check = true) :
    db.updateBudgetAccounts charge set = some (db.setAccounts charge set) := by
  unfold updateBudgetAccounts
  rw [Table.updateWhere?_eq_some_iff.mpr ⟨legal, rfl⟩]
  rfl

theorem insertOperation_ne_none (known : row.userId ∈ db.users)
    (legal : row.accepted = true)
    (absent : db.operations.find? operationId = none) :
    db.insertOperation operationId row ≠ none := by
  have fresh := Table.find?_eq_none_iff.mp absent
  have inserted : db.operations.insert? ModelOperationRow.accepted operationId
      row = some (db.operations.push operationId row fresh) :=
    Table.insert?_eq_some_iff.mpr ⟨legal, fresh, rfl⟩
  simp [insertOperation, known, inserted]

theorem insertAttempt_eq_push {attemptId : ModelAttemptId}
    {attempt : ModelAttemptRow}
    (unused : (db.attempts.select (fun _ other =>
      other.operationId = attempt.operationId &&
        other.attemptOrdinal = attempt.attemptOrdinal)).isEmpty = true)
    (legal : attempt.check = true)
    (fresh : attemptId ∉ db.attempts.rows.map Prod.fst) :
    db.insertAttempt attemptId attempt = some { db with
      attempts := db.attempts.push attemptId attempt fresh } := by
  have inserted : db.attempts.insert? ModelAttemptRow.check attemptId attempt =
      some (db.attempts.push attemptId attempt fresh) :=
    Table.insert?_eq_some_iff.mpr ⟨legal, fresh, rfl⟩
  unfold insertAttempt
  rw [if_pos unused, inserted]
  rfl

private theorem insertBudgetAccounts_found {charge : BudgetCharge}
    {environmentCeiling userCeiling : Nat} (key : BudgetAccountKey)
    (covers : charge.covers key = true) :
    ((db.insertBudgetAccounts charge environmentCeiling
      userCeiling).accounts.find? key).isNone = false := by
  rw [Option.isNone_eq_false_iff]
  refine (Table.find?_insertAllMissing_isSome _ _ _).mpr (.inr ?_)
  rcases BudgetCharge.covers_iff.mp covers with rfl | rfl <;> simp

private theorem insertPrepared_eq_error {clock : DatabaseClock}
    {error : ModelStoreFailure}
    {input : PrepareModelOperationStoreInput}
    (legal : (input.preparedRow clock).accepted = true)
    (unused : db.operations.find? input.operationId = none)
    (failed : db.insertPrepared clock input = .error error) :
    input.userId ∉ db.users := by
  intro known
  rcases bind_eq_error.mp failed with inserting | ⟨_, _, returned⟩
  · exact insertOperation_ne_none known legal unused
      (require_eq_error.mp inserting).1
  · cases returned

private theorem duplicatePrepare_ne_unavailable
    {input : PrepareModelOperationStoreInput} {operation : ModelStoreOperation}
    {answer : Except ModelStoreFailure PrepareModelOperationOutcome}
    (answered : db.duplicatePrepare input = some answer) :
    answer ≠ .error (.persistenceUnavailable operation) := by
  unfold duplicatePrepare at answered
  split at answered
  · cases answered
  · split at answered
    · cases answered
      intro same
      cases same
    · cases answered
      intro same
      cases same

theorem BudgetAccountRow.check_iff {account : BudgetAccountRow} :
    account.check = true ↔ 0 ≤ account.ceilingMicroUsd ∧
      0 ≤ account.reservedMicroUsd ∧ 0 ≤ account.settledMicroUsd := by
  simp [BudgetAccountRow.check, and_assoc]

end Statements

section Users

variable {db db' reserved : ModelDatabase}

/-- Every operation belongs to a known user. -/
def UsersKnown (db : ModelDatabase) : Prop :=
  ∀ operationId row,
    db.operations.find? operationId = some row → row.userId ∈ db.users

private theorem usersKnown_insert {operationId : ModelOperationId}
    {row : ModelOperationRow} {written : ModelDatabase}
    (known : UsersKnown db) (operations : reserved.operations = db.operations)
    (users : reserved.users = db.users)
    (inserted : reserved.insertOperation operationId row = some written) :
    UsersKnown written := by
  obtain ⟨owner, fresh, rfl⟩ := insertOperation_eq_some inserted
  intro other present found
  simp only [Table.find?_push] at found
  split at found
  · cases found
    exact owner
  · rw [operations] at found
    change present.userId ∈ reserved.users
    rw [users]
    exact known other present found

private theorem usersKnown_persist (known : UsersKnown db)
    (terms : ∀ operationId row',
      db'.operations.find? operationId = some row' →
      ∃ row, db.operations.find? operationId = some row ∧
        row'.toModelOperationTerms = row.toModelOperationTerms)
    (users : db'.users = db.users) : UsersKnown db' := by
  intro operationId row' found'
  obtain ⟨row, found, same⟩ := terms operationId row' found'
  rw [users, same]
  exact known operationId row found

private theorem terms_modify (operationId : ModelOperationId)
    (set : ModelOperationRow → ModelOperationRow)
    (operations : db'.operations = db.operations.modify operationId set)
    (kept : ∀ row, (set row).toModelOperationTerms =
      row.toModelOperationTerms) (other : ModelOperationId)
    (row' : ModelOperationRow)
    (found : db'.operations.find? other = some row') :
    ∃ row, db.operations.find? other = some row ∧
      row'.toModelOperationTerms = row.toModelOperationTerms := by
  rw [operations] at found
  rcases Table.find?_modify_cases found with
    ⟨rfl, row, present, rfl⟩ | ⟨_, unmodified⟩
  · exact ⟨row, present, kept row⟩
  · exact ⟨row', unmodified, rfl⟩

private theorem usersKnown_insertPrepared {clock : DatabaseClock}
    {input : PrepareModelOperationStoreInput}
    {outcome : PrepareModelOperationOutcome} {written : ModelDatabase}
    (known : UsersKnown db) (operations : reserved.operations = db.operations)
    (users : reserved.users = db.users)
    (ran : reserved.insertPrepared clock input = .ok (outcome, written)) :
    UsersKnown written := by
  obtain ⟨inserted, statement, rest⟩ := bind_eq_ok.mp ran
  cases rest
  exact usersKnown_insert known operations users (require_eq_ok.mp statement)

private theorem usersKnown_prepare {clock : DatabaseClock}
    {input : PrepareModelOperationStoreInput}
    {outcome : PrepareModelOperationOutcome} (known : UsersKnown db)
    (ran : db.prepare clock input = .ok (outcome, db')) : UsersKnown db' := by
  unfold prepare at ran
  split at ran
  · rename_i answer _
    cases answer with
    | error failure => cases ran
    | ok outcome =>
        cases ran
        exact known
  · split at ran
    · simp only at ran
      split at ran
      · cases ran
      · split at ran
        · rename_i answer _
          cases answer with
          | error failure => cases ran
          | ok outcome =>
              cases ran
              exact known
        · obtain ⟨reserved, reserving, inserted⟩ := bind_eq_ok.mp ran
          obtain ⟨_, _, equal⟩ := reserveBudget_eq_ok reserving
          have operations : reserved.operations = db.operations := by
            rw [equal]
            rfl
          have users : reserved.users = db.users := by
            rw [equal]
            rfl
          exact usersKnown_insertPrepared known operations users inserted
    · exact usersKnown_insertPrepared known rfl rfl ran

private theorem usersKnown_restart {clock : DatabaseClock}
    {input : RestartModelOperationStoreInput}
    {outcome : RestartModelOperationOutcome} (known : UsersKnown db)
    (ran : db.restart clock input = .ok (outcome, db')) : UsersKnown db' := by
  obtain ⟨source, _, ran⟩ := bind_eq_ok.mp ran
  split at ran
  · cases ran
  · split at ran
    · split at ran
      · cases ran
      · cases ran
        exact known
    · split at ran
      · cases ran
      · split at ran
        · cases ran
        · obtain ⟨reserved, reserving, ran⟩ := bind_eq_ok.mp ran
          obtain ⟨written, statement, rest⟩ := bind_eq_ok.mp ran
          have reserves := @reserveRestart_eq_ok clock input db source reserved
            reserving
          cases rest
          exact usersKnown_insert known reserves.operations
            reserves.users (require_eq_ok.mp statement)

private theorem usersKnown_claim {clock : DatabaseClock} {workerNow : Int}
    {generated : ModelAttemptId} {operationId : ModelOperationId}
    {outcome : ClaimModelOperationOutcome} (known : UsersKnown db)
    (claims : ClaimEffect clock workerNow generated operationId db outcome
      db') : UsersKnown db' := by
  cases claims with
  | stored | leased | waiting => exact known
  | expired =>
      exact usersKnown_persist known (terms_modify _
        (ModelOperationRow.expireLease clock) rfl (fun _ => rfl)) rfl
  | @rejected row failure clearsClaim =>
      refine usersKnown_persist known (terms_modify operationId
        (ModelOperationRow.rejectBeforeDispatch clock failure clearsClaim)
        (by simp) (fun _ => rfl)) ?_
      simp only [setOperation_users, release]
      split <;> rfl
  | dispatched _ _ _ _ _ passed =>
      obtain ⟨dispatchCounters, rfl⟩ := passed.counted
      exact usersKnown_persist known (terms_modify _
        (ModelOperationRow.dispatch clock generated) rfl (fun _ => rfl)) rfl

private theorem usersKnown_complete {clock : DatabaseClock} {workerNow : Int}
    {input : CompleteModelOperationInput}
    {completion : ModelOperationCompletion} (known : UsersKnown db)
    (completes : CompleteEffect clock workerNow input db completion db') :
    UsersKnown db' := by
  cases completes with
  | stale => exact known
  | @scheduled _ completion delay =>
      exact usersKnown_persist known (terms_modify _
        (ModelOperationRow.scheduleRetry clock completion delay) rfl
        (fun _ => rfl)) rfl
  | @settled row completion =>
      refine usersKnown_persist known (terms_modify input.operationId
        (ModelOperationRow.settle clock completion input.result
          row.reservedCostMicroUsd (row.settlement completion input.result))
        (by simp) (fun _ => rfl)) ?_
      simp only [setOperation_users, releaseSettled, release]
      split
      · rfl
      · split <;> rfl

theorem reachable_usersKnown {dates : DateBuiltins} {state : ModelState}
    (reached : (modelSystem dates).Reachable state) :
    UsersKnown state.database := by
  refine System.Reachable.invariant
    (I := fun state => UsersKnown state.database) ?_ ?_ reached
  · rintro state ⟨users, rfl⟩ operationId row found
    simp at found
  · intro state action state' _ known taken
    have stepped := modelStep_of_next taken
    change state.next dates action = some state' at taken
    cases action with
    | prepare clock request =>
        simp only [ModelState.next] at taken
        split at taken
        · cases taken
          exact known
        · rename_i input _
          cases Option.some.inj taken
          rcases withTransaction_cases (ModelDatabase.prepare clock input)
            state.database with ⟨_, _, rolledBack⟩ | ⟨_, _, ran, committed⟩
          · rw [rolledBack]
            exact known
          · rw [committed]
            exact usersKnown_prepare known ran
    | restart clock input =>
        cases Option.some.inj taken
        rcases withTransaction_cases (ModelDatabase.restart clock input)
          state.database with ⟨_, _, rolledBack⟩ | ⟨_, _, ran, committed⟩
        · rw [rolledBack]
          exact known
        · rw [committed]
          exact usersKnown_restart known ran
    | claim call operationId clock workerNow generated =>
        cases stepped with
        | unclaimed => exact known
        | claimed _ claims => exact usersKnown_claim known claims
    | respond call result =>
        cases stepped with
        | responded => exact known
    | complete call clock workerNow =>
        cases stepped with
        | uncompleted => exact known
        | completed _ completes => exact usersKnown_complete known completes
    | abandon call =>
        cases stepped with
        | abandoned => exact known

end Users

/-- What the transactions rely on in a reachable state. -/
structure SoundStore (db : ModelDatabase) : Prop where
  storable : ∀ operationId row,
    db.operations.find? operationId = some row → row.storable = true
  columns : ∀ operationId row,
    db.operations.find? operationId = some row → row.LegalColumns
  registered : ∀ operationId row,
    db.operations.find? operationId = some row → row.IsRegistered
  retries : RetriesBounded db
  histories : AttemptHistories db
  ledger : BudgetLedger db
  ceilings : ∀ key account,
    db.accounts.find? key = some account → 0 ≤ account.ceilingMicroUsd
  attempts : ∀ attemptId attempt,
    db.attempts.find? attemptId = some attempt → attempt.check = true
  users : UsersKnown db

namespace SoundStore

variable {db : ModelDatabase} {operationId : ModelOperationId}
  {row : ModelOperationRow} (sound : SoundStore db)

include sound

theorem check (found : db.operations.find? operationId = some row) :
    row.check = true :=
  (sound.columns _ row found).check (sound.retries _ row found)
    (sound.histories.histories _ row found).bounded

/-- The reservation of an unfinished operation is part of its accounts. -/
theorem account_bounds {key : BudgetAccountKey} {account : BudgetAccountRow}
    (found : db.accounts.find? key = some account) :
    0 ≤ account.ceilingMicroUsd ∧ 0 ≤ account.reservedMicroUsd ∧
      0 ≤ account.settledMicroUsd ∧
        ∀ operationId row, db.operations.find? operationId = some row →
          row.chargedTo key = true →
          row.reservedCostMicroUsd ≤ account.reservedMicroUsd := by
  obtain ⟨reserved, settled⟩ := sound.ledger.balanced key account found
  have reservations : ∀ operationId row,
      db.operations.find? operationId = some row →
      0 ≤ if row.chargedTo key then row.reservedCostMicroUsd else 0 := by
    intro operationId row present
    split
    · exact (sound.registered operationId row present).reserved_nonneg
    · exact le_rfl
  refine ⟨sound.ceilings key account found, ?_, ?_, ?_⟩
  · rw [reserved]
    exact Table.sum_nonneg reservations
  · rw [settled]
    refine Table.sum_nonneg ?_
    intro operationId row present
    have costs := (sound.columns operationId row present).costs
    simp only [ModelOperationRow.costsNonnegative, Bool.and_eq_true,
      decide_eq_true_eq] at costs
    split
    · exact costs.2
    · exact le_rfl
  · intro operationId row present charged
    have part := Table.le_sum reservations present
    rw [if_pos charged] at part
    rw [reserved]
    exact part

theorem account_check {key : BudgetAccountKey} {account : BudgetAccountRow}
    (found : db.accounts.find? key = some account) : account.check = true := by
  obtain ⟨ceiling, reserved, settled, _⟩ := sound.account_bounds found
  exact BudgetAccountRow.check_iff.mpr ⟨ceiling, reserved, settled⟩

/-- Releasing a reservation leaves no account negative. -/
theorem releaseReservation_eq_release {settlement : Int}
    (attempts : Table ModelAttemptId ModelAttemptRow)
    (found : db.operations.find? operationId = some row)
    (nonneg : 0 ≤ settlement) :
    ({ db with attempts := attempts } : ModelDatabase).releaseReservation row
        settlement =
      some (({ db with attempts := attempts } : ModelDatabase).release row
        settlement) := by
  unfold releaseReservation release
  split
  · rfl
  · rename_i charged
    rw [not_or] at charged
    refine updateBudgetAccounts_eq_setAccounts ?_
    intro key account accountFound covered
    have openai : row.provider = .openai := by
      cases provider : row.provider with
      | deterministic => exact (charged.1 provider).elim
      | openai => rfl
    obtain ⟨ceiling, _, settled, parts⟩ := sound.account_bounds accountFound
    have part := parts operationId row found
      (by simp [ModelOperationRow.chargedTo, openai, covered])
    refine BudgetAccountRow.check_iff.mpr ⟨ceiling, ?_, ?_⟩
    · dsimp only
      omega
    · dsimp only
      omega

private theorem written_accepted {set : ModelOperationRow → ModelOperationRow}
    (found : db.operations.find? operationId = some row)
    (columns : (set row).LegalColumns)
    (terms : (set row).toModelOperationTerms = row.toModelOperationTerms)
    (retries : (set row).transientRateLimitRetriesUsed =
      row.transientRateLimitRetriesUsed)
    (dispatches : (set row).httpDispatchCount = row.httpDispatchCount)
    (same : (set row).storable = row.storable) :
    (set row).accepted = true := by
  refine ModelOperationRow.accepted_iff.mpr
    ⟨same.trans (sound.storable _ row found), columns.check ?_ ?_⟩
  · rw [retries, terms]
    exact sound.retries _ row found
  · rw [dispatches, terms]
    exact (sound.histories.histories _ row found).bounded

private theorem ordinal_unused
    (found : db.operations.find? operationId = some row) :
    (db.attempts.select (fun _ other => other.operationId = operationId &&
      other.attemptOrdinal = row.httpDispatchCount + 1)).isEmpty = true := by
  refine Table.select_isEmpty_iff.mpr ?_
  intro attemptId attempt present
  by_contra selected
  simp only [Bool.not_eq_false, Bool.and_eq_true, decide_eq_true_eq]
    at selected
  have member : (attemptId, attempt) ∈ db.attemptsOf operationId :=
    Table.mem_select.mpr ⟨present, decide_eq_true selected.1⟩
  have ordinals := (sound.histories.histories _ row found).ordinals
  have ordinal : attempt.attemptOrdinal ∈
      List.range' 1 row.httpDispatchCount := by
    rw [← ordinals]
    exact List.mem_map.mpr ⟨_, member, rfl⟩
  rw [List.mem_range'_1] at ordinal
  omega

section Claim

variable (dates : DateBuiltins) {clock : DatabaseClock} {workerNow : Int}
  {generated : ModelAttemptId}

include dates

private theorem rejectBeforeDispatch_ne_error {failure : ObservedFailure}
    {clearsClaim : Bool} {error : ModelStoreFailure}
    (found : db.operations.find? operationId = some row)
    (active : row.status = .prepared ∨ row.status = .retryScheduled) :
    db.rejectBeforeDispatch clock operationId row failure clearsClaim ≠
      .error error := by
  have columns : (row.rejectBeforeDispatch clock failure
      clearsClaim).LegalColumns :=
    (legalColumns_invariant dates).rejected (sound.columns _ row found) active
  have updated := @updateOperation_eq_setOperation (db.release row 0)
    operationId row
    (ModelOperationRow.rejectBeforeDispatch clock failure clearsClaim)
    (by rw [release_operations]; exact found)
    (sound.written_accepted found columns rfl rfl rfl rfl)
  unfold rejectBeforeDispatch
  rw [sound.releaseReservation_eq_release db.attempts found le_rfl]
  change (require _ (updateOperation _ operationId _) >>= _) ≠ _
  rw [updated]
  intro failed
  cases failed

private theorem expireLease_ne_none {attemptId : ModelAttemptId}
    (found : db.operations.find? operationId = some row)
    (dispatched : row.status = .dispatched) :
    db.expireLease clock operationId attemptId ≠ none := by
  have columns : (row.expireLease clock).LegalColumns :=
    (legalColumns_invariant dates).expired (sound.columns _ row found)
      dispatched
  have answered := @updateDispatchedAttempt_eq_setDispatchedAttempt db
    attemptId (ModelAttemptRow.expireLease clock)
    (fun attempt present => expireLease_check (sound.attempts _ _ present))
  have updated := @updateOperation_eq_setOperation
    (db.setDispatchedAttempt attemptId (ModelAttemptRow.expireLease clock))
    operationId row (ModelOperationRow.expireLease clock) found
    (sound.written_accepted found columns rfl rfl rfl rfl)
  simp only [expireLease, answered, Option.bind_eq_bind, Option.bind_some,
    updated]
  intro failed
  cases failed

private theorem dispatchAttempt_eq_error {counters} {error : ModelStoreFailure}
    (found : db.operations.find? operationId = some row)
    (active : row.status = .prepared ∨ row.status = .retryScheduled)
    (remaining : row.httpDispatchCount < row.maximumHttpDispatches)
    (failed : ({ db with dispatchCounters := counters } :
      ModelDatabase).dispatchAttempt clock operationId row generated =
        .error error) :
    (db.attempts.find? generated).isSome = true := by
  by_contra unused
  have absent : db.attempts.find? generated = none := by simpa using unused
  have fresh := Table.find?_eq_none_iff.mp absent
  have inserted := @insertAttempt_eq_push
    { db with dispatchCounters := counters } generated
    (row.dispatchedAttempt clock operationId) (sound.ordinal_unused found)
    dispatchedAttempt_check fresh
  have columns : (row.dispatch clock generated).LegalColumns :=
    (legalColumns_invariant dates).dispatched (sound.columns _ row found)
      active
  have legal : (row.dispatch clock generated).accepted = true :=
    ModelOperationRow.accepted_iff.mpr ⟨sound.storable _ row found,
      columns.check (sound.retries _ row found) remaining⟩
  have updated := @updateOperation_eq_setOperation
    { db with
      dispatchCounters := counters
      attempts := db.attempts.push generated
        (row.dispatchedAttempt clock operationId) fresh }
    operationId row (ModelOperationRow.dispatch clock generated) found legal
  rw [dispatchAttempt, inserted] at failed
  change (require _ (updateOperation _ operationId _) >>= _) = _ at failed
  rw [updated] at failed
  cases failed

private theorem claimReady_eq_error {error : ModelStoreFailure}
    (found : db.operations.find? operationId = some row)
    (active : row.status = .prepared ∨ row.status = .retryScheduled)
    (failed : db.claimReady clock operationId row generated = .error error) :
    (db.attempts.find? generated).isSome = true := by
  unfold claimReady at failed
  split at failed
  · exact (sound.rejectBeforeDispatch_ne_error dates found active failed).elim
  · split at failed
    · exact (sound.rejectBeforeDispatch_ne_error dates found active
        failed).elim
    · rename_i remaining
      rw [Nat.not_le] at remaining
      split at failed
      · rename_i openai
        have charged : row.chargedTo row.charge.environmentAccount = true := by
          simp [ModelOperationRow.chargedTo, openai]
        obtain ⟨account, funded⟩ := sound.ledger.funded _ row _ found charged
        rw [funded] at failed
        simp only at failed
        split at failed
        · exact (sound.rejectBeforeDispatch_ne_error dates found active
            failed).elim
        · split at failed
          · exact (sound.rejectBeforeDispatch_ne_error dates found active
              failed).elim
          · rename_i counted taken
            obtain ⟨⟨counters, rfl⟩, _⟩ := takeDailyDispatch_eq_some taken
            exact sound.dispatchAttempt_eq_error dates found active remaining
              failed
      · exact sound.dispatchAttempt_eq_error dates found active remaining
          failed

/-- A claim fails only for an unknown operation or a used identifier. -/
theorem claim_eq_error {error : ModelStoreFailure}
    (failed : db.claim clock operationId workerNow generated =
      .error error) :
    (error = .notFound operationId ∧
        db.operations.find? operationId = none) ∨
      (db.attempts.find? generated).isSome = true := by
  unfold claim at failed
  rcases bind_eq_error.mp failed with unread | ⟨row, read, failed⟩
  · obtain ⟨absent, named⟩ := require_eq_error.mp unread
    exact .inl ⟨named.symm, absent⟩
  · right
    have found := require_eq_ok.mp read
    have columns := sound.columns _ row found
    dsimp only at failed
    split at failed
    · rename_i terminal
      obtain ⟨disposition, disposed, _⟩ := columns.disposed terminal
      simp only [ModelOperationRow.toCompletion, disposed] at failed
      cases failed
    · rename_i unfinished
      split at failed
      · rename_i dispatched
        have claim := columns.claim
        simp only [ModelOperationRow.claimComplete, dispatched, if_true,
          Bool.and_eq_true] at claim
        obtain ⟨attemptId, current⟩ := Option.isSome_iff_exists.mp claim.1
        obtain ⟨leaseUntil, lease⟩ := Option.isSome_iff_exists.mp claim.2
        rw [current, lease] at failed
        simp only at failed
        split at failed
        · cases failed
        · rcases bind_eq_error.mp failed with expiring | ⟨_, _, answered⟩
          · exact (sound.expireLease_ne_none dates found dispatched
              (require_eq_error.mp expiring).1).elim
          · cases answered
      · rename_i undispatched
        have active := ModelOperationStatus.active_of_undispatched
          (Bool.not_eq_true _ ▸ unfinished) undispatched
        split at failed
        · cases failed
        · exact sound.claimReady_eq_error dates found active failed

end Claim

section Complete

variable (dates : DateBuiltins) {clock : DatabaseClock} {workerNow : Int}
  {claimed : ClaimedModelAttempt} {result : ModelGatewayResult}

include dates

private theorem scheduleRetry_accepted {delay : Int}
    (granted : AttemptGranted db operationId claimed)
    (found : db.operations.find? operationId = some row)
    (dispatched : row.status = .dispatched)
    (current : row.currentAttemptId = some claimed.attemptId)
    (planned : (row.effectiveCompletion clock
      (submittedCompletion dates claimed result)).retryPlan =
        .scheduleTransientRateLimit delay) :
    (row.scheduleRetry clock (row.effectiveCompletion clock
      (submittedCompletion dates claimed result)) delay).accepted = true := by
  have columns : (row.scheduleRetry clock (row.effectiveCompletion clock
      (submittedCompletion dates claimed result)) delay).LegalColumns :=
    (legalColumns_invariant dates).scheduled (sound.columns _ row found)
      dispatched
  exact ModelOperationRow.accepted_iff.mpr ⟨sound.storable _ row found,
    columns.check (granted.retry_remaining sound.histories found dispatched
      current planned) (sound.histories.histories _ row found).bounded⟩

omit dates in
private theorem settle_check_iff {completion : ModelOperationCompletion}
    (found : db.operations.find? operationId = some row) :
    (row.settle clock completion result.toOption row.reservedCostMicroUsd
        (row.settlement completion result.toOption)).check = true ↔
      (row.settle clock completion result.toOption row.reservedCostMicroUsd
        (row.settlement completion result.toOption)).terminalComplete =
          true := by
  constructor
  · exact ModelOperationRow.terminalComplete_of_check
  · intro terminal
    exact ((sound.columns _ row found).settle terminal).check
      (sound.retries _ row found)
      (sound.histories.histories _ row found).bounded

/-- Of the constraints on the row that a completion writes, only the one on the
result can fail, and it fails for an output that is bound as `NULL`. -/
theorem completed_check_iff
    (granted : AttemptGranted db operationId claimed)
    (found : db.operations.find? operationId = some row)
    (dispatched : row.status = .dispatched)
    (current : row.currentAttemptId = some claimed.attemptId) :
    (row.completed dates clock claimed result).check = true ↔
      result.isNull = false := by
  unfold ModelOperationRow.completed
  dsimp only
  split
  · rename_i delay planned
    have accepted := sound.scheduleRetry_accepted dates granted found
      dispatched current planned
    refine iff_of_true (ModelOperationRow.accepted_iff.mp accepted).2 ?_
    obtain ⟨_, asking, _⟩ := effectiveCompletion_schedules planned
    exact isNull_of_schedules asking
  · rw [sound.settle_check_iff found,
      ModelOperationRow.settle_terminalComplete, effectiveCompletion_disposition]
    exact submittedCompletion_bound_iff

private theorem settle_eq_error {error : ModelStoreFailure}
    {attempts : Table ModelAttemptId ModelAttemptRow}
    {completion : ModelOperationCompletion}
    (found : db.operations.find? operationId = some row)
    (failed : ({ db with attempts := attempts } : ModelDatabase).settle clock
      (completeInput dates operationId claimed result) row completion =
        .error error) :
    error = .persistenceUnavailable .complete ∧
      (row.settle clock completion result.toOption row.reservedCostMicroUsd
        (row.settlement completion result.toOption)).accepted = false := by
  rcases bind_eq_error.mp failed with releasing | ⟨released, releasing, rest⟩
  · have unreleased := (require_eq_error.mp releasing).1
    split at unreleased
    · cases unreleased
    · rw [sound.releaseReservation_eq_release attempts found
        (settlement_nonneg (sound.columns _ row found).costs)] at unreleased
      cases unreleased
  · have operations : released.operations = db.operations := by
      have statement := require_eq_ok.mp releasing
      split at statement
      · cases statement
        rfl
      · rw [releaseReservation_eq_some statement, release_operations]
    rcases bind_eq_error.mp rest with updating | ⟨_, _, returned⟩
    · obtain ⟨unset, unavailable⟩ := require_eq_error.mp updating
      refine ⟨unavailable.symm, ?_⟩
      by_contra accepted
      rw [Bool.not_eq_false] at accepted
      have updated := @updateOperation_eq_setOperation released operationId row
        (ModelOperationRow.settle clock completion result.toOption
          row.reservedCostMicroUsd (row.settlement completion result.toOption))
        (by rw [operations]; exact found) accepted
      rw [completeInput] at unset
      rw [updated] at unset
      cases unset
    · cases returned

private theorem complete_eq_error {error : ModelStoreFailure}
    (granted : AttemptGranted db operationId claimed)
    (found : db.operations.find? operationId = some row)
    (failed : db.complete clock (completeInput dates operationId claimed
      result) workerNow = .error error) :
    error = .persistenceUnavailable .complete ∧
      ((row.status.isTerminal = false ∧
          (row.status ≠ .dispatched ∨
            row.currentAttemptId ≠ some claimed.attemptId)) ∨
        (row.status = .dispatched ∧
          row.currentAttemptId = some claimed.attemptId ∧
            (row.completed dates clock claimed result).accepted = false)) := by
  have columns := sound.columns _ row found
  unfold complete readOperationForUpdate at failed
  change (require _ (db.operations.find? operationId) >>= _) = _ at failed
  rw [found] at failed
  change (if row.status ≠ .dispatched ∨
    row.currentAttemptId ≠ some claimed.attemptId then _ else _) = _ at failed
  split at failed
  · rename_i stale
    split at failed
    · rename_i terminal
      obtain ⟨disposition, disposed, _⟩ := columns.disposed terminal
      simp only [ModelOperationRow.toCompletion, disposed] at failed
      cases failed
    · rename_i unfinished
      cases failed
      exact ⟨rfl, .inl ⟨by simpa using unfinished, stale⟩⟩
  · rename_i current
    simp only [not_or, not_not] at current
    have answers := @updateDispatchedAttempt_eq_setDispatchedAttempt db
      claimed.attemptId (ModelAttemptRow.complete clock
        (row.effectiveCompletion clock
          (submittedCompletion dates claimed result)) result.toOption)
      (fun attempt present => complete_check (sound.attempts _ _ present))
    rcases bind_eq_error.mp failed with answering | ⟨answered, answering, rest⟩
    · cases answers.symm.trans (require_eq_error.mp answering).1
    · cases answers.symm.trans (require_eq_ok.mp answering)
      split at rest
      · rename_i delay planned
        have updated := @updateOperation_eq_setOperation
          (db.setDispatchedAttempt claimed.attemptId (ModelAttemptRow.complete
            clock (row.effectiveCompletion clock
              (submittedCompletion dates claimed result)) result.toOption))
          operationId row _ found (sound.scheduleRetry_accepted dates granted
            found current.1 current.2 planned)
        rcases bind_eq_error.mp rest with updating | ⟨_, _, returned⟩
        · cases updated.symm.trans (require_eq_error.mp updating).1
        · cases returned
      · rename_i unplanned
        obtain ⟨unavailable, refused⟩ :=
          sound.settle_eq_error dates found rest
        refine ⟨unavailable, .inr ⟨current.1, current.2, ?_⟩⟩
        unfold ModelOperationRow.completed
        change (row.effectiveCompletion clock
          (submittedCompletion dates claimed result)).retryPlan = .none
          at unplanned
        dsimp only
        rw [unplanned]
        exact refused

private theorem completed_accepted {completion : ModelOperationCompletion}
    {db' : ModelDatabase}
    (granted : AttemptGranted db operationId claimed)
    (found : db.operations.find? operationId = some row)
    (dispatched : row.status = .dispatched)
    (current : row.currentAttemptId = some claimed.attemptId)
    (completes : CompleteEffect clock workerNow
      (completeInput dates operationId claimed result) db completion db') :
    (row.completed dates clock claimed result).accepted = true := by
  unfold ModelOperationRow.completed
  dsimp only
  cases completes with
  | stale present stale =>
      cases Option.some.inj (found.symm.trans present)
      rcases stale with undispatched | superseded
      · exact (undispatched dispatched).elim
      · exact (superseded current).elim
  | scheduled present _ _ effective planned =>
      cases Option.some.inj (found.symm.trans present)
      subst effective
      have accepted := sound.scheduleRetry_accepted dates granted found
        dispatched current planned
      change (row.effectiveCompletion clock
        (submittedCompletion dates claimed result)).retryPlan = _ at planned
      rw [planned]
      exact accepted
  | settled present _ _ effective unplanned accepted =>
      cases Option.some.inj (found.symm.trans present)
      subst effective
      change (row.effectiveCompletion clock
        (submittedCompletion dates claimed result)).retryPlan = _ at unplanned
      rw [unplanned]
      exact accepted

/-- A completion of a granted attempt fails when the attempt is no longer
current and its operation is not terminal, or when the row that it writes is
not accepted. -/
theorem complete_eq_error_iff {error : ModelStoreFailure}
    (granted : AttemptGranted db operationId claimed)
    (found : db.operations.find? operationId = some row) :
    db.complete clock (completeInput dates operationId claimed result)
        workerNow = .error error ↔
      error = .persistenceUnavailable .complete ∧
        ((row.status.isTerminal = false ∧
            (row.status ≠ .dispatched ∨
              row.currentAttemptId ≠ some claimed.attemptId)) ∨
          (row.status = .dispatched ∧
            row.currentAttemptId = some claimed.attemptId ∧
              (row.completed dates clock claimed result).accepted =
                false)) := by
  constructor
  · exact sound.complete_eq_error dates granted found
  · rintro ⟨rfl, reason⟩
    cases completed : db.complete clock
      (completeInput dates operationId claimed result) workerNow with
    | error failure =>
        rw [(sound.complete_eq_error dates granted found completed).1]
    | ok answer =>
        exfalso
        obtain ⟨completion, db'⟩ := answer
        have completes := complete_eq_ok completed
        rcases reason with ⟨unfinished, stale⟩ | ⟨dispatched, current, refused⟩
        · cases completes with
          | stale present _ terminal =>
              cases Option.some.inj (found.symm.trans present)
              rw [unfinished] at terminal
              cases terminal
          | scheduled present dispatched current =>
              cases Option.some.inj (found.symm.trans present)
              exact stale.elim (absurd dispatched) (absurd current)
          | settled present dispatched current =>
              cases Option.some.inj (found.symm.trans present)
              exact stale.elim (absurd dispatched) (absurd current)
        · have accepted := sound.completed_accepted dates granted found
            dispatched current completes
          rw [refused] at accepted
          cases accepted

end Complete

section Reservations

variable {clock : DatabaseClock} {charge : BudgetCharge}
  {environmentCeiling userCeiling : Nat} {reservation : Int}

private theorem reserveBudget_ne_unavailable
    {operation failed : ModelStoreOperation} (nonneg : 0 ≤ reservation) :
    (db.insertBudgetAccounts charge environmentCeiling
      userCeiling).reserveBudget charge reservation operation ≠
        .error (.persistenceUnavailable failed) := by
  have reserved := @updateBudgetAccounts_eq_setAccounts
    (db.insertBudgetAccounts charge environmentCeiling userCeiling) charge
    (fun account =>
      { account with
        reservedMicroUsd := account.reservedMicroUsd + reservation }) (by
    intro key account found _
    refine BudgetAccountRow.check_iff.mpr ?_
    rcases find?_insertBudgetAccounts found with
      present | ⟨_, _, unreserved, unsettled, ceiling⟩
    · obtain ⟨ceiling, reserved, settled, _⟩ := sound.account_bounds present
      exact ⟨ceiling, by dsimp only; omega, settled⟩
    · exact ⟨ceiling, by dsimp only; omega, by dsimp only; omega⟩)
  intro error
  unfold reserveBudget at error
  rw [reserved] at error
  split at error
  · cases error
  · split at error
    · cases error
    · split at error
      · cases error
      · split at error
        · cases error
        · split at error
          · cases error
          · cases error

/-- A request of a known user is refused by its identifier, by the budgets or
for a text that the input column does not take. -/
theorem prepare_eq_error
    {request : PrepareModelOperationRequest}
    {input : PrepareModelOperationStoreInput}
    {operation : ModelStoreOperation}
    (accepted : request.storeInput = .ok input)
    (failed : db.prepare clock input =
      .error (.persistenceUnavailable operation)) :
    input.userId ∉ db.users ∨ isText input.canonicalInput = false := by
  rw [or_iff_not_imp_right, Bool.not_eq_false]
  intro text
  have storable : (input.preparedRow clock).storable = true := by
    simp [ModelOperationRow.storable, text,
      PrepareModelOperationStoreInput.preparedRow]
  have legal : (input.preparedRow clock).accepted = true :=
    ModelOperationRow.accepted_iff.mpr ⟨storable,
      (preparedRow_legalColumns accepted).check (Nat.zero_le _)
        (Nat.zero_le _)⟩
  unfold prepare at failed
  cases looked : db.duplicatePrepare input with
  | some answer =>
      rw [looked] at failed
      cases answer with
      | ok outcome => cases failed
      | error failure =>
          cases failed
          exact (duplicatePrepare_ne_unavailable looked rfl).elim
  | none =>
      rw [looked] at failed
      have unused : db.operations.find? input.operationId = none := by
        unfold duplicatePrepare at looked
        split at looked
        · assumption
        · split at looked <;> cases looked
      simp only at failed
      split at failed
      · rw [insertBudgetAccounts_found _ (BudgetCharge.covers_environmentAccount
            _), insertBudgetAccounts_found _ (BudgetCharge.covers_userAccount
            _)] at failed
        simp only [Bool.or_self, Bool.false_eq_true, if_false] at failed
        split at failed
        · rename_i answer answered
          cases looked.symm.trans answered
        · rcases bind_eq_error.mp failed with
            reserving | ⟨reserved, reserving, inserting⟩
          · exact (sound.reserveBudget_ne_unavailable
              (Int.natCast_nonneg _) reserving).elim
          · obtain ⟨_, _, rfl⟩ := reserveBudget_eq_ok reserving
            have unknown := insertPrepared_eq_error legal (by exact unused)
              inserting
            exact unknown
      · exact insertPrepared_eq_error legal unused failed

theorem restart_ne_unavailable (dates : DateBuiltins)
    {input : RestartModelOperationStoreInput}
    {operation : ModelStoreOperation} :
    db.restart clock input ≠ .error (.persistenceUnavailable operation) := by
  intro failed
  rcases bind_eq_error.mp failed with unread | ⟨source, read, failed⟩
  · cases (require_eq_error.mp unread).2
  · have found := require_eq_ok.mp read
    split at failed
    · cases failed
    · split at failed
      · split at failed
        · cases failed
        · cases failed
      · rename_i absent
        split at failed
        · cases failed
        · rename_i unknown
          rw [not_not] at unknown
          split at failed
          · cases failed
          · rcases bind_eq_error.mp failed with
              reserving | ⟨reserved, reserving, failed⟩
            · unfold reserveRestart at reserving
              simp only at reserving
              split at reserving
              · rename_i billed
                exact sound.reserveBudget_ne_unavailable billed.2.le reserving
              · cases reserving
            · have reserves := @reserveRestart_eq_ok clock input db source
                reserved reserving
              have columns : (source.restartedRow clock
                  input.sourceOperationId
                  source.reservedCostMicroUsd).LegalColumns :=
                (legalColumns_invariant dates).restarted
                  (sound.columns _ source found) unknown
              rcases bind_eq_error.mp failed with
                inserting | ⟨_, _, returned⟩
              · refine insertOperation_ne_none ?_ ?_ ?_
                  (require_eq_error.mp inserting).1
                · rw [reserves.users]
                  exact sound.users _ source found
                · exact ModelOperationRow.accepted_iff.mpr
                    ⟨restartedRow_storable (sound.storable _ source found),
                      columns.check (Nat.zero_le _) (Nat.zero_le _)⟩
                · rw [reserves.operations]
                  exact absent
              · cases returned

end Reservations

end SoundStore

section Runs

variable {dates : DateBuiltins} {state : ModelState}

theorem reachable_soundStore (reached : (modelSystem dates).Reachable state) :
    SoundStore state.database where
  storable := (storable_invariant dates).database.holds reached
  columns := (legalColumns_invariant dates).database.holds reached
  registered := (isRegistered_invariant dates).database.holds reached
  retries := reachable_retriesBounded reached
  histories := (attemptHistories_invariant dates).holds reached
  ledger := ((budgetLedger_invariant dates).holds reached).2
  ceilings := (ceilings_nonneg_invariant dates).holds reached
  attempts := (attempts_check_invariant dates).holds reached
  users := reachable_usersKnown reached

theorem reachable_legalRows (reached : (modelSystem dates).Reachable state) :
    LegalRows state.database where
  operations := fun _ _ found => (reachable_soundStore reached).check found
  attempts := (reachable_soundStore reached).attempts
  accounts := fun _ _ found =>
    (reachable_soundStore reached).account_check found
  alerts := (supportedAlerts_invariant dates).holds reached
  counters := ((dailyCounts_invariant dates).holds reached).2.2.positive

theorem FinalRowsPersist.trans {first second third : ModelDatabase}
    (earlier : FinalRowsPersist first second)
    (later : FinalRowsPersist second third) : FinalRowsPersist first third where
  operations := fun _ _ found terminal =>
    later.operations _ _ (earlier.operations _ _ found terminal) terminal
  attempts := fun _ _ found completed =>
    later.attempts _ _ (earlier.attempts _ _ found completed) completed

theorem run_finalRowsPersist {labels : List ModelAction} {state' : ModelState}
    (reached : (modelSystem dates).Reachable state)
    (ran : (modelSystem dates).run state labels = some state') :
    FinalRowsPersist state.database state'.database := by
  refine System.run_preserves
    (I := fun later => FinalRowsPersist state.database later.database)
    ?_ reached (.refl _) ran
  intro middle action last _ persist taken
  exact persist.trans (modelStep_of_next taken).finalRowsPersist

/-- A completion of an attempt that is no longer current. -/
theorem complete_stale {clock : DatabaseClock} {workerNow : Int}
    {input : CompleteModelOperationInput} {row : ModelOperationRow}
    (reached : (modelSystem dates).Reachable state)
    (found : state.database.operations.find? input.operationId = some row)
    (stale : row.status ≠ .dispatched ∨
      row.currentAttemptId ≠ some input.attemptId) :
    (row.status.isTerminal = true → ∃ completion,
      state.database.complete clock input workerNow =
          .ok (completion, state.database) ∧
        row.completionDisposition = some completion.disposition ∧
          row.observedFailure = completion.observedFailure ∧
            completion.retryPlan = .none) ∧
      (row.status.isTerminal = false →
        state.database.complete clock input workerNow =
          .error (.persistenceUnavailable .complete)) := by
  have answered : state.database.complete clock input workerNow =
      if row.status.isTerminal = true then
        row.toCompletion workerNow >>= fun completion =>
          pure (completion, state.database)
      else .error (.persistenceUnavailable .complete) := by
    unfold complete readOperationForUpdate
    rw [found]
    exact if_pos stale
  constructor
  · intro terminal
    obtain ⟨disposition, disposed, _⟩ :=
      ((reachable_soundStore reached).columns _ row found).disposed terminal
    have unplanned := (terminal_unplanned dates).database.holds reached _ row
      found terminal
    rw [answered, if_pos terminal]
    simp only [ModelOperationRow.toCompletion, disposed]
    refine ⟨_, rfl, rfl, rfl, ?_⟩
    simp [unplanned, toRetryPlan]
  · intro unfinished
    rw [answered, if_neg (by simp [unfinished])]

/-- A call is about to complete the current attempt of a dispatched operation. -/
structure CompletesAttempt (state : ModelState) (call : CallId)
    (operationId : ModelOperationId) (attempt : ClaimedModelAttempt)
    (result : ModelGatewayResult) (row : ModelOperationRow) : Prop where
  waiting : state.calls.find? call =
    some ⟨operationId, .responded attempt result⟩
  found : state.database.operations.find? operationId = some row
  dispatched : row.status = .dispatched
  current : row.currentAttemptId = some attempt.attemptId

/-- Beside a refused row of a completion, the four transactions fail for the
reasons of the program only: an unknown user, a text that no column takes, an
identifier that was used before, or an attempt that is no longer current. -/
structure WritesLegal (dates : DateBuiltins) (state : ModelState) : Prop where
  prepare : ∀ clock request input operation,
    PrepareModelOperationRequest.storeInput request = .ok input →
    state.database.prepare clock input =
      .error (.persistenceUnavailable operation) →
    input.userId ∉ state.database.users ∨ isText input.canonicalInput = false
  claim : ∀ clock operationId workerNow generated failure,
    state.database.claim clock operationId workerNow generated =
      .error failure →
    (failure = .notFound operationId ∧
        state.database.operations.find? operationId = none) ∨
      (state.database.attempts.find? generated).isSome = true
  complete : ∀ call operationId attempt result row clock workerNow failure,
    state.calls.find? call = some ⟨operationId, .responded attempt result⟩ →
    state.database.operations.find? operationId = some row →
    (state.database.complete clock
        (completeInput dates operationId attempt result) workerNow =
          .error failure ↔
      failure = .persistenceUnavailable .complete ∧
        ((row.status.isTerminal = false ∧
            (row.status ≠ .dispatched ∨
              row.currentAttemptId ≠ some attempt.attemptId)) ∨
          (row.status = .dispatched ∧
            row.currentAttemptId = some attempt.attemptId ∧
              (row.completed dates clock attempt result).accepted = false)))
  restart : ∀ clock input operation,
    state.database.restart clock input ≠
      .error (.persistenceUnavailable operation)

/-- A caller whose output schema admits `null` is answered with it. -/
def nullRun : List ModelAction :=
  [.prepare (sampleClock 0) sampleRequest,
    .claim 0 sampleOperation (sampleClock 10) 10 ⟨3⟩,
    .respond 0 (.ok { sampleSuccess 100 with output := .null })]

/-- The completion of call 0 violates a constraint. -/
private def violates (state : ModelState) : Bool :=
  match state.calls.find? 0 with
  | some ⟨operationId, .responded attempt result⟩ =>
      (state.database.operations.find? operationId).any (fun row =>
        row.status = .dispatched &&
          row.currentAttemptId = some attempt.attemptId &&
            !(row.completed sampleDates (sampleClock 100) attempt
              result).check)
  | _ => false

end Runs

end XpensGo
