import XpensGo.Model.BudgetAccounts

/-!
# Conservation of the budgets

The reserved and settled amounts of an account are the sums of the amounts of
the operations charged to it.  Every transaction moves both sides by the same
amount.
-/

namespace XpensGo

open EcmaScript Postgres Relational Transition

namespace ModelDatabase

/-- Reservations of the operations charged to an account. -/
def reservedFor (db : ModelDatabase) (key : BudgetAccountKey) : Int :=
  db.operations.sum (fun _ row =>
    if row.chargedTo key then row.reservedCostMicroUsd else 0)

/-- Settled spend of the operations charged to an account. -/
def settledFor (db : ModelDatabase) (key : BudgetAccountKey) : Int :=
  db.operations.sum (fun _ row =>
    if row.chargedTo key then row.settledCostMicroUsd else 0)

/-- Every charged operation has its accounts, and every account holds the sums
of its operations. -/
structure BudgetLedger (db : ModelDatabase) : Prop where
  funded : ∀ operationId row key,
    db.operations.find? operationId = some row → row.chargedTo key = true →
    ∃ account, db.accounts.find? key = some account
  balanced : ∀ key account, db.accounts.find? key = some account →
    account.reservedMicroUsd = db.reservedFor key ∧
      account.settledMicroUsd = db.settledFor key

variable {db db' reserved : ModelDatabase} {operationId : ModelOperationId}
  {row : ModelOperationRow}

theorem BudgetLedger.unfunded (ledger : BudgetLedger db)
    {key : BudgetAccountKey} (absent : db.accounts.find? key = none) :
    db.reservedFor key = 0 ∧ db.settledFor key = 0 := by
  have uncharged : ∀ operationId row,
      db.operations.find? operationId = some row →
      row.chargedTo key = false := by
    intro operationId row found
    cases charged : row.chargedTo key with
    | false => rfl
    | true =>
        obtain ⟨account, present⟩ :=
          ledger.funded operationId row key found charged
        rw [absent] at present
        cases present
  constructor
  · refine Table.sum_eq_zero ?_
    intro operationId row found
    simp [uncharged operationId row found]
  · refine Table.sum_eq_zero ?_
    intro operationId row found
    simp [uncharged operationId row found]

private theorem chargedTo_eq_covers (openai : row.provider = .openai)
    (key : BudgetAccountKey) : row.chargedTo key = row.charge.covers key := by
  simp [ModelOperationRow.chargedTo, openai]

/-- The accounts after a reservation, against the sums before it. -/
theorem BudgetLedger.reserved_balanced (ledger : BudgetLedger db)
    {environmentCeiling userCeiling : Nat} {key : BudgetAccountKey}
    {charge : BudgetCharge} {reservation : Int} {account : BudgetAccountRow}
    (found : ((db.insertBudgetAccounts charge environmentCeiling
      userCeiling).reserve charge reservation).accounts.find? key =
        some account) :
    account.reservedMicroUsd = db.reservedFor key +
        (if charge.covers key then reservation else 0) ∧
      account.settledMicroUsd = db.settledFor key := by
  rw [find?_reserve, Option.map_eq_some_iff] at found
  obtain ⟨earlier, earlierFound, rfl⟩ := found
  simp only [reservedAccount_reservedMicroUsd, reservedAccount_settledMicroUsd]
  rcases find?_insertBudgetAccounts earlierFound with
    present | ⟨absent, _, unreserved, unsettled, _⟩
  · obtain ⟨reservedEq, settledEq⟩ := ledger.balanced key earlier present
    rw [reservedEq, settledEq]
    exact ⟨rfl, rfl⟩
  · obtain ⟨reservedEq, settledEq⟩ := ledger.unfunded absent
    rw [unreserved, unsettled, reservedEq, settledEq]
    exact ⟨rfl, rfl⟩

/-- A new operation is charged what it reserves. -/
theorem BudgetLedger.insert (ledger : BudgetLedger db)
    {environmentCeiling userCeiling : Nat} {billed : Prop}
    (billedIff : billed ↔ row.provider = .openai)
    (unsettled : row.settledCostMicroUsd = 0)
    (fresh : operationId ∉ reserved.operations.rows.map Prod.fst)
    (reserves : ReservationEffect db row.charge environmentCeiling userCeiling
      row.reservedCostMicroUsd billed reserved) :
    BudgetLedger { reserved with
      operations := reserved.operations.push operationId row fresh } := by
  have sums : ∀ key,
      ModelDatabase.reservedFor { reserved with
          operations := reserved.operations.push operationId row fresh } key =
        db.reservedFor key +
          (if row.chargedTo key then row.reservedCostMicroUsd else 0) ∧
      ModelDatabase.settledFor { reserved with
          operations := reserved.operations.push operationId row fresh } key =
        db.settledFor key := by
    intro key
    unfold reservedFor settledFor
    simp only [Table.sum_push, reserves.operations, unsettled]
    simp
  cases reserves with
  | unbilled unbilled =>
      have uncharged : ∀ key, row.chargedTo key = false := by
        intro key
        have other : row.provider ≠ .openai := fun openai =>
          unbilled (billedIff.mpr openai)
        simp [ModelOperationRow.chargedTo, other]
      refine ⟨?_, ?_⟩
      · intro other present key found charged
        simp only [Table.find?_push] at found
        split at found
        · cases found
          rw [uncharged key] at charged
          cases charged
        · exact ledger.funded other present key found charged
      · intro key account found
        obtain ⟨reservedEq, settledEq⟩ := sums key
        rw [reservedEq, settledEq, uncharged key]
        simpa using ledger.balanced key account found
  | @charged funded billed fundedEq environmentRoom userRoom =>
      have openai := billedIff.mp billed
      refine ⟨?_, ?_⟩
      · intro other present key found charged
        have persists : ∀ account, funded.accounts.find? key = some account →
            ∃ account', (funded.reserve row.charge
              row.reservedCostMicroUsd).accounts.find? key =
                some account' := by
          intro account accountFound
          rw [find?_reserve, accountFound]
          exact ⟨_, rfl⟩
        simp only [Table.find?_push] at found
        split at found
        · cases found
          rw [chargedTo_eq_covers openai, BudgetCharge.covers_iff] at charged
          rcases charged with rfl | rfl
          · obtain ⟨account, accountFound, _⟩ := environmentRoom
            exact persists account accountFound
          · obtain ⟨account, accountFound, _⟩ := userRoom
            exact persists account accountFound
        · subst fundedEq
          obtain ⟨account, accountFound⟩ :=
            ledger.funded other present key found charged
          exact persists account
            (find?_insertBudgetAccounts_of_some accountFound)
      · intro key account found
        subst fundedEq
        obtain ⟨reservedEq, settledEq⟩ := sums key
        rw [reservedEq, settledEq, chargedTo_eq_covers openai]
        exact ledger.reserved_balanced found

/-- A rewritten operation and its accounts move by the same amounts. -/
theorem BudgetLedger.write (ledger : BudgetLedger db)
    {set : ModelOperationRow → ModelOperationRow}
    (found : db.operations.find? operationId = some row)
    (operations : db'.operations = db.operations.modify operationId set)
    (terms : (set row).toModelOperationTerms = row.toModelOperationTerms)
    (persist : ∀ key account, db.accounts.find? key = some account →
      ∃ account', db'.accounts.find? key = some account')
    (move : ∀ key account', db'.accounts.find? key = some account' →
      ∃ account, db.accounts.find? key = some account ∧
        account'.reservedMicroUsd = account.reservedMicroUsd +
          (if row.chargedTo key then
            (set row).reservedCostMicroUsd - row.reservedCostMicroUsd
          else 0) ∧
        account'.settledMicroUsd = account.settledMicroUsd +
          (if row.chargedTo key then
            (set row).settledCostMicroUsd - row.settledCostMicroUsd
          else 0)) :
    BudgetLedger db' := by
  have sameCharge : ∀ key, (set row).chargedTo key = row.chargedTo key := by
    intro key
    simp [ModelOperationRow.chargedTo, terms]
  refine ⟨?_, ?_⟩
  · intro other present key presentFound charged
    have earlier : ∃ account, db.accounts.find? key = some account := by
      rw [operations] at presentFound
      rcases Table.find?_modify_cases presentFound with
        ⟨_, before, stored, rfl⟩ | ⟨_, unmodified⟩
      · cases found.symm.trans stored
        rw [sameCharge] at charged
        exact ledger.funded _ _ key found charged
      · exact ledger.funded other present key unmodified charged
    obtain ⟨account, accountFound⟩ := earlier
    exact persist key account accountFound
  · intro key account' accountFound
    obtain ⟨account, earlierFound, reservedMove, settledMove⟩ :=
      move key account' accountFound
    obtain ⟨reservedEq, settledEq⟩ := ledger.balanced key account earlierFound
    have reservedSum := Table.sum_modify found set (fun _ row =>
      if row.chargedTo key then row.reservedCostMicroUsd else 0)
    have settledSum := Table.sum_modify found set (fun _ row =>
      if row.chargedTo key then row.settledCostMicroUsd else 0)
    unfold reservedFor settledFor at *
    rw [operations]
    simp only [sameCharge] at reservedSum settledSum
    cases charged : row.chargedTo key with
    | true =>
        simp only [charged, if_true] at reservedMove settledMove
        simp only [charged, if_true] at reservedSum settledSum
        constructor <;> omega
    | false =>
        simp only [charged, Bool.false_eq_true, if_false] at reservedMove
        simp only [charged, Bool.false_eq_true, if_false] at settledMove
        simp only [charged, Bool.false_eq_true, if_false] at reservedSum
        simp only [charged, Bool.false_eq_true, if_false] at settledSum
        constructor <;> omega

/-- A rewrite that moves neither amount needs no account to move. -/
theorem BudgetLedger.keep (ledger : BudgetLedger db)
    {set : ModelOperationRow → ModelOperationRow}
    (found : db.operations.find? operationId = some row)
    (operations : db'.operations = db.operations.modify operationId set)
    (accounts : db'.accounts = db.accounts)
    (terms : (set row).toModelOperationTerms = row.toModelOperationTerms)
    (reservedSame :
      (set row).reservedCostMicroUsd = row.reservedCostMicroUsd)
    (settledSame : (set row).settledCostMicroUsd = row.settledCostMicroUsd) :
    BudgetLedger db' := by
  refine ledger.write found operations terms ?_ ?_
  · intro key account accountFound
    rw [accounts]
    exact ⟨account, accountFound⟩
  · intro key account accountFound
    rw [accounts] at accountFound
    exact ⟨account, accountFound, by simp [reservedSame],
      by simp [settledSame]⟩

/-- A rewrite that drops the reservation of an unfinished operation releases
it and settles the spend that the row records. -/
theorem BudgetLedger.release (ledger : BudgetLedger db)
    (set : ModelOperationRow → ModelOperationRow) (settlement : Int)
    (found : db.operations.find? operationId = some row)
    (registered : row.IsRegistered)
    (unfinished : row.status.isTerminal = false)
    (operations : db'.operations = db.operations.modify operationId set)
    (accounts : db'.accounts = (db.release row settlement).accounts)
    (terms : (set row).toModelOperationTerms = row.toModelOperationTerms)
    (dropped : (set row).reservedCostMicroUsd = 0)
    (settled : (set row).settledCostMicroUsd =
      row.settledCostMicroUsd + settlement) :
    BudgetLedger db' := by
  refine ledger.write found operations terms ?_ ?_
  · intro key account accountFound
    rw [accounts, find?_release, accountFound]
    exact ⟨_, rfl⟩
  · intro key account' accountFound
    rw [accounts, find?_release, Option.map_eq_some_iff] at accountFound
    obtain ⟨account, earlierFound, rfl⟩ := accountFound
    refine ⟨account, earlierFound, ?_⟩
    rw [registered.releases_eq unfinished, dropped, settled]
    split
    · constructor <;> ring
    · simp

end ModelDatabase

open ModelDatabase

/-- An attempt of unknown outcome settles nothing. -/
theorem settlement_outcomeUnknown {dates : DateBuiltins}
    {attempt : ClaimedModelAttempt} {result : ModelGatewayResult}
    {row : ModelOperationRow} {clock : DatabaseClock}
    (unknown : (submittedCompletion dates attempt result).disposition =
      .outcomeUnknown) :
    row.settlement (row.effectiveCompletion clock
      (submittedCompletion dates attempt result)) result.toOption = 0 := by
  cases result with
  | ok success =>
      simp only [submittedCompletion] at unknown
      split at unknown <;> cases unknown
  | error failure =>
      obtain ⟨refusal, truncated, undecoded⟩ :=
        classifyModelGatewayFailure_outcomeUnknown unknown
      simp [ModelOperationRow.settlement, Except.toOption,
        isConservativelyBillableFailure, submittedCompletion, refusal,
        truncated, undecoded]

theorem budgetLedger_invariant (dates : DateBuiltins) :
    DatabaseInvariant dates (fun db =>
      (∀ operationId row, db.operations.find? operationId = some row →
        row.IsRegistered) ∧ BudgetLedger db) where
  initially := by
    intro users
    refine ⟨(isRegistered_invariant dates).database.initially users, ?_, ?_⟩
    · intro operationId row key found
      simp at found
    · intro key account found
      simp at found
  prepared := by
    rintro clock request input outcome db db' ⟨registered, ledger⟩ accepted
      prepares
    refine ⟨(isRegistered_invariant dates).database.prepared registered
      accepted prepares, ?_⟩
    cases prepares with
    | duplicate => exact ledger
    | prepared fresh reserves =>
        refine ledger.insert ?_ rfl fresh reserves
        have reserved := (storeInput_eq_ok accepted).reservedCostMicroUsd
        have positive := modelOperationProfiles_cost_pos input.operation
        change 0 < input.reservedCostMicroUsd ↔ input.provider = .openai
        rw [reserved]
        split
        · rename_i openai
          exact iff_of_true positive openai
        · rename_i other
          exact iff_of_false (lt_irrefl 0) other
  restarted := by
    rintro clock input outcome db db' ⟨registered, ledger⟩ restarts
    refine ⟨(isRegistered_invariant dates).database.restarted registered
      restarts, ?_⟩
    cases restarts with
    | duplicate => exact ledger
    | @restarted source _ fresh found _ unknown _ reserves =>
        refine ledger.insert ?_ rfl fresh reserves
        change _ ↔ source.provider = .openai
        refine and_iff_left_iff_imp.mpr ?_
        intro openai
        exact (registered _ _ found).reserved_pos ⟨openai, .inr unknown⟩
  claimed := by
    rintro clock workerNow generated operationId outcome db db'
      ⟨registered, ledger⟩ claims
    refine ⟨(isRegistered_invariant dates).database.claimed registered
      claims, ?_⟩
    cases claims with
    | stored | leased | waiting => exact ledger
    | expired found =>
        exact ledger.keep found rfl rfl rfl rfl rfl
    | @rejected _ failure clearsClaim found active =>
        exact ledger.release
          (ModelOperationRow.rejectBeforeDispatch clock failure clearsClaim) 0
          found (registered _ _ found)
          (ModelOperationStatus.isTerminal_eq_false_of_active active) (by simp)
          rfl rfl rfl (by simp [ModelOperationRow.rejectBeforeDispatch])
    | dispatched fresh found _ _ _ passed =>
        obtain ⟨dispatchCounters, rfl⟩ := passed.counted
        exact ledger.keep found rfl rfl rfl rfl rfl
  completed := by
    rintro clock workerNow operationId attempt result completion db db'
      ⟨registered, ledger⟩ completes
    refine ⟨(isRegistered_invariant dates).database.completed registered
      completes, ?_⟩
    cases completes with
    | stale => exact ledger
    | scheduled found =>
        exact ledger.keep found rfl rfl rfl rfl rfl
    | @settled row completion found dispatched _ effective =>
        have unfinished :=
          ModelOperationStatus.isTerminal_eq_false_of_dispatched dispatched
        by_cases unknown : completion.disposition = .outcomeUnknown
        · have nothing : row.settlement completion result.toOption = 0 := by
            have submitted := unknown
            rw [effective, effectiveCompletion_disposition] at submitted
            rw [effective]
            exact settlement_outcomeUnknown submitted
          refine ledger.keep found (by simp; rfl) ?_ rfl ?_ ?_
          · simp [releaseSettled, unknown]
          · simp [ModelOperationRow.settle, unknown]
          · simp [ModelOperationRow.settle, completeInput, nothing]
        · refine ledger.release
            (ModelOperationRow.settle clock completion result.toOption
              row.reservedCostMicroUsd
              (row.settlement completion result.toOption)) _
            found (registered _ _ found) unfinished (by
              simp [completeInput]) ?_ rfl ?_ rfl
          · simp [releaseSettled, unknown, completeInput]
          · simp [ModelOperationRow.settle, unknown]

/-- In every run, an account holds exactly the reservations and the settled
spend of the operations charged to it. -/
theorem budget_conserved {dates : DateBuiltins} {state : ModelState}
    (reached : (modelSystem dates).Reachable state)
    {key : BudgetAccountKey} {account : BudgetAccountRow}
    (found : state.database.accounts.find? key = some account) :
    account.reservedMicroUsd = state.database.operations.sum (fun _ row =>
        if row.chargedTo key then row.reservedCostMicroUsd else 0) ∧
      account.settledMicroUsd = state.database.operations.sum (fun _ row =>
        if row.chargedTo key then row.settledCostMicroUsd else 0) ∧
      0 ≤ account.reservedMicroUsd := by
  obtain ⟨registered, ledger⟩ :=
    (budgetLedger_invariant dates).holds reached
  obtain ⟨reservedEq, settledEq⟩ := ledger.balanced key account found
  refine ⟨reservedEq, settledEq, ?_⟩
  rw [reservedEq]
  refine Table.sum_nonneg ?_
  intro operationId row rowFound
  split
  · exact (registered operationId row rowFound).reserved_nonneg
  · exact le_rfl

/-- The user account of the sample run holds the reservation of its only
operation. -/
theorem budget_conserved_rate_limited :
    ∃ state account, (modelSystem sampleDates).Reachable state ∧
      state.database.accounts.find?
        { scope := .user sampleUser
          periodStart := { year := 2026, month := 3, day := 1 } } =
            some account ∧
        account.reservedMicroUsd = 480 ∧ 0 ≤ account.reservedMicroUsd := by
  obtain ⟨state, reached, tested⟩ := System.exists_reachable_of_run
    rateLimitedRun
    (fun state => (state.database.accounts.find?
      { scope := .user sampleUser
        periodStart := { year := 2026, month := 3, day := 1 } }).any
          (fun account => account.reservedMicroUsd = 480))
    (sampleStart_initial sampleDates) (by decide +kernel)
  obtain ⟨account, found, reserved⟩ := (Option.any_eq_true _ _).mp tested
  exact ⟨state, account, reached, found, by simpa using reserved,
    (budget_conserved reached found).2.2⟩

end XpensGo
