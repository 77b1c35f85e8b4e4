import XpensGo.Model.BudgetConservation

/-!
# Budget thresholds

Reservations record an alert for every threshold they reach and engage the kill
switch of an exhausted environment.  A settlement changes the same totals and
records nothing, so thresholds are tracked only as long as no settlement
carries an account to a threshold that was not recorded before.
-/

namespace XpensGo

open EcmaScript Postgres Relational Transition

namespace ModelDatabase

/-- The kill switch and the alerts follow the spend of the accounts. -/
structure ThresholdsTracked (db : ModelDatabase) : Prop where
  engaged : ∀ environment periodStart account,
    db.accounts.find? ⟨.environment environment, periodStart⟩ =
      some account →
    0 < account.ceilingMicroUsd →
    account.ceilingMicroUsd ≤
      account.reservedMicroUsd + account.settledMicroUsd →
    account.killSwitch = true
  alerted : ∀ key account threshold, db.accounts.find? key = some account →
    0 < account.ceilingMicroUsd → threshold ∈ budgetThresholds →
    account.ceilingMicroUsd * threshold ≤
      (account.reservedMicroUsd + account.settledMicroUsd) * 100 →
    (db.alerts.find? (key, threshold)).isSome = true

/-- Every reached threshold has its alert, the full ceiling of an environment
engages its kill switch for good, and alerts belong to accounts. -/
structure AlertLog (db : ModelDatabase) : Prop where
  alerted : ∀ key account threshold, db.accounts.find? key = some account →
    threshold ∈ budgetThresholds → account.reaches threshold = true →
    (db.alerts.find? (key, threshold)).isSome = true
  latched : ∀ environment periodStart account,
    (db.alerts.find?
      (⟨.environment environment, periodStart⟩, 100)).isSome = true →
    db.accounts.find? ⟨.environment environment, periodStart⟩ =
      some account →
    account.killSwitch = true
  owned : ∀ key threshold,
    (db.alerts.find? (key, threshold)).isSome = true →
    ∃ account, db.accounts.find? key = some account

variable {db db' reserved : ModelDatabase}

private theorem reaches_iff {account : BudgetAccountRow}
    {threshold : ThresholdPercent} :
    account.reaches threshold = true ↔ 0 < account.ceilingMicroUsd ∧
      account.ceilingMicroUsd * threshold ≤
        (account.reservedMicroUsd + account.settledMicroUsd) * 100 := by
  simp only [BudgetAccountRow.reaches, Bool.and_eq_true, decide_eq_true_eq]
  rfl

private theorem exhausted_eq_reaches (account : BudgetAccountRow) :
    account.exhausted = account.reaches 100 := by
  apply Bool.eq_iff_iff.mpr
  simp only [BudgetAccountRow.exhausted, BudgetAccountRow.reaches,
    Bool.and_eq_true, decide_eq_true_eq]
  constructor
  · rintro ⟨positive, spent⟩
    exact ⟨positive, by push_cast; omega⟩
  · rintro ⟨positive, spent⟩
    exact ⟨positive, by push_cast at spent; omega⟩

theorem AlertLog.tracked (log : AlertLog db) : ThresholdsTracked db where
  engaged := by
    intro environment periodStart account found positive spent
    have reached : account.reaches 100 = true := by
      rw [reaches_iff]
      exact ⟨positive, by push_cast; omega⟩
    have alert := log.alerted _ account 100 found (by decide) reached
    exact log.latched environment periodStart account alert found
  alerted := by
    intro key account threshold found positive supported spent
    exact log.alerted key account threshold found supported
      (reaches_iff.mpr ⟨positive, spent⟩)

private theorem alertLog_of_same (log : AlertLog db)
    (accounts : db'.accounts = db.accounts)
    (alerts : db'.alerts = db.alerts) : AlertLog db' := by
  obtain ⟨alerted, latched, owned⟩ := log
  rw [← accounts, ← alerts] at alerted
  rw [← accounts, ← alerts] at latched
  rw [← accounts, ← alerts] at owned
  exact ⟨alerted, latched, owned⟩

/-- The keys of the alerts that a reservation inserts. -/
theorem find?_alerts_reserve {charge : BudgetCharge}
    {reservation : Int} {key : BudgetAccountKey}
    {threshold : ThresholdPercent} :
    ((db.reserve charge reservation).alerts.find? (key, threshold)).isSome ↔
      (db.alerts.find? (key, threshold)).isSome ∨
        ∃ account, db.accounts.find? key = some account ∧
          charge.covers key = true ∧ threshold ∈ budgetThresholds ∧
            BudgetAccountRow.reaches { account with
              reservedMicroUsd := account.reservedMicroUsd + reservation }
                threshold = true := by
  unfold reserve recordBudgetThresholds
  rw [Table.find?_insertAllMissing_isSome]
  apply or_congr_right
  simp only [List.map_flatMap, List.map_map, List.mem_flatMap, List.mem_map,
    List.mem_filter, Function.comp, Prod.mk.injEq]
  constructor
  · rintro ⟨⟨selectedKey, selected⟩, member, other, ⟨supported, reached⟩, same,
      rfl⟩
    obtain ⟨found, covered⟩ := Table.mem_select.mp member
    dsimp only at same
    subst same
    rw [find?_setAccounts, Option.map_eq_some_iff] at found
    obtain ⟨account, accountFound, rfl⟩ := found
    rw [if_pos covered] at reached
    exact ⟨account, accountFound, covered, supported, reached⟩
  · rintro ⟨account, accountFound, covered, supported, reached⟩
    refine ⟨(key, _), Table.mem_select.mpr ⟨?_, covered⟩, threshold,
      ⟨supported, reached⟩, rfl, rfl⟩
    rw [find?_setAccounts, accountFound, Option.map_some, if_pos covered]

private theorem killSwitch_reservedAccount {charge : BudgetCharge}
    {reservation : Int} {key : BudgetAccountKey} {account : BudgetAccountRow} :
    (reservedAccount charge reservation key account).killSwitch = true ↔
      account.killSwitch = true ∨
        (key = charge.environmentAccount ∧
          BudgetAccountRow.reaches { account with
            reservedMicroUsd := account.reservedMicroUsd + reservation }
              100 = true) := by
  by_cases environment : key = charge.environmentAccount
  · subst environment
    simp only [reservedAccount, BudgetCharge.covers_environmentAccount,
      if_true, exhausted_eq_reaches, decide_true, Bool.true_and, true_and]
    split
    · rename_i reached
      simp [reached]
    · rename_i unreached
      simp [unreached]
  · simp only [reservedAccount, environment, decide_false, Bool.false_and,
      Bool.false_eq_true, if_false, false_and, or_false]
    split <;> rfl

theorem AlertLog.reserve (log : AlertLog db) {charge : BudgetCharge}
    {environmentCeiling userCeiling : Nat} {reservation : Int} {billed : Prop}
    (reserves : ReservationEffect db charge environmentCeiling userCeiling
      reservation billed reserved) : AlertLog reserved := by
  cases reserves with
  | unbilled => exact log
  | @charged funded _ fundedEq =>
      have earlierAlerts : funded.alerts = db.alerts := by
        subst fundedEq
        rfl
      have earlierAccount : ∀ key account,
          db.accounts.find? key = some account →
          funded.accounts.find? key = some account := by
        intro key account found
        subst fundedEq
        exact find?_insertBudgetAccounts_of_some found
      have uncharged : ∀ key account, charge.covers key = false →
          funded.accounts.find? key = some account →
          db.accounts.find? key = some account := by
        intro key account uncovered found
        subst fundedEq
        rcases find?_insertBudgetAccounts found with
          present | ⟨_, covered, _⟩
        · exact present
        · rw [uncovered] at covered
          cases covered
      refine ⟨?_, ?_, ?_⟩
      · intro key account threshold found supported reached
        rw [find?_reserve, Option.map_eq_some_iff] at found
        obtain ⟨earlier, earlierFound, rfl⟩ := found
        rw [find?_alerts_reserve]
        cases covered : charge.covers key with
        | true =>
            right
            refine ⟨earlier, earlierFound, rfl, supported, ?_⟩
            rw [reaches_iff] at reached ⊢
            simpa [covered] using reached
        | false =>
            left
            rw [earlierAlerts]
            apply log.alerted key earlier threshold
              (uncharged key earlier covered earlierFound) supported
            rw [reaches_iff] at reached ⊢
            simpa [covered] using reached
      · intro environment periodStart account alert found
        rw [find?_reserve, Option.map_eq_some_iff] at found
        obtain ⟨earlier, earlierFound, rfl⟩ := found
        rw [killSwitch_reservedAccount]
        rw [find?_alerts_reserve, earlierAlerts] at alert
        rcases alert with present | ⟨other, otherFound, covered, _, reached⟩
        · left
          obtain ⟨existing, existingFound⟩ := log.owned _ _ present
          have same := earlierAccount _ _ existingFound
          rw [earlierFound] at same
          cases same
          exact log.latched environment periodStart earlier present
            existingFound
        · right
          rw [earlierFound] at otherFound
          cases otherFound
          rcases BudgetCharge.covers_iff.mp covered with same | same
          · exact ⟨same, reached⟩
          · cases same
      · intro key threshold alert
        rw [find?_reserve]
        rw [find?_alerts_reserve, earlierAlerts] at alert
        rcases alert with present | ⟨account, accountFound, _⟩
        · obtain ⟨account, accountFound⟩ := log.owned key threshold present
          exact ⟨_, by rw [earlierAccount key account accountFound]; rfl⟩
        · exact ⟨_, by rw [accountFound]; rfl⟩

/-- A release that reaches no unrecorded threshold keeps the log. -/
theorem AlertLog.release (log : AlertLog db) (row : ModelOperationRow)
    (settlement : Int)
    (accounts : db'.accounts = (db.release row settlement).accounts)
    (alerts : db'.alerts = db.alerts)
    (room : ∀ key account threshold, db.accounts.find? key = some account →
      releases row key = true → threshold ∈ budgetThresholds →
      0 < account.ceilingMicroUsd →
      account.ceilingMicroUsd * threshold ≤
        (account.spend - row.reservedCostMicroUsd + settlement) * 100 →
      (db.alerts.find? (key, threshold)).isSome = true) :
    AlertLog db' := by
  refine ⟨?_, ?_, ?_⟩
  · intro key account threshold found supported reached
    rw [accounts, find?_release, Option.map_eq_some_iff] at found
    obtain ⟨earlier, earlierFound, rfl⟩ := found
    rw [alerts]
    cases released : releases row key with
    | true =>
        rw [reaches_iff] at reached
        simp only [released, if_true] at reached
        apply room key earlier threshold earlierFound released supported
          reached.1
        have spent := reached.2
        unfold BudgetAccountRow.spend
        calc
          earlier.ceilingMicroUsd * threshold ≤ _ := spent
          _ = _ := by ring
    | false =>
        simp only [released, Bool.false_eq_true, if_false] at reached
        exact log.alerted key earlier threshold earlierFound supported reached
  · intro environment periodStart account alert found
    rw [accounts, find?_release, Option.map_eq_some_iff] at found
    obtain ⟨earlier, earlierFound, rfl⟩ := found
    rw [alerts] at alert
    have engaged := log.latched environment periodStart earlier alert
      earlierFound
    split
    · exact engaged
    · exact engaged
  · intro key threshold alert
    rw [alerts] at alert
    obtain ⟨account, found⟩ := log.owned key threshold alert
    rw [accounts, find?_release, found]
    exact ⟨_, rfl⟩

theorem AlertLog.release_of_le (log : AlertLog db) (row : ModelOperationRow)
    (settlement : Int) (covered : settlement ≤ row.reservedCostMicroUsd)
    (accounts : db'.accounts = (db.release row settlement).accounts)
    (alerts : db'.alerts = db.alerts) : AlertLog db' := by
  apply log.release row settlement accounts alerts
  intro key account threshold found _ supported positive reached
  apply log.alerted key account threshold found supported
  rw [reaches_iff]
  refine ⟨positive, ?_⟩
  unfold BudgetAccountRow.spend at reached
  omega

end ModelDatabase

open ModelDatabase

section Tracking

variable {dates : DateBuiltins} {state state' : ModelState}

/-- The condition on a step: when `complete` settles the cost of a successful
response, it carries no charged account to a threshold without an alert. -/
def SettlesWithinRoom (state : ModelState) : ModelAction → Prop
  | .complete call _ _ =>
      ∀ operationId attempt success row key account threshold,
        state.calls.find? call =
          some ⟨operationId, .responded attempt (.ok success)⟩ →
        state.database.operations.find? operationId = some row →
        row.status = .dispatched →
        row.currentAttemptId = some attempt.attemptId →
        row.chargedTo key = true →
        state.database.accounts.find? key = some account →
        threshold ∈ budgetThresholds → 0 < account.ceilingMicroUsd →
        account.ceilingMicroUsd * threshold ≤
          (account.spend - row.reservedCostMicroUsd + success.costMicroUsd) *
            100 →
        (state.database.alerts.find? (key, threshold)).isSome = true
  | _ => True

private theorem alertLog_step
    (registered : ∀ operationId row,
      state.database.operations.find? operationId = some row →
      row.IsRegistered)
    (log : AlertLog state.database) {action : ModelAction}
    (room : SettlesWithinRoom state action)
    (step : ModelStep dates state action state') :
    AlertLog state'.database := by
  cases step with
  | unprepared | unrestarted | unclaimed | responded | abandoned
  | uncompleted => exact log
  | prepared _ prepares =>
      cases prepares with
      | duplicate => exact log
      | prepared _ reserves =>
          exact alertLog_of_same (log.reserve reserves) rfl rfl
  | restarted restarts =>
      cases restarts with
      | duplicate => exact log
      | restarted _ _ _ _ _ reserves =>
          exact alertLog_of_same (log.reserve reserves) rfl rfl
  | claimed _ claims =>
      cases claims with
      | stored | leased | waiting => exact log
      | expired => exact alertLog_of_same log rfl rfl
      | @rejected row _ _ found =>
          exact log.release_of_le row 0
            (registered _ _ found).reserved_nonneg rfl (by simp)
      | dispatched _ _ _ _ _ passed =>
          obtain ⟨dispatchCounters, rfl⟩ := passed.counted
          exact alertLog_of_same log rfl rfl
  | @completed call operationId attempt result _ _ completion _ waiting
      completes =>
      cases completes with
      | stale => exact log
      | scheduled => exact alertLog_of_same log rfl rfl
      | @settled row _ found dispatched current =>
          by_cases unknown : completion.disposition = .outcomeUnknown
          · apply alertLog_of_same log
            · simp [releaseSettled, unknown]
            · simp
          · cases result with
            | ok success =>
                apply log.release row success.costMicroUsd
                · simp [releaseSettled, unknown, completeInput,
                    Except.toOption, ModelOperationRow.settlement]
                · simp
                · intro key account threshold accountFound released supported
                    positive reached
                  rw [(registered _ _ found).releases_eq
                    (ModelOperationStatus.isTerminal_eq_false_of_dispatched
                      dispatched)] at released
                  exact room operationId attempt success row key account
                    threshold waiting found dispatched current released
                    accountFound supported positive reached
            | error failure =>
                apply log.release_of_le row
                  (row.settlement completion none)
                · simp only [ModelOperationRow.settlement]
                  split
                  · exact le_rfl
                  · exact (registered _ _ found).reserved_nonneg
                · simp [releaseSettled, unknown, completeInput,
                    Except.toOption]
                · simp

private theorem not_claimed_of_engaged {db : ModelDatabase}
    {operationId : ModelOperationId} {row : ModelOperationRow}
    {control : BudgetAccountRow} {clock : DatabaseClock} {workerNow : Int}
    {generated : ModelAttemptId} {attempt : ClaimedModelAttempt}
    {db' : ModelDatabase}
    (found : db.operations.find? operationId = some row)
    (openai : row.provider = .openai)
    (controlFound :
      db.accounts.find? row.charge.environmentAccount = some control)
    (engaged : control.killSwitch = true) :
    db.claim clock operationId workerNow generated ≠
      .ok (.claimed attempt, db') := by
  intro claimed
  have effect := claim_eq_ok claimed
  cases effect with
  | dispatched _ rowFound _ _ _ passed =>
      rw [found] at rowFound
      cases rowFound
      cases passed with
      | deterministic other => exact other openai
      | openai _ present disengaged =>
          rw [controlFound] at present
          cases present
          rw [engaged] at disengaged
          cases disengaged

/-- In every run whose settlements all meet the condition, the kill switch and
the alerts follow the spend, and no operation of an exhausted environment is
dispatched. -/
theorem thresholds_tracked
    (reached : (modelSystem dates).ReachableWhere SettlesWithinRoom state) :
    ThresholdsTracked state.database ∧
      ∀ operationId row control clock workerNow generated attempt db',
        state.database.operations.find? operationId = some row →
        row.provider = .openai →
        state.database.accounts.find? row.charge.environmentAccount =
          some control →
        0 < control.ceilingMicroUsd →
        control.ceilingMicroUsd ≤
          control.reservedMicroUsd + control.settledMicroUsd →
        state.database.claim clock operationId workerNow generated ≠
          .ok (.claimed attempt, db') := by
  have log : AlertLog state.database := by
    refine System.ReachableWhere.invariant (I := fun state =>
      AlertLog state.database) ?_ ?_ reached
    · rintro initial ⟨users, rfl⟩
      refine ⟨?_, ?_, ?_⟩
      · intro key account threshold found
        simp at found
      · intro environment periodStart account alert
        simp at alert
      · intro key threshold alert
        simp at alert
    · intro earlier action later reachedEarlier log room taken
      exact alertLog_step
        (fun _ _ found => reachable_isRegistered reachedEarlier.reachable found)
        log room (modelStep_of_next taken)
  have tracked := log.tracked
  refine ⟨tracked, ?_⟩
  intro operationId row control clock workerNow generated attempt db' found
    openai controlFound positive spent
  have engaged := tracked.engaged _ _ control controlFound positive spent
  exact not_claimed_of_engaged found openai controlFound engaged

/-- A test of the condition on one step, for every account there is. -/
def staysWithinRoom (state : ModelState) (action : ModelAction) : Bool :=
  match action with
  | .complete call _ _ =>
      match state.calls.find? call with
      | some ⟨operationId, .responded _ (.ok success)⟩ =>
          (state.database.operations.find? operationId).all (fun row =>
            state.database.accounts.rows.all (fun entry =>
              budgetThresholds.all (fun threshold =>
                (state.database.alerts.find? (entry.1, threshold)).isSome ||
                  entry.2.spend * 100 + success.costMicroUsd * 100 <
                    entry.2.ceilingMicroUsd * threshold +
                      row.reservedCostMicroUsd * 100)))
      | _ => true
  | _ => true

theorem settlesWithinRoom_of_staysWithinRoom (action : ModelAction)
    (tested : staysWithinRoom state action = true) :
    SettlesWithinRoom state action := by
  cases action with
  | complete call clock workerNow =>
      intro operationId attempt success row key account threshold waiting
        found _ _ _ accountFound supported _ outrun
      simp only [staysWithinRoom, waiting, found, Option.all_some,
        List.all_eq_true] at tested
      have checked := tested (key, account)
        (Table.find?_eq_some_iff_mem.mp accountFound) threshold supported
      rw [Bool.or_eq_true, decide_eq_true_eq] at checked
      rcases checked with recorded | below
      · exact recorded
      · dsimp only at below
        omega
  | _ => exact trivial

theorem thresholds_tracked_settled :
    ∃ state, (modelSystem sampleDates).ReachableWhere SettlesWithinRoom state ∧
      (state.database.operations.find? sampleOperation).any
        (fun row => row.settledCostMicroUsd = 40) = true ∧
        ThresholdsTracked state.database := by
  obtain ⟨state, reached, settled⟩ := System.exists_reachableWhere_of_run
    settledRun staysWithinRoom
    (fun state => (state.database.operations.find? sampleOperation).any
      (fun row => row.settledCostMicroUsd = 40))
    (fun _ action => settlesWithinRoom_of_staysWithinRoom action)
    (sampleStart_initial sampleDates) (by decide +kernel)
  exact ⟨state, reached, settled, (thresholds_tracked reached).1⟩

/-- The condition is exact: a settlement that carries a charged account to a
threshold without an alert leaves the threshold unrecorded. -/
theorem settlement_outruns_alerts
    (reached : (modelSystem dates).Reachable state)
    {operationId : ModelOperationId} {attempt : ClaimedModelAttempt}
    {success : ModelGatewaySuccess} {row : ModelOperationRow}
    {key : BudgetAccountKey} {account : BudgetAccountRow}
    {threshold : ThresholdPercent} {clock : DatabaseClock} {workerNow : Int}
    {completion : ModelOperationCompletion} {db' : ModelDatabase}
    (found : state.database.operations.find? operationId = some row)
    (dispatched : row.status = .dispatched)
    (current : row.currentAttemptId = some attempt.attemptId)
    (charged : row.chargedTo key = true)
    (accountFound : state.database.accounts.find? key = some account)
    (supported : threshold ∈ budgetThresholds)
    (positive : 0 < account.ceilingMicroUsd)
    (outrun : account.ceilingMicroUsd * threshold ≤
      (account.spend - row.reservedCostMicroUsd + success.costMicroUsd) * 100)
    (unrecorded : state.database.alerts.find? (key, threshold) = none)
    (completes : CompleteEffect clock workerNow
      (completeInput dates operationId attempt (.ok success)) state.database
      completion db') :
    ¬ThresholdsTracked db' := by
  intro tracked
  have unfinished :=
    ModelOperationStatus.isTerminal_eq_false_of_dispatched dispatched
  have releasing : releases row key = true := by
    rw [(reachable_isRegistered reached found).releases_eq unfinished]
    exact charged
  have planless : (submittedCompletion dates attempt
      (.ok success)).retryPlan = .none := by
    simp only [submittedCompletion]
    split <;> rfl
  have known : (submittedCompletion dates attempt
      (.ok success)).disposition ≠ .outcomeUnknown := by
    simp only [submittedCompletion]
    split <;> simp [finalCompletion]
  have written : db'.accounts =
        (state.database.release row success.costMicroUsd).accounts ∧
      db'.alerts = state.database.alerts := by
    cases completes with
    | stale present stale =>
        cases Option.some.inj (found.symm.trans present)
        rcases stale with notDispatched | notCurrent
        · exact (notDispatched dispatched).elim
        · exact (notCurrent current).elim
    | scheduled _ _ _ effective planned =>
        rw [effective] at planned
        obtain ⟨asked, submitted, _⟩ := effectiveCompletion_schedules planned
        rw [completeInput, planless] at submitted
        cases submitted
    | settled present _ _ effective =>
        cases Option.some.inj (found.symm.trans present)
        have answered : completion.disposition ≠ .outcomeUnknown := by
          rw [effective, effectiveCompletion_disposition]
          exact known
        constructor
        · simp [releaseSettled, answered, completeInput, Except.toOption,
            ModelOperationRow.settlement]
        · simp
  obtain ⟨accounts, alerts⟩ := written
  have settled : db'.accounts.find? key = some { account with
      reservedMicroUsd := account.reservedMicroUsd - row.reservedCostMicroUsd
      settledMicroUsd := account.settledMicroUsd + success.costMicroUsd } := by
    rw [accounts, find?_release, accountFound, Option.map_some,
      if_pos releasing]
  have spent := outrun
  unfold BudgetAccountRow.spend at spent
  have recorded := tracked.alerted key _ threshold settled positive supported (by
    calc
      account.ceilingMicroUsd * threshold ≤ _ := spent
      _ = _ := by ring)
  rw [alerts, unrecorded] at recorded
  cases recorded

/-- A response that costs the whole monthly ceiling of the environment. -/
def overspentRun : List ModelAction :=
  [.prepare (sampleClock 0) sampleRequest,
    .claim 0 sampleOperation (sampleClock 10) 10 ⟨3⟩,
    .respond 0 (.ok (sampleSuccess 4999900)),
    .complete 0 (sampleClock 100) 100]

theorem thresholds_untracked :
    ¬∀ state, (modelSystem sampleDates).Reachable state →
      ThresholdsTracked state.database := by
  intro tracked
  obtain ⟨state, reached, tested⟩ := System.exists_reachable_of_run
    overspentRun
    (fun state => (state.database.accounts.find?
      { scope := .environment .developmentStaging
        periodStart := { year := 2026, month := 3, day := 1 } }).any
          (fun account => 0 < account.ceilingMicroUsd &&
            account.ceilingMicroUsd ≤
              account.reservedMicroUsd + account.settledMicroUsd &&
            !account.killSwitch))
    (sampleStart_initial sampleDates) (by decide +kernel)
  obtain ⟨account, found, overspent⟩ := (Option.any_eq_true _ _).mp tested
  simp only [Bool.and_eq_true, decide_eq_true_eq, Bool.not_eq_true']
    at overspent
  obtain ⟨⟨positive, spent⟩, disengaged⟩ := overspent
  have engaged := (tracked state reached).engaged _ _ account found positive
    spent
  rw [disengaged] at engaged
  cases engaged

end Tracking

end XpensGo
