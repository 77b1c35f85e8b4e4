import XpensGo.Model.BudgetConservation

/-!
# The spend ceiling

When every successful response stays within the input and output limits of its
profile, a settlement never exceeds the reservation it replaces.  Reservations
are only taken below the ceiling, so no account ever passes it.
-/

namespace XpensGo

open EcmaScript Postgres Relational Transition

/-- The attempt that a call works on. -/
def ExecutionPhase.attempt? : ExecutionPhase → Option ClaimedModelAttempt
  | .dispatching attempt | .responded attempt _ => some attempt
  | .returned _ _ | .failed => none

/-- A response that reports usage within the limits of the profile.  OpenAI
responses carry the price of their usage, the deterministic provider returns a
scripted cost. -/
def ModelGatewaySuccess.WithinProfile (success : ModelGatewaySuccess)
    (attempt : ClaimedModelAttempt) : Prop :=
  success.usage.inputTokens ≤
      (modelOperationProfiles attempt.operation).maximumInputUtf8Bytes ∧
    success.usage.outputTokens ≤
      (modelOperationProfiles attempt.operation).outputTokenLimit ∧
    (attempt.provider = .openai →
      success.costMicroUsd = computeNanoCostMicroUsd success.usage.inputTokens
        success.usage.cachedInputTokens success.usage.outputTokens)

instance (success : ModelGatewaySuccess) (attempt : ClaimedModelAttempt) :
    Decidable (success.WithinProfile attempt) :=
  inferInstanceAs (Decidable (_ ∧ _ ∧ (_ → _)))

/-- The assumption on the provider: successful responses stay within the
profile of the operation they answer. -/
def BoundedUsage (state : ModelState) : ModelAction → Prop
  | .respond call (.ok success) =>
      ∀ operationId attempt,
        state.calls.find? call = some ⟨operationId, .dispatching attempt⟩ →
        success.WithinProfile attempt
  | _ => True

theorem ModelGatewaySuccess.WithinProfile.cost_le
    {success : ModelGatewaySuccess} {attempt : ClaimedModelAttempt}
    (within : success.WithinProfile attempt)
    (openai : attempt.provider = .openai) :
    success.costMicroUsd ≤
      (modelOperationProfiles attempt.operation).maximumCostMicroUsd := by
  obtain ⟨inputBounded, outputBounded, priced⟩ := within
  rw [priced openai]
  apply computeNanoCostMicroUsd_le inputBounded outputBounded
  exact (modelOperationProfiles_priced attempt.operation).le

/-- An attempt was claimed with the terms of an operation. -/
def ClaimedModelAttempt.Serves (attempt : ClaimedModelAttempt)
    (terms : ModelOperationTerms) : Prop :=
  terms.operation = attempt.operation ∧ terms.provider = attempt.provider

/-- Every call works on an attempt of its own operation, and an OpenAI response
is within the price of the profile. -/
structure CallsWithinProfile (state : ModelState) : Prop where
  operation : ∀ call execution attempt,
    state.calls.find? call = some execution →
    execution.phase.attempt? = some attempt →
    ∃ row, state.database.operations.find? execution.operationId = some row ∧
      attempt.Serves row.toModelOperationTerms
  cost : ∀ call operationId attempt success,
    state.calls.find? call =
      some ⟨operationId, .responded attempt (.ok success)⟩ →
    attempt.provider = .openai →
    success.costMicroUsd ≤
      (modelOperationProfiles attempt.operation).maximumCostMicroUsd

section Calls

variable {dates : DateBuiltins} {state state' : ModelState}
  {action : ModelAction}

private theorem operation_persists {operationId : ModelOperationId}
    {attempt : ClaimedModelAttempt}
    (persist : TermsPersist state.database state'.database)
    (known : ∃ row, state.database.operations.find? operationId = some row ∧
      attempt.Serves row.toModelOperationTerms) :
    ∃ row, state'.database.operations.find? operationId = some row ∧
      attempt.Serves row.toModelOperationTerms := by
  obtain ⟨row, found, same⟩ := known
  obtain ⟨row', found', terms⟩ := persist operationId row found
  exact ⟨row', found', by rw [terms]; exact same⟩

/-- An attempt that a call works on was its attempt before the step, or has
just been claimed. -/
theorem ModelStep.working_cases (step : ModelStep dates state action state')
    {call : CallId} {execution : ExecutionCall} {attempt : ClaimedModelAttempt}
    (found : state'.calls.find? call = some execution)
    (working : execution.phase.attempt? = some attempt) :
    (∃ earlier, state.calls.find? call = some earlier ∧
      earlier.operationId = execution.operationId ∧
        earlier.phase.attempt? = some attempt) ∨
      ∃ clock workerNow generated,
        ModelDatabase.ClaimEffect clock workerNow generated
          execution.operationId state.database (.claimed attempt)
          state'.database := by
  cases step with
  | unprepared | unrestarted | prepared | restarted =>
      exact .inl ⟨execution, found, rfl, working⟩
  | unclaimed absent =>
      rcases ModelState.find?_begin absent found with ⟨_, rfl⟩ | ⟨_, earlier⟩
      · cases working
      · exact .inl ⟨execution, earlier, rfl, working⟩
  | @claimed _ _ clock workerNow generated outcome _ absent claims =>
      rcases ModelState.find?_begin absent found with ⟨_, rfl⟩ | ⟨_, earlier⟩
      · cases outcome with
        | claimed attempt =>
            cases working
            exact .inr ⟨clock, workerNow, generated, claims⟩
        | completed | rejected | deferred => cases working
      · exact .inl ⟨execution, earlier, rfl, working⟩
  | responded waiting =>
      rcases ModelState.find?_setPhase found with
        ⟨rfl, earlier, earlierFound, rfl⟩ | ⟨_, earlier⟩
      · rw [waiting] at earlierFound
        cases earlierFound
        exact .inl ⟨_, waiting, rfl, working⟩
      · exact .inl ⟨execution, earlier, rfl, working⟩
  | abandoned | uncompleted | completed =>
      rcases ModelState.find?_setPhase found with
        ⟨_, _, _, rfl⟩ | ⟨_, earlier⟩
      · cases working
      · exact .inl ⟨execution, earlier, rfl, working⟩

/-- A call that waits to be completed waited before the step, or has just
received its response. -/
theorem ModelStep.responded_cases (step : ModelStep dates state action state')
    {call : CallId} {operationId : ModelOperationId}
    {attempt : ClaimedModelAttempt} {result : ModelGatewayResult}
    (found : state'.calls.find? call =
      some ⟨operationId, .responded attempt result⟩) :
    state.calls.find? call = some ⟨operationId, .responded attempt result⟩ ∨
      (action = .respond call result ∧
        state.calls.find? call = some ⟨operationId, .dispatching attempt⟩) := by
  cases step with
  | unprepared | unrestarted | prepared | restarted => exact .inl found
  | unclaimed absent =>
      rcases ModelState.find?_begin absent found with
        ⟨_, impossible⟩ | ⟨_, earlier⟩
      · cases impossible
      · exact .inl earlier
  | @claimed _ _ _ _ _ outcome _ absent =>
      rcases ModelState.find?_begin absent found with
        ⟨_, impossible⟩ | ⟨_, earlier⟩
      · cases outcome <;> cases impossible
      · exact .inl earlier
  | responded waiting =>
      rcases ModelState.find?_setPhase found with
        ⟨rfl, earlier, earlierFound, answered⟩ | ⟨_, earlier⟩
      · rw [waiting] at earlierFound
        cases earlierFound
        cases answered
        exact .inr ⟨rfl, waiting⟩
      · exact .inl earlier
  | abandoned | uncompleted | completed =>
      rcases ModelState.find?_setPhase found with
        ⟨_, _, _, impossible⟩ | ⟨_, earlier⟩
      · cases impossible
      · exact .inl earlier

private theorem operation_of_claim {db db' : ModelDatabase}
    {clock : DatabaseClock} {workerNow : Int} {generated : ModelAttemptId}
    {operationId : ModelOperationId} {attempt : ClaimedModelAttempt}
    (claims : ModelDatabase.ClaimEffect clock workerNow generated operationId
      db (.claimed attempt) db') :
    ∃ row, db.operations.find? operationId = some row ∧
      attempt.Serves row.toModelOperationTerms := by
  cases claims with
  | dispatched _ found => exact ⟨_, found, rfl, rfl⟩

private theorem attempt_operation_step
    (known : ∀ call execution attempt,
      state.calls.find? call = some execution →
      execution.phase.attempt? = some attempt →
      ∃ row, state.database.operations.find? execution.operationId =
        some row ∧ attempt.Serves row.toModelOperationTerms)
    (step : ModelStep dates state action state') {call : CallId}
    {execution : ExecutionCall} {attempt : ClaimedModelAttempt}
    (found : state'.calls.find? call = some execution)
    (working : execution.phase.attempt? = some attempt) :
    ∃ row, state'.database.operations.find? execution.operationId =
      some row ∧ attempt.Serves row.toModelOperationTerms := by
  apply operation_persists step.termsPersist
  rcases step.working_cases found working with
    ⟨earlier, earlierFound, same, still⟩ | ⟨_, _, _, claims⟩
  · rw [← same]
    exact known call earlier attempt earlierFound still
  · exact operation_of_claim claims

/-- Every call works on an attempt of its own operation. -/
theorem reachable_attempt_operation
    (reached : (modelSystem dates).Reachable state) (call : CallId)
    (execution : ExecutionCall) (attempt : ClaimedModelAttempt)
    (found : state.calls.find? call = some execution)
    (working : execution.phase.attempt? = some attempt) :
    ∃ row, state.database.operations.find? execution.operationId =
      some row ∧ attempt.Serves row.toModelOperationTerms := by
  refine System.Reachable.invariant (I := fun state =>
    ∀ call execution attempt, state.calls.find? call = some execution →
      execution.phase.attempt? = some attempt →
      ∃ row, state.database.operations.find? execution.operationId =
        some row ∧ attempt.Serves row.toModelOperationTerms) ?_ ?_ reached call
          execution attempt found working
  · rintro state ⟨users, rfl⟩ call execution attempt found
    simp at found
  · intro state action state' _ known taken call execution attempt found
      working
    exact attempt_operation_step known (modelStep_of_next taken) found working

theorem CallsWithinProfile.step (within : CallsWithinProfile state)
    (bounded : BoundedUsage state action)
    (step : ModelStep dates state action state') :
    CallsWithinProfile state' where
  operation := fun _ _ _ found working =>
    attempt_operation_step within.operation step found working
  cost := by
    intro call operationId attempt success found openai
    rcases step.responded_cases found with earlier | ⟨rfl, waiting⟩
    · exact within.cost call operationId attempt success earlier openai
    · exact (bounded operationId attempt waiting).cost_le openai

end Calls

namespace ModelDatabase

/-- No account has passed its ceiling. -/
def SpendBounded (db : ModelDatabase) : Prop :=
  ∀ key account, db.accounts.find? key = some account →
    account.reservedMicroUsd + account.settledMicroUsd ≤
      account.ceilingMicroUsd

variable {db db' reserved : ModelDatabase}

private theorem spendBounded_of_accounts (bounded : SpendBounded db)
    (same : db'.accounts = db.accounts) : SpendBounded db' := by
  intro key account found
  rw [same] at found
  exact bounded key account found

/-- Both charged accounts have room for the reservation. -/
theorem SpendBounded.reserve (bounded : SpendBounded db)
    {charge : BudgetCharge} {environmentCeiling userCeiling : Nat}
    {reservation : Int} {billed : Prop}
    (reserves : ReservationEffect db charge environmentCeiling userCeiling
      reservation billed reserved) : SpendBounded reserved := by
  cases reserves with
  | unbilled => exact bounded
  | @charged funded _ fundedEq environmentRoom userRoom =>
      intro key account found
      rw [find?_reserve, Option.map_eq_some_iff] at found
      obtain ⟨earlier, earlierFound, rfl⟩ := found
      simp only [reservedAccount_reservedMicroUsd,
        reservedAccount_settledMicroUsd, reservedAccount_ceilingMicroUsd]
      cases covered : charge.covers key with
      | true =>
          have room : earlier.spend + reservation ≤
              earlier.ceilingMicroUsd := by
            rcases BudgetCharge.covers_iff.mp covered with rfl | rfl
            · obtain ⟨account, accountFound, room⟩ := environmentRoom
              rw [earlierFound] at accountFound
              cases accountFound
              exact room
            · obtain ⟨account, accountFound, room⟩ := userRoom
              rw [earlierFound] at accountFound
              cases accountFound
              exact room
          unfold BudgetAccountRow.spend at room
          simp only [if_true]
          omega
      | false =>
          subst fundedEq
          simp only [Bool.false_eq_true, if_false, add_zero]
          rcases find?_insertBudgetAccounts earlierFound with
            present | ⟨_, other, _⟩
          · exact bounded key earlier present
          · rw [covered] at other
            cases other

/-- A settlement below its reservation lowers the spend. -/
theorem SpendBounded.release (bounded : SpendBounded db)
    (row : ModelOperationRow) (settlement : Int)
    (replaces : row.provider = .openai →
      settlement ≤ row.reservedCostMicroUsd)
    (accounts : db'.accounts = (db.release row settlement).accounts) :
    SpendBounded db' := by
  intro key account found
  rw [accounts, find?_release, Option.map_eq_some_iff] at found
  obtain ⟨earlier, earlierFound, rfl⟩ := found
  have within := bounded key earlier earlierFound
  cases provider : row.provider with
  | deterministic => simpa [releases, provider] using within
  | openai =>
      have smaller := replaces provider
      split
      · dsimp only
        omega
      · exact within

end ModelDatabase

open ModelDatabase

section Ceiling

variable {dates : DateBuiltins} {state state' : ModelState}

/-- What an open attempt can settle is covered by its reservation. -/
theorem settlement_le_reservation {row : ModelOperationRow}
    {attempt : ClaimedModelAttempt} {result : ModelGatewayResult}
    {completion : ModelOperationCompletion}
    (registered : row.IsRegistered)
    (openai : row.provider = .openai)
    (dispatched : row.status = .dispatched)
    (serves : attempt.Serves row.toModelOperationTerms)
    (priced : ∀ success, result = .ok success →
      attempt.provider = .openai → success.costMicroUsd ≤
        (modelOperationProfiles attempt.operation).maximumCostMicroUsd) :
    row.settlement completion result.toOption ≤ row.reservedCostMicroUsd := by
  have billable : row.MayBill :=
    ⟨openai, .inl
      (ModelOperationStatus.isTerminal_eq_false_of_dispatched dispatched)⟩
  cases result with
  | ok success =>
      have cost := priced success rfl (serves.2.symm.trans openai)
      rw [registered.reservation, ModelOperationRow.dueReservation,
        if_pos billable, serves.1]
      simp only [ModelOperationRow.settlement, Except.toOption]
      exact_mod_cast cost
  | error failure =>
      simp only [ModelOperationRow.settlement, Except.toOption]
      split
      · exact le_rfl
      · exact registered.reserved_nonneg

private theorem priced_of_within (within : CallsWithinProfile state)
    {call : CallId} {operationId : ModelOperationId}
    {attempt : ClaimedModelAttempt} {result : ModelGatewayResult}
    (waiting : state.calls.find? call =
      some ⟨operationId, .responded attempt result⟩)
    (success : ModelGatewaySuccess) (answered : result = .ok success)
    (openai : attempt.provider = .openai) :
    success.costMicroUsd ≤
      (modelOperationProfiles attempt.operation).maximumCostMicroUsd := by
  subst answered
  exact within.cost call operationId attempt success waiting openai

private theorem operation_of_within (within : CallsWithinProfile state)
    {call : CallId} {operationId : ModelOperationId}
    {attempt : ClaimedModelAttempt} {result : ModelGatewayResult}
    {row : ModelOperationRow}
    (waiting : state.calls.find? call =
      some ⟨operationId, .responded attempt result⟩)
    (found : state.database.operations.find? operationId = some row) :
    attempt.Serves row.toModelOperationTerms := by
  obtain ⟨present, presentFound, serves⟩ := within.operation call
    ⟨operationId, .responded attempt result⟩ attempt waiting rfl
  rw [found] at presentFound
  cases presentFound
  exact serves

theorem spendBounded_step
    (registered : ∀ operationId row,
      state.database.operations.find? operationId = some row →
      row.IsRegistered)
    (within : CallsWithinProfile state)
    (bounded : SpendBounded state.database) {action : ModelAction}
    (step : ModelStep dates state action state') :
    SpendBounded state'.database := by
  cases step with
  | unprepared | unrestarted | unclaimed | responded | abandoned
  | uncompleted => exact bounded
  | prepared _ prepares =>
      cases prepares with
      | duplicate => exact bounded
      | prepared _ reserves =>
          exact spendBounded_of_accounts (bounded.reserve reserves) rfl
  | restarted restarts =>
      cases restarts with
      | duplicate => exact bounded
      | restarted _ _ _ _ _ reserves =>
          exact spendBounded_of_accounts (bounded.reserve reserves) rfl
  | claimed _ claims =>
      cases claims with
      | stored | leased | waiting => exact bounded
      | expired => exact spendBounded_of_accounts bounded rfl
      | @rejected row _ _ found =>
          apply bounded.release row 0
          · intro _
            exact (registered _ _ found).reserved_nonneg
          · rfl
      | dispatched _ _ _ _ _ passed =>
          obtain ⟨dispatchCounters, rfl⟩ := passed.counted
          exact spendBounded_of_accounts bounded rfl
  | @completed _ operationId attempt result _ _ completion _ waiting completes =>
      cases completes with
      | stale => exact bounded
      | scheduled => exact spendBounded_of_accounts bounded rfl
      | @settled row completion found dispatched =>
          by_cases unknown : completion.disposition = .outcomeUnknown
          · apply spendBounded_of_accounts bounded
            simp [releaseSettled, unknown]
          · apply bounded.release row
              (row.settlement completion result.toOption)
            · intro openai
              exact settlement_le_reservation (registered _ _ found) openai
                dispatched (operation_of_within within waiting found)
                (priced_of_within within waiting)
            · simp [releaseSettled, unknown, completeInput]

/-- As long as successful responses stay within their profiles, no account
passes its ceiling, and what an open attempt would settle is at most the
reservation that the settlement releases. -/
theorem spend_within_ceiling
    (reached : (modelSystem dates).ReachableWhere BoundedUsage state) :
    (∀ key account, state.database.accounts.find? key = some account →
      account.reservedMicroUsd + account.settledMicroUsd ≤
        account.ceilingMicroUsd) ∧
      ∀ call operationId attempt result row clock,
        state.calls.find? call =
          some ⟨operationId, .responded attempt result⟩ →
        state.database.operations.find? operationId = some row →
        row.provider = .openai → row.status = .dispatched →
        row.settlement (row.effectiveCompletion clock
          (submittedCompletion dates attempt result)) result.toOption ≤
            row.reservedCostMicroUsd := by
  have invariant : SpendBounded state.database ∧ CallsWithinProfile state := by
    refine System.ReachableWhere.invariant (I := fun state =>
      SpendBounded state.database ∧ CallsWithinProfile state) ?_ ?_ reached
    · rintro initial ⟨users, rfl⟩
      refine ⟨?_, ?_, ?_⟩
      · intro key account found
        simp at found
      · intro call execution attempt found
        simp at found
      · intro call operationId attempt success found
        simp at found
    · intro earlier action later reachedEarlier holds permitted taken
      have step := modelStep_of_next taken
      have registered : ∀ operationId row,
          earlier.database.operations.find? operationId = some row →
          row.IsRegistered := fun _ _ found =>
        reachable_isRegistered reachedEarlier.reachable found
      exact ⟨spendBounded_step registered holds.2 holds.1 step,
        holds.2.step permitted step⟩
  obtain ⟨bounded, within⟩ := invariant
  refine ⟨bounded, ?_⟩
  intro call operationId attempt result row clock waiting found openai
    dispatched
  exact settlement_le_reservation
    (reachable_isRegistered reached.reachable found) openai dispatched
    (operation_of_within within waiting found)
    (priced_of_within within waiting)

/-- A test of the assumption on one step. -/
def usageWithinProfile (state : ModelState) (action : ModelAction) : Bool :=
  match action with
  | .respond call (.ok success) =>
      (state.calls.find? call).all (fun execution =>
        match execution.phase with
        | .dispatching attempt => success.WithinProfile attempt
        | _ => true)
  | _ => true

theorem boundedUsage_of_usageWithinProfile (action : ModelAction)
    (tested : usageWithinProfile state action = true) :
    BoundedUsage state action := by
  cases action with
  | respond call result =>
      cases result with
      | error failure => exact trivial
      | ok success =>
          intro operationId attempt found
          simpa [usageWithinProfile, found] using tested
  | _ => exact trivial

theorem spend_within_ceiling_settled :
    ∃ state account,
      (modelSystem sampleDates).ReachableWhere BoundedUsage state ∧
      state.database.accounts.find?
        { scope := .user sampleUser
          periodStart := { year := 2026, month := 3, day := 1 } } =
            some account ∧
        account.settledMicroUsd = 40 ∧
          account.reservedMicroUsd + account.settledMicroUsd ≤
            account.ceilingMicroUsd := by
  obtain ⟨state, reached, tested⟩ := System.exists_reachableWhere_of_run
    settledRun usageWithinProfile
    (fun state => (state.database.accounts.find?
      { scope := .user sampleUser
        periodStart := { year := 2026, month := 3, day := 1 } }).any
          (fun account => account.settledMicroUsd = 40))
    (fun _ action => boundedUsage_of_usageWithinProfile action)
    (sampleStart_initial sampleDates) (by decide +kernel)
  obtain ⟨account, found, settled⟩ := (Option.any_eq_true _ _).mp tested
  exact ⟨state, account, reached, found, by simpa using settled,
    (spend_within_ceiling reached).1 _ account found⟩

end Ceiling

end XpensGo
