import XpensGo.Model.AttemptHistory
import XpensGo.Model.Finality

/-!
# Reported and durable outcomes

What a call of `executePreparedModelOperation` returns, compared with the
stored row.  Every branch but one reports what `complete` returned.  The
successful branch ignores it, so it agrees with the row only if the attempt was
still current when it was completed.
-/

namespace XpensGo

open EcmaScript Postgres Relational Transition ModelDatabase

/-- A terminal row whose stored completion is the reported one. -/
def StoresCompletion (db : ModelDatabase) (operationId : ModelOperationId)
    (completion : ModelOperationCompletion) : Prop :=
  ∃ row, db.operations.find? operationId = some row ∧
    row.status.isTerminal = true ∧
      row.completionDisposition = some completion.disposition ∧
        row.observedFailure = completion.observedFailure

/-- What each reported outcome says about the stored rows. -/
def OutcomeStored (db : ModelDatabase) (operationId : ModelOperationId)
    (attempt : Option ClaimedModelAttempt) :
    ExecutePreparedModelOperationOutcome → Prop
  | .succeeded output =>
      ∃ row, db.operations.find? operationId = some row ∧
        row.status = .succeeded ∧ row.resultJson = some output
  | .failed completion | .alreadyCompleted completion =>
      StoresCompletion db operationId completion
  | .retryScheduled _ =>
      ∃ claimed row, attempt = some claimed ∧
        db.attempts.find? claimed.attemptId = some row ∧
          row.status = .completed ∧ row.retryPlan = .scheduleTransient429
  | .deferred _ => True

/-- All outcomes that have been returned agree with the stored rows. -/
def OutcomesAgree (state : ModelState) : Prop :=
  ∀ call operationId attempt outcome,
    state.calls.find? call =
      some ⟨operationId, .returned attempt outcome⟩ →
    OutcomeStored state.database operationId attempt outcome

/-- The condition on a step: a call completes a valid successful response
while its attempt is still the current one. -/
def CompletesCurrent (dates : DateBuiltins) (state : ModelState) :
    ModelAction → Prop
  | .complete call _ _ =>
      ∀ operationId attempt success row,
        state.calls.find? call =
          some ⟨operationId, .responded attempt (.ok success)⟩ →
        containsInvalidExtractedDate dates success.output = false →
        state.database.operations.find? operationId = some row →
        row.status = .dispatched ∧
          row.currentAttemptId = some attempt.attemptId
  | _ => True

section Agreement

variable {dates : DateBuiltins} {state state' : ModelState}
  {db db' : ModelDatabase} {operationId : ModelOperationId}

/-- Stored outcomes stay stored. -/
theorem OutcomeStored.persist {attempt : Option ClaimedModelAttempt}
    {outcome : ExecutePreparedModelOperationOutcome}
    (persist : FinalRowsPersist db db')
    (stored : OutcomeStored db operationId attempt outcome) :
    OutcomeStored db' operationId attempt outcome := by
  cases outcome with
  | succeeded output =>
      obtain ⟨row, found, succeeded, result⟩ := stored
      have terminal : row.status.isTerminal = true := by
        rw [succeeded]
        rfl
      exact ⟨row, persist.operations _ _ found terminal, succeeded, result⟩
  | failed completion | alreadyCompleted completion =>
      obtain ⟨row, found, terminal, disposition, failure⟩ := stored
      exact ⟨row, persist.operations _ _ found terminal, terminal, disposition,
        failure⟩
  | retryScheduled delay =>
      obtain ⟨claimed, row, same, found, completed, planned⟩ := stored
      exact ⟨claimed, row, same, persist.attempts _ _ found completed,
        completed, planned⟩
  | deferred delay => exact trivial

/-- The completion read from a terminal row. -/
theorem storesCompletion_of_toCompletion {row : ModelOperationRow}
    {workerNow : Int} {completion : ModelOperationCompletion}
    (found : db.operations.find? operationId = some row)
    (terminal : row.status.isTerminal = true)
    (answered : row.toCompletion workerNow = .ok completion) :
    StoresCompletion db operationId completion := by
  unfold ModelOperationRow.toCompletion at answered
  split at answered
  · cases answered
  · rename_i disposition stored
    cases answered
    exact ⟨row, found, terminal, stored, rfl⟩

/-- The stored completion of a row without a plan plans nothing. -/
theorem toCompletion_retryPlan {row : ModelOperationRow} {workerNow : Int}
    {completion : ModelOperationCompletion}
    (unplanned : row.retryPlan = .none)
    (answered : row.toCompletion workerNow = .ok completion) :
    completion.retryPlan = .none := by
  unfold ModelOperationRow.toCompletion at answered
  split at answered
  · cases answered
  · cases answered
    simp [unplanned, toRetryPlan]

private theorem disposition_status_terminal
    (disposition : ModelCompletionDisposition) :
    disposition.status.isTerminal = true := by
  cases disposition <;> rfl

/-- What a claim reports is stored. -/
theorem outcomeStored_of_claim {clock : DatabaseClock} {workerNow : Int}
    {generated : ModelAttemptId} {outcome : ClaimModelOperationOutcome}
    {attempt : Option ClaimedModelAttempt}
    {reported : ExecutePreparedModelOperationOutcome}
    (claims : ClaimEffect clock workerNow generated operationId db outcome db')
    (returned : ExecutionPhase.afterClaim outcome =
      .returned attempt reported) :
    OutcomeStored db' operationId attempt reported := by
  cases claims with
  | stored found terminal answered =>
      cases returned
      exact storesCompletion_of_toCompletion found terminal answered
  | leased | waiting =>
      cases returned
      exact trivial
  | @expired row _ _ found =>
      cases returned
      refine ⟨ModelOperationRow.expireLease clock row, ?_, rfl, rfl, rfl⟩
      rw [setOperation_operations, setDispatchedAttempt_operations,
        Table.find?_modify_self, found]
      rfl
  | @rejected row failure clearsClaim found =>
      cases returned
      refine ⟨ModelOperationRow.rejectBeforeDispatch clock failure clearsClaim
        row, ?_, rfl, rfl, rfl⟩
      rw [setOperation_operations, release_operations,
        Table.find?_modify_self, found]
      rfl
  | dispatched => cases returned

/-- A completion without a retry that `complete` returns is stored. -/
theorem storesCompletion_of_complete {clock : DatabaseClock} {workerNow : Int}
    {input : CompleteModelOperationInput}
    {completion : ModelOperationCompletion}
    (unplanned : completion.retryPlan = .none)
    (completes : CompleteEffect clock workerNow input db completion db') :
    StoresCompletion db' input.operationId completion := by
  cases completes with
  | stale found _ terminal answered =>
      exact storesCompletion_of_toCompletion found terminal answered
  | scheduled _ _ _ _ planned =>
      rw [unplanned] at planned
      cases planned
  | @settled row _ found =>
      refine ⟨ModelOperationRow.settle clock completion input.result
        row.reservedCostMicroUsd (row.settlement completion input.result) row,
        ?_, disposition_status_terminal _, rfl, rfl⟩
      rw [setOperation_operations, releaseSettled_operations,
        setDispatchedAttempt_operations, Table.find?_modify_self, found]
      rfl

/-- A retry that `complete` plans was written to the submitted attempt. -/
theorem scheduled_of_complete {clock : DatabaseClock} {workerNow : Int}
    {input : CompleteModelOperationInput} {delay : Int}
    {completion : ModelOperationCompletion}
    (unplanned : ∀ row, db.operations.find? input.operationId = some row →
      row.status.isTerminal = true → row.retryPlan = .none)
    (planned : completion.retryPlan = .scheduleTransientRateLimit delay)
    (completes : CompleteEffect clock workerNow input db completion db') :
    ∃ row, db.operations.find? input.operationId = some row ∧
      row.status = .dispatched ∧
        row.currentAttemptId = some input.attemptId ∧
          db' = (db.setDispatchedAttempt input.attemptId
            (ModelAttemptRow.complete clock completion
              input.result)).setOperation input.operationId
                (ModelOperationRow.scheduleRetry clock completion delay) := by
  cases completes with
  | stale found _ terminal answered =>
      rw [toCompletion_retryPlan (unplanned _ found terminal) answered]
        at planned
      cases planned
  | scheduled found dispatched current _ other =>
      rw [planned] at other
      cases other
      exact ⟨_, found, dispatched, current, rfl⟩
  | settled _ _ _ _ other =>
      rw [planned] at other
      cases other

/-- A valid successful response that is completed while its attempt is current
is stored as the result of the operation. -/
theorem succeeded_of_complete {clock : DatabaseClock} {workerNow : Int}
    {attempt : ClaimedModelAttempt} {success : ModelGatewaySuccess}
    {completion : ModelOperationCompletion}
    (valid : containsInvalidExtractedDate dates success.output = false)
    (current : ∀ row, db.operations.find? operationId = some row →
      row.status = .dispatched ∧
        row.currentAttemptId = some attempt.attemptId)
    (completes : CompleteEffect clock workerNow
      (completeInput dates operationId attempt (.ok success)) db completion
      db') :
    ∃ row, db'.operations.find? operationId = some row ∧
      row.status = .succeeded ∧ row.resultJson = some success.output := by
  have submitted : submittedCompletion dates attempt (.ok success) =
      { disposition := .succeeded
        observedFailure := none
        retryPlan := .none } := by
    simp [submittedCompletion, valid]
  cases completes with
  | stale found stale =>
      obtain ⟨dispatched, same⟩ := current _ found
      rcases stale with notDispatched | notCurrent
      · exact (notDispatched dispatched).elim
      · exact (notCurrent same).elim
  | scheduled _ _ _ effective planned =>
      rw [effective] at planned
      obtain ⟨asked, asking, _⟩ := effectiveCompletion_schedules planned
      rw [completeInput, submitted] at asking
      cases asking
  | @settled row _ found _ _ effective _ accepted =>
      have succeeded : completion.disposition = .succeeded := by
        rw [effective, effectiveCompletion_disposition]
        simp [completeInput, submitted]
      refine ⟨ModelOperationRow.settle clock completion (some success)
        row.reservedCostMicroUsd (row.settlement completion (some success))
          row, ?_, ?_, ?_⟩
      · rw [setOperation_operations, releaseSettled_operations,
          setDispatchedAttempt_operations]
        change (db.operations.modify operationId _).find? operationId = _
        rw [Table.find?_modify_self]
        have present : db.operations.find? operationId = some row := found
        rw [present]
        rfl
      · simp [ModelOperationRow.settle, succeeded,
          ModelCompletionDisposition.status]
      · exact ModelOperationRow.settle_resultJson succeeded accepted

private theorem terminal_rows_unplanned
    (reached : (modelSystem dates).Reachable state)
    (operationId : ModelOperationId) (row : ModelOperationRow)
    (found : state.database.operations.find? operationId = some row)
    (terminal : row.status.isTerminal = true) : row.retryPlan = .none :=
  (terminal_unplanned dates).database.holds reached operationId row found
    terminal

private theorem executionOutcome_retryScheduled {result : ModelGatewayResult}
    {completion : ModelOperationCompletion} {delay : Int}
    (reported : executionOutcome dates result completion =
      .retryScheduled delay) :
    completion.retryPlan = .scheduleTransientRateLimit delay := by
  unfold executionOutcome at reported
  split at reported
  · split at reported <;> cases reported
  · split at reported
    · rename_i planned
      cases reported
      exact planned
    · cases reported

/-- The outcome that a completed call reports is stored. -/
theorem outcomeStored_of_complete
    (reached : (modelSystem dates).Reachable state) {call : CallId}
    {clock : DatabaseClock} {workerNow : Int} {attempt : ClaimedModelAttempt}
    {result : ModelGatewayResult} {completion : ModelOperationCompletion}
    (current : CompletesCurrent dates state (.complete call clock workerNow))
    (waiting : state.calls.find? call =
      some ⟨operationId, .responded attempt result⟩)
    (completes : CompleteEffect clock workerNow
      (completeInput dates operationId attempt result) state.database
      completion db') :
    OutcomeStored db' operationId (some attempt)
      (executionOutcome dates result completion) := by
  cases result with
  | ok success =>
      cases invalid : containsInvalidExtractedDate dates success.output with
      | false =>
          have stored := succeeded_of_complete invalid
            (fun row found => current operationId attempt success row waiting
              invalid found) completes
          simpa [executionOutcome, invalid, OutcomeStored] using stored
      | true =>
          have unplanned : completion.retryPlan = .none := by
            cases plan : completion.retryPlan with
            | none => rfl
            | scheduleTransientRateLimit delay =>
                cases completes with
                | stale found _ terminal answered =>
                    rw [toCompletion_retryPlan (terminal_rows_unplanned reached
                      _ _ found terminal) answered] at plan
                    cases plan
                | scheduled _ _ _ effective =>
                    rw [effective] at plan
                    obtain ⟨asked, asking, _⟩ :=
                      effectiveCompletion_schedules plan
                    simp [completeInput, submittedCompletion, invalid,
                      finalCompletion] at asking
                | settled _ _ _ _ planless =>
                    rw [planless] at plan
                    cases plan
          have stored : StoresCompletion db' operationId completion :=
            storesCompletion_of_complete unplanned completes
          simpa [executionOutcome, invalid, OutcomeStored] using stored
  | error failure =>
      cases plan : completion.retryPlan with
      | none =>
          have stored : StoresCompletion db' operationId completion :=
            storesCompletion_of_complete plan completes
          simpa [executionOutcome, plan, OutcomeStored] using stored
      | scheduleTransientRateLimit delay =>
          obtain ⟨row, found, dispatched, claimed, rfl⟩ :=
            scheduled_of_complete
              (fun row => terminal_rows_unplanned reached _ row) plan completes
          have histories := (attemptHistories_invariant dates).holds reached
          obtain ⟨running, runningFound, status, _⟩ :=
            histories.current_running found dispatched claimed
          have reported : executionOutcome dates (.error failure) completion =
              .retryScheduled delay := by
            simp [executionOutcome, plan]
          rw [reported]
          refine ⟨attempt, ModelAttemptRow.complete clock completion none
            running, rfl, ?_, rfl, by simp [ModelAttemptRow.complete, plan,
              ModelRetryPlan.name]⟩
          rw [setOperation_attempts]
          unfold setDispatchedAttempt
          change (Table.updateWhere _ _ _).find? attempt.attemptId = _
          rw [Table.find?_updateWhere]
          have present : state.database.attempts.find? attempt.attemptId =
              some running := runningFound
          rw [present]
          simp [status, completeInput, Except.toOption]

/-- A retry is reported exactly by the call whose attempt was sent back. -/
theorem retryScheduled_moves
    (reached : (modelSystem dates).Reachable state) {call : CallId}
    {clock : DatabaseClock} {workerNow : Int}
    {attempt : Option ClaimedModelAttempt} {delay : Int}
    (taken : (modelSystem dates).next state (.complete call clock workerNow) =
      some state')
    (returned : state'.calls.find? call =
      some ⟨operationId, .returned attempt (.retryScheduled delay)⟩) :
    ∃ claimed row row', attempt = some claimed ∧
      state.database.operations.find? operationId = some row ∧
        row.status = .dispatched ∧
          row.currentAttemptId = some claimed.attemptId ∧
      state'.database.operations.find? operationId = some row' ∧
        row'.status = .retryScheduled := by
  cases modelStep_of_next taken with
  | uncompleted =>
      rcases ModelState.find?_setPhase returned with
        ⟨_, _, _, impossible⟩ | ⟨different, _⟩
      · cases impossible
      · exact (different rfl).elim
  | @completed _ claimedOperation claimed result _ _ completion _ waiting
      completes =>
      rcases ModelState.find?_setPhase returned with
        ⟨_, earlier, earlierFound, reported⟩ | ⟨different, _⟩
      · have same : earlier = ⟨claimedOperation, .responded claimed result⟩ :=
          Option.some.inj (earlierFound.symm.trans waiting)
        subst same
        injection reported with sameOperation samePhase
        injection samePhase with sameAttempt sameOutcome
        subst sameOperation
        have planned := executionOutcome_retryScheduled sameOutcome.symm
        obtain ⟨row, found, dispatched, current, rfl⟩ :=
          scheduled_of_complete
            (fun row => terminal_rows_unplanned reached _ row) planned
            completes
        refine ⟨claimed, row, ModelOperationRow.scheduleRetry clock completion
          delay row, sameAttempt, found, dispatched, current, ?_, rfl⟩
        change (Table.modify _ operationId _).find? operationId = _
        rw [Table.find?_modify_self]
        have present : state.database.operations.find? operationId =
            some row := found
        change Option.map _ (state.database.operations.find? operationId) = _
        rw [present]
        rfl
      · exact (different rfl).elim

/-- In every run in which valid successful responses are completed while their
attempt is current, every outcome returned agrees with the stored row, and a
scheduled retry is reported by the call whose attempt was sent back. -/
theorem reported_outcomes_agree
    (reached : (modelSystem dates).ReachableWhere (CompletesCurrent dates)
      state) :
    OutcomesAgree state ∧
      ∀ call clock workerNow state' operationId attempt delay,
        (modelSystem dates).next state (.complete call clock workerNow) =
          some state' →
        state'.calls.find? call =
          some ⟨operationId, .returned attempt (.retryScheduled delay)⟩ →
        ∃ claimed row row', attempt = some claimed ∧
          state.database.operations.find? operationId = some row ∧
            row.status = .dispatched ∧
              row.currentAttemptId = some claimed.attemptId ∧
          state'.database.operations.find? operationId = some row' ∧
            row'.status = .retryScheduled := by
  refine ⟨?_, ?_⟩
  · refine System.ReachableWhere.invariant (I := OutcomesAgree) ?_ ?_ reached
    · rintro initial ⟨users, rfl⟩ call operationId attempt outcome found
      simp at found
    · intro earlier action later reachedEarlier agree current taken
      have step := modelStep_of_next taken
      have persist := step.finalRowsPersist
      intro call operationId attempt outcome found
      cases step with
      | unprepared | unrestarted | prepared | restarted =>
          exact (agree call operationId attempt outcome found).persist persist
      | unclaimed absent =>
          rcases ModelState.find?_begin absent found with
            ⟨_, impossible⟩ | ⟨_, present⟩
          · cases impossible
          · exact (agree call operationId attempt outcome present).persist
              persist
      | claimed absent claims =>
          rcases ModelState.find?_begin absent found with
            ⟨_, reported⟩ | ⟨_, present⟩
          · injection reported with sameOperation samePhase
            subst sameOperation
            exact outcomeStored_of_claim claims samePhase.symm
          · exact (agree call operationId attempt outcome present).persist
              persist
      | responded | abandoned | uncompleted =>
          rcases ModelState.find?_setPhase found with
            ⟨_, _, _, impossible⟩ | ⟨_, present⟩
          · cases impossible
          · exact (agree call operationId attempt outcome present).persist
              persist
      | @completed _ claimedOperation claimed result _ _ completion _ waiting
          completes =>
          rcases ModelState.find?_setPhase found with
            ⟨_, before, beforeFound, reported⟩ | ⟨_, present⟩
          · have same : before =
                ⟨claimedOperation, .responded claimed result⟩ :=
              Option.some.inj (beforeFound.symm.trans waiting)
            subst same
            injection reported with sameOperation samePhase
            injection samePhase with sameAttempt sameOutcome
            subst sameOperation sameAttempt sameOutcome
            exact outcomeStored_of_complete reachedEarlier.reachable current
              waiting completes
          · exact (agree call operationId attempt outcome present).persist
              persist
  · intro call clock workerNow state' operationId attempt delay taken returned
    exact retryScheduled_moves reached.reachable taken returned

/-- A computable condition that implies `CompletesCurrent`. -/
def completesCurrentRow (state : ModelState) : ModelAction → Bool
  | .complete call _ _ =>
      match state.calls.find? call with
      | some ⟨operationId, .responded attempt _⟩ =>
          (state.database.operations.find? operationId).all (fun row =>
            row.status = .dispatched &&
              row.currentAttemptId = some attempt.attemptId)
      | _ => true
  | _ => true

theorem completesCurrent_of_completesCurrentRow (action : ModelAction)
    (met : completesCurrentRow state action = true) :
    CompletesCurrent dates state action := by
  cases action with
  | complete call clock workerNow =>
      intro operationId attempt success row waiting _ found
      simpa [completesCurrentRow, waiting, found] using met
  | prepare | restart | claim | respond | abandon => exact trivial

/-- Call 0 has reported the success of the sample operation. -/
def reportedSuccess (state : ModelState) : Bool :=
  match state.calls.find? 0 with
  | some ⟨operationId, .returned _ (.succeeded _)⟩ =>
      operationId = sampleOperation
  | _ => false

theorem reportedSuccess_eq_true (reported : reportedSuccess state = true) :
    ∃ attempt output, state.calls.find? 0 =
      some ⟨sampleOperation, .returned attempt (.succeeded output)⟩ := by
  unfold reportedSuccess at reported
  split at reported
  · rename_i operationId attempt output found
    have same : operationId = sampleOperation := by simpa using reported
    subst same
    exact ⟨attempt, output, found⟩
  · cases reported

theorem reported_outcomes_agree_settled :
    ∃ state attempt output row,
      (modelSystem sampleDates).ReachableWhere (CompletesCurrent sampleDates)
        state ∧
      state.calls.find? 0 =
        some ⟨sampleOperation, .returned attempt (.succeeded output)⟩ ∧
      state.database.operations.find? sampleOperation = some row ∧
        row.status = .succeeded ∧ row.resultJson = some output := by
  obtain ⟨state, reached, tested⟩ := System.exists_reachableWhere_of_run
    settledRun completesCurrentRow reportedSuccess
    (fun _ action => completesCurrent_of_completesCurrentRow action)
    (sampleStart_initial sampleDates) (by decide +kernel)
  obtain ⟨attempt, output, found⟩ := reportedSuccess_eq_true tested
  obtain ⟨row, present, succeeded, result⟩ :=
    (reported_outcomes_agree reached).1 _ _ _ _ found
  exact ⟨state, attempt, output, row, reached, found, present, succeeded,
    result⟩

/-- The lease of an attempt expires during its gateway call, and another claim
collects it before the successful response is completed. -/
def lateSuccessRun : List ModelAction :=
  [.prepare (sampleClock 0) sampleRequest,
    .claim 0 sampleOperation (sampleClock 10) 10 ⟨3⟩,
    .claim 1 sampleOperation (sampleClock 40000) 40000 ⟨4⟩,
    .respond 0 (.ok (sampleSuccess 100)),
    .complete 0 (sampleClock 40100) 40100]

theorem reported_outcomes_disagree :
    ¬∀ state, (modelSystem sampleDates).Reachable state →
      OutcomesAgree state := by
  intro agree
  obtain ⟨state, reached, tested⟩ := System.exists_reachable_of_run
    lateSuccessRun
    (fun state => reportedSuccess state &&
      (state.database.operations.find? sampleOperation).any
        (fun row => row.status = .outcomeUnknown))
    (sampleStart_initial sampleDates) (by decide +kernel)
  simp only [Bool.and_eq_true, decide_eq_true_eq, Option.any_eq_true]
    at tested
  obtain ⟨reported, row, present, unknown⟩ := tested
  obtain ⟨attempt, _, found⟩ := reportedSuccess_eq_true reported
  obtain ⟨stored, storedFound, succeeded, _⟩ :=
    agree state reached _ _ _ _ found
  cases Option.some.inj (storedFound.symm.trans present)
  rw [succeeded] at unknown
  cases unknown

end Agreement

end XpensGo
