import XpensGo.Model.Registration

/-!
# Final rows

No transaction changes a terminal operation or a completed attempt.
-/

namespace XpensGo

open EcmaScript Postgres Relational

/-- Terminal operations and completed attempts of `earlier` are unchanged in
`later`. -/
structure FinalRowsPersist (earlier later : ModelDatabase) : Prop where
  operations : ∀ operationId row,
    earlier.operations.find? operationId = some row →
    row.status.isTerminal = true →
    later.operations.find? operationId = some row
  attempts : ∀ attemptId attempt,
    earlier.attempts.find? attemptId = some attempt →
    attempt.status = .completed →
    later.attempts.find? attemptId = some attempt

section Persistence

variable {db db' : ModelDatabase}

theorem FinalRowsPersist.refl (db : ModelDatabase) : FinalRowsPersist db db :=
  ⟨fun _ _ found _ => found, fun _ _ found _ => found⟩

private theorem operations_push {operationId : ModelOperationId}
    {row : ModelOperationRow}
    (fresh : operationId ∉ db'.operations.rows.map Prod.fst)
    (operations : db'.operations = db.operations)
    (attempts : db'.attempts = db.attempts) :
    FinalRowsPersist db { db' with
      operations := db'.operations.push operationId row fresh } := by
  refine ⟨?_, ?_⟩
  · intro other present found _
    rw [← operations] at found
    exact Table.find?_push_of_some fresh found
  · intro attemptId attempt found _
    rw [← attempts] at found
    exact found

private theorem operations_modify {operationId : ModelOperationId}
    {row : ModelOperationRow} (set : ModelOperationRow → ModelOperationRow)
    (found : db.operations.find? operationId = some row)
    (unfinished : row.status.isTerminal = false)
    (operations : db'.operations = db.operations.modify operationId set)
    (attempts : ∀ attemptId attempt,
      db.attempts.find? attemptId = some attempt →
      attempt.status = .completed →
      db'.attempts.find? attemptId = some attempt) :
    FinalRowsPersist db db' := by
  refine ⟨?_, attempts⟩
  intro other present presentFound terminal
  have different : other ≠ operationId := by
    intro same
    subst same
    rw [found] at presentFound
    cases presentFound
    rw [unfinished] at terminal
    cases terminal
  rw [operations, Table.find?_modify_of_ne _ _ different]
  exact presentFound

private theorem attempts_setDispatchedAttempt (current : ModelAttemptId)
    (set : ModelAttemptRow → ModelAttemptRow)
    (attempts : db'.attempts = (db.setDispatchedAttempt current set).attempts)
    (attemptId : ModelAttemptId) (attempt : ModelAttemptRow)
    (found : db.attempts.find? attemptId = some attempt)
    (completed : attempt.status = .completed) :
    db'.attempts.find? attemptId = some attempt := by
  rw [attempts]
  unfold ModelDatabase.setDispatchedAttempt
  rw [Table.find?_updateWhere, found]
  simp [completed]

open ModelDatabase

theorem ModelDatabase.ClaimEffect.finalRowsPersist {clock : DatabaseClock}
    {workerNow : Int} {generated : ModelAttemptId}
    {operationId : ModelOperationId} {outcome : ClaimModelOperationOutcome}
    (claims : ClaimEffect clock workerNow generated operationId db outcome
      db') : FinalRowsPersist db db' := by
  cases claims with
  | stored | leased | waiting => exact .refl db
  | expired found dispatched =>
      apply operations_modify (ModelOperationRow.expireLease clock) found
        (ModelOperationStatus.isTerminal_eq_false_of_dispatched dispatched) rfl
      exact attempts_setDispatchedAttempt _ _ rfl
  | @rejected _ failure clearsClaim found active =>
      apply operations_modify
        (ModelOperationRow.rejectBeforeDispatch clock failure clearsClaim)
        found (ModelOperationStatus.isTerminal_eq_false_of_active active)
      · simp
      · intro attemptId attempt attemptFound _
        simpa using attemptFound
  | dispatched fresh found active _ _ passed =>
      obtain ⟨dispatchCounters, rfl⟩ := passed.counted
      apply operations_modify (ModelOperationRow.dispatch clock generated)
        found (ModelOperationStatus.isTerminal_eq_false_of_active active) rfl
      intro attemptId attempt attemptFound _
      exact Table.find?_push_of_some fresh attemptFound

theorem ModelDatabase.CompleteEffect.finalRowsPersist {clock : DatabaseClock}
    {workerNow : Int} {input : CompleteModelOperationInput}
    {completion : ModelOperationCompletion}
    (completes : CompleteEffect clock workerNow input db completion db') :
    FinalRowsPersist db db' := by
  cases completes with
  | stale => exact .refl db
  | @scheduled _ completion delay found dispatched =>
      apply operations_modify
        (ModelOperationRow.scheduleRetry clock completion delay) found
        (ModelOperationStatus.isTerminal_eq_false_of_dispatched dispatched) rfl
      exact attempts_setDispatchedAttempt _ _ rfl
  | @settled row completion found dispatched =>
      apply operations_modify
        (ModelOperationRow.settle clock completion input.result
          row.reservedCostMicroUsd (row.settlement completion input.result))
        found
        (ModelOperationStatus.isTerminal_eq_false_of_dispatched dispatched)
      · simp
      · apply attempts_setDispatchedAttempt input.attemptId
          (ModelAttemptRow.complete clock completion input.result)
        simp

theorem ModelStep.finalRowsPersist {dates : DateBuiltins}
    {state state' : ModelState} {action : ModelAction}
    (step : ModelStep dates state action state') :
    FinalRowsPersist state.database state'.database := by
  cases step with
  | unprepared | unrestarted | unclaimed | responded | abandoned
  | uncompleted => exact .refl _
  | prepared _ prepares =>
      cases prepares with
      | duplicate => exact .refl _
      | prepared fresh reserves =>
          exact operations_push fresh reserves.operations reserves.attempts
  | restarted restarts =>
      cases restarts with
      | duplicate => exact .refl _
      | restarted fresh _ _ _ _ reserves =>
          exact operations_push fresh reserves.operations reserves.attempts
  | claimed _ claims => exact claims.finalRowsPersist
  | completed _ completes => exact completes.finalRowsPersist

end Persistence

theorem terminal_unplanned (dates : DateBuiltins) :
    RowInvariant dates (fun row =>
      row.status.isTerminal = true → row.retryPlan = .none) where
  prepared := by
    intro clock request input _ _ _
    rfl
  restarted := by
    intro clock source sourceId _ _ _
    rfl
  expired := by
    intro clock row _ _ _
    rfl
  rejected := by
    intro clock row failure clearsClaim _ _ _
    rfl
  dispatched := by
    intro clock row attemptId _ _ _
    rfl
  scheduled := by
    intro clock row completion delay _ _ terminal
    cases terminal
  settled := by
    intro clock row completion attempt result _ _ _ _ _
    rfl

end XpensGo
