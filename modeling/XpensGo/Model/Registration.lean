import XpensGo.Model.Execution

/-!
# Stored operations follow the registry

Every stored operation carries the limits of its registry profile, and its
reservation is the maximum cost of the profile exactly while an OpenAI
operation may still be billed.
-/

namespace XpensGo

open EcmaScript Postgres Relational

/-- A property of single operations that every write to a row preserves. -/
structure RowInvariant (dates : DateBuiltins)
    (P : ModelOperationRow → Prop) : Prop where
  prepared : ∀ {clock request input},
    PrepareModelOperationRequest.storeInput request = .ok input →
    (input.preparedRow clock).accepted = true → P (input.preparedRow clock)
  restarted : ∀ {clock source sourceId}, P source →
    source.status = .outcomeUnknown →
    P (source.restartedRow clock sourceId source.reservedCostMicroUsd)
  expired : ∀ {clock row}, P row → row.status = .dispatched →
    P (row.expireLease clock)
  rejected : ∀ {clock row failure clearsClaim}, P row →
    row.status = .prepared ∨ row.status = .retryScheduled →
    P (row.rejectBeforeDispatch clock failure clearsClaim)
  dispatched : ∀ {clock row attemptId}, P row →
    row.status = .prepared ∨ row.status = .retryScheduled →
    P (row.dispatch clock attemptId)
  scheduled : ∀ {clock row completion delay}, P row →
    row.status = .dispatched → P (row.scheduleRetry clock completion delay)
  settled : ∀ {clock row completion attempt result}, P row →
    row.status = .dispatched →
    completion = row.effectiveCompletion clock
      (submittedCompletion dates attempt result) →
    (row.settle clock completion result.toOption row.reservedCostMicroUsd
      (row.settlement completion result.toOption)).accepted = true →
    P (row.settle clock completion result.toOption row.reservedCostMicroUsd
      (row.settlement completion result.toOption))

private theorem forall_find?_modify {P : ModelOperationRow → Prop}
    {operations : Table ModelOperationId ModelOperationRow}
    {operationId : ModelOperationId} {row : ModelOperationRow}
    {set : ModelOperationRow → ModelOperationRow}
    (holds : ∀ other present, operations.find? other = some present →
      P present)
    (found : operations.find? operationId = some row)
    (written : P (set row)) (other : ModelOperationId)
    (present : ModelOperationRow)
    (afterwards :
      (operations.modify operationId set).find? other = some present) :
    P present := by
  rcases Table.find?_modify_cases afterwards with
    ⟨_, before, stored, rfl⟩ | ⟨_, unmodified⟩
  · cases found.symm.trans stored
    exact written
  · exact holds _ _ unmodified

private theorem forall_find?_push {P : ModelOperationRow → Prop}
    {operations : Table ModelOperationId ModelOperationRow}
    {operationId : ModelOperationId} {row : ModelOperationRow}
    (fresh : operationId ∉ operations.rows.map Prod.fst)
    (holds : ∀ other present, operations.find? other = some present →
      P present)
    (written : P row) (other : ModelOperationId)
    (present : ModelOperationRow)
    (afterwards :
      (operations.push operationId row fresh).find? other = some present) :
    P present := by
  rw [Table.find?_push] at afterwards
  split at afterwards
  · cases afterwards
    exact written
  · exact holds _ _ afterwards

/-- A property of single rows holds of every stored row. -/
theorem RowInvariant.database {dates : DateBuiltins}
    {P : ModelOperationRow → Prop} (invariant : RowInvariant dates P) :
    DatabaseInvariant dates (fun db => ∀ operationId row,
      db.operations.find? operationId = some row → P row) where
  initially := by
    intro users operationId row found
    simp at found
  prepared := by
    intro clock request input outcome db db' holds accepted prepares
    cases prepares with
    | duplicate => exact holds
    | prepared fresh reserves written =>
        refine forall_find?_push fresh ?_
          (invariant.prepared accepted written)
        rw [reserves.operations]
        exact holds
  restarted := by
    intro clock input outcome db db' holds restarts
    cases restarts with
    | duplicate => exact holds
    | restarted fresh found _ unknown _ reserves =>
        refine forall_find?_push fresh ?_
          (invariant.restarted (holds _ _ found) unknown)
        rw [reserves.operations]
        exact holds
  claimed := by
    intro clock workerNow generated operationId outcome db db' holds claims
    cases claims with
    | stored | leased | waiting => exact holds
    | expired found dispatched =>
        exact forall_find?_modify holds found
          (invariant.expired (holds _ _ found) dispatched)
    | rejected found active =>
        simp only [ModelDatabase.setOperation_operations,
          ModelDatabase.release_operations]
        exact forall_find?_modify holds found
          (invariant.rejected (holds _ _ found) active)
    | dispatched fresh found active _ _ passed =>
        obtain ⟨dispatchCounters, rfl⟩ := passed.counted
        exact forall_find?_modify holds found
          (invariant.dispatched (holds _ _ found) active)
  completed := by
    intro clock workerNow operationId attempt result completion db db' holds
      completes
    cases completes with
    | stale => exact holds
    | scheduled found dispatched =>
        exact forall_find?_modify holds found
          (invariant.scheduled (holds _ _ found) dispatched)
    | settled found dispatched _ submitted _ accepted =>
        simp only [ModelDatabase.setOperation_operations,
          ModelDatabase.releaseSettled_operations,
          ModelDatabase.setDispatchedAttempt_operations]
        exact forall_find?_modify holds found
          (invariant.settled (holds _ _ found) dispatched submitted accepted)

section Persistence

/-- A stored operation stays stored with the same terms. -/
def TermsPersist (earlier later : ModelDatabase) : Prop :=
  ∀ operationId row, earlier.operations.find? operationId = some row →
    ∃ row', later.operations.find? operationId = some row' ∧
      row'.toModelOperationTerms = row.toModelOperationTerms

variable {db db' : ModelDatabase}

private theorem termsPersist_push {operationId : ModelOperationId}
    {row : ModelOperationRow}
    (fresh : operationId ∉ db'.operations.rows.map Prod.fst)
    (same : db'.operations = db.operations) :
    TermsPersist db { db' with
      operations := db'.operations.push operationId row fresh } := by
  intro other present found
  rw [← same] at found
  exact ⟨present, Table.find?_push_of_some fresh found, rfl⟩

private theorem termsPersist_modify (operationId : ModelOperationId)
    (set : ModelOperationRow → ModelOperationRow)
    (written : db'.operations = db.operations.modify operationId set)
    (kept : ∀ row, (set row).toModelOperationTerms =
      row.toModelOperationTerms) :
    TermsPersist db db' := by
  intro other present found
  rw [written, Table.find?_modify, found]
  split
  · exact ⟨set present, rfl, kept present⟩
  · exact ⟨present, rfl, rfl⟩

theorem ModelDatabase.PrepareEffect.termsPersist {clock : DatabaseClock}
    {input : PrepareModelOperationStoreInput}
    {outcome : PrepareModelOperationOutcome}
    (prepares : PrepareEffect clock input db outcome db') :
    TermsPersist db db' := by
  cases prepares with
  | duplicate => exact fun _ row found => ⟨row, found, rfl⟩
  | prepared fresh reserves => exact termsPersist_push fresh reserves.operations

theorem ModelDatabase.RestartEffect.termsPersist {clock : DatabaseClock}
    {input : RestartModelOperationStoreInput}
    {outcome : RestartModelOperationOutcome}
    (restarts : RestartEffect clock input db outcome db') :
    TermsPersist db db' := by
  cases restarts with
  | duplicate => exact fun _ row found => ⟨row, found, rfl⟩
  | restarted fresh _ _ _ _ reserves =>
      exact termsPersist_push fresh reserves.operations

theorem ModelDatabase.ClaimEffect.termsPersist {clock : DatabaseClock}
    {workerNow : Int} {generated : ModelAttemptId}
    {operationId : ModelOperationId} {outcome : ClaimModelOperationOutcome}
    (claims : ClaimEffect clock workerNow generated operationId db outcome
      db') : TermsPersist db db' := by
  cases claims with
  | stored | leased | waiting => exact fun _ row found => ⟨row, found, rfl⟩
  | expired =>
      exact termsPersist_modify operationId
        (ModelOperationRow.expireLease clock) rfl (fun _ => rfl)
  | @rejected _ failure clearsClaim =>
      exact termsPersist_modify operationId
        (ModelOperationRow.rejectBeforeDispatch clock failure clearsClaim)
        (by simp) (fun _ => rfl)
  | dispatched _ _ _ _ _ passed =>
      obtain ⟨dispatchCounters, rfl⟩ := passed.counted
      exact termsPersist_modify operationId
        (ModelOperationRow.dispatch clock generated) rfl (fun _ => rfl)

theorem ModelDatabase.CompleteEffect.termsPersist {clock : DatabaseClock}
    {workerNow : Int} {input : CompleteModelOperationInput}
    {completion : ModelOperationCompletion}
    (completes : CompleteEffect clock workerNow input db completion db') :
    TermsPersist db db' := by
  cases completes with
  | stale => exact fun _ row found => ⟨row, found, rfl⟩
  | @scheduled _ completion delay =>
      exact termsPersist_modify input.operationId
        (ModelOperationRow.scheduleRetry clock completion delay) rfl
        (fun _ => rfl)
  | @settled row completion =>
      exact termsPersist_modify input.operationId
        (ModelOperationRow.settle clock completion input.result
          row.reservedCostMicroUsd (row.settlement completion input.result))
        (by simp) (fun _ => rfl)

theorem ModelStep.termsPersist {dates : DateBuiltins}
    {state state' : ModelState} {action : ModelAction}
    (step : ModelStep dates state action state') :
    TermsPersist state.database state'.database := by
  cases step with
  | unprepared | unrestarted | unclaimed | responded | abandoned
  | uncompleted =>
      exact fun _ row found => ⟨row, found, rfl⟩
  | prepared _ prepares => exact prepares.termsPersist
  | restarted restarts => exact restarts.termsPersist
  | claimed _ claims => exact claims.termsPersist
  | completed _ completes => exact completes.termsPersist

end Persistence

/-- The stored limits are those of the registry profile. -/
structure ModelOperationTerms.IsRegistered (terms : ModelOperationTerms) :
    Prop where
  model : terms.model = (modelOperationProfiles terms.operation).model
  maximumHttpDispatches : terms.maximumHttpDispatches =
    (modelOperationProfiles terms.operation).maximumHttpDispatches
  maximumInputUtf8Bytes : terms.maximumInputUtf8Bytes =
    (modelOperationProfiles terms.operation).maximumInputUtf8Bytes
  maximumPotentiallyBillableAttempts :
    terms.maximumPotentiallyBillableAttempts =
      (modelOperationProfiles
        terms.operation).maximumPotentiallyBillableAttempts
  outputTokenLimit : terms.outputTokenLimit =
    (modelOperationProfiles terms.operation).outputTokenLimit
  transientRateLimitRetryLimit : terms.transientRateLimitRetryLimit =
    (modelOperationProfiles terms.operation).transientRateLimitRetryLimit
  explicitRestartLimit : terms.explicitRestartLimit = 1
  dailyDispatchLimit : terms.dailyDispatchLimit = 20

/-- An OpenAI operation that was not finally answered may still be billed. -/
def ModelOperationRow.MayBill (row : ModelOperationRow) : Prop :=
  row.provider = .openai ∧
    (row.status.isTerminal = false ∨ row.status = .outcomeUnknown)

instance (row : ModelOperationRow) : Decidable row.MayBill :=
  inferInstanceAs (Decidable (_ ∧ _))

/-- The reservation that belongs to the status of a row. -/
def ModelOperationRow.dueReservation (row : ModelOperationRow) : Int :=
  if row.MayBill then (modelOperationProfiles row.operation).maximumCostMicroUsd
  else 0

structure ModelOperationRow.IsRegistered (row : ModelOperationRow) :
    Prop where
  terms : row.toModelOperationTerms.IsRegistered
  reservation : row.reservedCostMicroUsd = row.dueReservation

theorem isRegistered_invariant (dates : DateBuiltins) :
    RowInvariant dates ModelOperationRow.IsRegistered where
  prepared := by
    intro clock request input accepted _
    have sent := storeInput_eq_ok accepted
    refine ⟨⟨?_, ?_, ?_, ?_, ?_, ?_,
      sent.explicitRestartLimit, sent.dailyDispatchLimit⟩, ?_⟩
    all_goals simp only [PrepareModelOperationStoreInput.preparedRow,
      sent.profile]
    simp [sent.reservedCostMicroUsd, ModelOperationRow.dueReservation,
      ModelOperationRow.MayBill, ModelOperationStatus.isTerminal]
  restarted := by
    rintro clock source sourceId ⟨terms, reservation⟩ unknown
    refine ⟨?_, ?_⟩
    · exact ⟨terms.model, terms.maximumHttpDispatches,
        terms.maximumInputUtf8Bytes, terms.maximumPotentiallyBillableAttempts,
        terms.outputTokenLimit, terms.transientRateLimitRetryLimit,
        terms.explicitRestartLimit, terms.dailyDispatchLimit⟩
    · simpa [ModelOperationRow.dueReservation, ModelOperationRow.MayBill,
        ModelOperationRow.restartedRow, ModelOperationStatus.isTerminal,
        unknown] using reservation
  expired := by
    rintro clock row ⟨terms, reservation⟩ dispatched
    refine ⟨terms, ?_⟩
    simpa [ModelOperationRow.dueReservation, ModelOperationRow.MayBill,
      ModelOperationRow.expireLease, ModelOperationStatus.isTerminal,
      dispatched] using reservation
  rejected := by
    rintro clock row failure clearsClaim ⟨terms, _⟩ _
    refine ⟨terms, ?_⟩
    simp [ModelOperationRow.dueReservation, ModelOperationRow.MayBill,
      ModelOperationRow.rejectBeforeDispatch, ModelOperationStatus.isTerminal]
  dispatched := by
    rintro clock row attemptId ⟨terms, reservation⟩ active
    refine ⟨terms, ?_⟩
    rcases active with prepared | retry
    · simpa [ModelOperationRow.dueReservation, ModelOperationRow.MayBill,
        ModelOperationRow.dispatch, ModelOperationStatus.isTerminal,
        prepared] using reservation
    · simpa [ModelOperationRow.dueReservation, ModelOperationRow.MayBill,
        ModelOperationRow.dispatch, ModelOperationStatus.isTerminal,
        retry] using reservation
  scheduled := by
    rintro clock row completion delay ⟨terms, reservation⟩ dispatched
    refine ⟨terms, ?_⟩
    simpa [ModelOperationRow.dueReservation, ModelOperationRow.MayBill,
      ModelOperationRow.scheduleRetry, ModelOperationStatus.isTerminal,
      dispatched] using reservation
  settled := by
    rintro clock row completion attempt result ⟨terms, reservation⟩
      dispatched _ _
    refine ⟨terms, ?_⟩
    cases disposition : completion.disposition with
    | outcomeUnknown =>
        simpa [ModelOperationRow.dueReservation, ModelOperationRow.MayBill,
          ModelOperationRow.settle, ModelCompletionDisposition.status,
          ModelOperationStatus.isTerminal, dispatched, disposition]
          using reservation
    | succeeded | explicitlyRejected | invalidOutput =>
        simp [ModelOperationRow.dueReservation, ModelOperationRow.MayBill,
          ModelOperationRow.settle, ModelCompletionDisposition.status,
          ModelOperationStatus.isTerminal, disposition]

/-- Every stored operation of every run follows the registry. -/
theorem reachable_isRegistered {dates : DateBuiltins} {state : ModelState}
    (reached : (modelSystem dates).Reachable state)
    {operationId : ModelOperationId} {row : ModelOperationRow}
    (found : state.database.operations.find? operationId = some row) :
    row.IsRegistered :=
  (isRegistered_invariant dates).database.holds reached operationId row found

end XpensGo
