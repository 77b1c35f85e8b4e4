import XpensGo.Model.AttemptHistory
import XpensGo.Model.InputSize
import XpensGo.Model.SpendCeiling

/-!
# Legal rows

The CHECK constraints of the operations, attempts, accounts, alert events and
counters hold of every stored row.  The two counts of an operation that grow
are bounded by its history and by the authority of its calls; everything else
follows row by row.
-/

namespace XpensGo

open EcmaScript Postgres Relational Transition

/-- The conditions of `model_operations_counts_valid` on columns that no
statement updates. -/
structure ModelOperationTerms.PositiveLimits (terms : ModelOperationTerms) :
    Prop where
  operationVersion : 0 < terms.operationVersion
  retryPolicyVersion : 0 < terms.retryPolicyVersion
  promptVersion : 0 < terms.promptVersion
  schemaVersion : 0 < terms.schemaVersion
  maximumHttpDispatches : 0 < terms.maximumHttpDispatches
  maximumInputUtf8Bytes : 0 < terms.maximumInputUtf8Bytes
  maximumPotentiallyBillableAttempts :
    0 < terms.maximumPotentiallyBillableAttempts
  outputTokenLimit : 0 < terms.outputTokenLimit
  providerTimeoutMilliseconds : 0 < terms.providerTimeoutMilliseconds
  totalDeadlineMilliseconds : 0 < terms.totalDeadlineMilliseconds
  dailyDispatchLimit : 0 < terms.dailyDispatchLimit

/-- All constraints of an operation but the bounds of its two counts.  A
terminal row also names its disposition, which its constraint does not demand. -/
structure ModelOperationRow.LegalColumns (row : ModelOperationRow) :
    Prop where
  input : row.inputBounded = true
  limits : row.toModelOperationTerms.PositiveLimits
  costs : row.costsNonnegative = true
  retry : row.retryScheduleComplete = true
  claim : row.claimComplete = true
  terminal : row.terminalComplete = true
  disposed : row.status.isTerminal = true →
    ∃ disposition, row.completionDisposition = some disposition ∧
      disposition.status = row.status

section Columns

variable {row : ModelOperationRow}

theorem ModelOperationRow.LegalColumns.check (legal : row.LegalColumns)
    (retries :
      row.transientRateLimitRetriesUsed ≤ row.transientRateLimitRetryLimit)
    (dispatches : row.httpDispatchCount ≤ row.maximumHttpDispatches) :
    row.check = true := by
  obtain ⟨input, limits, costs, retry, claim, terminal, _⟩ := legal
  have counts : row.countsValid = true := by
    simp [ModelOperationRow.countsValid, limits.operationVersion,
      limits.retryPolicyVersion, limits.promptVersion, limits.schemaVersion,
      limits.maximumHttpDispatches, limits.maximumInputUtf8Bytes,
      limits.maximumPotentiallyBillableAttempts, limits.outputTokenLimit,
      limits.providerTimeoutMilliseconds, limits.totalDeadlineMilliseconds,
      limits.dailyDispatchLimit, retries, dispatches]
  simp [ModelOperationRow.check, input, counts, costs, retry, claim, terminal]

private theorem profile_positive (operation : ModelOperationName) :
    0 < (modelOperationProfiles operation).operationVersion ∧
      0 < (modelOperationProfiles operation).retryPolicyVersion ∧
        0 < (modelOperationProfiles operation).promptVersion ∧
          0 < (modelOperationProfiles operation).schemaVersion ∧
            0 < (modelOperationProfiles operation).maximumHttpDispatches ∧
      0 < (modelOperationProfiles operation).maximumInputUtf8Bytes ∧
        0 < (modelOperationProfiles
            operation).maximumPotentiallyBillableAttempts ∧
          0 < (modelOperationProfiles operation).outputTokenLimit ∧
            0 < (modelOperationProfiles
                operation).providerTimeoutMilliseconds ∧
              0 < (modelOperationProfiles
                  operation).totalDeadlineMilliseconds := by
  cases operation <;> decide

private theorem active_unclaimed (claim : row.claimComplete = true)
    (active : row.status = .prepared ∨ row.status = .retryScheduled) :
    row.currentAttemptId = none ∧ row.currentLeaseUntil = none := by
  unfold ModelOperationRow.claimComplete at claim
  rcases active with prepared | retry
  · simpa [prepared] using claim
  · simpa [retry] using claim

private theorem unfinished_resultless (terminal : row.terminalComplete = true)
    (unfinished : row.status.isTerminal = false) :
    row.resultJson = none ∧ row.completedAt = none := by
  unfold ModelOperationRow.terminalComplete at terminal
  cases status : row.status <;>
    simp_all [ModelOperationStatus.isTerminal]

private theorem costsNonnegative_iff :
    row.costsNonnegative = true ↔
      0 ≤ row.reservedCostMicroUsd ∧ 0 ≤ row.settledCostMicroUsd := by
  simp [ModelOperationRow.costsNonnegative]

theorem settlement_nonneg
    {completion : ModelOperationCompletion}
    {result : Option ModelGatewaySuccess}
    (costs : row.costsNonnegative = true) :
    0 ≤ row.settlement completion result := by
  unfold ModelOperationRow.settlement
  split
  · exact Int.natCast_nonneg _
  · split
    · exact (costsNonnegative_iff.mp costs).1
    · exact le_rfl

private theorem settle_costs {clock : DatabaseClock}
    {completion : ModelOperationCompletion}
    {result : Option ModelGatewaySuccess} (legal : row.LegalColumns) :
    (row.settle clock completion result row.reservedCostMicroUsd
      (row.settlement completion result)).costsNonnegative = true := by
  have settlement := @settlement_nonneg row completion result legal.costs
  obtain ⟨reserved, settled⟩ := costsNonnegative_iff.mp legal.costs
  refine costsNonnegative_iff.mpr ⟨?_, ?_⟩
  · simp only [ModelOperationRow.settle]
    split
    · exact reserved
    · exact le_rfl
  · simp only [ModelOperationRow.settle]
    omega

private theorem settle_retry {clock : DatabaseClock}
    {completion : ModelOperationCompletion}
    {result : Option ModelGatewaySuccess} {reserved settlement : Int} :
    (row.settle clock completion result reserved
        settlement).retryScheduleComplete = true ∧
      (row.settle clock completion result reserved
        settlement).claimComplete = true := by
  cases disposition : completion.disposition <;>
    simp [ModelOperationRow.retryScheduleComplete,
      ModelOperationRow.claimComplete, ModelOperationRow.settle,
      ModelCompletionDisposition.status, disposition]

/-- Beside its completeness, the constraints of the row that a final completion
writes hold anyway. -/
theorem ModelOperationRow.LegalColumns.settle {clock : DatabaseClock}
    {completion : ModelOperationCompletion}
    {result : Option ModelGatewaySuccess} (legal : row.LegalColumns)
    (terminal : (row.settle clock completion result row.reservedCostMicroUsd
      (row.settlement completion result)).terminalComplete = true) :
    (row.settle clock completion result row.reservedCostMicroUsd
      (row.settlement completion result)).LegalColumns := by
  refine ⟨legal.input, legal.limits, settle_costs legal, settle_retry.1,
    settle_retry.2, terminal, ?_⟩
  intro _
  exact ⟨completion.disposition, rfl, rfl⟩

theorem preparedRow_legalColumns {clock : DatabaseClock}
    {request : PrepareModelOperationRequest}
    {input : PrepareModelOperationStoreInput}
    (accepted : request.storeInput = .ok input) :
    (input.preparedRow clock).LegalColumns := by
  have profile := (storeInput_eq_ok accepted).profile
  have daily := (storeInput_eq_ok accepted).dailyDispatchLimit
  obtain ⟨operationVersion, retryPolicy, prompt, schema, dispatches, bytes,
    billable, tokens, timeout, deadline⟩ := profile_positive input.operation
  refine ⟨inputBounded_of_accepted accepted, ?_, ?_, rfl, rfl, rfl, ?_⟩
  · refine ⟨?_, ?_, ?_, ?_, ?_, ?_, ?_, ?_, ?_, ?_, ?_⟩
    all_goals
      simp only [PrepareModelOperationStoreInput.preparedRow]
    case refine_11 => omega
    all_goals
      rw [profile]
      assumption
  · simp [ModelOperationRow.costsNonnegative,
      PrepareModelOperationStoreInput.preparedRow]
  · intro terminal
    cases terminal

theorem legalColumns_invariant (dates : DateBuiltins) :
    RowInvariant dates ModelOperationRow.LegalColumns where
  prepared := by
    intro clock request input accepted _
    exact preparedRow_legalColumns accepted
  restarted := by
    intro clock source sourceId legal _
    obtain ⟨input, limits, costs, _⟩ := legal
    refine ⟨input, ?_, ?_, rfl, rfl, rfl, ?_⟩
    · exact ⟨limits.operationVersion, limits.retryPolicyVersion,
        limits.promptVersion, limits.schemaVersion,
        limits.maximumHttpDispatches, limits.maximumInputUtf8Bytes,
        limits.maximumPotentiallyBillableAttempts, limits.outputTokenLimit,
        limits.providerTimeoutMilliseconds, limits.totalDeadlineMilliseconds,
        limits.dailyDispatchLimit⟩
    · exact costsNonnegative_iff.mpr
        ⟨(costsNonnegative_iff.mp costs).1, le_rfl⟩
    · intro terminal
      cases terminal
  expired := by
    intro clock row legal dispatched
    obtain ⟨resultless, _⟩ := unfinished_resultless legal.terminal
      (by rw [dispatched]; rfl)
    refine ⟨legal.input, legal.limits, legal.costs, rfl, rfl, ?_, ?_⟩
    · simp [ModelOperationRow.terminalComplete, ModelOperationRow.expireLease,
        resultless, ModelCompletionDisposition.status]
    · intro _
      exact ⟨.outcomeUnknown, rfl, rfl⟩
  rejected := by
    intro clock row failure clearsClaim legal active
    obtain ⟨unclaimed, unleased⟩ := active_unclaimed legal.claim active
    obtain ⟨resultless, _⟩ := unfinished_resultless legal.terminal
      (by rcases active with status | status <;> rw [status] <;> rfl)
    refine ⟨legal.input, legal.limits, ?_, rfl, ?_, ?_, ?_⟩
    · exact costsNonnegative_iff.mpr
        ⟨le_rfl, (costsNonnegative_iff.mp legal.costs).2⟩
    · simp [ModelOperationRow.claimComplete,
        ModelOperationRow.rejectBeforeDispatch, unclaimed, unleased]
    · simp [ModelOperationRow.terminalComplete,
        ModelOperationRow.rejectBeforeDispatch, resultless,
        ModelCompletionDisposition.status]
    · intro _
      exact ⟨.explicitlyRejected, rfl, rfl⟩
  dispatched := by
    intro clock row attemptId legal active
    obtain ⟨resultless, uncompleted⟩ := unfinished_resultless legal.terminal
      (by rcases active with status | status <;> rw [status] <;> rfl)
    refine ⟨legal.input, legal.limits, legal.costs, rfl, rfl, ?_, ?_⟩
    · simp [ModelOperationRow.terminalComplete, ModelOperationRow.dispatch,
        resultless, uncompleted]
    · intro terminal
      cases terminal
  scheduled := by
    intro clock row completion delay legal dispatched
    obtain ⟨resultless, uncompleted⟩ := unfinished_resultless legal.terminal
      (by rw [dispatched]; rfl)
    refine ⟨legal.input, legal.limits, legal.costs, rfl, rfl, ?_, ?_⟩
    · simp [ModelOperationRow.terminalComplete,
        ModelOperationRow.scheduleRetry, resultless, uncompleted]
    · intro terminal
      cases terminal
  settled := by
    intro clock row completion attempt result legal dispatched effective written
    exact legal.settle (ModelOperationRow.terminalComplete_of_check
      (ModelOperationRow.accepted_iff.mp written).2)

theorem restartedRow_storable {clock : DatabaseClock}
    {sourceId : ModelOperationId} {reservation : Int}
    (storable : row.storable = true) :
    (row.restartedRow clock sourceId reservation).storable = true := by
  simp only [ModelOperationRow.storable, Bool.and_eq_true] at storable
  simp [ModelOperationRow.storable, ModelOperationRow.restartedRow, storable.1]

theorem storable_invariant (dates : DateBuiltins) :
    RowInvariant dates (fun row => row.storable = true) where
  prepared := by
    intro clock request input _ written
    exact (ModelOperationRow.accepted_iff.mp written).1
  restarted := by
    intro clock source sourceId storable _
    exact restartedRow_storable storable
  expired := by
    intro clock row storable _
    exact storable
  rejected := by
    intro clock row failure clearsClaim storable _
    exact storable
  dispatched := by
    intro clock row attemptId storable _
    exact storable
  scheduled := by
    intro clock row completion delay storable _
    exact storable
  settled := by
    intro clock row completion attempt result _ _ _ written
    exact (ModelOperationRow.accepted_iff.mp written).1

end Columns

section Attempts

/-- Attempts stay stored, with the columns that no statement updates. -/
def AttemptsPersist (earlier later : ModelDatabase) : Prop :=
  ∀ attemptId attempt, earlier.attempts.find? attemptId = some attempt →
    ∃ attempt', later.attempts.find? attemptId = some attempt' ∧
      attempt'.operationId = attempt.operationId ∧
        attempt'.attemptOrdinal = attempt.attemptOrdinal ∧
          attempt'.startedOn = attempt.startedOn

variable {db db' : ModelDatabase}

open ModelDatabase

private theorem attemptsPersist_of_eq (same : db'.attempts = db.attempts) :
    AttemptsPersist db db' := by
  intro attemptId attempt found
  rw [← same] at found
  exact ⟨attempt, found, rfl, rfl, rfl⟩

private theorem attemptsPersist_update (current : ModelAttemptId)
    (set : ModelAttemptRow → ModelAttemptRow)
    (written : db'.attempts = (db.setDispatchedAttempt current set).attempts)
    (kept : ∀ attempt, (set attempt).operationId = attempt.operationId ∧
      (set attempt).attemptOrdinal = attempt.attemptOrdinal ∧
        (set attempt).startedOn = attempt.startedOn) :
    AttemptsPersist db db' := by
  intro attemptId attempt found
  rw [written, setDispatchedAttempt, Table.find?_updateWhere, found]
  simp only [Option.map_some]
  split
  · exact ⟨_, rfl, kept attempt⟩
  · exact ⟨_, rfl, rfl, rfl, rfl⟩

theorem ModelDatabase.ClaimEffect.attemptsPersist {clock : DatabaseClock}
    {workerNow : Int} {generated : ModelAttemptId}
    {operationId : ModelOperationId} {outcome : ClaimModelOperationOutcome}
    (claims : ClaimEffect clock workerNow generated operationId db outcome
      db') : AttemptsPersist db db' := by
  cases claims with
  | stored | leased | waiting => exact attemptsPersist_of_eq rfl
  | expired =>
      exact attemptsPersist_update _ (ModelAttemptRow.expireLease clock) rfl
        (fun _ => ⟨rfl, rfl, rfl⟩)
  | rejected => exact attemptsPersist_of_eq (by simp)
  | dispatched fresh _ _ _ _ passed =>
      obtain ⟨dispatchCounters, rfl⟩ := passed.counted
      intro attemptId attempt found
      exact ⟨attempt, Table.find?_push_of_some fresh found, rfl, rfl, rfl⟩

theorem ModelDatabase.CompleteEffect.attemptsPersist {clock : DatabaseClock}
    {workerNow : Int} {input : CompleteModelOperationInput}
    {completion : ModelOperationCompletion}
    (completes : CompleteEffect clock workerNow input db completion db') :
    AttemptsPersist db db' := by
  cases completes with
  | stale => exact attemptsPersist_of_eq rfl
  | @scheduled _ completion =>
      exact attemptsPersist_update input.attemptId
        (ModelAttemptRow.complete clock completion input.result) rfl
        (fun _ => ⟨rfl, rfl, rfl⟩)
  | @settled _ completion =>
      exact attemptsPersist_update input.attemptId
        (ModelAttemptRow.complete clock completion input.result) (by simp)
        (fun _ => ⟨rfl, rfl, rfl⟩)

theorem ModelStep.attemptsPersist {dates : DateBuiltins}
    {state state' : ModelState} {action : ModelAction}
    (step : ModelStep dates state action state') :
    AttemptsPersist state.database state'.database := by
  cases step with
  | unprepared | unrestarted | unclaimed | responded | abandoned
  | uncompleted => exact attemptsPersist_of_eq rfl
  | prepared _ prepares =>
      cases prepares with
      | duplicate => exact attemptsPersist_of_eq rfl
      | prepared _ reserves => exact attemptsPersist_of_eq reserves.attempts
  | restarted restarts =>
      cases restarts with
      | duplicate => exact attemptsPersist_of_eq rfl
      | restarted _ _ _ _ _ reserves =>
          exact attemptsPersist_of_eq reserves.attempts
  | claimed _ claims => exact claims.attemptsPersist
  | completed _ completes => exact completes.attemptsPersist

end Attempts

section Authority

/-- The stored attempt behind a claim.  A retry is only offered while the
retries that the operation had used were below its limit. -/
structure AttemptGranted (db : ModelDatabase) (operationId : ModelOperationId)
    (claimed : ClaimedModelAttempt) : Prop where
  stored : ∃ attempt, db.attempts.find? claimed.attemptId = some attempt ∧
    attempt.operationId = operationId ∧
      attempt.attemptOrdinal = claimed.attemptOrdinal
  retries : ∃ row, db.operations.find? operationId = some row ∧
    (claimed.transientRateLimitRetryAvailable = true →
      claimed.attemptOrdinal ≤ row.transientRateLimitRetryLimit)

variable {db db' : ModelDatabase} {operationId : ModelOperationId}
  {claimed : ClaimedModelAttempt}

theorem AttemptGranted.persist (terms : TermsPersist db db')
    (attempts : AttemptsPersist db db')
    (granted : AttemptGranted db operationId claimed) :
    AttemptGranted db' operationId claimed where
  stored := by
    obtain ⟨attempt, found, operation, ordinal⟩ := granted.stored
    obtain ⟨attempt', found', operation', ordinal', _⟩ :=
      attempts _ attempt found
    exact ⟨attempt', found', operation'.trans operation,
      ordinal'.trans ordinal⟩
  retries := by
    obtain ⟨row, found, bounded⟩ := granted.retries
    obtain ⟨row', found', same⟩ := terms operationId row found
    refine ⟨row', found', ?_⟩
    rw [same]
    exact bounded

private theorem countP_retried {retried : List AttemptEntry}
    (sentBack : ∀ entry ∈ retried, entry.2.isRetried = true) :
    retried.countP (fun entry =>
      entry.2.retryPlan = .scheduleTransient429) = retried.length := by
  refine List.countP_eq_length.mpr ?_
  intro entry member
  have sent := sentBack entry member
  simp only [ModelAttemptRow.isRetried, Bool.and_eq_true] at sent
  exact sent.2

theorem AttemptHistory.retriesUsed_of_active {row : ModelOperationRow}
    {attempts : List AttemptEntry} (history : AttemptHistory row attempts)
    (active : row.status = .prepared ∨ row.status = .retryScheduled) :
    row.transientRateLimitRetriesUsed = row.httpDispatchCount := by
  have length := congrArg List.length history.ordinals
  rw [List.length_map, List.length_range'] at length
  rw [history.retries, ← length]
  exact countP_retried (history.waiting active)

/-- A dispatched operation has used a retry for each attempt but the current
one, whose ordinal is the number of its dispatches. -/
theorem AttemptHistory.retriesUsed_of_dispatched {row : ModelOperationRow}
    {attempts : List AttemptEntry} {current : ModelAttemptId}
    (history : AttemptHistory row attempts)
    (dispatched : row.status = .dispatched)
    (claimed : row.currentAttemptId = some current) :
    ∃ attempt, (current, attempt) ∈ attempts ∧
      attempt.attemptOrdinal = row.transientRateLimitRetriesUsed + 1 := by
  obtain ⟨retried, attempt, split, sentBack, _, unplanned⟩ :=
    history.ends_with_current dispatched claimed
  refine ⟨attempt, by simp [split], ?_⟩
  have used : row.transientRateLimitRetriesUsed = retried.length := by
    rw [history.retries, split, List.countP_append, countP_retried sentBack]
    simp [unplanned]
  rw [used]
  exact (history.last_ordinal split).1

open ModelDatabase

theorem attemptGranted_of_claim {clock : DatabaseClock} {workerNow : Int}
    {generated : ModelAttemptId} (histories : AttemptHistories db)
    (claims : ClaimEffect clock workerNow generated operationId db
      (.claimed claimed) db') : AttemptGranted db' operationId claimed := by
  cases claims with
  | @dispatched row _ fresh found active _ _ passed =>
      obtain ⟨dispatchCounters, rfl⟩ := passed.counted
      refine ⟨⟨row.dispatchedAttempt clock operationId, ?_, rfl, rfl⟩,
        row.dispatch clock generated, ?_, ?_⟩
      · exact Table.find?_push_self _ _ fresh
      · rw [setOperation_operations, Table.find?_modify_self, found]
        rfl
      · intro available
        have remaining : row.transientRateLimitRetriesUsed <
            row.transientRateLimitRetryLimit := of_decide_eq_true available
        rw [(histories.histories _ _ found).retriesUsed_of_active active]
          at remaining
        exact remaining

/-- Every call works on an attempt that was granted to it. -/
def CallsGranted (state : ModelState) : Prop :=
  ∀ call execution claimed, state.calls.find? call = some execution →
    execution.phase.attempt? = some claimed →
    AttemptGranted state.database execution.operationId claimed

variable {dates : DateBuiltins} {state state' : ModelState}
  {action : ModelAction}

theorem CallsGranted.step (granted : CallsGranted state)
    (histories : AttemptHistories state.database)
    (step : ModelStep dates state action state') : CallsGranted state' := by
  intro call execution claimed found working
  rcases step.working_cases found working with
    ⟨earlier, earlierFound, same, still⟩ | ⟨_, _, _, claims⟩
  · rw [← same]
    exact (granted call earlier claimed earlierFound still).persist
      step.termsPersist step.attemptsPersist
  · exact attemptGranted_of_claim histories claims

theorem reachable_callsGranted (reached : (modelSystem dates).Reachable state) :
    CallsGranted state := by
  refine System.Reachable.invariant ?_ ?_ reached
  · rintro state ⟨users, rfl⟩ call execution claimed found
    simp at found
  · intro state action state' earlier granted taken
    exact granted.step ((attemptHistories_invariant dates).holds earlier)
      (modelStep_of_next taken)

/-- A retry that a current attempt schedules stays within the limit. -/
theorem AttemptGranted.retry_remaining {row : ModelOperationRow}
    {clock : DatabaseClock} {result : ModelGatewayResult} {delay : Int}
    (granted : AttemptGranted db operationId claimed)
    (histories : AttemptHistories db)
    (found : db.operations.find? operationId = some row)
    (dispatched : row.status = .dispatched)
    (current : row.currentAttemptId = some claimed.attemptId)
    (planned : (row.effectiveCompletion clock
      (submittedCompletion dates claimed result)).retryPlan =
        .scheduleTransientRateLimit delay) :
    row.transientRateLimitRetriesUsed < row.transientRateLimitRetryLimit := by
  obtain ⟨asked, asking, _⟩ := effectiveCompletion_schedules planned
  have available : claimed.transientRateLimitRetryAvailable = true := by
    cases result with
    | ok success =>
        simp only [submittedCompletion] at asking
        split at asking <;> cases asking
    | error failure =>
        exact (classifyModelGatewayFailure_schedules asking).2.2.1
  obtain ⟨stored, storedFound, _, sameOrdinal⟩ := granted.stored
  obtain ⟨limited, limitedFound, bounded⟩ := granted.retries
  rw [found] at limitedFound
  cases limitedFound
  obtain ⟨attempt, member, ordinal⟩ :=
    (histories.histories _ _ found).retriesUsed_of_dispatched dispatched
      current
  have attemptFound := (Table.mem_select.mp member).1
  rw [storedFound] at attemptFound
  cases attemptFound
  have within := bounded available
  omega

/-- No operation has used more retries than its limit. -/
def RetriesBounded (db : ModelDatabase) : Prop :=
  ∀ operationId row, db.operations.find? operationId = some row →
    row.transientRateLimitRetriesUsed ≤ row.transientRateLimitRetryLimit

private theorem retriesBounded_push {reserved : ModelDatabase}
    {row : ModelOperationRow} (bounded : RetriesBounded db)
    (operations : reserved.operations = db.operations)
    (fresh : operationId ∉ reserved.operations.rows.map Prod.fst)
    (unused : row.transientRateLimitRetriesUsed = 0) :
    RetriesBounded { reserved with
      operations := reserved.operations.push operationId row fresh } := by
  intro other present found
  simp only [Table.find?_push, operations] at found
  split at found
  · cases found
    omega
  · exact bounded other present found

private theorem retriesBounded_modify (bounded : RetriesBounded db)
    (set : ModelOperationRow → ModelOperationRow)
    (operations : db'.operations = db.operations.modify operationId set)
    (written : ∀ row, db.operations.find? operationId = some row →
      (set row).transientRateLimitRetriesUsed ≤
        (set row).transientRateLimitRetryLimit) :
    RetriesBounded db' := by
  intro other present found
  rw [operations, Table.find?_modify] at found
  split at found
  · rename_i same
    subst same
    obtain ⟨before, beforeFound, rfl⟩ := Option.map_eq_some_iff.mp found
    exact written before beforeFound
  · exact bounded other present found

private theorem ModelDatabase.ClaimEffect.retriesBounded
    {clock : DatabaseClock} {workerNow : Int} {generated : ModelAttemptId}
    {outcome : ClaimModelOperationOutcome} (bounded : RetriesBounded db)
    (claims : ClaimEffect clock workerNow generated operationId db outcome
      db') : RetriesBounded db' := by
  cases claims with
  | stored | leased | waiting => exact bounded
  | expired =>
      exact retriesBounded_modify bounded (ModelOperationRow.expireLease clock)
        rfl (fun row found => bounded operationId row found)
  | @rejected _ failure clearsClaim =>
      exact retriesBounded_modify bounded
        (ModelOperationRow.rejectBeforeDispatch clock failure clearsClaim)
        (by simp) (fun row found => bounded operationId row found)
  | dispatched _ _ _ _ _ passed =>
      obtain ⟨dispatchCounters, rfl⟩ := passed.counted
      exact retriesBounded_modify bounded
        (ModelOperationRow.dispatch clock generated) rfl
        (fun row found => bounded operationId row found)

private theorem ModelDatabase.CompleteEffect.retriesBounded
    {clock : DatabaseClock} {workerNow : Int} {result : ModelGatewayResult}
    {completion : ModelOperationCompletion} (bounded : RetriesBounded db)
    (histories : AttemptHistories db)
    (granted : AttemptGranted db operationId claimed)
    (completes : CompleteEffect clock workerNow
      (completeInput dates operationId claimed result) db completion db') :
    RetriesBounded db' := by
  cases completes with
  | stale => exact bounded
  | @scheduled row completion delay found dispatched current effective
      planned =>
      refine retriesBounded_modify bounded
        (ModelOperationRow.scheduleRetry clock completion delay) rfl ?_
      intro present presentFound
      cases found.symm.trans presentFound
      exact granted.retry_remaining histories found dispatched current
        (effective ▸ planned)
  | @settled row completion =>
      exact retriesBounded_modify bounded
        (ModelOperationRow.settle clock completion result.toOption
          row.reservedCostMicroUsd
          (row.settlement completion result.toOption))
        (by simp; rfl) (fun row found => bounded operationId row found)

theorem reachable_retriesBounded
    (reached : (modelSystem dates).Reachable state) :
    RetriesBounded state.database := by
  refine System.Reachable.invariant
    (I := fun state => RetriesBounded state.database) ?_ ?_ reached
  · rintro state ⟨users, rfl⟩ operationId row found
    simp at found
  · intro state action state' earlier bounded taken
    cases modelStep_of_next taken with
    | unprepared | unrestarted | unclaimed | responded | abandoned
    | uncompleted => exact bounded
    | prepared _ prepares =>
        cases prepares with
        | duplicate => exact bounded
        | prepared fresh reserves =>
            exact retriesBounded_push bounded reserves.operations fresh rfl
    | restarted restarts =>
        cases restarts with
        | duplicate => exact bounded
        | restarted fresh _ _ _ _ reserves =>
            exact retriesBounded_push bounded reserves.operations fresh rfl
    | claimed _ claims => exact claims.retriesBounded bounded
    | completed waiting completes =>
        exact completes.retriesBounded bounded
          ((attemptHistories_invariant dates).holds earlier)
          (reachable_callsGranted earlier _ _ _ waiting rfl)

end Authority

end XpensGo
