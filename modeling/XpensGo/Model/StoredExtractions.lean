import XpensGo.Model.ExtractedDates
import XpensGo.Model.SpendCeiling

/-!
# Stored extractions

Both gateways decode the output of a provider with the schema of the attempted
operation, and the queue consumer executes operations with no other schema.
Whatever a provider answers, an operation that succeeded stores a decoded output
without an invalid date.
-/

namespace XpensGo

open EcmaScript Postgres Relational Transition JsString ModelDatabase

/-- What a gateway learns from a provider or a fixture before it decodes. -/
inductive ProviderOutcome where
  | failure (error : ModelGatewayError)
  | success (costMicroUsd : Nat) (output : JsValue)
      (providerRequestId : Option JsString) (usage : ModelTokenUsage)

/-- The end of `execute` in both gateways. -/
def gatewayResult (operation : ModelOperationName) :
    ProviderOutcome → ModelGatewayResult
  | .failure error => .error error
  | .success costMicroUsd output providerRequestId usage =>
      match modelOperationOutput operation output with
      | none => .error .modelStructuredOutputDecodingFailed
      | some decoded =>
          .ok
            { costMicroUsd := costMicroUsd
              output := decoded
              providerRequestId := providerRequestId
              usage := usage }

/-- Calls that are answered by a provider instead of by any result. -/
inductive WorkerAction where
  | provide (call : CallId) (outcome : ProviderOutcome)
  | other (action : ModelAction)

namespace ModelState

variable (dates : DateBuiltins)

def nextProvided (state : ModelState) : WorkerAction → Option ModelState
  | .provide call outcome =>
      match state.calls.find? call with
      | some ⟨_, .dispatching attempt⟩ =>
          state.next dates
            (.respond call (gatewayResult attempt.operation outcome))
      | _ => none
  | .other (.respond _ _) => none
  | .other action => state.next dates action

end ModelState

/-- The executions of the model system in which the gateways answer. -/
def workerSystem (dates : DateBuiltins) : System ModelState WorkerAction :=
  { Initial := ModelState.Initial
    next := ModelState.nextProvided dates }

/-- A value that the schema of an operation produced. -/
def DecodedOutput (operation : ModelOperationName) (output : JsValue) : Prop :=
  ∃ raw, modelOperationOutput operation raw = some output

section Steps

variable {dates : DateBuiltins} {state state' : ModelState}

/-- A step with a provider is a step of the model system, whose response is
decoded. -/
theorem modelStep_of_nextProvided {label : WorkerAction}
    (taken : (workerSystem dates).next state label = some state') :
    ∃ action, (modelSystem dates).next state action = some state' ∧
      ∀ call success, action = .respond call (.ok success) →
        ∀ operationId attempt,
          state.calls.find? call =
            some ⟨operationId, .dispatching attempt⟩ →
          DecodedOutput attempt.operation success.output := by
  change state.nextProvided dates label = some state' at taken
  cases label with
  | provide call outcome =>
      simp only [ModelState.nextProvided] at taken
      split at taken
      · rename_i operationId attempt found
        refine ⟨.respond call (gatewayResult attempt.operation outcome), taken,
          ?_⟩
        intro other success answered otherId claimed waiting
        injection answered with sameCall answered
        subst sameCall
        rw [found] at waiting
        cases waiting
        cases outcome with
        | failure error => cases answered
        | success cost output requestId usage =>
            simp only [gatewayResult] at answered
            split at answered
            · cases answered
            · rename_i decoded produced
              cases answered
              exact ⟨output, produced⟩
      · cases taken
  | other action =>
      refine ⟨action, ?_, ?_⟩
      · cases action with
        | respond call result => cases taken
        | prepare | restart | claim | complete | abandon => exact taken
      · rintro call success rfl
        cases taken

theorem reachable_of_workerSystem
    (reached : (workerSystem dates).Reachable state) :
    (modelSystem dates).Reachable state := by
  refine System.Reachable.simulate (fun state => state) ?_ ?_ reached
  · exact fun _ initial => initial
  · intro state label state' _ taken
    obtain ⟨action, moved, _⟩ := modelStep_of_nextProvided taken
    exact .inr ⟨action, moved⟩

/-- Responses that wait to be completed were decoded. -/
theorem reachable_responded_decoded
    (reached : (workerSystem dates).Reachable state) (call : CallId)
    (operationId : ModelOperationId) (attempt : ClaimedModelAttempt)
    (success : ModelGatewaySuccess)
    (found : state.calls.find? call =
      some ⟨operationId, .responded attempt (.ok success)⟩) :
    DecodedOutput attempt.operation success.output := by
  refine System.Reachable.invariant (I := fun state =>
    ∀ call operationId attempt success, state.calls.find? call =
        some ⟨operationId, .responded attempt (.ok success)⟩ →
      DecodedOutput attempt.operation success.output) ?_ ?_ reached call
        operationId attempt success found
  · rintro state ⟨users, rfl⟩ call operationId attempt success found
    simp at found
  · intro state label state' _ decoded taken call operationId attempt success
      found
    obtain ⟨action, moved, answers⟩ := modelStep_of_nextProvided taken
    rcases (modelStep_of_next moved).responded_cases found with
      earlier | ⟨rfl, waiting⟩
    · exact decoded call operationId attempt success earlier
    · exact answers call success rfl operationId attempt waiting

end Steps

section Rows

variable {dates : DateBuiltins} {state state' : ModelState}
  {db db' : ModelDatabase} {other operationId : ModelOperationId}
  {row : ModelOperationRow}
  {operations : Table ModelOperationId ModelOperationRow}

private theorem succeeded_of_push {pushed : ModelOperationRow}
    (fresh : operationId ∉ operations.rows.map Prod.fst)
    (found : (operations.push operationId pushed fresh).find? other = some row)
    (succeeded : row.status = .succeeded)
    (unfinished : pushed.status ≠ .succeeded) :
    operations.find? other = some row := by
  rw [Table.find?_push] at found
  split at found
  · cases found
    exact (unfinished succeeded).elim
  · exact found

private theorem succeeded_of_modify
    {set : ModelOperationRow → ModelOperationRow}
    (found : (operations.modify operationId set).find? other = some row)
    (succeeded : row.status = .succeeded)
    (unfinished : ∀ row, (set row).status ≠ .succeeded) :
    operations.find? other = some row := by
  rcases Table.find?_modify_cases found with
    ⟨_, before, _, rfl⟩ | ⟨_, unmodified⟩
  · exact (unfinished before succeeded).elim
  · exact unmodified

private theorem succeeded_of_claim {clock : DatabaseClock} {workerNow : Int}
    {generated : ModelAttemptId} {outcome : ClaimModelOperationOutcome}
    (claims : ClaimEffect clock workerNow generated operationId db outcome db')
    (found : db'.operations.find? other = some row)
    (succeeded : row.status = .succeeded) :
    db.operations.find? other = some row := by
  cases claims with
  | stored | leased | waiting => exact found
  | expired =>
      exact succeeded_of_modify found succeeded
        (by simp [ModelOperationRow.expireLease])
  | rejected =>
      rw [setOperation_operations, release_operations] at found
      exact succeeded_of_modify found succeeded
        (by simp [ModelOperationRow.rejectBeforeDispatch])
  | dispatched _ _ _ _ _ passed =>
      obtain ⟨dispatchCounters, rfl⟩ := passed.counted
      exact succeeded_of_modify found succeeded
        (by simp [ModelOperationRow.dispatch])

/-- A succeeded row was stored before the completion, or stores the response
that is completed. -/
private theorem succeeded_of_completion {clock : DatabaseClock}
    {workerNow : Int} {attempt : ClaimedModelAttempt}
    {result : ModelGatewayResult} {completion : ModelOperationCompletion}
    (completes : CompleteEffect clock workerNow
      (completeInput dates operationId attempt result) db completion db')
    (found : db'.operations.find? other = some row)
    (succeeded : row.status = .succeeded) :
    db.operations.find? other = some row ∨
      ∃ success before, other = operationId ∧ result = .ok success ∧
        containsInvalidExtractedDate dates success.output = false ∧
          db.operations.find? operationId = some before ∧
            row.operation = before.operation ∧
              row.resultJson = some success.output := by
  cases completes with
  | stale => exact .inl found
  | scheduled =>
      exact .inl (succeeded_of_modify found succeeded
        (by simp [ModelOperationRow.scheduleRetry]))
  | @settled earlier completion present _ _ effective _ accepted =>
      rw [setOperation_operations, releaseSettled_operations,
        setDispatchedAttempt_operations] at found
      rcases Table.find?_modify_cases found with
        ⟨same, before, beforeFound, rfl⟩ | ⟨_, unmodified⟩
      · change other = operationId at same
        subst same
        have disposed : completion.disposition = .succeeded := by
          cases disposition : completion.disposition with
          | succeeded => rfl
          | explicitlyRejected | invalidOutput | outcomeUnknown =>
              simp [ModelOperationRow.settle, disposition,
                ModelCompletionDisposition.status] at succeeded
        have submitted := disposed
        rw [effective, effectiveCompletion_disposition] at submitted
        obtain ⟨success, rfl, valid⟩ := submittedCompletion_succeeded submitted
        refine .inr ⟨success, before, rfl, rfl, valid, beforeFound, rfl, ?_⟩
        cases Option.some.inj (present.symm.trans beforeFound)
        exact ModelOperationRow.settle_resultJson disposed accepted
      · exact .inl unmodified

/-- The rows of succeeded operations are the earlier ones and those that have
just been completed with a valid response. -/
theorem ModelStep.succeeded_cases {action : ModelAction}
    (step : ModelStep dates state action state')
    (found : state'.database.operations.find? other = some row)
    (succeeded : row.status = .succeeded) :
    state.database.operations.find? other = some row ∨
      ∃ call attempt success before,
        state.calls.find? call =
          some ⟨other, .responded attempt (.ok success)⟩ ∧
        containsInvalidExtractedDate dates success.output = false ∧
          state.database.operations.find? other = some before ∧
            row.operation = before.operation ∧
              row.resultJson = some success.output := by
  cases step with
  | unprepared | unrestarted | unclaimed | responded | abandoned
  | uncompleted => exact .inl found
  | prepared _ prepares =>
      cases prepares with
      | duplicate => exact .inl found
      | prepared fresh reserves =>
          have earlier := succeeded_of_push fresh found succeeded
            (by simp [PrepareModelOperationStoreInput.preparedRow])
          rw [reserves.operations] at earlier
          exact .inl earlier
  | restarted restarts =>
      cases restarts with
      | duplicate => exact .inl found
      | restarted fresh _ _ _ _ reserves =>
          have earlier := succeeded_of_push fresh found succeeded
            (by simp [ModelOperationRow.restartedRow])
          rw [reserves.operations] at earlier
          exact .inl earlier
  | claimed _ claims => exact .inl (succeeded_of_claim claims found succeeded)
  | @completed call _ attempt _ _ _ _ _ waiting completes =>
      rcases succeeded_of_completion completes found succeeded with
        earlier | ⟨success, before, rfl, rfl, valid, beforeFound, same, result⟩
      · exact .inl earlier
      · exact .inr ⟨call, attempt, success, before, waiting, valid,
          beforeFound, same, result⟩

/-- A succeeded operation stores a decoded output without an invalid date. -/
def StoresDecoded (dates : DateBuiltins) (row : ModelOperationRow) : Prop :=
  ∃ output, row.resultJson = some output ∧
    DecodedOutput row.operation output ∧
      containsInvalidExtractedDate dates output = false

theorem reachable_storesDecoded
    (reached : (workerSystem dates).Reachable state)
    (operationId : ModelOperationId) (row : ModelOperationRow)
    (found : state.database.operations.find? operationId = some row)
    (succeeded : row.status = .succeeded) : StoresDecoded dates row := by
  refine System.Reachable.invariant (I := fun state =>
    ∀ operationId row,
      state.database.operations.find? operationId = some row →
      row.status = .succeeded → StoresDecoded dates row) ?_ ?_ reached
        operationId row found succeeded
  · rintro state ⟨users, rfl⟩ operationId row found
    simp at found
  · intro state label state' earlier stored taken operationId row found
      succeeded
    obtain ⟨action, moved, _⟩ := modelStep_of_nextProvided taken
    rcases (modelStep_of_next moved).succeeded_cases found succeeded with
      before | ⟨call, attempt, success, before, waiting, valid, beforeFound,
        same, result⟩
    · exact stored operationId row before succeeded
    · have decoded := reachable_responded_decoded earlier call operationId
        attempt success waiting
      obtain ⟨present, presentFound, serves⟩ := reachable_attempt_operation
        (reachable_of_workerSystem earlier) call _ attempt waiting rfl
      have here : present = before := by
        exact Option.some.inj (presentFound.symm.trans beforeFound)
      refine ⟨success.output, result, ?_, valid⟩
      rw [same, ← here, serves.1]
      exact decoded

end Rows

section Dates

variable {dates : DateBuiltins}

private theorem calendarDays_of_decoded (standard : dates.Standard)
    {operation : ModelOperationName} {output property : JsValue}
    (extraction : operation ≠ .querySlots)
    (decoded : DecodedOutput operation output)
    (valid : containsInvalidExtractedDate dates output = false)
    (contained :
      JsValue.Contains (ofString "occurredOn") property output) :
    ∃ text, property = .string text ∧ IsCalendarDay text := by
  obtain ⟨raw, produced⟩ := decoded
  cases operation with
  | querySlots => exact (extraction rfl).elim
  | transactionExtract =>
      obtain ⟨result, _, rfl⟩ := Option.map_eq_some_iff.mp produced
      obtain ⟨extracted, outcome, rfl⟩ := occurredOn_of_result contained
      refine ⟨_, rfl, ?_⟩
      by_contra unknown
      rw [(result_invalid_iff standard result).mpr
        ⟨extracted, outcome, unknown⟩] at valid
      cases valid
  | transactionExtractMany =>
      obtain ⟨batch, _, rfl⟩ := Option.map_eq_some_iff.mp produced
      obtain ⟨extracted, member, rfl⟩ := occurredOn_of_batch contained
      refine ⟨_, rfl, ?_⟩
      by_contra unknown
      rw [(batch_invalid_iff standard batch).mpr
        ⟨extracted, member, unknown⟩] at valid
      cases valid

/-- The check refuses exactly the extractions with a date that names no day, and
a succeeded extraction stores days only. -/
theorem stored_dates_exist (standard : dates.Standard) :
    (∀ result : TransactionExtractionResult,
      containsInvalidExtractedDate dates result.toJson = true ↔
        ∃ extracted, result.outcome = .extracted extracted ∧
          ¬IsCalendarDay extracted.occurredOn.val) ∧
    (∀ batch : TransactionExtractionBatchSuggestion,
      containsInvalidExtractedDate dates batch.toJson = true ↔
        ∃ extracted, .extracted extracted ∈ batch.suggestions ∧
          ¬IsCalendarDay extracted.occurredOn.val) ∧
    ∀ state, (workerSystem dates).Reachable state →
      ∀ operationId row,
        state.database.operations.find? operationId = some row →
        row.operation ≠ .querySlots → row.status = .succeeded →
        ∃ output, row.resultJson = some output ∧
          ∀ property,
            JsValue.Contains (ofString "occurredOn") property output →
            ∃ text, property = .string text ∧ IsCalendarDay text := by
  refine ⟨result_invalid_iff standard, batch_invalid_iff standard, ?_⟩
  intro state reached operationId row found extraction succeeded
  obtain ⟨output, stored, decoded, valid⟩ :=
    reachable_storesDecoded reached operationId row found succeeded
  refine ⟨output, stored, ?_⟩
  intro property contained
  exact calendarDays_of_decoded standard extraction decoded valid contained

/-- An extraction with a date in a leap year. -/
def extractedRun : List WorkerAction :=
  [.other (.prepare (sampleClock 0)
      { sampleRequest with operation := .transactionExtract }),
    .other (.claim 0 sampleOperation (sampleClock 10) 10 ⟨3⟩),
    .provide 0 (.success 40
      (.object [(ofString "outcome", .object
        [(ofString "_tag", .string (ofString "Extracted")),
          (ofString "amountMinor", .number 45000),
          (ofString "counterparty", .string (ofString "Cafe")),
          (ofString "currency", .string (ofString "INR")),
          (ofString "direction", .string (ofString "debit")),
          (ofString "occurredOn", .string (ofString "2028-02-29")),
          (ofString "requiresReview", .boolean false)])])
      none
      { cachedInputTokens := 0
        inputTokens := 100
        outputTokens := 16
        reasoningTokens := 0 }),
    .other (.complete 0 (sampleClock 100) 100)]

/-- The date of a stored extraction of one transaction. -/
private def storedDate (row : ModelOperationRow) : Option JsString :=
  match row.resultJson with
  | some (.object fields) =>
      match JsValue.property (ofString "outcome") fields with
      | some (.object fields) =>
          match JsValue.property (ofString "occurredOn") fields with
          | some (.string text) => some text
          | _ => none
      | _ => none
  | _ => none

private theorem contains_storedDate {row : ModelOperationRow} {text : JsString}
    {output : JsValue} (dated : storedDate row = some text)
    (stored : row.resultJson = some output) :
    JsValue.Contains (ofString "occurredOn") (.string text) output := by
  rw [storedDate, stored] at dated
  split at dated
  · rename_i same
    cases same
    split at dated
    · rename_i outcome
      split at dated
      · rename_i occurredOn
        cases dated
        exact .field (JsValue.mem_of_property outcome)
          (.here (JsValue.mem_of_property occurredOn))
      · cases dated
    · cases dated
  · cases dated

theorem stored_dates_exist_extracted :
    ∃ state row, (workerSystem Calendar.strictDates).Reachable state ∧
      state.database.operations.find? sampleOperation = some row ∧
        row.operation = .transactionExtract ∧ row.status = .succeeded ∧
          ∃ output, row.resultJson = some output ∧
            JsValue.Contains (ofString "occurredOn")
              (.string (ofString "2028-02-29")) output ∧
            IsCalendarDay (ofString "2028-02-29") := by
  have initial : (workerSystem Calendar.strictDates).Initial sampleStart :=
    ⟨[sampleUser], rfl⟩
  obtain ⟨state, reached, tested⟩ := System.exists_reachable_of_run
    extractedRun
    (fun state => (state.database.operations.find? sampleOperation).any
      (fun row => row.operation = .transactionExtract &&
        row.status = .succeeded &&
          storedDate row = some (ofString "2028-02-29")))
    initial (by decide +kernel)
  obtain ⟨row, found, matching⟩ := (Option.any_eq_true _ _).mp tested
  simp only [Bool.and_eq_true, decide_eq_true_eq] at matching
  obtain ⟨⟨extraction, succeeded⟩, dated⟩ := matching
  obtain ⟨output, stored, days⟩ :=
    (stored_dates_exist Calendar.strictDates_standard).2.2 state reached
      sampleOperation row found (by rw [extraction]; decide) succeeded
  have contained := contains_storedDate dated stored
  obtain ⟨text, same, day⟩ := days _ contained
  cases same
  exact ⟨state, row, reached, found, extraction, succeeded, output, stored,
    contained, day⟩

end Dates

end XpensGo
