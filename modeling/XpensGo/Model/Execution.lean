import XpensGo.Model.StoreCases
import XpensGo.Transition.System

/-!
# Executions of prepared model operations

Any number of callers run `executePreparedModelOperation`: a claim, a gateway
call and a completion, each of them a separate step.  They interleave with
requests that prepare and restart operations, with gateway responses of every
kind and with crashes.  Clock readings, generated identifiers and responses are
carried by the actions.
-/

namespace XpensGo

open EcmaScript Postgres Relational Transition

abbrev CallId := Nat

inductive ExecutePreparedModelOperationOutcome where
  | succeeded (output : JsValue)
  | failed (completion : ModelOperationCompletion)
  | retryScheduled (retryAfterMilliseconds : Int)
  | alreadyCompleted (completion : ModelOperationCompletion)
  | deferred (retryAfterMilliseconds : Int)

/-- Where a call stands between its steps.  A call that returned after a
gateway response keeps the attempt it had claimed. -/
inductive ExecutionPhase where
  | dispatching (attempt : ClaimedModelAttempt)
  | responded (attempt : ClaimedModelAttempt) (result : ModelGatewayResult)
  | returned (attempt : Option ClaimedModelAttempt)
      (outcome : ExecutePreparedModelOperationOutcome)
  | failed

structure ExecutionCall where
  operationId : ModelOperationId
  phase : ExecutionPhase

structure ModelState where
  database : ModelDatabase
  calls : Table CallId ExecutionCall := .empty

inductive ModelAction where
  | prepare (clock : DatabaseClock) (request : PrepareModelOperationRequest)
  | restart (clock : DatabaseClock) (input : RestartModelOperationStoreInput)
  | claim (call : CallId) (operationId : ModelOperationId)
      (clock : DatabaseClock) (workerNow : Int) (generated : ModelAttemptId)
  | respond (call : CallId) (result : ModelGatewayResult)
  | complete (call : CallId) (clock : DatabaseClock) (workerNow : Int)
  | abandon (call : CallId)

section Execution

variable (dates : DateBuiltins)

/-- What a caller does with the outcome of its claim. -/
def ExecutionPhase.afterClaim : ClaimModelOperationOutcome → ExecutionPhase
  | .completed completion => .returned none (.alreadyCompleted completion)
  | .rejected completion => .returned none (.failed completion)
  | .deferred retryAfterMilliseconds =>
      .returned none (.deferred retryAfterMilliseconds)
  | .claimed attempt => .dispatching attempt

/-- The completion that a caller submits for a gateway result. -/
def submittedCompletion (attempt : ClaimedModelAttempt) :
    ModelGatewayResult → ModelOperationCompletion
  | .ok success =>
      if containsInvalidExtractedDate dates success.output then
        finalCompletion .invalidOutput .modelOperationDomainValidationRejected
      else
        { disposition := .succeeded
          observedFailure := none
          retryPlan := .none }
  | .error failure =>
      classifyModelGatewayFailure failure
        attempt.transientRateLimitRetryAvailable

def completeInput (operationId : ModelOperationId)
    (attempt : ClaimedModelAttempt) (result : ModelGatewayResult) :
    CompleteModelOperationInput :=
  { attemptId := attempt.attemptId
    completion := submittedCompletion dates attempt result
    operationId := operationId
    result := result.toOption }

/-- What a caller returns once `complete` has answered. -/
def executionOutcome (result : ModelGatewayResult)
    (completion : ModelOperationCompletion) :
    ExecutePreparedModelOperationOutcome :=
  match result with
  | .ok success =>
      if containsInvalidExtractedDate dates success.output then
        .failed completion
      else
        .succeeded success.output
  | .error _ =>
      match completion.retryPlan with
      | .scheduleTransientRateLimit delayMilliseconds =>
          .retryScheduled delayMilliseconds
      | .none => .failed completion

namespace ModelState

def setPhase (state : ModelState) (call : CallId)
    (phase : ExecutionPhase) : ModelState :=
  { state with
    calls := state.calls.modify call
      (fun execution => { execution with phase := phase }) }

def begin (state : ModelState) (call : CallId)
    (operationId : ModelOperationId) (phase : ExecutionPhase) : ModelState :=
  { state with
    calls := state.calls.insertMissing call
      { operationId := operationId
        phase := phase } }

def next (state : ModelState) : ModelAction → Option ModelState
  | .prepare clock request =>
      match request.storeInput with
      | .error _ => some state
      | .ok input =>
          some { state with
            database :=
              (withTransaction (ModelDatabase.prepare clock input)
                state.database).2 }
  | .restart clock input =>
      some { state with
        database :=
          (withTransaction (ModelDatabase.restart clock input)
            state.database).2 }
  | .claim call operationId clock workerNow generated =>
      if (state.calls.find? call).isSome then
        none
      else
        match withTransaction
          (ModelDatabase.claim clock operationId workerNow generated)
          state.database with
        | (.ok outcome, database) =>
            some ({ state with database := database }.begin call operationId
              (.afterClaim outcome))
        | (.error _, database) =>
            some ({ state with database := database }.begin call operationId
              .failed)
  | .respond call result =>
      match state.calls.find? call with
      | some ⟨_, .dispatching attempt⟩ =>
          some (state.setPhase call (.responded attempt result))
      | _ => none
  | .complete call clock workerNow =>
      match state.calls.find? call with
      | some ⟨operationId, .responded attempt result⟩ =>
          match withTransaction
            (ModelDatabase.complete clock
              (completeInput dates operationId attempt result) workerNow)
            state.database with
          | (.ok completion, database) =>
              some ({ state with database := database }.setPhase call
                (.returned (some attempt)
                  (executionOutcome dates result completion)))
          | (.error _, database) =>
              some ({ state with database := database }.setPhase call .failed)
      | _ => none
  | .abandon call =>
      match state.calls.find? call with
      | some ⟨_, .dispatching _⟩ | some ⟨_, .responded _ _⟩ =>
          some (state.setPhase call .failed)
      | _ => none

/-- Any set of users, and no work yet. -/
def Initial (state : ModelState) : Prop :=
  ∃ users, state = { database := { users := users } }

end ModelState

section Calls

variable {state : ModelState} {call other : CallId}
  {operationId : ModelOperationId} {phase : ExecutionPhase}
  {execution : ExecutionCall}

@[simp] theorem ModelState.setPhase_database :
    (state.setPhase call phase).database = state.database := rfl

@[simp] theorem ModelState.begin_database :
    (state.begin call operationId phase).database = state.database := rfl

/-- A call found after a call began is the new call or an earlier one. -/
theorem ModelState.find?_begin (absent : state.calls.find? call = none)
    (found : (state.begin call operationId phase).calls.find? other =
      some execution) :
    (other = call ∧ execution = ⟨operationId, phase⟩) ∨
      (other ≠ call ∧ state.calls.find? other = some execution) := by
  simp only [ModelState.begin, Table.find?_insertMissing, absent] at found
  split at found
  · rename_i same
    cases found
    exact .inl ⟨same, rfl⟩
  · rename_i different
    exact .inr ⟨different, found⟩

/-- A call found after a change of phase is that call or another one. -/
theorem ModelState.find?_setPhase
    (found : (state.setPhase call phase).calls.find? other =
      some execution) :
    (other = call ∧ ∃ earlier, state.calls.find? call = some earlier ∧
      execution = ⟨earlier.operationId, phase⟩) ∨
      (other ≠ call ∧ state.calls.find? other = some execution) := by
  exact Table.find?_modify_cases found

end Calls

/-- All interleavings of requests, executions, responses and crashes. -/
def modelSystem : System ModelState ModelAction :=
  { Initial := ModelState.Initial
    next := ModelState.next dates }

/-- The transitions of the system, one constructor for each kind. -/
inductive ModelStep (state : ModelState) : ModelAction → ModelState → Prop
    where
  | unprepared {clock : DatabaseClock}
      {request : PrepareModelOperationRequest} :
      ModelStep state (.prepare clock request) state
  | unrestarted {clock : DatabaseClock}
      {input : RestartModelOperationStoreInput} :
      ModelStep state (.restart clock input) state
  | prepared {clock : DatabaseClock} {request : PrepareModelOperationRequest}
      {input : PrepareModelOperationStoreInput}
      {outcome : PrepareModelOperationOutcome} {database : ModelDatabase} :
      request.storeInput = .ok input →
      ModelDatabase.PrepareEffect clock input state.database outcome
        database →
      ModelStep state (.prepare clock request)
        { state with database := database }
  | restarted {clock : DatabaseClock}
      {input : RestartModelOperationStoreInput}
      {outcome : RestartModelOperationOutcome} {database : ModelDatabase} :
      ModelDatabase.RestartEffect clock input state.database outcome
        database →
      ModelStep state (.restart clock input)
        { state with database := database }
  | unclaimed {call : CallId} {operationId : ModelOperationId}
      {clock : DatabaseClock} {workerNow : Int} {generated : ModelAttemptId} :
      state.calls.find? call = none →
      ModelStep state (.claim call operationId clock workerNow generated)
        (state.begin call operationId .failed)
  | claimed {call : CallId} {operationId : ModelOperationId}
      {clock : DatabaseClock} {workerNow : Int} {generated : ModelAttemptId}
      {outcome : ClaimModelOperationOutcome} {database : ModelDatabase} :
      state.calls.find? call = none →
      ModelDatabase.ClaimEffect clock workerNow generated operationId
        state.database outcome database →
      ModelStep state (.claim call operationId clock workerNow generated)
        ({ state with database := database }.begin call operationId
          (.afterClaim outcome))
  | responded {call : CallId} {operationId : ModelOperationId}
      {attempt : ClaimedModelAttempt} {result : ModelGatewayResult} :
      state.calls.find? call = some ⟨operationId, .dispatching attempt⟩ →
      ModelStep state (.respond call result)
        (state.setPhase call (.responded attempt result))
  | abandoned {call : CallId} :
      ModelStep state (.abandon call) (state.setPhase call .failed)
  | uncompleted {call : CallId} {clock : DatabaseClock} {workerNow : Int} :
      ModelStep state (.complete call clock workerNow)
        (state.setPhase call .failed)
  | completed {call : CallId} {operationId : ModelOperationId}
      {attempt : ClaimedModelAttempt} {result : ModelGatewayResult}
      {clock : DatabaseClock} {workerNow : Int}
      {completion : ModelOperationCompletion} {database : ModelDatabase} :
      state.calls.find? call = some ⟨operationId, .responded attempt result⟩ →
      ModelDatabase.CompleteEffect clock workerNow
        (completeInput dates operationId attempt result) state.database
        completion database →
      ModelStep state (.complete call clock workerNow)
        ({ state with database := database }.setPhase call
          (.returned (some attempt)
            (executionOutcome dates result completion)))

variable {dates}

theorem modelStep_of_next {state state' : ModelState} {action : ModelAction}
    (taken : (modelSystem dates).next state action = some state') :
    ModelStep dates state action state' := by
  change state.next dates action = some state' at taken
  cases action with
  | prepare clock request =>
      simp only [ModelState.next] at taken
      split at taken
      · cases taken
        exact .unprepared
      · rename_i input accepted
        rcases withTransaction_cases (ModelDatabase.prepare clock input)
          state.database with ⟨_, _, rolledBack⟩ | ⟨_, _, ran, committed⟩
        · rw [rolledBack] at taken
          cases taken
          exact .unprepared
        · rw [committed] at taken
          cases taken
          exact .prepared accepted (ModelDatabase.prepare_eq_ok ran)
  | restart clock input =>
      simp only [ModelState.next] at taken
      rcases withTransaction_cases (ModelDatabase.restart clock input)
        state.database with ⟨_, _, rolledBack⟩ | ⟨_, _, ran, committed⟩
      · rw [rolledBack] at taken
        cases taken
        exact .unrestarted
      · rw [committed] at taken
        cases taken
        exact .restarted (ModelDatabase.restart_eq_ok ran)
  | claim call operationId clock workerNow generated =>
      simp only [ModelState.next] at taken
      split at taken
      · cases taken
      · rename_i unused
        have absent : state.calls.find? call = none := by simpa using unused
        rcases withTransaction_cases
          (ModelDatabase.claim clock operationId workerNow generated)
          state.database with ⟨_, _, rolledBack⟩ | ⟨_, _, ran, committed⟩
        · rw [rolledBack] at taken
          cases taken
          exact .unclaimed absent
        · rw [committed] at taken
          cases taken
          exact .claimed absent (ModelDatabase.claim_eq_ok ran)
  | respond call result =>
      simp only [ModelState.next] at taken
      split at taken
      · rename_i waiting
        cases taken
        exact .responded waiting
      · cases taken
  | complete call clock workerNow =>
      simp only [ModelState.next] at taken
      split at taken
      · rename_i operationId attempt result waiting
        rcases withTransaction_cases
          (ModelDatabase.complete clock
            (completeInput dates operationId attempt result) workerNow)
          state.database with ⟨_, _, rolledBack⟩ | ⟨_, _, ran, committed⟩
        · rw [rolledBack] at taken
          cases taken
          exact .uncompleted
        · rw [committed] at taken
          cases taken
          exact .completed waiting (ModelDatabase.complete_eq_ok ran)
      · cases taken
  | abandon call =>
      simp only [ModelState.next] at taken
      split at taken
      · cases taken
        exact .abandoned
      · cases taken
        exact .abandoned
      · cases taken

/-- Only a failed attempt that was rate limited asks for another dispatch. -/
theorem submittedCompletion_schedules {attempt : ClaimedModelAttempt}
    {result : ModelGatewayResult} {delay : Int}
    (scheduled : (submittedCompletion dates attempt result).retryPlan =
      .scheduleTransientRateLimit delay) :
    (submittedCompletion dates attempt result).disposition =
        .explicitlyRejected ∧
      (submittedCompletion dates attempt result).observedFailure =
        some .modelProviderRateLimited := by
  cases result with
  | error failure =>
      obtain ⟨rejected, limited, _⟩ :=
        classifyModelGatewayFailure_schedules scheduled
      exact ⟨rejected, by simp [submittedCompletion, limited]⟩
  | ok success =>
      simp only [submittedCompletion] at scheduled
      split at scheduled <;> cases scheduled

/-- Only a successful response without an invalid date is submitted as
succeeded. -/
theorem submittedCompletion_succeeded {attempt : ClaimedModelAttempt}
    {result : ModelGatewayResult}
    (succeeded : (submittedCompletion dates attempt result).disposition =
      .succeeded) :
    ∃ success, result = .ok success ∧
      containsInvalidExtractedDate dates success.output = false := by
  cases result with
  | ok success =>
      simp only [submittedCompletion] at succeeded
      split at succeeded
      · cases succeeded
      · rename_i valid
        exact ⟨success, rfl, Bool.eq_false_iff.mpr valid⟩
  | error failure =>
      exact (classifyModelGatewayFailure_ne_succeeded succeeded).elim

/-- A property of the tables that each of the four transactions preserves. -/
structure DatabaseInvariant (dates : DateBuiltins)
    (I : ModelDatabase → Prop) : Prop where
  initially : ∀ users, I { users := users }
  prepared : ∀ {clock request input outcome db db'}, I db →
    PrepareModelOperationRequest.storeInput request = .ok input →
    ModelDatabase.PrepareEffect clock input db outcome db' → I db'
  restarted : ∀ {clock input outcome db db'}, I db →
    ModelDatabase.RestartEffect clock input db outcome db' → I db'
  claimed : ∀ {clock workerNow generated operationId outcome db db'}, I db →
    ModelDatabase.ClaimEffect clock workerNow generated operationId db outcome
      db' → I db'
  completed : ∀ {clock workerNow operationId attempt result completion db db'},
    I db →
    ModelDatabase.CompleteEffect clock workerNow
      (completeInput dates operationId attempt result) db completion db' →
    I db'

theorem DatabaseInvariant.holds {I : ModelDatabase → Prop}
    (invariant : DatabaseInvariant dates I) {state : ModelState}
    (reached : (modelSystem dates).Reachable state) : I state.database := by
  refine System.Reachable.invariant (I := fun state => I state.database)
    ?_ ?_ reached
  · rintro state ⟨users, rfl⟩
    exact invariant.initially users
  · intro state action state' _ holds taken
    cases modelStep_of_next taken with
    | unprepared | unrestarted => exact holds
    | prepared accepted prepares =>
        exact invariant.prepared holds accepted prepares
    | restarted restarts => exact invariant.restarted holds restarts
    | unclaimed => exact holds
    | claimed _ claims => exact invariant.claimed holds claims
    | responded => exact holds
    | abandoned | uncompleted => exact holds
    | completed _ completes => exact invariant.completed holds completes

end Execution

section Samples

/-- The date functions on one calendar day. -/
def sampleDates : DateBuiltins :=
  { parse := fun text =>
      if text = JsString.ofString "2026-03-05T00:00:00.000Z" then
        some 1772668800000
      else
        none
    toISOString := fun _ => JsString.ofString "2026-03-05T00:00:00.000Z" }

def sampleUser : UserId := ⟨1⟩

def sampleOperation : ModelOperationId := ⟨2⟩

def sampleClock (milliseconds : Int) : DatabaseClock :=
  { currentTimestamp := Timestamp.ofMillis milliseconds
    currentDate :=
      { year := 2026
        month := 3
        day := 5 } }

def sampleRequest : PrepareModelOperationRequest :=
  { budgetPolicy := none
    canonicalInput := JsString.ofString "food"
    inputDigest := List.replicate 64 0x61
    operation := .querySlots
    operationId := sampleOperation
    provider := .openai
    userId := sampleUser }

/-- The slots of a question about the spending on food. -/
def sampleOutput : JsValue :=
  .object [(JsString.ofString "category", .string (JsString.ofString "food")),
    (JsString.ofString "counterparty", .null),
    (JsString.ofString "direction", .string (JsString.ofString "debit")),
    (JsString.ofString "fromOn", .null),
    (JsString.ofString "grouping", .string (JsString.ofString "none")),
    (JsString.ofString "metric", .string (JsString.ofString "spending")),
    (JsString.ofString "requiresClarification", .boolean false),
    (JsString.ofString "toOn", .null)]

/-- A response with 16 output tokens, which cost 20 micro-USD; five input tokens
cost one. -/
def sampleSuccess (inputTokens : Nat) : ModelGatewaySuccess :=
  { costMicroUsd := inputTokens / 5 + 20
    output := sampleOutput
    providerRequestId := none
    usage :=
      { cachedInputTokens := 0
        inputTokens := inputTokens
        outputTokens := 16
        reasoningTokens := 0 } }

def sampleStart : ModelState :=
  { database := { users := [sampleUser] } }

theorem sampleStart_initial (dates : DateBuiltins) :
    (modelSystem dates).Initial sampleStart :=
  ⟨[sampleUser], rfl⟩

/-- A first attempt is rate limited and a second one is running. -/
def rateLimitedRun : List ModelAction :=
  [.prepare (sampleClock 0) sampleRequest,
    .claim 0 sampleOperation (sampleClock 10) 10 ⟨3⟩,
    .respond 0 (.error (.modelProviderRateLimited .transient 500)),
    .complete 0 (sampleClock 100) 100,
    .claim 1 sampleOperation (sampleClock 1200) 1200 ⟨4⟩]

/-- A billed operation: 100 input and 16 output tokens at 40 micro-USD. -/
def settledRun : List ModelAction :=
  [.prepare (sampleClock 0) sampleRequest,
    .claim 0 sampleOperation (sampleClock 10) 10 ⟨3⟩,
    .respond 0 (.ok (sampleSuccess 100)),
    .complete 0 (sampleClock 100) 100]

end Samples

end XpensGo
