import XpensGo.Model.LegalWrites

/-!
# Scheduled retries

A completion that schedules a retry and the claims that consume it compare the
same instants in different places.  The completion admits a retry that starts at
the deadline; the claim refuses a dispatch at the deadline.  Both compare whole
milliseconds, while the columns hold microseconds.
-/

namespace XpensGo

open EcmaScript Postgres Relational Transition ModelDatabase

/-- Instants as the columns hold them, or as the program reads them. -/
inductive InstantResolution where
  | microseconds
  | milliseconds

namespace InstantResolution

def read : InstantResolution → Timestamp → Int
  | .microseconds, instant => instant
  | .milliseconds, instant => instant.getTime

def perMillisecond : InstantResolution → Int
  | .microseconds => 1000
  | .milliseconds => 1

/-- An instant of which the program loses nothing. -/
def Exact : InstantResolution → Timestamp → Prop
  | .microseconds, instant => instant.getTime * 1000 = instant
  | .milliseconds, _ => True

end InstantResolution

section Claims

variable {db db' : ModelDatabase} {clock : DatabaseClock} {workerNow : Int}
  {operationId : ModelOperationId} {generated : ModelAttemptId}
  {row : ModelOperationRow} {notBefore : Timestamp}
  {outcome : ClaimModelOperationOutcome}

private theorem getTime_addMilliseconds (instant : Timestamp) (delay : Int) :
    (instant.addMilliseconds delay).getTime = instant.getTime + delay := by
  unfold Timestamp.addMilliseconds Timestamp.getTime
  omega

/-- A scheduled retry is deferred up to its millisecond. -/
theorem claim_before_retry
    (found : db.operations.find? operationId = some row)
    (scheduled : row.status = .retryScheduled)
    (planned : row.retryNotBefore = some notBefore)
    (early : clock.currentTimestamp.getTime < notBefore.getTime) :
    db.claim clock operationId workerNow generated =
      .ok (.deferred (notBefore.getTime - clock.currentTimestamp.getTime),
        db) := by
  have waits : row.retryWait clock.currentTimestamp.getTime =
      some (notBefore.getTime - clock.currentTimestamp.getTime) := by
    simp [ModelOperationRow.retryWait, scheduled, planned, early]
  have atLeast : max 1 (notBefore.getTime - clock.currentTimestamp.getTime) =
      notBefore.getTime - clock.currentTimestamp.getTime := by omega
  unfold claim readOperationForUpdate
  rw [found]
  simp only [require, bind, Except.bind, scheduled, waits, atLeast]
  rfl

/-- From its millisecond on, a scheduled retry meets the gates of a dispatch. -/
theorem claim_from_retry
    (found : db.operations.find? operationId = some row)
    (scheduled : row.status = .retryScheduled)
    (planned : row.retryNotBefore = some notBefore)
    (due : notBefore.getTime ≤ clock.currentTimestamp.getTime) :
    db.claim clock operationId workerNow generated =
      db.claimReady clock operationId row generated := by
  have waits : row.retryWait clock.currentTimestamp.getTime = none := by
    simp [ModelOperationRow.retryWait, scheduled, planned]
    omega
  unfold claim readOperationForUpdate
  rw [found]
  simp only [require, bind, Except.bind, scheduled, waits]
  rfl

/-- The outcomes behind the gates. -/
inductive ReadyOutcome (clock : DatabaseClock) (row : ModelOperationRow) :
    ClaimModelOperationOutcome → Prop where
  | late :
      row.deadlineAt.getTime ≤ clock.currentTimestamp.getTime →
      ReadyOutcome clock row
        (.rejected (finalCompletion .explicitlyRejected
          .modelRequestDeadlineExceededBeforeDispatch))
  | exhausted :
      row.maximumHttpDispatches ≤ row.httpDispatchCount →
      ReadyOutcome clock row
        (.rejected (finalCompletion .explicitlyRejected
          .modelOperationDispatchLimitExceeded))
  | stopped :
      ReadyOutcome clock row
        (.rejected (finalCompletion .explicitlyRejected
          .modelOperationKillSwitchEngaged))
  | spent :
      ReadyOutcome clock row
        (.rejected (finalCompletion .explicitlyRejected
          .modelDailyDispatchLimitExceeded))
  | claimed {attempt : ClaimedModelAttempt} :
      ReadyOutcome clock row (.claimed attempt)

private theorem rejectBeforeDispatch_outcome {failure : ObservedFailure}
    {clearsClaim : Bool}
    (rejects : db.rejectBeforeDispatch clock operationId row failure
      clearsClaim = .ok (outcome, db')) :
    outcome = .rejected (finalCompletion .explicitlyRejected failure) := by
  obtain ⟨_, _, rest⟩ := bind_eq_ok.mp rejects
  obtain ⟨_, _, returned⟩ := bind_eq_ok.mp rest
  cases returned
  rfl

private theorem dispatchAttempt_outcome
    (dispatches : db.dispatchAttempt clock operationId row generated =
      .ok (outcome, db')) :
    ∃ attempt, outcome = .claimed attempt := by
  obtain ⟨_, _, rest⟩ := bind_eq_ok.mp dispatches
  obtain ⟨_, _, returned⟩ := bind_eq_ok.mp rest
  cases returned
  exact ⟨_, rfl⟩

theorem readyOutcome_of_claimReady
    (ready : db.claimReady clock operationId row generated =
      .ok (outcome, db')) : ReadyOutcome clock row outcome := by
  unfold claimReady at ready
  split at ready
  · rename_i late
    rw [rejectBeforeDispatch_outcome ready]
    exact .late late
  · split at ready
    · rename_i exhausted
      rw [rejectBeforeDispatch_outcome ready]
      exact .exhausted exhausted
    · split at ready
      · split at ready
        · cases ready
        · split at ready
          · rw [rejectBeforeDispatch_outcome ready]
            exact .stopped
          · split at ready
            · rw [rejectBeforeDispatch_outcome ready]
              exact .spent
            · obtain ⟨attempt, rfl⟩ := dispatchAttempt_outcome ready
              exact .claimed
      · obtain ⟨attempt, rfl⟩ := dispatchAttempt_outcome ready
        exact .claimed

end Claims

/-- The retry that a completion has scheduled in `row` is consumed as planned,
in any later state that still holds the row. -/
structure ScheduleHonoured (dates : DateBuiltins)
    (resolution : InstantResolution) (operationId : ModelOperationId)
    (completedAt : Timestamp) (delay : Int) (row : ModelOperationRow) :
    Prop where
  minimum : 1000 ≤ delay
  planned : row.retryNotBefore = some (completedAt.addMilliseconds delay)
  fits : resolution.read (completedAt.addMilliseconds delay) ≤
    resolution.read row.deadlineAt
  deferred : ∀ later, (modelSystem dates).Reachable later →
    later.database.operations.find? operationId = some row →
    ∀ (clock : DatabaseClock) workerNow generated,
      resolution.read clock.currentTimestamp <
        resolution.read (completedAt.addMilliseconds delay) →
      ∃ wait,
        later.database.claim clock operationId workerNow generated =
            .ok (.deferred wait, later.database) ∧
          0 < wait ∧
          resolution.read (completedAt.addMilliseconds delay) ≤
            resolution.read clock.currentTimestamp +
              wait * resolution.perMillisecond
  dispatched : ∀ later, (modelSystem dates).Reachable later →
    later.database.operations.find? operationId = some row →
    ∀ (clock : DatabaseClock) workerNow generated outcome db,
      resolution.read clock.currentTimestamp =
        resolution.read (completedAt.addMilliseconds delay) →
      later.database.claim clock operationId workerNow generated =
        .ok (outcome, db) →
      (∀ wait, outcome ≠ .deferred wait) ∧
        outcome ≠ .rejected (finalCompletion .explicitlyRejected
          .modelRequestDeadlineExceededBeforeDispatch) ∧
        outcome ≠ .rejected (finalCompletion .explicitlyRejected
          .modelOperationDispatchLimitExceeded)

/-- The completed operation holds a retry that is consumed as planned. -/
def RetryDispatchable (dates : DateBuiltins) (resolution : InstantResolution)
    (operationId : ModelOperationId) (completedAt : Timestamp) (delay : Int)
    (db : ModelDatabase) : Prop :=
  ∃ row, db.operations.find? operationId = some row ∧
    ScheduleHonoured dates resolution operationId completedAt delay row

/-- A retry of at least a second that was asked for would start before the
deadline. -/
def LeavesRoom (db : ModelDatabase) (input : CompleteModelOperationInput)
    (clock : DatabaseClock) : Prop :=
  ∀ row asked, db.operations.find? input.operationId = some row →
    input.completion.retryPlan = .scheduleTransientRateLimit asked →
    clock.currentTimestamp.getTime + max 1000 asked < row.deadlineAt.getTime

section Schedules

variable {dates : DateBuiltins} {state : ModelState} {clock : DatabaseClock}
  {workerNow delay : Int} {input : CompleteModelOperationInput}
  {completion : ModelOperationCompletion} {db' : ModelDatabase}

/-- A completion that plans a retry writes it to the operation that it found
dispatched. -/
private theorem retry_of_complete
    (reached : (modelSystem dates).Reachable state)
    (completes : state.database.complete clock input workerNow =
      .ok (completion, db'))
    (plans : completion.retryPlan = .scheduleTransientRateLimit delay) :
    ∃ row asked,
      state.database.operations.find? input.operationId = some row ∧
        input.completion.retryPlan = .scheduleTransientRateLimit asked ∧
        delay = max 1000 asked ∧
        clock.currentTimestamp.getTime + delay ≤ row.deadlineAt.getTime ∧
        db'.operations.find? input.operationId =
          some (row.scheduleRetry clock completion delay) := by
  cases complete_eq_ok completes with
  | @stale row _ found stale terminal answered =>
      obtain ⟨stored, answer, _, _, unplanned⟩ :=
        (complete_stale reached found stale).1 terminal
      rw [completes] at answer
      cases answer
      rw [unplanned] at plans
      cases plans
  | @scheduled row _ planned found dispatched current effective scheduled =>
      rw [plans] at scheduled
      cases scheduled
      subst effective
      obtain ⟨asked, asks, least, fits⟩ := effectiveCompletion_schedules plans
      refine ⟨row, asked, found, asks, least, fits, ?_⟩
      simp [setOperation, setDispatchedAttempt, found]
  | settled _ _ _ _ unplanned =>
      rw [unplanned] at plans
      cases plans

private theorem dispatch_left
    (reached : (modelSystem dates).Reachable state)
    {operationId : ModelOperationId} {row : ModelOperationRow}
    (found : state.database.operations.find? operationId = some row)
    (scheduled : row.status = .retryScheduled) :
    row.httpDispatchCount < row.maximumHttpDispatches := by
  have sound := reachable_soundStore reached
  have retries := sound.retries _ row found
  have used :=
    (sound.histories.histories _ row found).retriesUsed_of_active
      (.inr scheduled)
  have terms := (sound.registered _ row found).terms
  have remaining : row.transientRateLimitRetryLimit <
      row.maximumHttpDispatches := by
    rw [terms.transientRateLimitRetryLimit, terms.maximumHttpDispatches]
    cases row.operation <;> decide
  omega

private theorem read_lt {resolution : InstantResolution}
    {completedAt now : Timestamp} (exact : resolution.Exact completedAt) :
    resolution.read now <
        resolution.read (completedAt.addMilliseconds delay) ↔
      now.getTime < completedAt.getTime + delay := by
  cases resolution with
  | microseconds =>
      simp only [InstantResolution.Exact, Timestamp.getTime] at exact
      simp only [InstantResolution.read, Timestamp.addMilliseconds,
        Timestamp.getTime]
      omega
  | milliseconds =>
      simp only [InstantResolution.read, getTime_addMilliseconds]

private theorem getTime_of_read {resolution : InstantResolution}
    {completedAt now : Timestamp}
    (same : resolution.read now =
      resolution.read (completedAt.addMilliseconds delay)) :
    now.getTime = completedAt.getTime + delay := by
  cases resolution with
  | microseconds =>
      simp only [InstantResolution.read] at same
      rw [same, getTime_addMilliseconds]
  | milliseconds =>
      simpa only [InstantResolution.read, getTime_addMilliseconds] using same

private theorem read_le_of_getTime_lt (resolution : InstantResolution)
    {first second : Timestamp} (before : first.getTime < second.getTime) :
    resolution.read first ≤ resolution.read second := by
  cases resolution with
  | microseconds =>
      simp only [Timestamp.getTime] at before
      simp only [InstantResolution.read]
      omega
  | milliseconds =>
      simp only [InstantResolution.read]
      omega

private theorem read_le_after_wait {resolution : InstantResolution}
    {completedAt : Timestamp} (exact : resolution.Exact completedAt)
    (now : Timestamp) :
    resolution.read (completedAt.addMilliseconds delay) ≤
      resolution.read now +
        (completedAt.getTime + delay - now.getTime) *
          resolution.perMillisecond := by
  cases resolution with
  | microseconds =>
      simp only [InstantResolution.Exact, Timestamp.getTime] at exact
      simp only [InstantResolution.read, InstantResolution.perMillisecond,
        Timestamp.addMilliseconds, Timestamp.getTime]
      omega
  | milliseconds =>
      simp only [InstantResolution.read, InstantResolution.perMillisecond,
        getTime_addMilliseconds]
      omega

private theorem scheduleHonoured_of_room {resolution : InstantResolution}
    {operationId : ModelOperationId} {row : ModelOperationRow}
    (exact : resolution.Exact clock.currentTimestamp)
    (minimum : 1000 ≤ delay)
    (room : clock.currentTimestamp.getTime + delay < row.deadlineAt.getTime) :
    ScheduleHonoured dates resolution operationId clock.currentTimestamp delay
      (row.scheduleRetry clock completion delay) where
  minimum := minimum
  planned := rfl
  fits := by
    apply read_le_of_getTime_lt
    rw [getTime_addMilliseconds]
    exact room
  deferred := by
    intro later _ found now worker generated early
    have before := (read_lt exact).mp early
    refine ⟨_, claim_before_retry found rfl rfl ?_, ?_, ?_⟩
    · rw [getTime_addMilliseconds]
      exact before
    · rw [getTime_addMilliseconds]
      omega
    · rw [getTime_addMilliseconds]
      exact read_le_after_wait exact now.currentTimestamp
  dispatched := by
    intro later reached found now worker generated outcome db same claims
    have due := getTime_of_read same
    rw [claim_from_retry found rfl rfl (by
      rw [getTime_addMilliseconds]
      exact due.ge)] at claims
    have left := dispatch_left reached found rfl
    have inTime : now.currentTimestamp.getTime < row.deadlineAt.getTime := by
      omega
    cases readyOutcome_of_claimReady claims with
    | late late => exact absurd inTime late.not_gt
    | exhausted exhausted => exact absurd left exhausted.not_gt
    | stopped | spent | claimed =>
        refine ⟨?_, ?_, ?_⟩ <;> simp [finalCompletion]

private theorem exact_of_honoured {resolution : InstantResolution}
    {operationId : ModelOperationId} {row : ModelOperationRow}
    (reached : (modelSystem dates).Reachable state)
    (found : state.database.operations.find? operationId =
      some (row.scheduleRetry clock completion delay))
    (honoured : ScheduleHonoured dates resolution operationId
      clock.currentTimestamp delay
      (row.scheduleRetry clock completion delay)) :
    resolution.Exact clock.currentTimestamp := by
  cases resolution with
  | milliseconds => trivial
  | microseconds =>
      by_contra inexact
      let now : DatabaseClock :=
        { clock with
          currentTimestamp :=
            Timestamp.ofMillis (clock.currentTimestamp.getTime + delay) }
      have whole : now.currentTimestamp.getTime =
          clock.currentTimestamp.getTime + delay :=
        Timestamp.getTime_ofMillis _
      obtain ⟨wait, deferred, _⟩ :=
        honoured.deferred state reached found now 0 ⟨0⟩ (by
          simp only [InstantResolution.Exact, Timestamp.getTime] at inexact
          simp only [InstantResolution.read, now, Timestamp.ofMillis,
            Timestamp.addMilliseconds, Timestamp.getTime]
          omega)
      rw [claim_from_retry found rfl rfl (by
        rw [getTime_addMilliseconds, whole])] at deferred
      cases readyOutcome_of_claimReady deferred

private theorem room_of_honoured {resolution : InstantResolution}
    {operationId : ModelOperationId} {row : ModelOperationRow}
    (reached : (modelSystem dates).Reachable state)
    (found : state.database.operations.find? operationId =
      some (row.scheduleRetry clock completion delay))
    (honoured : ScheduleHonoured dates resolution operationId
      clock.currentTimestamp delay
      (row.scheduleRetry clock completion delay)) :
    clock.currentTimestamp.getTime + delay < row.deadlineAt.getTime := by
  by_contra late
  let now : DatabaseClock :=
    { clock with
      currentTimestamp := clock.currentTimestamp.addMilliseconds delay }
  have whole : now.currentTimestamp.getTime =
      clock.currentTimestamp.getTime + delay := getTime_addMilliseconds _ _
  obtain ⟨number, unused⟩ := @Table.exists_unused _ _ _
    state.database.attempts Uuid.mk (by
      intro first second same
      exact congrArg Uuid.number same)
  cases claims : state.database.claim now operationId 0 ⟨number⟩ with
  | error failure =>
      rcases (reachable_soundStore reached).claim_eq_error dates claims with
        ⟨_, absent⟩ | used
      · rw [found] at absent
        cases absent
      · rw [unused] at used
        cases used
  | ok answer =>
      obtain ⟨outcome, db⟩ := answer
      obtain ⟨_, inTime, _⟩ :=
        honoured.dispatched state reached found now 0 ⟨number⟩ outcome db rfl
          claims
      rw [claim_from_retry found rfl rfl le_rfl, claimReady,
        if_pos (by
          rw [whole]
          exact Int.not_lt.mp late)] at claims
      exact inTime (rejectBeforeDispatch_outcome claims)

variable {call : CallId} {operationId : ModelOperationId}
  {attempt : ClaimedModelAttempt} {result : ModelGatewayResult}

private theorem reachable_completed
    (reached : (modelSystem dates).Reachable state)
    (waiting : state.calls.find? call =
      some ⟨operationId, .responded attempt result⟩)
    (completes : state.database.complete clock
      (completeInput dates operationId attempt result) workerNow =
        .ok (completion, db')) :
    ∃ state', (modelSystem dates).Reachable state' ∧ state'.database = db' := by
  have taken : (modelSystem dates).next state
      (.complete call clock workerNow) =
        some (({ state with database := db' } : ModelState).setPhase call
          (.returned (some attempt)
            (executionOutcome dates result completion))) := by
    simp [modelSystem, ModelState.next, waiting, withTransaction, completes]
  exact ⟨_, reached.step taken, rfl⟩

/-- A scheduled retry is consumed as planned if and only if the instant of the
completion is read without loss and the retry starts before the deadline. -/
theorem scheduled_retry_dispatchable_iff (resolution : InstantResolution)
    (reached : (modelSystem dates).Reachable state)
    (waiting : state.calls.find? call =
      some ⟨operationId, .responded attempt result⟩)
    (completes : state.database.complete clock
      (completeInput dates operationId attempt result) workerNow =
        .ok (completion, db'))
    (plans : completion.retryPlan = .scheduleTransientRateLimit delay) :
    RetryDispatchable dates resolution operationId clock.currentTimestamp
        delay db' ↔
      resolution.Exact clock.currentTimestamp ∧
        LeavesRoom state.database
          (completeInput dates operationId attempt result) clock := by
  obtain ⟨row, asked, found, asks, least, _, written⟩ :=
    retry_of_complete reached completes plans
  constructor
  · rintro ⟨stored, storedFound, honoured⟩
    obtain ⟨state', reached', rfl⟩ :=
      reachable_completed reached waiting completes
    cases storedFound.symm.trans written
    refine ⟨exact_of_honoured reached' storedFound honoured, ?_⟩
    have room := room_of_honoured reached' storedFound honoured
    intro present other presentFound otherAsks
    rw [found] at presentFound
    cases presentFound
    rw [asks] at otherAsks
    cases otherAsks
    rw [← least]
    exact room
  · rintro ⟨exact, leavesRoom⟩
    have room := leavesRoom row asked found asks
    rw [← least] at room
    exact ⟨_, written, scheduleHonoured_of_room exact (by omega) room⟩

/-- A rate-limited attempt of the sample operation, before its completion. -/
def limitedRun : List ModelAction :=
  rateLimitedRun.take 3

/-- The completion plans a retry after a second and leaves a state of the
kind. -/
def plansRetry (milliseconds : Int) (leaves : ModelDatabase → Bool)
    (state : ModelState) : Bool :=
  match state.calls.find? 0 with
  | some ⟨operationId, .responded attempt result⟩ =>
      match state.database.complete (sampleClock milliseconds)
        (completeInput sampleDates operationId attempt result)
        milliseconds with
      | .ok (completion, db) =>
          decide (operationId = sampleOperation) &&
            decide (completion.retryPlan = .scheduleTransientRateLimit 1000) &&
              leaves db
      | .error _ => false
  | _ => false

private theorem of_plansRetry {milliseconds : Int}
    {leaves : ModelDatabase → Bool}
    (planned : plansRetry milliseconds leaves state = true) :
    ∃ attempt result completion db,
      state.calls.find? 0 =
          some ⟨sampleOperation, .responded attempt result⟩ ∧
        state.database.complete (sampleClock milliseconds)
            (completeInput sampleDates sampleOperation attempt result)
            milliseconds = .ok (completion, db) ∧
        completion.retryPlan = .scheduleTransientRateLimit 1000 ∧
        leaves db = true := by
  unfold plansRetry at planned
  split at planned
  · rename_i operationId attempt result waiting
    split at planned
    · rename_i completion db completes
      simp only [Bool.and_eq_true, decide_eq_true_eq] at planned
      obtain ⟨⟨rfl, plans⟩, left⟩ := planned
      exact ⟨attempt, result, completion, db, waiting, completes, plans, left⟩
    · cases planned
  · cases planned

/-- The retry of an early completion is consumed as planned. -/
theorem scheduled_retry_dispatchable_early :
    ∃ db, RetryDispatchable sampleDates .microseconds sampleOperation
      (sampleClock 100).currentTimestamp 1000 db := by
  obtain ⟨state, reached, planned⟩ := System.exists_reachable_of_run limitedRun
    (plansRetry 100 (fun db => (db.operations.find? sampleOperation).any
      (fun row => row.deadlineAt.getTime = 6000)))
    (sampleStart_initial sampleDates) (by decide +kernel)
  obtain ⟨attempt, result, completion, db, waiting, completes, plans, left⟩ :=
    of_plansRetry planned
  refine ⟨db, (scheduled_retry_dispatchable_iff .microseconds reached waiting
    completes plans).mpr ⟨rfl, ?_⟩⟩
  obtain ⟨row, asked, found, asks, least, _, written⟩ :=
    retry_of_complete reached completes plans
  intro present other presentFound otherAsks
  cases found.symm.trans presentFound
  cases asks.symm.trans otherAsks
  change db.operations.find? sampleOperation = _ at written
  rw [written] at left
  have deadline : row.deadlineAt.getTime = 6000 := of_decide_eq_true left
  rw [deadline, ← least]
  decide

/-- A completion a second before the deadline schedules a retry that starts at
the deadline.  The claim at that instant rejects the operation. -/
theorem scheduled_retry_refused :
    ∃ state attempt result completion db,
      (modelSystem sampleDates).Reachable state ∧
        state.calls.find? 0 =
          some ⟨sampleOperation, .responded attempt result⟩ ∧
        state.database.complete (sampleClock 5000)
            (completeInput sampleDates sampleOperation attempt result) 5000 =
          .ok (completion, db) ∧
        completion.retryPlan = .scheduleTransientRateLimit 1000 ∧
        ∀ resolution, ¬RetryDispatchable sampleDates resolution
          sampleOperation (sampleClock 5000).currentTimestamp 1000 db := by
  obtain ⟨state, reached, planned⟩ := System.exists_reachable_of_run limitedRun
    (plansRetry 5000 (fun db =>
      match db.claim (sampleClock 6000) sampleOperation 6000 ⟨4⟩ with
      | .ok (outcome, _) => outcome = .rejected (finalCompletion
          .explicitlyRejected .modelRequestDeadlineExceededBeforeDispatch)
      | .error _ => false))
    (sampleStart_initial sampleDates) (by decide +kernel)
  obtain ⟨attempt, result, completion, db, waiting, completes, plans, left⟩ :=
    of_plansRetry planned
  refine ⟨state, attempt, result, completion, db, reached, waiting, completes,
    plans, ?_⟩
  rintro resolution ⟨row, found, honoured⟩
  obtain ⟨state', reached', rfl⟩ :=
    reachable_completed reached waiting completes
  split at left
  · rename_i outcome rejected claims
    have starts : resolution.read (sampleClock 6000).currentTimestamp =
        resolution.read
          ((sampleClock 5000).currentTimestamp.addMilliseconds 1000) := by
      cases resolution <;> decide
    exact (honoured.dispatched state' reached' found _ _ _ _ _ starts
      claims).2.1 (of_decide_eq_true left)
  · cases left

end Schedules

end XpensGo
