import XpensGo.Model.ConcurrentPrepare
import XpensGo.Model.Execution

/-!
# One operation from many calls

As long as no call takes its last look at the identifier while another call
that found it unused is still running, one call is told `Prepared`, all others
are told `Duplicate`, and one row with one reservation is stored.  Calls that
reserve budget in one month always satisfy this, since they look under a common
lock.  Calls that reserve nothing look without any lock, so two of them can
find nothing, and the second insertion then violates the primary key.
-/

namespace XpensGo

open EcmaScript Postgres Relational Transition

section Preparations

/-- What an account has reserved; an account that is not there has nothing. -/
def ModelDatabase.reservedOn (db : ModelDatabase) (key : BudgetAccountKey) :
    Int :=
  ((db.accounts.find? key).map (·.reservedMicroUsd)).getD 0

/-- Concurrent calls prepare one operation: all answers are `Prepared` or
`Duplicate`, one call at most is told `Prepared`, from the first answer on there
is one row with one reservation, and some call can always go on. -/
structure PreparedOnce (start : ModelDatabase)
    (input : PrepareModelOperationStoreInput) (state : PrepareCalls) :
    Prop where
  answered : ∀ session answer,
    state.sessions.find? session = some (.ended answer) →
    answer = .ok (.prepared input.operationId) ∨
      answer = .ok (.duplicate input.operationId)
  once : ∀ session other,
    state.sessions.find? session =
      some (.ended (.ok (.prepared input.operationId))) →
    state.sessions.find? other =
      some (.ended (.ok (.prepared input.operationId))) →
    session = other
  stored : ∀ session answer,
    state.sessions.find? session = some (.ended answer) →
    ∃ prepared clock,
      state.sessions.find? prepared =
          some (.ended (.ok (.prepared input.operationId))) ∧
        (∃ fresh, state.committed.operations = start.operations.push
          input.operationId (input.preparedRow clock) fresh) ∧
        ∀ key, state.committed.reservedOn key = start.reservedOn key +
          (if (input.charge clock).covers key then
            (input.reservedCostMicroUsd : Int)
          else 0)
  progress : ∀ session call,
    state.sessions.find? session = some (.running call) →
    ∃ other state', (prepareSystem input start).next state (.step other) =
      some state'
  terminates : ∀ session state',
    (prepareSystem input start).next state (.step session) = some state' →
    state'.remaining PreparePhase.rank < state.remaining PreparePhase.rank

variable {start : ModelDatabase} {input : PrepareModelOperationStoreInput}
  {state : PrepareCalls}

private theorem ChargedOnce.reservedOn {clock : DatabaseClock}
    {db : ModelDatabase} (charged : ChargedOnce start input clock db)
    (key : BudgetAccountKey) :
    db.reservedOn key = start.reservedOn key +
      (if (input.charge clock).covers key then
        (input.reservedCostMicroUsd : Int)
      else 0) := by
  have base : (baseAccount start input key).reservedMicroUsd =
      start.reservedOn key := by
    unfold baseAccount ModelDatabase.reservedOn
    cases start.accounts.find? key with
    | none => rfl
    | some row => rfl
  cases found : db.accounts.find? key with
  | some row =>
      rw [← base, ← (charged.rows key row found).1]
      simp [ModelDatabase.reservedOn, found]
  | none =>
      have absent := absent_at_start charged.kept found
      have nothing : (if (input.charge clock).covers key then
          (input.reservedCostMicroUsd : Int) else 0) = 0 := by
        by_cases billed : 0 < input.reservedCostMicroUsd
        · by_cases covers : (input.charge clock).covers key = true
          · have opened := charged.covered billed key covers
            rw [found] at opened
            cases opened
          · exact if_neg covers
        · have zero : input.reservedCostMicroUsd = 0 := by omega
          simp [zero]
      simp [ModelDatabase.reservedOn, found, absent, nothing]

private theorem callsHold_start (start : ModelDatabase)
    (input : PrepareModelOperationStoreInput) :
    CallsHold start input none { committed := start } where
  rows := .unprepared rfl rfl (uncharged_start start input)
  running := by
    intro session transaction found
    simp at found
  decided := by
    intro session other transaction running found
    simp at found
  ended := by
    intro session answer found
    simp at found
  prepared := by
    intro session clock won
    cases won

/-- What holds of all calls holds in every run of the condition. -/
theorem exists_callsHold
    (reached : (prepareSystem input start).ReachableWhere
      (fun state action => CallsAdmitted start input action ∧
        LastLookAlone input state action) state) :
    ∃ winner, CallsHold start input winner state := by
  refine System.ReachableWhere.invariant
    (I := fun state => ∃ winner, CallsHold start input winner state)
    ?_ ?_ reached
  · rintro state ⟨rows, rfl, rfl⟩
    exact ⟨none, callsHold_start rows input⟩
  · rintro state action state' _ ⟨winner, holds⟩ ⟨admitted, alone⟩ taken
    exact holds.step admitted alone (sessionStep_of_next taken)

theorem CallsHold.preparedOnce
    {winner : Option (SessionId × DatabaseClock)}
    (holds : CallsHold start input winner state)
    (reached : (prepareSystem input start).Reachable state) :
    PreparedOnce start input state where
  answered := by
    intro session answer found
    rcases holds.ended session answer found with ⟨_, rfl⟩ | ⟨_, _, rfl⟩
    · exact .inl rfl
    · exact .inr rfl
  once := by
    intro session other found otherFound
    rcases holds.ended session _ found with ⟨won, _⟩ | ⟨_, _, different⟩
    · rcases holds.ended other _ otherFound with
        ⟨otherWon, _⟩ | ⟨_, _, different⟩
      · exact Option.some.inj (won.symm.trans otherWon)
      · cases different
    · cases different
  stored := by
    intro session answer found
    have won : winner.isSome = true := by
      rcases holds.ended session answer found with ⟨won, _⟩ | ⟨won, _⟩
      · cases winner with
        | none => cases won
        | some _ => rfl
      · exact won
    obtain ⟨⟨prepared, clock⟩, rfl⟩ := Option.isSome_iff_exists.mp won
    have rows : CommittedRows start input (some clock) state.committed :=
      holds.rows
    refine ⟨prepared, clock, holds.prepared prepared clock rfl, ?_⟩
    cases rows with
    | prepared fresh _ pushed charged =>
        exact ⟨⟨fresh, pushed⟩, charged.reservedOn⟩
  progress := by
    intro session call found
    exact exists_step_of_running reached found
  terminates := by
    intro session state' taken
    exact (sessionStep_of_next taken).remaining_lt
      (prepareProgram_descends input)

/-- The transactions of all calls begin in one month. -/
def StartsIn (month : CalendarDate) : SessionAction DatabaseClock → Prop
  | .start _ clock => clock.currentDate.monthStart = month
  | .step _ => True

private theorem running_month {month : CalendarDate} {session : SessionId}
    {call : PrepareTransaction}
    (reached : (prepareSystem input start).ReachableWhere
      (fun _ action => CallsAdmitted start input action ∧
        StartsIn month action) state)
    (found : state.sessions.find? session = some (.running call)) :
    call.parameter.currentDate.monthStart = month := by
  refine System.ReachableWhere.invariant
    (I := fun state : PrepareCalls => ∀ session (call : PrepareTransaction),
      state.sessions.find? session = some (.running call) →
      call.parameter.currentDate.monthStart = month)
    ?_ ?_ reached session call found
  · rintro state ⟨rows, _, rfl⟩ session call found
    simp at found
  · intro state action state' _ months permitted taken other running present
    cases sessionStep_of_next taken with
    | started absent =>
        rcases Sessions.find?_start absent present with
          ⟨_, same⟩ | ⟨_, earlier⟩
        · cases same
          exact permitted.2
        · exact months other running earlier
    | executed before _ =>
        rcases Sessions.find?_setSession present with
          ⟨_, same⟩ | ⟨_, earlier⟩
        · cases same
          have month := months _ _ before
          exact month
        · exact months other running earlier
    | committed | rolledBack =>
        obtain ⟨_, earlier⟩ := Sessions.find?_endSession present
        exact months other running earlier

/-- Calls of one month take their last look under one lock, which a call that
found nothing keeps until it ends. -/
theorem lastLookAlone_of_month {month : CalendarDate}
    {action : SessionAction DatabaseClock}
    (billed : 0 < input.reservedCostMicroUsd)
    (reached : (prepareSystem input start).ReachableWhere
      (fun _ action => CallsAdmitted start input action ∧
        StartsIn month action) state) :
    LastLookAlone input state action := by
  cases action with
  | start session clock => trivial
  | step session =>
      intro call found looks other running different present
      by_contra decided
      have orderly := reachable_callsOrderly reached.reachable
      have exclusive : state.LocksExclusive :=
        reachable_locksExclusive reached.reachable
      have mine : call.phase.locksEnvironment input = true := by
        obtain ⟨clock, phase, writes, locks⟩ := call
        cases phase with
        | rechecking => rfl
        | checking =>
            have unbilled : input.reservedCostMicroUsd = 0 :=
              of_decide_eq_true looks
            omega
        | _ => cases looks
      have theirs : running.phase.locksEnvironment input = true := by
        obtain ⟨clock, phase, writes, locks⟩ := running
        cases phase with
        | reserving => rfl
        | inserting => exact decide_eq_true billed
        | committing outcome =>
            cases outcome with
            | prepared => exact decide_eq_true billed
            | duplicate => exact (decided rfl).elim
        | _ => exact (decided rfl).elim
      have held := (orderly session call found).environmentLocked mine
      have otherHeld := (orderly other running present).environmentLocked theirs
      have same : (input.charge running.parameter).environmentAccount =
          (input.charge call.parameter).environmentAccount := by
        simp [BudgetCharge.environmentAccount,
          PrepareModelOperationStoreInput.charge, running_month reached found,
          running_month reached present]
      rw [same] at otherHeld
      exact exclusive session call _ found held other running different present
        otherHeld

/-- The calls of one accepted input, as long as no call takes its last look at
the identifier while another call that found it unused has not ended.  Calls
that reserve budget in one month take their last look under a common lock. -/
theorem concurrent_prepare_idempotent {request : PrepareModelOperationRequest}
    (accepted : request.storeInput = .ok input) :
    (∀ state, (prepareSystem input start).ReachableWhere
        (fun state action => CallsAdmitted start input action ∧
          LastLookAlone input state action) state →
      PreparedOnce start input state) ∧
      (input.provider = .openai → ∀ month state,
        (prepareSystem input start).ReachableWhere
          (fun _ action => CallsAdmitted start input action ∧
            StartsIn month action) state →
        PreparedOnce start input state) := by
  have once : ∀ state, (prepareSystem input start).ReachableWhere
      (fun state action => CallsAdmitted start input action ∧
        LastLookAlone input state action) state →
      PreparedOnce start input state := by
    intro state reached
    obtain ⟨winner, holds⟩ := exists_callsHold reached
    exact holds.preparedOnce reached.reachable
  refine ⟨once, ?_⟩
  intro openai month state reached
  have billed : 0 < input.reservedCostMicroUsd := by
    rw [(storeInput_eq_ok accepted).reservedCostMicroUsd, if_pos openai]
    exact modelOperationProfiles_cost_pos input.operation
  refine once state (reached.imply ?_)
  intro state action earlier permitted
  exact ⟨permitted.1, lastLookAlone_of_month billed earlier⟩

def preparedInput (provider : ModelProvider) : PrepareModelOperationStoreInput :=
  { canonicalInput := sampleRequest.canonicalInput
    dailyDispatchLimit := 20
    environmentBudgetKey := .developmentStaging
    environmentMonthlyCeilingMicroUsd :=
      (modelBudgetPolicies .developmentStaging).environmentMonthlyCeilingMicroUsd
    explicitRestartLimit := 1
    inputDigest := ⟨sampleRequest.inputDigest, by decide⟩
    operation := .querySlots
    operationId := sampleOperation
    profile := modelOperationProfiles .querySlots
    provider := provider
    reservedCostMicroUsd :=
      if provider = .openai then
        (modelOperationProfiles .querySlots).maximumCostMicroUsd
      else
        0
    userId := sampleUser
    userMonthlyCeilingMicroUsd :=
      if provider = .openai then
        (modelBudgetPolicies .developmentStaging).userMonthlyCeilingMicroUsd
      else
        0 }

theorem preparedInput_accepted (provider : ModelProvider) :
    { sampleRequest with provider := provider }.storeInput =
      .ok (preparedInput provider) := by
  cases provider <;> rfl

def preparedStart : ModelDatabase :=
  { users := [sampleUser] }

theorem prepareSystem_initial (input : PrepareModelOperationStoreInput)
    (start : ModelDatabase) :
    (prepareSystem input start).Initial { committed := start } :=
  ⟨start, rfl, rfl⟩

/-- The test that the budgets admit a call. -/
def admits (start : ModelDatabase) (input : PrepareModelOperationStoreInput)
    (clock : DatabaseClock) : Bool :=
  match start.prepare clock input with
  | .ok (.prepared operationId, _) => operationId = input.operationId
  | _ => false

theorem prepare_of_admits {clock : DatabaseClock}
    (admitted : admits start input clock = true) :
    ∃ db, start.prepare clock input =
      .ok (.prepared input.operationId, db) := by
  unfold admits at admitted
  split at admitted
  · rename_i operationId db prepared
    have same : operationId = input.operationId := of_decide_eq_true admitted
    exact ⟨db, same ▸ prepared⟩
  · cases admitted

def admittedStart (start : ModelDatabase)
    (input : PrepareModelOperationStoreInput) (_ : PrepareCalls) :
    SessionAction DatabaseClock → Bool
  | .start _ clock => admits start input clock
  | .step _ => true

theorem admittedStart_sound (state : PrepareCalls)
    (action : SessionAction DatabaseClock)
    (permitted : admittedStart start input state action = true) :
    CallsAdmitted start input action := by
  cases action with
  | start session clock => exact prepare_of_admits permitted
  | step session => trivial

/-- The test that a call ended with a failure of the store. -/
def failedInStore (session : SessionId) (state : PrepareCalls) : Bool :=
  match state.sessions.find? session with
  | some (.ended (.error (.persistenceUnavailable .prepare))) => true
  | _ => false

theorem ended_of_failedInStore {session : SessionId}
    (failed : failedInStore session state = true) :
    state.sessions.find? session =
      some (.ended (.error (.persistenceUnavailable .prepare))) := by
  unfold failedInStore at failed
  split at failed
  · assumption
  · cases failed

/-- Two calls that reserve nothing both check before either one inserts. -/
def uncheckedRun : List (SessionAction DatabaseClock) :=
  [.start 0 (sampleClock 0), .start 1 (sampleClock 0), .step 0, .step 1,
    .step 0, .step 0, .step 1, .step 1]

def aprilClock : DatabaseClock :=
  { sampleClock 0 with
    currentDate :=
      { year := 2026
        month := 4
        day := 1 } }

/-- Two calls that reserve budget in different months. -/
def monthBoundaryRun : List (SessionAction DatabaseClock) :=
  [.start 0 (sampleClock 0), .start 1 aprilClock] ++
    List.replicate 7 (.step 0) ++ List.replicate 7 (.step 1) ++
    [.step 0, .step 0, .step 1, .step 1]

private theorem not_preparedOnce_of_failed {session : SessionId}
    (failed : failedInStore session state = true) :
    ¬PreparedOnce start input state := by
  intro prepared
  rcases prepared.answered session _ (ended_of_failedInStore failed) with
    same | same
  · cases same
  · cases same

/-- With either provider, a call can fail though the budgets admit it. -/
theorem concurrent_prepare_fails :
    (∃ state, (prepareSystem (preparedInput .deterministic)
        preparedStart).ReachableWhere
          (fun _ action => CallsAdmitted preparedStart
            (preparedInput .deterministic) action) state ∧
      state.sessions.find? 1 =
        some (.ended (.error (.persistenceUnavailable .prepare))) ∧
      ¬PreparedOnce preparedStart (preparedInput .deterministic) state) ∧
      ∃ state, (prepareSystem (preparedInput .openai)
          preparedStart).ReachableWhere
            (fun _ action => CallsAdmitted preparedStart
              (preparedInput .openai) action) state ∧
        state.sessions.find? 1 =
          some (.ended (.error (.persistenceUnavailable .prepare))) ∧
        ¬PreparedOnce preparedStart (preparedInput .openai) state := by
  constructor
  · obtain ⟨state, reached, failed⟩ := System.exists_reachableWhere_of_run
      uncheckedRun
      (admittedStart preparedStart (preparedInput .deterministic))
      (failedInStore 1) admittedStart_sound
      (prepareSystem_initial (preparedInput .deterministic) preparedStart)
      (by decide +kernel)
    exact ⟨state, reached, ended_of_failedInStore failed,
      not_preparedOnce_of_failed failed⟩
  · obtain ⟨state, reached, failed⟩ := System.exists_reachableWhere_of_run
      monthBoundaryRun
      (admittedStart preparedStart (preparedInput .openai))
      (failedInStore 1) admittedStart_sound
      (prepareSystem_initial (preparedInput .openai) preparedStart)
      (by decide +kernel)
    exact ⟨state, reached, ended_of_failedInStore failed,
      not_preparedOnce_of_failed failed⟩

/-- Two calls of one month, both of which find nothing at their first look. -/
def sharedMonthRun : List (SessionAction DatabaseClock) :=
  [.start 0 (sampleClock 0), .start 1 (sampleClock 5), .step 0, .step 1] ++
    List.replicate 8 (.step 0) ++ List.replicate 6 (.step 1)

def startsInMarch (state : PrepareCalls)
    (action : SessionAction DatabaseClock) : Bool :=
  admittedStart preparedStart (preparedInput .openai) state action &&
    match action with
    | .start _ clock =>
        clock.currentDate.monthStart = (sampleClock 0).currentDate.monthStart
    | .step _ => true

theorem startsInMarch_sound (state : PrepareCalls)
    (action : SessionAction DatabaseClock)
    (permitted : startsInMarch state action = true) :
    CallsAdmitted preparedStart (preparedInput .openai) action ∧
      StartsIn (sampleClock 0).currentDate.monthStart action := by
  simp only [startsInMarch, Bool.and_eq_true] at permitted
  refine ⟨admittedStart_sound state action permitted.1, ?_⟩
  cases action with
  | start session clock =>
      change clock.currentDate.monthStart = _
      exact of_decide_eq_true permitted.2
  | step session => trivial

def duplicateAnswered (session : SessionId) (state : PrepareCalls) : Bool :=
  match state.sessions.find? session with
  | some (.ended (.ok (.duplicate operationId))) =>
      operationId = sampleOperation
  | _ => false

def isDecidedSession (session : SessionId) (other : SessionId)
    (value : Session ModelDatabase PrepareLock DatabaseClock PreparePhase
      PrepareAnswer) : Bool :=
  match value with
  | .running call => other ≠ session && call.phase.isDecided
  | .ended _ => false

def looksAlone (input : PrepareModelOperationStoreInput)
    (state : PrepareCalls) : SessionAction DatabaseClock → Bool
  | .start _ _ => true
  | .step session =>
      match state.sessions.find? session with
      | some (.running call) =>
          !call.phase.looksLast input ||
            (state.sessions.select (isDecidedSession session)).isEmpty
      | _ => true

theorem looksAlone_sound {action : SessionAction DatabaseClock}
    (alone : looksAlone input state action = true) :
    LastLookAlone input state action := by
  cases action with
  | start session clock => trivial
  | step session =>
      intro call found looks other running different present
      simp only [looksAlone, found, looks, Bool.not_true, Bool.false_or,
        Table.select_isEmpty_iff] at alone
      simpa [isDecidedSession, different] using alone other _ present

/-- A call that reserves nothing is repeated after the first one has ended. -/
def repeatedCallRun : List (SessionAction DatabaseClock) :=
  [.start 0 (sampleClock 0), .step 0, .step 0, .step 0,
    .start 1 (sampleClock 5), .step 1, .step 1]

def looksAloneUnbilled (state : PrepareCalls)
    (action : SessionAction DatabaseClock) : Bool :=
  admittedStart preparedStart (preparedInput .deterministic) state action &&
    looksAlone (preparedInput .deterministic) state action

theorem looksAloneUnbilled_sound (state : PrepareCalls)
    (action : SessionAction DatabaseClock)
    (permitted : looksAloneUnbilled state action = true) :
    CallsAdmitted preparedStart (preparedInput .deterministic) action ∧
      LastLookAlone (preparedInput .deterministic) state action := by
  simp only [looksAloneUnbilled, Bool.and_eq_true] at permitted
  exact ⟨admittedStart_sound state action permitted.1,
    looksAlone_sound permitted.2⟩

theorem concurrent_prepare_idempotent_runs :
    (∃ state, duplicateAnswered 1 state = true ∧
      PreparedOnce preparedStart (preparedInput .deterministic) state) ∧
      ∃ state, duplicateAnswered 1 state = true ∧
        PreparedOnce preparedStart (preparedInput .openai) state := by
  constructor
  · obtain ⟨state, reached, answered⟩ := System.exists_reachableWhere_of_run
      repeatedCallRun looksAloneUnbilled (duplicateAnswered 1)
      looksAloneUnbilled_sound
      (prepareSystem_initial (preparedInput .deterministic) preparedStart)
      (by decide +kernel)
    exact ⟨state, answered, (concurrent_prepare_idempotent
      (preparedInput_accepted .deterministic)).1 state reached⟩
  · obtain ⟨state, reached, answered⟩ := System.exists_reachableWhere_of_run
      sharedMonthRun startsInMarch (duplicateAnswered 1) startsInMarch_sound
      (prepareSystem_initial (preparedInput .openai) preparedStart)
      (by decide +kernel)
    exact ⟨state, answered, (concurrent_prepare_idempotent
      (preparedInput_accepted .openai)).2 rfl _ state reached⟩

end Preparations

end XpensGo
