import XpensGo.Model.SerialPrepare
import XpensGo.Model.SpendCeiling

/-!
# Concurrent calls in the store

The statements of any calls of `prepare`, interleaved with claims, gateway
responses, completions and restarts.  A transaction waits for the calls whose
rows it would change.  Apart from the calls that leave their accounts open,
every run is a run of whole transactions, so the budgets are conserved.
-/

namespace XpensGo

open EcmaScript Postgres Relational Transition

structure StoreState where
  requests : PrepareRequests
  calls : Table CallId ExecutionCall := .empty

namespace StoreState

/-- The committed rows and the executions. -/
def model (state : StoreState) : ModelState :=
  { database := state.requests.committed
    calls := state.calls }

/-- A running call keeps a row that a transaction would change, or an
identifier that it would insert. -/
def disturbs (state : StoreState) (db : ModelDatabase) : Bool :=
  !(state.requests.sessions.select (fun _ session =>
    match session with
    | .ended _ => false
    | .running call => call.locks.any (fun lock =>
        match lock with
        | .account key =>
            db.accounts.find? key ≠
              state.requests.committed.accounts.find? key
        | .operation operationId =>
            (db.operations.find? operationId).isSome &&
              (state.requests.committed.operations.find?
                operationId).isNone))).isEmpty

end StoreState

inductive StoreAction where
  | prepare (action : SessionAction PrepareCall)
  | other (action : ModelAction)

/-- `prepare` runs statement by statement. -/
def ModelAction.isPrepare : ModelAction → Bool
  | .prepare _ _ => true
  | _ => false

section Systems

variable (dates : DateBuiltins)

def StoreState.next (state : StoreState) : StoreAction → Option StoreState
  | .prepare action =>
      (requestProgram.next state.requests action).map (fun requests =>
        { state with requests := requests })
  | .other action =>
      if action.isPrepare then
        none
      else
        match state.model.next dates action with
        | none => none
        | some after =>
            if state.disturbs after.database then
              none
            else
              some
                { requests :=
                    { state.requests with committed := after.database }
                  calls := after.calls }

/-- Calls of `prepare` by their statements, and the other transactions. -/
def storeSystem : System StoreState StoreAction :=
  { Initial := fun state => ∃ users,
      state = { requests := { committed := { users := users } } }
    next := StoreState.next dates }

inductive OpeningAction where
  | model (action : ModelAction)
  | open (call : PrepareCall)

/-- Whole transactions, and duplicates that leave their accounts open. -/
def openingSystem : System ModelState OpeningAction :=
  { Initial := ModelState.Initial
    next := fun state action =>
      match action with
      | .model action => state.next dates action
      | .open call =>
          if 0 < call.input.reservedCostMicroUsd &&
              (state.database.operations.find?
                call.input.operationId).any (fun row =>
                  row.inputDigest = call.input.inputDigest) then
            some { state with database := call.opened state.database }
          else
            none }

end Systems

section Others

variable {dates : DateBuiltins} {db db' : ModelDatabase}
  {state state' : ModelState} {action : ModelAction}

open ModelDatabase

theorem hasAccount_release {row : ModelOperationRow} {settlement : Int}
    {key : BudgetAccountKey} :
    (db.release row settlement).HasAccount key ↔ db.HasAccount key := by
  rw [HasAccount, find?_release, Option.isSome_map]
  rfl

theorem hasAccount_of_reservation {charge : BudgetCharge}
    {environmentCeiling userCeiling : Nat} {reservation : Int}
    {billed : Prop} {key : BudgetAccountKey}
    (reserves : ReservationEffect db charge environmentCeiling userCeiling
      reservation billed db') (present : db.HasAccount key) :
    db'.HasAccount key := by
  cases reserves with
  | unbilled => exact present
  | charged _ funded =>
      subst funded
      obtain ⟨account, found⟩ := Option.isSome_iff_exists.mp present
      rw [HasAccount, find?_reserve, Option.isSome_map,
        find?_insertBudgetAccounts_of_some found]
      rfl

private theorem released_users {row : ModelOperationRow} {settlement : Int} :
    (db.release row settlement).users = db.users := by
  unfold ModelDatabase.release
  split <;> rfl

/-- No transaction removes an account or changes the users. -/
theorem ModelStep.keeps_accounts
    (step : ModelStep dates state action state') :
    state'.database.users = state.database.users ∧
      ∀ key, state.database.HasAccount key →
        state'.database.HasAccount key := by
  cases step with
  | unprepared | unrestarted | unclaimed | responded | abandoned
  | uncompleted => exact ⟨rfl, fun _ present => present⟩
  | prepared _ prepares =>
      cases prepares with
      | duplicate => exact ⟨rfl, fun _ present => present⟩
      | prepared _ reserves =>
          refine ⟨reserves.users, ?_⟩
          intro key present
          have kept := hasAccount_of_reservation reserves present
          exact kept
  | restarted restarts =>
      cases restarts with
      | duplicate => exact ⟨rfl, fun _ present => present⟩
      | restarted _ _ _ _ _ reserves =>
          refine ⟨reserves.users, ?_⟩
          intro key present
          have kept := hasAccount_of_reservation reserves present
          exact kept
  | claimed _ claims =>
      cases claims with
      | stored | leased | waiting | expired =>
          exact ⟨rfl, fun _ present => present⟩
      | rejected =>
          exact ⟨released_users, fun _ => hasAccount_release.mpr⟩
      | dispatched _ _ _ _ _ passed =>
          obtain ⟨dispatchCounters, rfl⟩ := passed.counted
          exact ⟨rfl, fun _ present => present⟩
  | completed _ completes =>
      cases completes with
      | stale | scheduled => exact ⟨rfl, fun _ present => present⟩
      | @settled row completion =>
          rw [ModelState.setPhase_database]
          unfold ModelDatabase.releaseSettled
          split
          · exact ⟨rfl, fun _ present => present⟩
          · refine ⟨released_users, ?_⟩
            intro key present
            exact (@hasAccount_release (state.database.setDispatchedAttempt
              _ _) row _ key).mpr present

end Others

section Simulation

variable {dates : DateBuiltins} {state state' : StoreState}

/-- What is known of the running calls. -/
structure StoreHolds (state : StoreState) : Prop where
  exclusive : state.requests.LocksExclusive
  running : state.requests.RunningMeet RequestMoves

theorem StoreState.undisturbed_locks {db : ModelDatabase}
    (undisturbed : state.disturbs db = false)
    {session : SessionId} {call : RequestTransaction}
    (found : state.requests.sessions.find? session = some (.running call)) :
    (∀ key, .account key ∈ call.locks →
        db.accounts.find? key =
          state.requests.committed.accounts.find? key) ∧
      ∀ operationId, .operation operationId ∈ call.locks →
        state.requests.committed.operations.find? operationId = none →
        db.operations.find? operationId = none := by
  unfold StoreState.disturbs at undisturbed
  rw [Bool.not_eq_false'] at undisturbed
  have unheld := Table.select_isEmpty_iff.mp undisturbed session _ found
  simp only [List.any_eq_false] at unheld
  constructor
  · intro key held
    simpa using unheld _ held
  · intro operationId held absent
    simpa [absent] using unheld _ held

/-- A transaction that waits for the calls leaves alone what they hold. -/
theorem StoreHolds.other {after : ModelState} {action : ModelAction}
    (holds : StoreHolds state)
    (step : ModelStep dates state.model action after)
    (undisturbed : state.disturbs after.database = false) :
    StoreHolds
      { requests := { state.requests with committed := after.database }
        calls := after.calls } where
  exclusive := holds.exclusive
  running := by
    intro session call found
    obtain ⟨accounts, unused⟩ :=
      StoreState.undisturbed_locks undisturbed found
    obtain ⟨users, kept⟩ := step.keeps_accounts
    exact (holds.running session call found).undisturbed
      ⟨users, step.termsPersist, unused, accounts, kept⟩

theorem StoreHolds.prepare {requests : PrepareRequests}
    {action : SessionAction PrepareCall} (holds : StoreHolds state)
    (step : SessionStep requestProgram state.requests action requests) :
    StoreHolds { state with requests := requests } where
  exclusive := step.locksExclusive holds.exclusive
  running :=
    requestProgram_maintains.step holds.running holds.exclusive step

/-- The kinds of steps of the store. -/
inductive StoreStep (dates : DateBuiltins) (state : StoreState) :
    StoreAction → StoreState → Prop where
  | prepare {action : SessionAction PrepareCall}
      {requests : PrepareRequests} :
      SessionStep requestProgram state.requests action requests →
      StoreStep dates state (.prepare action)
        { state with requests := requests }
  | other {action : ModelAction} {after : ModelState} :
      (modelSystem dates).next state.model action = some after →
      state.disturbs after.database = false →
      StoreStep dates state (.other action)
        { requests := { state.requests with committed := after.database }
          calls := after.calls }

theorem storeStep_of_next {action : StoreAction}
    (taken : (storeSystem dates).next state action = some state') :
    StoreStep dates state action state' := by
  change state.next dates action = some state' at taken
  cases action with
  | prepare action =>
      obtain ⟨requests, moved, rfl⟩ := Option.map_eq_some_iff.mp taken
      have moved : (requestProgram.system (fun _ => True)).next
          state.requests action = some requests := moved
      exact .prepare (sessionStep_of_next moved)
  | other action =>
      simp only [StoreState.next] at taken
      split at taken
      · cases taken
      · split at taken
        · cases taken
        · rename_i after moved
          split at taken
          · cases taken
          · rename_i undisturbed
            cases taken
            exact .other moved (by simpa using undisturbed)

theorem reachable_storeHolds (reached : (storeSystem dates).Reachable state) :
    StoreHolds state := by
  refine System.Reachable.invariant ?_ ?_ reached
  · rintro state ⟨users, rfl⟩
    constructor
    · intro session transaction lock found
      simp at found
    · intro session transaction found
      simp at found
  · intro state action state' _ holds taken
    cases storeStep_of_next taken with
    | prepare step => exact holds.prepare step
    | other moved undisturbed =>
        exact holds.other (modelStep_of_next moved) undisturbed

/-- The end of a call is a whole transaction, leaves its accounts open or
changes nothing. -/
theorem PrepareAllows.opening {call : PrepareCall} {state : ModelState}
    {answer : PrepareAnswer} {db : ModelDatabase}
    (allowed : PrepareAllows call state.database answer db) :
    { state with database := db } = state ∨
      ∃ opening, (openingSystem dates).next state opening =
          some { state with database := db } ∧
        ∀ action, opening = .model action → action.isPrepare = true := by
  cases allowed with
  | whole ran =>
      refine .inr ⟨.model (.prepare call.clock call.request), ?_, ?_⟩
      · simp [openingSystem, ModelState.next, call.accepted, ran]
      · rintro action same
        cases same
        rfl
  | duplicate billed found same =>
      refine .inr ⟨.open call, ?_, ?_⟩
      · simp [openingSystem, billed, found, same]
      · rintro action impossible
        cases impossible
  | refused => exact .inl rfl

/-- A step of the store is a whole transaction, leaves accounts open or
changes no committed row. -/
theorem StoreStep.opening {action : StoreAction} (holds : StoreHolds state)
    (step : StoreStep dates state action state') :
    state'.model = state.model ∨
      ∃ opening, (openingSystem dates).next state.model opening =
          some state'.model ∧
        ∀ other, opening = .model other →
          action = .other other ∨ other.isPrepare = true := by
  cases step with
  | @other action after moved undisturbed =>
      refine .inr ⟨.model action, moved, ?_⟩
      rintro other same
      cases same
      exact .inl rfl
  | @prepare action requests step =>
      rcases step.ending_cases requestProgram_endsAllowed holds.running with
        ⟨_, same⟩ | ⟨ending, _, allowed⟩
      · left
        simp [StoreState.model, same]
      · rcases @PrepareAllows.opening dates _ state.model _ _ allowed with
          same | ⟨opening, moved, prepares⟩
        · exact .inl same
        · exact .inr ⟨opening, moved, fun other same =>
            .inr (prepares other same)⟩

theorem initial_opening (initial : (storeSystem dates).Initial state) :
    (openingSystem dates).Initial state.model := by
  obtain ⟨users, rfl⟩ := initial
  exact ⟨users, rfl⟩

theorem next_opening {action : StoreAction}
    (reached : (storeSystem dates).Reachable state)
    (taken : (storeSystem dates).next state action = some state') :
    state'.model = state.model ∨ ∃ opening,
      (openingSystem dates).next state.model opening = some state'.model := by
  rcases (storeStep_of_next taken).opening (reachable_storeHolds reached)
    with same | ⟨opening, moved, _⟩
  · exact .inl same
  · exact .inr ⟨opening, moved⟩

/-- The committed rows of every run of the statements are the rows of a run of
whole transactions and of calls that leave their accounts open. -/
theorem store_refines (reached : (storeSystem dates).Reachable state) :
    (openingSystem dates).Reachable state.model :=
  reached.simulate StoreState.model (fun _ => initial_opening)
    (fun _ _ _ => next_opening)

/-- The late duplicate of one user, then the claim of the other one. -/
def lateDuplicateStore : List StoreAction :=
  lateDuplicateRun.map .prepare ++
    [.other (.claim 0 sampleOperation (sampleClock 10) 10 ⟨3⟩)]

theorem storeStart_initial (dates : DateBuiltins) :
    (storeSystem dates).Initial { requests := requestsStart } :=
  ⟨requestsStart.committed.users, rfl⟩

theorem store_refines_late_duplicate :
    ∃ state, (openingSystem sampleDates).Reachable (StoreState.model state) ∧
      (state.calls.find? 0).isSome = true := by
  obtain ⟨state, reached, claimed⟩ := System.exists_reachable_of_run
    lateDuplicateStore (fun state => (state.calls.find? 0).isSome)
    (storeStart_initial sampleDates) (by decide +kernel)
  exact ⟨state, store_refines reached, claimed⟩

end Simulation

section Budgets

variable {dates : DateBuiltins} {db : ModelDatabase} {call : PrepareCall}
  {key : BudgetAccountKey} {account : BudgetAccountRow}

open ModelDatabase

/-- An opened account was there or is new and empty. -/
theorem find?_opened (found : (call.opened db).accounts.find? key =
      some account) :
    db.accounts.find? key = some account ∨
      db.accounts.find? key = none ∧ account.reservedMicroUsd = 0 ∧
        account.settledMicroUsd = 0 ∧ 0 ≤ account.ceilingMicroUsd := by
  have inserted : (db.insertBudgetAccounts call.charge
      call.input.environmentMonthlyCeilingMicroUsd
      call.input.userMonthlyCeilingMicroUsd).accounts.find? key =
        some account := found
  rcases find?_insertBudgetAccounts inserted with
    earlier | ⟨absent, _, unreserved, unsettled, ceiling⟩
  · exact .inl earlier
  · exact .inr ⟨absent, unreserved, unsettled, ceiling⟩

theorem ModelDatabase.BudgetLedger.opened (ledger : BudgetLedger db)
    (call : PrepareCall) : BudgetLedger (call.opened db) where
  funded := by
    intro operationId row key found charged
    obtain ⟨account, present⟩ :=
      ledger.funded operationId row key found charged
    have kept : (call.opened db).HasAccount key :=
      hasAccount_openAccount.mpr (.inr (hasAccount_openAccount.mpr
        (.inr (Option.isSome_iff_exists.mpr ⟨account, present⟩))))
    exact Option.isSome_iff_exists.mp kept
  balanced := by
    intro key account found
    rcases find?_opened found with
      earlier | ⟨absent, unreserved, unsettled, _⟩
    · exact ledger.balanced key account earlier
    · obtain ⟨reservedEq, settledEq⟩ := ledger.unfunded absent
      rw [unreserved, unsettled]
      exact ⟨reservedEq.symm, settledEq.symm⟩

theorem ModelDatabase.SpendBounded.opened (bounded : SpendBounded db)
    (call : PrepareCall) : SpendBounded (call.opened db) := by
  intro key account found
  rcases find?_opened found with
    earlier | ⟨_, unreserved, unsettled, ceiling⟩
  · exact bounded key account earlier
  · omega

theorem DatabaseInvariant.step {I : ModelDatabase → Prop}
    (invariant : DatabaseInvariant dates I) {state state' : ModelState}
    {action : ModelAction} (holds : I state.database)
    (step : ModelStep dates state action state') : I state'.database := by
  cases step with
  | unprepared | unrestarted | unclaimed | responded | abandoned
  | uncompleted => exact holds
  | prepared accepted prepares =>
      exact invariant.prepared holds accepted prepares
  | restarted restarts => exact invariant.restarted holds restarts
  | claimed _ claims => exact invariant.claimed holds claims
  | completed _ completes => exact invariant.completed holds completes

/-- What whole transactions and opened accounts keep holds in every run. -/
theorem DatabaseInvariant.opening {I : ModelDatabase → Prop}
    (invariant : DatabaseInvariant dates I)
    (opened : ∀ call db, I db → I (PrepareCall.opened call db))
    {state : ModelState} (reached : (openingSystem dates).Reachable state) :
    I state.database := by
  refine System.Reachable.invariant (I := fun state => I state.database)
    ?_ ?_ reached
  · rintro state ⟨users, rfl⟩
    exact invariant.initially users
  · intro state action state' _ holds taken
    cases action with
    | «open» call =>
        simp only [openingSystem] at taken
        split at taken
        · cases taken
          exact opened call _ holds
        · cases taken
    | model action =>
        have moved : (modelSystem dates).next state action = some state' :=
          taken
        exact invariant.step holds (modelStep_of_next moved)

/-- In every interleaving of the statements of `prepare` with the other
transactions, an account holds exactly the reservations and the settled spend
of the operations charged to it. -/
theorem store_budget_conserved {state : StoreState}
    (reached : (storeSystem dates).Reachable state)
    (found : state.requests.committed.accounts.find? key = some account) :
    account.reservedMicroUsd =
        state.requests.committed.operations.sum (fun _ row =>
          if row.chargedTo key then row.reservedCostMicroUsd else 0) ∧
      account.settledMicroUsd =
        state.requests.committed.operations.sum (fun _ row =>
          if row.chargedTo key then row.settledCostMicroUsd else 0) ∧
      0 ≤ account.reservedMicroUsd := by
  obtain ⟨registered, ledger⟩ := (budgetLedger_invariant dates).opening
    (fun call _ holds => ⟨holds.1, holds.2.opened call⟩)
    (reached.simulate StoreState.model (fun _ => initial_opening)
      (fun _ _ _ => next_opening))
  obtain ⟨reservedEq, settledEq⟩ := ledger.balanced key account found
  refine ⟨reservedEq, settledEq, ?_⟩
  rw [reservedEq]
  refine Table.sum_nonneg ?_
  intro operationId row rowFound
  split
  · exact (registered operationId row rowFound).reserved_nonneg
  · exact le_rfl

/-- The account that the late duplicate has left open holds nothing. -/
theorem store_budget_conserved_late_duplicate :
    ∃ state account, (storeSystem sampleDates).Reachable state ∧
      state.requests.committed.accounts.find?
        { scope := .user otherUser
          periodStart := { year := 2026, month := 3, day := 1 } } =
            some account ∧
        account.reservedMicroUsd = 0 ∧ 0 ≤ account.reservedMicroUsd := by
  obtain ⟨state, reached, tested⟩ := System.exists_reachable_of_run
    lateDuplicateStore
    (fun state => (state.requests.committed.accounts.find?
      { scope := .user otherUser
        periodStart := { year := 2026, month := 3, day := 1 } }).any
          (fun account => account.reservedMicroUsd = 0))
    (storeStart_initial sampleDates) (by decide +kernel)
  obtain ⟨account, found, reserved⟩ := (Option.any_eq_true _ _).mp tested
  exact ⟨state, account, reached, found, by simpa using reserved,
    (store_budget_conserved reached found).2.2⟩

/-- The gateway reports usage within the profiles. -/
def StoreBounded (state : StoreState) : StoreAction → Prop
  | .other action => BoundedUsage state.model action
  | .prepare _ => True

private theorem boundedUsage_of_isPrepare {state : ModelState}
    {action : ModelAction} (prepares : action.isPrepare = true) :
    BoundedUsage state action := by
  cases action with
  | prepare => trivial
  | restart | claim | respond | complete | abandon => cases prepares

/-- No account passes its ceiling while the usage stays within the profiles,
however the statements of `prepare` are interleaved. -/
theorem store_spend_within_ceiling {state : StoreState}
    (reached : (storeSystem dates).ReachableWhere StoreBounded state)
    (found : state.requests.committed.accounts.find? key = some account) :
    account.reservedMicroUsd + account.settledMicroUsd ≤
      account.ceilingMicroUsd := by
  have whole : (openingSystem dates).ReachableWhere
      (fun state opening => ∀ action, opening = .model action →
        BoundedUsage state action) state.model := by
    refine reached.simulate StoreState.model ?_ ?_
    · rintro state ⟨users, rfl⟩
      exact ⟨users, rfl⟩
    · intro state action state' reached bounded taken
      have holds := reachable_storeHolds reached.reachable
      rcases (storeStep_of_next taken).opening holds with
        same | ⟨opening, moved, steps⟩
      · exact .inl same
      · refine .inr ⟨opening, ?_, moved⟩
        intro other same
        rcases steps other same with rfl | prepares
        · exact bounded
        · exact boundedUsage_of_isPrepare prepares
  have invariant : SpendBounded state.model.database ∧
      CallsWithinProfile state.model := by
    refine System.ReachableWhere.invariant (I := fun state =>
      SpendBounded state.database ∧ CallsWithinProfile state) ?_ ?_ whole
    · rintro initial ⟨users, rfl⟩
      refine ⟨?_, ?_, ?_⟩
      · intro key account found
        simp at found
      · intro call execution attempt found
        simp at found
      · intro call operationId attempt success found
        simp at found
    · intro earlier opening later reachedEarlier holds permitted taken
      have registered := (isRegistered_invariant dates).database.opening
        (fun _ _ holds => holds) reachedEarlier.reachable
      cases opening with
      | «open» call =>
          simp only [openingSystem] at taken
          split at taken
          · cases taken
            exact ⟨holds.1.opened call, holds.2.operation, holds.2.cost⟩
          · cases taken
      | model action =>
          have moved : (modelSystem dates).next earlier action =
            some later := taken
          have step := modelStep_of_next moved
          exact ⟨spendBounded_step registered holds.2 holds.1 step,
            holds.2.step (permitted action rfl) step⟩
  exact invariant.1 key account found

def storeUsageWithinProfile (state : StoreState) : StoreAction → Bool
  | .other action => usageWithinProfile state.model action
  | .prepare _ => true

theorem storeBounded_of_tested (state : StoreState) (action : StoreAction)
    (tested : storeUsageWithinProfile state action = true) :
    StoreBounded state action := by
  cases action with
  | prepare action => trivial
  | other action => exact boundedUsage_of_usageWithinProfile action tested

theorem store_spend_within_ceiling_settled :
    ∃ state account,
      (storeSystem sampleDates).ReachableWhere StoreBounded state ∧
      state.requests.committed.accounts.find?
        { scope := .user sampleUser
          periodStart := { year := 2026, month := 3, day := 1 } } =
            some account ∧
        account.settledMicroUsd = 40 ∧
          account.reservedMicroUsd + account.settledMicroUsd ≤
            account.ceilingMicroUsd := by
  obtain ⟨state, reached, tested⟩ := System.exists_reachableWhere_of_run
    (lateDuplicateStore ++
      [.other (.respond 0 (.ok (sampleSuccess 100))),
        .other (.complete 0 (sampleClock 100) 100)])
    storeUsageWithinProfile
    (fun state => (state.requests.committed.accounts.find?
      { scope := .user sampleUser
        periodStart := { year := 2026, month := 3, day := 1 } }).any
          (fun account => account.settledMicroUsd = 40))
    storeBounded_of_tested (storeStart_initial sampleDates) (by decide +kernel)
  obtain ⟨account, found, settled⟩ := (Option.any_eq_true _ _).mp tested
  exact ⟨state, account, reached, found, by simpa using settled,
    store_spend_within_ceiling reached found⟩

end Budgets

end XpensGo
