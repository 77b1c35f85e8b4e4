import XpensGo.Model.PrepareStatements

/-!
# The locks of prepare

Two calls of one month never hold their accounts at the same time, and the
calls never wait for each other in a circle: a new account is locked by the
call that inserts it, which has it inserted before any other call can lock it.
-/

namespace XpensGo

open EcmaScript Postgres Relational Transition

abbrev PrepareCalls :=
  Sessions ModelDatabase PrepareLock DatabaseClock PreparePhase PrepareAnswer

abbrev PrepareTransaction :=
  Transaction ModelDatabase PrepareLock DatabaseClock PreparePhase

def ModelDatabase.HasAccount (db : ModelDatabase) (key : BudgetAccountKey) :
    Prop :=
  (db.accounts.find? key).isSome = true

namespace PreparePhase

/-- The call holds the account of its environment. -/
def locksEnvironment (input : PrepareModelOperationStoreInput) :
    PreparePhase → Bool
  | .lockingUser _ | .rechecking _ _ | .reserving => true
  | .inserting | .committing (.prepared _) => 0 < input.reservedCostMicroUsd
  | _ => false

/-- The account of the environment is opened but not yet locked. -/
def openedEnvironment : PreparePhase → Bool
  | .insertingUser | .lockingEnvironment => true
  | _ => false

def openedUser : PreparePhase → Bool
  | .lockingEnvironment | .lockingUser _ => true
  | _ => false

/-- The account of the environment has not been opened. -/
def beforeEnvironment : PreparePhase → Bool
  | .checking | .insertingEnvironment => true
  | _ => false

def beforeUser : PreparePhase → Bool
  | .checking | .insertingEnvironment | .insertingUser => true
  | _ => false

def isFinal : PreparePhase → Bool
  | .committing _ | .failing _ => true
  | _ => false

end PreparePhase

section Orderly

variable (input : PrepareModelOperationStoreInput)

/-- The locks and the opened accounts of a running call. -/
structure OrderlyCall (committed : ModelDatabase)
    (call : PrepareTransaction) : Prop where
  own : ∀ key, .account key ∈ call.locks →
    (input.charge call.parameter).covers key = true
  operation : ∀ operationId, .operation operationId ∈ call.locks →
    call.phase.isFinal = true
  environmentLocked : call.phase.locksEnvironment input = true →
    .account (input.charge call.parameter).environmentAccount ∈ call.locks
  environmentOpened : call.phase.openedEnvironment = true →
    committed.HasAccount (input.charge call.parameter).environmentAccount ∨
      .account (input.charge call.parameter).environmentAccount ∈ call.locks
  userOpened : call.phase.openedUser = true →
    committed.HasAccount (input.charge call.parameter).userAccount ∨
      .account (input.charge call.parameter).userAccount ∈ call.locks
  environmentNew : call.phase.openedEnvironment = true →
    .account (input.charge call.parameter).environmentAccount ∈ call.locks →
    ¬committed.HasAccount (input.charge call.parameter).environmentAccount
  userNew : call.phase = .lockingEnvironment →
    .account (input.charge call.parameter).userAccount ∈ call.locks →
    ¬committed.HasAccount (input.charge call.parameter).userAccount
  environmentUnlocked : call.phase.beforeEnvironment = true →
    .account (input.charge call.parameter).environmentAccount ∉ call.locks
  userUnlocked : call.phase.beforeUser = true →
    .account (input.charge call.parameter).userAccount ∉ call.locks
  kept : ∀ db : ModelDatabase, ∀ key, db.HasAccount key →
    (call.writes db).HasAccount key
  opens : ∀ db : ModelDatabase, ∀ key, (call.writes db).HasAccount key →
    db.HasAccount key ∨ committed.HasAccount key ∨
      .account key ∈ call.locks

variable {input} {committed : ModelDatabase} {call : PrepareTransaction}

/-- Another call has committed; it opened only accounts that it had locked. -/
theorem OrderlyCall.commit {other : PrepareTransaction}
    (orderly : OrderlyCall input committed call)
    (ended : OrderlyCall input committed other)
    (apart : ∀ lock, lock ∈ call.locks → lock ∉ other.locks) :
    OrderlyCall input (other.view committed) call where
  own := orderly.own
  operation := orderly.operation
  environmentLocked := orderly.environmentLocked
  environmentOpened := fun opened =>
    (orderly.environmentOpened opened).imp_left (ended.kept committed _)
  userOpened := fun opened =>
    (orderly.userOpened opened).imp_left (ended.kept committed _)
  environmentNew := by
    intro opened held present
    have absent := orderly.environmentNew opened held
    rcases ended.opens committed _ present with old | old | locked
    · exact absent old
    · exact absent old
    · exact apart _ held locked
  userNew := by
    intro opened held present
    have absent := orderly.userNew opened held
    rcases ended.opens committed _ present with old | old | locked
    · exact absent old
    · exact absent old
    · exact apart _ held locked
  environmentUnlocked := orderly.environmentUnlocked
  userUnlocked := orderly.userUnlocked
  kept := orderly.kept
  opens := by
    intro db key present
    rcases orderly.opens db key present with there | old | locked
    · exact .inl there
    · exact .inr (.inl (ended.kept committed key old))
    · exact .inr (.inr locked)

theorem OrderlyCall.start (clock : DatabaseClock) :
    OrderlyCall input committed
      { parameter := clock
        phase := .checking
        writes := id
        locks := [] } where
  own := fun _ held => by cases held
  operation := fun _ held => by cases held
  environmentLocked := fun locked => by cases locked
  environmentOpened := fun opened => by cases opened
  userOpened := fun opened => by cases opened
  environmentNew := fun opened => by cases opened
  userNew := fun opened => by cases opened
  environmentUnlocked := fun _ => List.not_mem_nil
  userUnlocked := fun _ => List.not_mem_nil
  kept := fun _ _ present => present
  opens := fun _ _ present => .inl present

section Writes

variable {db : ModelDatabase} {key other : BudgetAccountKey} {ceiling : Nat}

theorem hasAccount_openAccount :
    (db.openAccount key ceiling).HasAccount other ↔
      other = key ∨ db.HasAccount other := by
  unfold ModelDatabase.HasAccount
  rw [ModelDatabase.find?_openAccount]
  split
  · rename_i same
    simp [same]
  · rename_i different
    simp [different]

theorem hasAccount_chargeAccounts {charge : BudgetCharge}
    {reservation : Int} :
    ((db.chargeAccounts charge reservation).getD db).HasAccount key ↔
      db.HasAccount key := by
  unfold ModelDatabase.chargeAccounts
  cases updated : db.updateBudgetAccounts charge (fun account =>
    { account with
      reservedMicroUsd := account.reservedMicroUsd + reservation }) with
  | none => rfl
  | some reserved =>
      have written := ModelDatabase.updateBudgetAccounts_eq_some updated
      subst written
      simp [ModelDatabase.HasAccount, ModelDatabase.recordBudgetThresholds,
        ModelDatabase.setAccounts, Table.find?_updateWhere]

theorem hasAccount_insertOperation {operationId : ModelOperationId}
    {row : ModelOperationRow} :
    ((db.insertOperation operationId row).getD db).HasAccount key ↔
      db.HasAccount key := by
  cases inserted : db.insertOperation operationId row with
  | none => rfl
  | some written =>
      obtain ⟨_, _, rfl⟩ := ModelDatabase.insertOperation_eq_some inserted
      rfl

theorem openLock_eq_some {lock : PrepareLock} :
    db.openLock key = some lock ↔
      ¬db.HasAccount key ∧ lock = .account key := by
  unfold ModelDatabase.openLock ModelDatabase.HasAccount
  split
  · rename_i absent
    simp only [Option.isNone_iff_eq_none] at absent
    simp [absent, eq_comm]
  · rename_i present
    simp only [Option.isNone_iff_eq_none] at present
    simp [Option.isSome_iff_ne_none, present]

end Writes

section Execution

/-- The accounts are behind a call in its later phases. -/
private def PreparePhase.isLate : PreparePhase → Bool
  | .rechecking _ _ | .reserving | .inserting | .committing _ | .failing _ =>
      true
  | _ => false

private theorem OrderlyCall.late {locks : List PrepareLock}
    {phase : PreparePhase} {writes : ModelDatabase → ModelDatabase}
    (orderly : OrderlyCall input committed call)
    (late : phase.isLate = true)
    (own : ∀ key, .account key ∈ locks →
      (input.charge call.parameter).covers key = true)
    (grown : ∀ lock, lock ∈ call.locks → lock ∈ locks)
    (operation : ∀ operationId, .operation operationId ∈ locks →
      phase.isFinal = true)
    (environmentLocked : phase.locksEnvironment input = true →
      .account (input.charge call.parameter).environmentAccount ∈ locks)
    (unchanged : ∀ db : ModelDatabase, ∀ key,
      (writes db).HasAccount key ↔ (call.writes db).HasAccount key) :
    OrderlyCall input committed
      { parameter := call.parameter
        phase := phase
        writes := writes
        locks := locks } where
  own := own
  operation := operation
  environmentLocked := environmentLocked
  environmentOpened := by
    intro opened
    cases phase <;> cases late <;> cases opened
  userOpened := by
    intro opened
    cases phase <;> cases late <;> cases opened
  environmentNew := by
    intro opened
    cases phase <;> cases late <;> cases opened
  userNew := by
    intro opened
    change phase = _ at opened
    subst opened
    cases late
  environmentUnlocked := by
    intro before
    cases phase <;> cases late <;> cases before
  userUnlocked := by
    intro before
    cases phase <;> cases late <;> cases before
  kept := fun db key present => (unchanged db key).mpr
    (orderly.kept db key present)
  opens := by
    intro db key present
    rcases orderly.opens db key ((unchanged db key).mp present) with
      there | old | locked
    · exact .inl there
    · exact .inr (.inl old)
    · exact .inr (.inr (grown _ locked))

private theorem OrderlyCall.noOperation
    (orderly : OrderlyCall input committed call)
    (unfinished : call.phase.isFinal = false)
    (operationId : ModelOperationId) :
    .operation operationId ∉ call.locks := by
  intro held
  rw [orderly.operation operationId held] at unfinished
  cases unfinished

private theorem afterLook_cases (input : PrepareModelOperationStoreInput)
    (db : ModelDatabase) (fresh : PreparePhase) :
    PreparePhase.afterLook fresh (db.duplicatePrepare input) = fresh ∨
      PreparePhase.afterLook fresh (db.duplicatePrepare input) =
        .committing (.duplicate input.operationId) ∨
      ∃ failure, PreparePhase.afterLook fresh (db.duplicatePrepare input) =
        .failing failure := by
  unfold ModelDatabase.duplicatePrepare
  split
  · exact .inl rfl
  · split
    · exact .inr (.inr ⟨_, rfl⟩)
    · exact .inr (.inl rfl)

variable {clock : DatabaseClock} {writes : ModelDatabase → ModelDatabase}
  {locks : List PrepareLock}

private theorem OrderlyCall.check
    (orderly : OrderlyCall input committed ⟨clock, .checking, writes, locks⟩)
    (view : ModelDatabase) :
    OrderlyCall input committed
      ⟨clock, .afterLook (.afterCheck input) (view.duplicatePrepare input),
        writes, locks⟩ := by
  have noOperation := orderly.noOperation rfl
  have late : ∀ phase : PreparePhase, phase.isLate = true →
      phase.locksEnvironment input = false →
      OrderlyCall input committed ⟨clock, phase, writes, locks⟩ := by
    intro phase late unlocked
    refine orderly.late late orderly.own (fun _ held => held) ?_ ?_
      (fun _ _ => .rfl)
    · intro operationId held
      exact (noOperation operationId held).elim
    · intro locked
      rw [unlocked] at locked
      cases locked
  rcases afterLook_cases input view (.afterCheck input) with
    fresh | duplicate | ⟨failure, failed⟩
  · rw [fresh]
    unfold PreparePhase.afterCheck
    by_cases billed : 0 < input.reservedCostMicroUsd
    · rw [if_pos billed]
      exact
        { own := orderly.own
          operation := fun operationId held =>
            (noOperation operationId held).elim
          environmentLocked := fun locked => by cases locked
          environmentOpened := fun opened => by cases opened
          userOpened := fun opened => by cases opened
          environmentNew := fun opened => by cases opened
          userNew := fun opened => by cases opened
          environmentUnlocked := fun _ => orderly.environmentUnlocked rfl
          userUnlocked := fun _ => orderly.userUnlocked rfl
          kept := orderly.kept
          opens := orderly.opens }
    · rw [if_neg billed]
      exact late .inserting rfl (decide_eq_false billed)
  · rw [duplicate]
    exact late _ rfl rfl
  · rw [failed]
    exact late _ rfl rfl

private theorem mem_openLock {db : ModelDatabase} {key : BudgetAccountKey}
    {lock : PrepareLock} :
    lock ∈ (db.openLock key).toList ↔
      ¬db.HasAccount key ∧ lock = .account key := by
  rw [Option.mem_toList, openLock_eq_some]

/-- An account that a call finds in its view or inserts is there for good, or
the call has locked it. -/
private theorem OrderlyCall.opened
    (orderly : OrderlyCall input committed call) (key : BudgetAccountKey) :
    committed.HasAccount key ∨
      .account key ∈ ((call.view committed).openLock key).toList ++
        call.locks := by
  by_cases present : (call.view committed).HasAccount key
  · rcases orderly.opens committed key present with there | there | locked
    · exact .inl there
    · exact .inl there
    · exact .inr (List.mem_append_right _ locked)
  · exact .inr (List.mem_append_left _ (mem_openLock.mpr ⟨present, rfl⟩))

private theorem OrderlyCall.inserted
    (orderly : OrderlyCall input committed call) {key : BudgetAccountKey}
    (unlocked : .account key ∉ call.locks)
    (held : .account key ∈ ((call.view committed).openLock key).toList ++
      call.locks) :
    ¬committed.HasAccount key := by
  rcases List.mem_append.mp held with new | old
  · intro present
    exact (mem_openLock.mp new).1 (orderly.kept committed key present)
  · exact (unlocked old).elim

private theorem OrderlyCall.opensAfter
    (orderly : OrderlyCall input committed call) {opening : BudgetAccountKey}
    {ceiling : Nat} (db : ModelDatabase) (key : BudgetAccountKey)
    (present : ((call.writes db).openAccount opening ceiling).HasAccount key) :
    db.HasAccount key ∨ committed.HasAccount key ∨
      .account key ∈ ((call.view committed).openLock opening).toList ++
        call.locks := by
  rcases hasAccount_openAccount.mp present with rfl | before
  · exact .inr (orderly.opened key)
  · rcases orderly.opens db key before with there | old | locked
    · exact .inl there
    · exact .inr (.inl old)
    · exact .inr (.inr (List.mem_append_right _ locked))

private theorem OrderlyCall.openEnvironment
    (orderly : OrderlyCall input committed
      ⟨clock, .insertingEnvironment, writes, locks⟩) :
    OrderlyCall input committed
      ⟨clock, .insertingUser,
        fun db => (writes db).openAccount
          (input.charge clock).environmentAccount
          input.environmentMonthlyCeilingMicroUsd,
        ((writes committed).openLock
          (input.charge clock).environmentAccount).toList ++ locks⟩ where
  own := by
    intro key held
    rcases List.mem_append.mp held with new | old
    · cases (mem_openLock.mp new).2
      exact BudgetCharge.covers_environmentAccount _
    · exact orderly.own key old
  operation := by
    intro operationId held
    rcases List.mem_append.mp held with new | old
    · cases (mem_openLock.mp new).2
    · exact (orderly.noOperation rfl operationId old).elim
  environmentLocked := fun locked => by cases locked
  environmentOpened := fun _ => orderly.opened _
  userOpened := fun opened => by cases opened
  environmentNew := fun _ held =>
    orderly.inserted (orderly.environmentUnlocked rfl) held
  userNew := fun opened => by cases opened
  environmentUnlocked := fun before => by cases before
  userUnlocked := by
    intro _ held
    rcases List.mem_append.mp held with new | old
    · cases (mem_openLock.mp new).2
    · exact orderly.userUnlocked rfl old
  kept := fun db key present =>
    hasAccount_openAccount.mpr (.inr (orderly.kept db key present))
  opens := orderly.opensAfter

private theorem OrderlyCall.openUser
    (orderly : OrderlyCall input committed
      ⟨clock, .insertingUser, writes, locks⟩) :
    OrderlyCall input committed
      ⟨clock, .lockingEnvironment,
        fun db => (writes db).openAccount (input.charge clock).userAccount
          input.userMonthlyCeilingMicroUsd,
        ((writes committed).openLock
          (input.charge clock).userAccount).toList ++ locks⟩ where
  own := by
    intro key held
    rcases List.mem_append.mp held with new | old
    · cases (mem_openLock.mp new).2
      exact BudgetCharge.covers_userAccount _
    · exact orderly.own key old
  operation := by
    intro operationId held
    rcases List.mem_append.mp held with new | old
    · cases (mem_openLock.mp new).2
    · exact (orderly.noOperation rfl operationId old).elim
  environmentLocked := fun locked => by cases locked
  environmentOpened := fun _ =>
    (orderly.environmentOpened rfl).imp_right
      (fun locked => List.mem_append_right _ locked)
  userOpened := fun _ => orderly.opened _
  environmentNew := by
    intro _ held
    rcases List.mem_append.mp held with new | old
    · cases (mem_openLock.mp new).2
    · exact orderly.environmentNew rfl old
  userNew := fun _ held => orderly.inserted (orderly.userUnlocked rfl) held
  environmentUnlocked := fun before => by cases before
  userUnlocked := fun before => by cases before
  kept := fun db key present =>
    hasAccount_openAccount.mpr (.inr (orderly.kept db key present))
  opens := orderly.opensAfter

private theorem OrderlyCall.lockEnvironment
    (orderly : OrderlyCall input committed
      ⟨clock, .lockingEnvironment, writes, locks⟩)
    (environmentBudget : Option BudgetAccountRow) :
    OrderlyCall input committed
      ⟨clock, .lockingUser environmentBudget, writes,
        .account (input.charge clock).environmentAccount :: locks⟩ where
  own := by
    intro key held
    rcases List.mem_cons.mp held with new | old
    · cases new
      exact BudgetCharge.covers_environmentAccount _
    · exact orderly.own key old
  operation := by
    intro operationId held
    rcases List.mem_cons.mp held with new | old
    · cases new
    · exact (orderly.noOperation rfl operationId old).elim
  environmentLocked := fun _ => List.mem_cons_self
  environmentOpened := fun opened => by cases opened
  userOpened := fun _ =>
    (orderly.userOpened rfl).imp_right
      (fun locked => List.mem_cons_of_mem _ locked)
  environmentNew := fun opened => by cases opened
  userNew := fun opened => by cases opened
  environmentUnlocked := fun before => by cases before
  userUnlocked := fun before => by cases before
  kept := orderly.kept
  opens := by
    intro db key present
    rcases orderly.opens db key present with there | old | locked
    · exact .inl there
    · exact .inr (.inl old)
    · exact .inr (.inr (List.mem_cons_of_mem _ locked))

private theorem OrderlyCall.lockUser
    {environmentBudget userBudget : Option BudgetAccountRow}
    (orderly : OrderlyCall input committed
      ⟨clock, .lockingUser environmentBudget, writes, locks⟩) :
    OrderlyCall input committed
      ⟨clock, .afterLocks environmentBudget userBudget, writes,
        .account (input.charge clock).userAccount :: locks⟩ := by
  have late : ∀ phase : PreparePhase, phase.isLate = true →
      OrderlyCall input committed
        ⟨clock, phase, writes,
          .account (input.charge clock).userAccount :: locks⟩ := by
    intro phase late
    refine orderly.late late ?_ (fun _ => List.mem_cons_of_mem _) ?_ ?_
      (fun _ _ => .rfl)
    · intro key held
      rcases List.mem_cons.mp held with new | old
      · cases new
        exact BudgetCharge.covers_userAccount _
      · exact orderly.own key old
    · intro operationId held
      rcases List.mem_cons.mp held with new | old
      · cases new
      · exact (orderly.noOperation rfl operationId old).elim
    · intro _
      exact List.mem_cons_of_mem _ (orderly.environmentLocked rfl)
  unfold PreparePhase.afterLocks
  split
  · exact late _ rfl
  · exact late _ rfl

private theorem OrderlyCall.proceed {phase phase' : PreparePhase}
    {write : ModelDatabase → ModelDatabase}
    (orderly : OrderlyCall input committed ⟨clock, phase, writes, locks⟩)
    (unfinished : phase.isFinal = false)
    (late : phase'.isLate = true)
    (locked : phase'.locksEnvironment input = true →
      phase.locksEnvironment input = true)
    (unchanged : ∀ db : ModelDatabase, ∀ key,
      (write db).HasAccount key ↔ db.HasAccount key) :
    OrderlyCall input committed
      ⟨clock, phase', fun db => write (writes db), locks⟩ := by
  refine orderly.late late orderly.own (fun _ held => held) ?_ ?_
    (fun db key => unchanged (writes db) key)
  · intro operationId held
    exact (orderly.noOperation unfinished operationId held).elim
  · intro locks
    exact orderly.environmentLocked (locked locks)

private theorem OrderlyCall.insert
    (orderly : OrderlyCall input committed ⟨clock, .inserting, writes, locks⟩)
    (view : ModelDatabase) :
    OrderlyCall input committed
      ⟨clock,
        .afterWrite (.committing (.prepared input.operationId))
          (view.insertOperation input.operationId (input.preparedRow clock)),
        fun db => ((writes db).insertOperation input.operationId
          (input.preparedRow clock)).getD (writes db),
        .operation input.operationId :: locks⟩ := by
  have late : ∀ phase : PreparePhase, phase.isFinal = true →
      (phase.locksEnvironment input = true →
        PreparePhase.inserting.locksEnvironment input = true) →
      OrderlyCall input committed
        ⟨clock, phase,
          fun db => ((writes db).insertOperation input.operationId
            (input.preparedRow clock)).getD (writes db),
          .operation input.operationId :: locks⟩ := by
    intro phase final locked
    refine orderly.late ?_ ?_ (fun _ => List.mem_cons_of_mem _)
      (fun _ _ => final) ?_ (fun _ _ => hasAccount_insertOperation)
    · cases phase <;> cases final <;> rfl
    · intro key held
      rcases List.mem_cons.mp held with new | old
      · cases new
      · exact orderly.own key old
    · intro locks
      exact List.mem_cons_of_mem _ (orderly.environmentLocked (locked locks))
  unfold PreparePhase.afterWrite
  split
  · exact late _ rfl (fun locked => locked)
  · exact late _ rfl (fun locked => by cases locked)

/-- A statement of a call keeps its locks in order. -/
theorem OrderlyCall.execute {lock : ModelDatabase → Option PrepareLock}
    {write : ModelDatabase → ModelDatabase}
    {next : ModelDatabase → PreparePhase}
    (orderly : OrderlyCall input committed call)
    (instruction : prepareInstruction input call.parameter call.phase =
      .statement lock write next) :
    OrderlyCall input committed
      (call.execute committed lock write next) := by
  obtain ⟨clock, phase, writes, locks⟩ := call
  cases phase with
  | checking =>
      cases instruction
      exact orderly.check _
  | insertingEnvironment =>
      cases instruction
      exact orderly.openEnvironment
  | insertingUser =>
      cases instruction
      exact orderly.openUser
  | lockingEnvironment =>
      cases instruction
      exact orderly.lockEnvironment _
  | lockingUser environmentBudget =>
      cases instruction
      exact orderly.lockUser
  | rechecking environmentBudget userBudget =>
      cases instruction
      refine orderly.proceed rfl ?_ (fun _ => rfl) (fun _ _ => .rfl)
      change (PreparePhase.afterLook _
        ((writes committed).duplicatePrepare input)).isLate = true
      rcases afterLook_cases input (writes committed)
        (.afterBudgets input (input.charge clock) environmentBudget
          userBudget) with fresh | duplicate | ⟨failure, failed⟩
      · rw [fresh]
        unfold PreparePhase.afterBudgets
        split <;> rfl
      · rw [duplicate]
        rfl
      · rw [failed]
        rfl
  | reserving =>
      cases instruction
      refine orderly.proceed rfl ?_ (fun _ => rfl)
        (fun _ _ => hasAccount_chargeAccounts)
      change (PreparePhase.afterWrite _ ((writes committed).chargeAccounts
        (input.charge clock) input.reservedCostMicroUsd)).isLate = true
      unfold PreparePhase.afterWrite
      split <;> rfl
  | inserting =>
      cases instruction
      exact orderly.insert _
  | committing outcome | failing failure => cases instruction

end Execution

section Progress

variable (input) in
/-- Every running call is orderly. -/
def CallsOrderly (state : PrepareCalls) : Prop :=
  ∀ session call, state.sessions.find? session = some (.running call) →
    OrderlyCall input state.committed call

variable {start : ModelDatabase} {state state' : PrepareCalls}

private theorem CallsOrderly.step {action : SessionAction DatabaseClock}
    (orderly : CallsOrderly input state)
    (exclusive : state.LocksExclusive)
    (step : SessionStep (prepareProgram input) state action state') :
    CallsOrderly input state' := by
  apply Sessions.RunningMeet.step (J := OrderlyCall input) orderly exclusive
    OrderlyCall.start ?_ ?_ step
  · intro call lock write next orderly instruction
    exact orderly.execute instruction
  · intro ending call outcome ended _ orderly apart
    exact orderly.commit ended apart

theorem reachable_callsOrderly
    (reached : (prepareSystem input start).Reachable state) :
    CallsOrderly input state := by
  refine System.Reachable.invariant ?_ ?_ reached
  · rintro state ⟨rows, _, rfl⟩ session call found
    simp at found
  · intro state action state' earlier orderly taken
    exact orderly.step (reachable_locksExclusive earlier)
      (sessionStep_of_next taken)

/-- No call can step, and each one waits for another. -/
private def AllWait (input : PrepareModelOperationStoreInput)
    (state : PrepareCalls) : Prop :=
  ∀ session (call : PrepareTransaction),
    state.sessions.find? session = some (.running call) →
    (prepareProgram input).Waits state session call

private theorem AllWait.waiting {session : SessionId}
    (all : AllWait input state) (orderly : CallsOrderly input state)
    (found : state.sessions.find? session = some (.running call)) :
    ∃ key other holder, other ≠ session ∧
      state.sessions.find? other = some (.running holder) ∧
      .account key ∈ holder.locks ∧
      ((call.phase = .insertingEnvironment ∧
          key = (input.charge call.parameter).environmentAccount) ∨
        (call.phase = .insertingUser ∧
          key = (input.charge call.parameter).userAccount) ∨
        (call.phase = .lockingEnvironment ∧
          key = (input.charge call.parameter).environmentAccount) ∨
        ((∃ budget, call.phase = .lockingUser budget) ∧
          key = (input.charge call.parameter).userAccount)) := by
  obtain ⟨clock, phase, writes, locks⟩ := call
  obtain ⟨lock, write, next, instruction, needed, locked, other, holder,
    different, present, held⟩ := all _ _ found
  cases phase with
  | checking | rechecking | reserving =>
      cases instruction
      cases locked
  | insertingEnvironment =>
      cases instruction
      cases (openLock_eq_some.mp locked).2
      exact ⟨_, other, holder, different, present, held, .inl ⟨rfl, rfl⟩⟩
  | insertingUser =>
      cases instruction
      cases (openLock_eq_some.mp locked).2
      exact ⟨_, other, holder, different, present, held,
        .inr (.inl ⟨rfl, rfl⟩)⟩
  | lockingEnvironment =>
      cases instruction
      cases locked
      exact ⟨_, other, holder, different, present, held,
        .inr (.inr (.inl ⟨rfl, rfl⟩))⟩
  | lockingUser budget =>
      cases instruction
      cases locked
      exact ⟨_, other, holder, different, present, held,
        .inr (.inr (.inr ⟨⟨_, rfl⟩, rfl⟩))⟩
  | inserting =>
      cases instruction
      cases locked
      -- Only a call that is about to end holds the identifier.
      have final := (orderly other holder present).operation _ held
      obtain ⟨_, _, _, later, _⟩ := all other holder present
      obtain ⟨holderClock, holderPhase, holderWrites, holderLocks⟩ := holder
      cases holderPhase <;> cases final <;> cases later
  | committing outcome | failing failure => cases instruction

private theorem environmentAccount_of_covers {clock other : DatabaseClock}
    (covers : (input.charge clock).covers
      (input.charge other).environmentAccount = true) :
    (input.charge other).environmentAccount =
      (input.charge clock).environmentAccount := by
  rcases BudgetCharge.covers_iff.mp covers with same | crossed
  · exact same
  · cases crossed

private theorem accounts_of_covers {clock other : DatabaseClock}
    (covers : (input.charge clock).covers
      (input.charge other).userAccount = true) :
    (input.charge other).userAccount = (input.charge clock).userAccount ∧
      (input.charge other).environmentAccount =
        (input.charge clock).environmentAccount := by
  rcases BudgetCharge.covers_iff.mp covers with crossed | same
  · cases crossed
  · refine ⟨same, ?_⟩
    have months : other.currentDate.monthStart =
        clock.currentDate.monthStart :=
      congrArg BudgetAccountKey.periodStart same
    simp [BudgetCharge.environmentAccount,
      PrepareModelOperationStoreInput.charge, months]

section Stuck

variable {session : SessionId} (all : AllWait input state)
  (orderly : CallsOrderly input state) (exclusive : state.LocksExclusive)

include all orderly exclusive

/-- The holder of a user account that another call waits to lock would be a
call of the same month, which has the environment locked as well. -/
private theorem not_lockingUser
    (found : state.sessions.find? session = some (.running call))
    (budget : Option BudgetAccountRow) : call.phase ≠ .lockingUser budget := by
  intro phase
  obtain ⟨key, other, holder, different, present, held, position⟩ :=
    all.waiting orderly found
  have itself := orderly session call found
  have holding := orderly other holder present
  simp only [phase, reduceCtorEq, false_and, false_or] at position
  obtain ⟨_, rfl⟩ := position
  obtain ⟨user, environment⟩ := accounts_of_covers (holding.own _ held)
  have opened := itself.userOpened (by rw [phase]; rfl)
  have unheld : .account (input.charge call.parameter).userAccount ∉
      call.locks := by
    intro mine
    exact exclusive session call _ found mine other holder different present
      held
  obtain ⟨_, _, _, _, _, _, holderPosition⟩ := all.waiting orderly present
  rw [user] at held
  rcases holderPosition with ⟨before, _⟩ | ⟨before, _⟩ | ⟨before, _⟩ |
    ⟨⟨_, later⟩, _⟩
  · exact holding.userUnlocked (by rw [before]; rfl) held
  · exact holding.userUnlocked (by rw [before]; rfl) held
  · rcases opened with there | mine
    · exact holding.userNew before held (user ▸ there)
    · exact unheld mine
  · have mine := itself.environmentLocked (by rw [phase]; rfl)
    have theirs := holding.environmentLocked (by rw [later]; rfl)
    rw [← environment] at theirs
    exact exclusive session call _ found mine other holder different present
      theirs

private theorem not_lockingEnvironment
    (found : state.sessions.find? session = some (.running call)) :
    call.phase ≠ .lockingEnvironment := by
  intro phase
  obtain ⟨key, other, holder, different, present, held, position⟩ :=
    all.waiting orderly found
  have holding := orderly other holder present
  simp only [phase, reduceCtorEq, exists_false, false_and, false_or, or_false,
    true_and] at position
  subst position
  have same := environmentAccount_of_covers (holding.own _ held)
  have unheld : .account (input.charge call.parameter).environmentAccount ∉
      call.locks := by
    intro mine
    exact exclusive session call _ found mine other holder different present
      held
  have there := ((orderly session call found).environmentOpened
    (by rw [phase]; rfl)).resolve_right unheld
  obtain ⟨_, _, _, _, _, _, holderPosition⟩ := all.waiting orderly present
  rw [same] at held there
  rcases holderPosition with ⟨before, _⟩ | ⟨between, _⟩ | ⟨between, _⟩ |
    ⟨⟨budget, later⟩, _⟩
  · exact holding.environmentUnlocked (by rw [before]; rfl) held
  · exact holding.environmentNew (by rw [between]; rfl) held there
  · exact holding.environmentNew (by rw [between]; rfl) held there
  · exact not_lockingUser all orderly exclusive present budget later

private theorem not_insertingUser
    (found : state.sessions.find? session = some (.running call)) :
    call.phase ≠ .insertingUser := by
  intro phase
  obtain ⟨key, other, holder, _, present, held, position⟩ :=
    all.waiting orderly found
  have holding := orderly other holder present
  simp only [phase, reduceCtorEq, exists_false, false_and, false_or, or_false,
    true_and] at position
  subst position
  rw [(accounts_of_covers (holding.own _ held)).1] at held
  obtain ⟨_, _, _, _, _, _, holderPosition⟩ := all.waiting orderly present
  rcases holderPosition with ⟨before, _⟩ | ⟨before, _⟩ | ⟨between, _⟩ |
    ⟨⟨budget, later⟩, _⟩
  · exact holding.userUnlocked (by rw [before]; rfl) held
  · exact holding.userUnlocked (by rw [before]; rfl) held
  · exact not_lockingEnvironment all orderly exclusive present between
  · exact not_lockingUser all orderly exclusive present budget later

private theorem not_insertingEnvironment
    (found : state.sessions.find? session = some (.running call)) :
    call.phase ≠ .insertingEnvironment := by
  intro phase
  obtain ⟨key, other, holder, _, present, held, position⟩ :=
    all.waiting orderly found
  have holding := orderly other holder present
  simp only [phase, reduceCtorEq, exists_false, false_and, or_false,
    true_and] at position
  subst position
  rw [environmentAccount_of_covers (holding.own _ held)] at held
  obtain ⟨_, _, _, _, _, _, holderPosition⟩ := all.waiting orderly present
  rcases holderPosition with ⟨before, _⟩ | ⟨between, _⟩ | ⟨between, _⟩ |
    ⟨⟨budget, later⟩, _⟩
  · exact holding.environmentUnlocked (by rw [before]; rfl) held
  · exact not_insertingUser all orderly exclusive present between
  · exact not_lockingEnvironment all orderly exclusive present between
  · exact not_lockingUser all orderly exclusive present budget later

end Stuck

/-- The calls never wait for each other in a circle. -/
theorem exists_step_of_running {session : SessionId}
    (reached : (prepareSystem input start).Reachable state)
    (found : state.sessions.find? session = some (.running call)) :
    ∃ other state', (prepareSystem input start).next state (.step other) =
      some state' := by
  by_contra stuck
  have orderly := reachable_callsOrderly reached
  have exclusive : state.LocksExclusive := reachable_locksExclusive reached
  have all : AllWait input state := by
    intro other running present
    refine Program.waits_of_next_eq_none present ?_
    cases taken : (prepareProgram input).next state (.step other) with
    | none => rfl
    | some state' => exact (stuck ⟨other, state', taken⟩).elim
  obtain ⟨_, _, _, _, _, _, position⟩ := all.waiting orderly found
  rcases position with ⟨first, _⟩ | ⟨second, _⟩ | ⟨third, _⟩ |
    ⟨⟨budget, fourth⟩, _⟩
  · exact not_insertingEnvironment all orderly exclusive found first
  · exact not_insertingUser all orderly exclusive found second
  · exact not_lockingEnvironment all orderly exclusive found third
  · exact not_lockingUser all orderly exclusive found budget fourth

end Progress

end Orderly

end XpensGo
