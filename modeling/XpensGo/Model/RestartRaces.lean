import XpensGo.Model.Lineage

/-!
# Restarts that race

Here a restart is the sequence of its statements rather than one step: it locks
its source, looks for its own identifier, counts the restarts of the lineage
and inserts.  Any number of restarts interleave at these points, with each
other and with the other transactions, and only the source row is locked.  A
root has a second source only after its grant is used, so the lock is enough:
what the interleaved statements do to the tables is what undisturbed restarts
would have done.
-/

namespace XpensGo

open EcmaScript Postgres Relational Transition

abbrev RestartId := Nat

section Statements

variable (clock : DatabaseClock) (input : RestartModelOperationStoreInput)

namespace ModelDatabase

/-- `readOperationForUpdate` and the check of the owner. -/
def lockSource (db : ModelDatabase) :
    Except ModelStoreFailure ModelOperationRow := do
  let source ← db.readOperationForUpdate input.sourceOperationId
  if source.userId ≠ input.userId then
    .error (.notFound input.sourceOperationId)
  else
    pure source

/-- The answer to a restart whose identifier is already in use. -/
def lookUpRestart (db : ModelDatabase) (source : ModelOperationRow) :
    Option (Except ModelStoreFailure RestartModelOperationOutcome) :=
  match db.operations.find? input.restartedOperationId with
  | some existing =>
      if existing.rootOperationId ≠ source.rootOperationId ∨
          existing.restartedFromOperationId ≠ some input.sourceOperationId ∨
            existing.userId ≠ input.userId then
        some (.error (.restartConflict input.restartedOperationId))
      else
        some (.ok (.duplicate input.restartedOperationId))
  | none => none

/-- The denial of a restart, if it is denied. -/
def restartDenial (db : ModelDatabase) (source : ModelOperationRow) :
    Option ModelRestartDenial :=
  if source.status ≠ .outcomeUnknown then
    some .sourceNotOutcomeUnknown
  else if source.explicitRestartLimit ≤
      (db.lineageRestarts source.rootOperationId).length then
    some .restartLimitExhausted
  else
    none

/-- Reserve the cost once more and insert the restarted operation.  The budget
rows are locked before they are read, so this is one step. -/
def insertRestarted (source : ModelOperationRow) (db : ModelDatabase) :
    Except ModelStoreFailure (RestartModelOperationOutcome × ModelDatabase) := do
  let reserved ← db.reserveRestart clock source
  let inserted ← require (.persistenceUnavailable .restart)
    (reserved.insertOperation input.restartedOperationId
      (source.restartedRow clock input.sourceOperationId
        source.reservedCostMicroUsd))
  pure (.restarted input.restartedOperationId, inserted)

/-- A restart that nothing disturbs runs its statements on one database. -/
theorem restart_eq_statements (db : ModelDatabase) :
    db.restart clock input = (do
      let source ← db.lockSource input
      match db.lookUpRestart input source with
      | some answer => answer.map (fun outcome => (outcome, db))
      | none =>
          match db.restartDenial source with
          | some denial => .error (.restartDenied denial)
          | none => db.insertRestarted clock input source) := by
  unfold restart lockSource
  cases db.readOperationForUpdate input.sourceOperationId with
  | error failure => rfl
  | ok source =>
      simp only [bind, Except.bind, pure, Except.pure]
      by_cases owned : source.userId = input.userId
      · simp only [owned, ne_eq, not_true_eq_false, if_false, lookUpRestart]
        cases db.operations.find? input.restartedOperationId with
        | some existing =>
            simp only
            split
            · rfl
            · rfl
        | none =>
            simp only [restartDenial]
            split
            · rfl
            · split
              · rfl
              · rfl
      · simp only [owned, ne_eq, not_false_eq_true, if_true]

end ModelDatabase

end Statements

/-- Where a restart stands between its statements. -/
inductive RestartPhase where
  | locked (source : ModelOperationRow)
  | unused (source : ModelOperationRow)
  | granted (source : ModelOperationRow)
  | returned (answer : Except ModelStoreFailure RestartModelOperationOutcome)

def RestartPhase.isReturned : RestartPhase → Bool
  | .returned _ => true
  | .locked _ | .unused _ | .granted _ => false

structure RestartCall where
  clock : DatabaseClock
  input : RestartModelOperationStoreInput
  phase : RestartPhase

/-- A running restart holds the lock on its source. -/
def RestartCall.locks (restart : RestartCall)
    (operationId : ModelOperationId) : Bool :=
  restart.input.sourceOperationId = operationId && !restart.phase.isReturned

structure RacingState where
  model : ModelState
  restarts : Table RestartId RestartCall := .empty

inductive RacingAction where
  | act (action : ModelAction)
  | lockSource (restart : RestartId) (clock : DatabaseClock)
      (input : RestartModelOperationStoreInput)
  | lookUp (restart : RestartId)
  | countLineage (restart : RestartId)
  | insert (restart : RestartId)
  | disconnect (restart : RestartId)

/-- The operation that a transaction locks before anything else. -/
def ModelState.lockedBy (state : ModelState) :
    ModelAction → Option ModelOperationId
  | .claim _ operationId _ _ _ => some operationId
  | .complete call _ _ => (state.calls.find? call).map (·.operationId)
  | _ => none

def ModelAction.isRestart : ModelAction → Bool
  | .restart _ _ => true
  | _ => false

namespace RacingState

section Steps

variable (dates : DateBuiltins)

def isLocked (state : RacingState) (operationId : ModelOperationId) : Bool :=
  !(state.restarts.select (fun _ restart =>
    restart.locks operationId)).isEmpty

def setPhase (state : RacingState) (restart : RestartId)
    (phase : RestartPhase) : RacingState :=
  { state with
    restarts := state.restarts.modify restart
      (fun call => { call with phase := phase }) }

def setDatabase (state : RacingState) (database : ModelDatabase) :
    RacingState :=
  { state with model := { state.model with database := database } }

/-- The phase after the lock on the source was taken. -/
def afterLock : Except ModelStoreFailure ModelOperationRow → RestartPhase
  | .ok source => .locked source
  | .error failure => .returned (.error failure)

/-- Every transaction but a restart is one step; it waits while a restart locks
its operation. -/
def next (state : RacingState) : RacingAction → Option RacingState
  | .act action =>
      if action.isRestart ||
          (state.model.lockedBy action).any state.isLocked then
        none
      else
        (state.model.next dates action).map (fun model =>
          { state with model := model })
  | .lockSource restart clock input =>
      if (state.restarts.find? restart).isSome ||
          state.isLocked input.sourceOperationId then
        none
      else
        some { state with
          restarts := state.restarts.insertMissing restart
            { clock := clock
              input := input
              phase := afterLock (state.model.database.lockSource input) } }
  | .lookUp restart =>
      match state.restarts.find? restart with
      | some ⟨_, input, .locked source⟩ =>
          match state.model.database.lookUpRestart input source with
          | some answer => some (state.setPhase restart (.returned answer))
          | none => some (state.setPhase restart (.unused source))
      | _ => none
  | .countLineage restart =>
      match state.restarts.find? restart with
      | some ⟨_, _, .unused source⟩ =>
          match state.model.database.restartDenial source with
          | some denial =>
              some (state.setPhase restart
                (.returned (.error (.restartDenied denial))))
          | none => some (state.setPhase restart (.granted source))
      | _ => none
  | .insert restart =>
      match state.restarts.find? restart with
      | some ⟨clock, input, .granted source⟩ =>
          match withTransaction
            (ModelDatabase.insertRestarted clock input source)
            state.model.database with
          | (answer, database) =>
              some ((state.setDatabase database).setPhase restart
                (.returned answer))
      | _ => none
  | .disconnect restart =>
      if (state.restarts.find? restart).any (fun call =>
          !call.phase.isReturned) then
        some (state.setPhase restart
          (.returned (.error (.persistenceUnavailable .restart))))
      else
        none

end Steps

/-- Any set of users, and no work yet. -/
def Initial (state : RacingState) : Prop :=
  ∃ model, model.Initial ∧ state = { model := model }

end RacingState

def racingSystem (dates : DateBuiltins) : System RacingState RacingAction :=
  { Initial := RacingState.Initial
    next := RacingState.next dates }

section Steps

variable {dates : DateBuiltins} {state state' : RacingState}

/-- A statement of a restart that leaves the tables alone. -/
inductive RestartCall.Advances (db : ModelDatabase) :
    RestartCall → RestartPhase → Prop where
  | answered {clock : DatabaseClock} {input : RestartModelOperationStoreInput}
      {source : ModelOperationRow}
      {answer : Except ModelStoreFailure RestartModelOperationOutcome} :
      db.lookUpRestart input source = some answer →
      Advances db ⟨clock, input, .locked source⟩ (.returned answer)
  | unused {clock : DatabaseClock} {input : RestartModelOperationStoreInput}
      {source : ModelOperationRow} :
      Advances db ⟨clock, input, .locked source⟩ (.unused source)
  | granted {clock : DatabaseClock} {input : RestartModelOperationStoreInput}
      {source : ModelOperationRow} :
      db.restartDenial source = none →
      Advances db ⟨clock, input, .unused source⟩ (.granted source)
  | failed {restart : RestartCall} {failure : ModelStoreFailure} :
      Advances db restart (.returned (.error failure))

/-- The transitions of the racing system. -/
inductive RacingStep (dates : DateBuiltins) (state : RacingState) :
    RacingAction → RacingState → Prop where
  | acted {action : ModelAction} {model : ModelState} :
      action.isRestart = false →
      (modelSystem dates).next state.model action = some model →
      RacingStep dates state (.act action) { state with model := model }
  | began {restart : RestartId} {clock : DatabaseClock}
      {input : RestartModelOperationStoreInput} :
      state.restarts.find? restart = none →
      state.isLocked input.sourceOperationId = false →
      RacingStep dates state (.lockSource restart clock input)
        { state with
          restarts := state.restarts.insertMissing restart
            { clock := clock
              input := input
              phase := RacingState.afterLock
                (state.model.database.lockSource input) } }
  | advanced {action : RacingAction} {restart : RestartId}
      {call : RestartCall} {phase : RestartPhase} :
      state.restarts.find? restart = some call →
      call.phase.isReturned = false →
      call.Advances state.model.database phase →
      RacingStep dates state action (state.setPhase restart phase)
  | inserted {restart : RestartId} {clock : DatabaseClock}
      {input : RestartModelOperationStoreInput} {source : ModelOperationRow}
      {outcome : RestartModelOperationOutcome} {database : ModelDatabase} :
      state.restarts.find? restart = some ⟨clock, input, .granted source⟩ →
      ModelDatabase.insertRestarted clock input source state.model.database =
        .ok (outcome, database) →
      RacingStep dates state (.insert restart)
        ((state.setDatabase database).setPhase restart
          (.returned (.ok outcome)))

theorem racingStep_of_next {action : RacingAction}
    (taken : (racingSystem dates).next state action = some state') :
    RacingStep dates state action state' := by
  change state.next dates action = some state' at taken
  cases action with
  | act action =>
      simp only [RacingState.next] at taken
      split at taken
      · cases taken
      · rename_i free
        simp only [Bool.or_eq_true, not_or, Bool.not_eq_true] at free
        obtain ⟨model, moved, rfl⟩ := Option.map_eq_some_iff.mp taken
        exact .acted free.1 moved
  | lockSource restart clock input =>
      simp only [RacingState.next] at taken
      split at taken
      · cases taken
      · rename_i free
        simp only [Bool.or_eq_true, not_or, Bool.not_eq_true,
          Option.isSome_eq_false_iff, Option.isNone_iff_eq_none] at free
        cases taken
        exact .began free.1 free.2
  | lookUp restart =>
      simp only [RacingState.next] at taken
      split at taken
      · rename_i clock input source found
        split at taken
        · rename_i answer answered
          cases taken
          exact .advanced found rfl (.answered answered)
        · cases taken
          exact .advanced found rfl .unused
      · cases taken
  | countLineage restart =>
      simp only [RacingState.next] at taken
      split at taken
      · rename_i clock input source found
        split at taken
        · cases taken
          exact .advanced found rfl .failed
        · rename_i granted
          cases taken
          exact .advanced found rfl (.granted granted)
      · cases taken
  | insert restart =>
      simp only [RacingState.next] at taken
      split at taken
      · rename_i clock input source found
        rcases withTransaction_cases
          (ModelDatabase.insertRestarted clock input source)
          state.model.database with
          ⟨failure, _, rolledBack⟩ | ⟨outcome, database, ran, committed⟩
        · rw [rolledBack] at taken
          cases taken
          exact .advanced found rfl .failed
        · rw [committed] at taken
          cases taken
          exact .inserted found ran
      · cases taken
  | disconnect restart =>
      simp only [RacingState.next] at taken
      split at taken
      · rename_i running
        obtain ⟨call, found, running⟩ := (Option.any_eq_true _ _).mp running
        cases taken
        exact .advanced found (by simpa using running) .failed
      · cases taken

end Steps

section Locks

variable {state : RacingState} {restart other : RestartId}
  {call otherCall : RestartCall} {operationId : ModelOperationId}

theorem RacingState.isLocked_eq_false :
    state.isLocked operationId = false ↔
      ∀ restart call, state.restarts.find? restart = some call →
        call.locks operationId = false := by
  unfold RacingState.isLocked
  rw [Bool.not_eq_false', Table.select_isEmpty_iff]

theorem RestartCall.locks_eq_true :
    call.locks operationId = true ↔
      call.input.sourceOperationId = operationId ∧
        call.phase.isReturned = false := by
  simp [RestartCall.locks]

/-- Two running restarts have different sources. -/
def RacingState.LocksExclusive (state : RacingState) : Prop :=
  ∀ restart other call otherCall,
    state.restarts.find? restart = some call →
    state.restarts.find? other = some otherCall →
    call.phase.isReturned = false → otherCall.phase.isReturned = false →
    call.input.sourceOperationId = otherCall.input.sourceOperationId →
    restart = other

/-- A restart found after a change of phase is that restart or another one. -/
theorem RacingState.find?_setPhase {phase : RestartPhase}
    (found : (state.setPhase restart phase).restarts.find? other =
      some otherCall) :
    (other = restart ∧ ∃ earlier, state.restarts.find? restart = some earlier ∧
      otherCall = { earlier with phase := phase }) ∨
      (other ≠ restart ∧ state.restarts.find? other = some otherCall) := by
  exact Table.find?_modify_cases found

/-- A change of phase of a running restart takes no new lock. -/
theorem RacingState.LocksExclusive.setPhase {phase : RestartPhase}
    (exclusive : state.LocksExclusive)
    (found : state.restarts.find? restart = some call)
    (running : call.phase.isReturned = false) :
    (state.setPhase restart phase).LocksExclusive := by
  have earlier : ∀ other otherCall,
      (state.setPhase restart phase).restarts.find? other = some otherCall →
      otherCall.phase.isReturned = false →
      ∃ before, state.restarts.find? other = some before ∧
        before.phase.isReturned = false ∧
          before.input = otherCall.input := by
    intro other otherCall otherFound otherRunning
    rcases RacingState.find?_setPhase otherFound with
      ⟨rfl, before, beforeFound, rfl⟩ | ⟨_, beforeFound⟩
    · cases Option.some.inj (found.symm.trans beforeFound)
      exact ⟨call, found, running, rfl⟩
    · exact ⟨otherCall, beforeFound, otherRunning, rfl⟩
  intro left right leftCall rightCall leftFound rightFound leftRunning
    rightRunning same
  obtain ⟨leftBefore, leftEarlier, leftWas, leftInput⟩ :=
    earlier left leftCall leftFound leftRunning
  obtain ⟨rightBefore, rightEarlier, rightWas, rightInput⟩ :=
    earlier right rightCall rightFound rightRunning
  exact exclusive left right leftBefore rightBefore leftEarlier rightEarlier
    leftWas rightWas (by rw [leftInput, rightInput]; exact same)

theorem RacingStep.locksExclusive {dates : DateBuiltins}
    {state' : RacingState} {action : RacingAction}
    (exclusive : state.LocksExclusive)
    (step : RacingStep dates state action state') : state'.LocksExclusive := by
  cases step with
  | acted => exact exclusive
  | @began began clock input absent free =>
      have free := RacingState.isLocked_eq_false.mp free
      have disjoint : ∀ restart call, state.restarts.find? restart = some call →
          call.phase.isReturned = false →
          call.input.sourceOperationId ≠ input.sourceOperationId := by
        intro restart call found running same
        have unlocked := free restart call found
        rw [RestartCall.locks_eq_true.mpr ⟨same, running⟩] at unlocked
        cases unlocked
      intro left right leftCall rightCall leftFound rightFound leftRunning
        rightRunning same
      simp only [Table.find?_insertMissing, absent, Option.getD_none]
        at leftFound rightFound
      split at leftFound
      · rename_i leftNew
        split at rightFound
        · rename_i rightNew
          rw [leftNew, rightNew]
        · cases Option.some.inj leftFound
          exact (disjoint right rightCall rightFound rightRunning
            same.symm).elim
      · split at rightFound
        · cases Option.some.inj rightFound
          exact (disjoint left leftCall leftFound leftRunning same).elim
        · exact exclusive left right leftCall rightCall leftFound rightFound
            leftRunning rightRunning same
  | advanced found running => exact exclusive.setPhase found running
  | @inserted restart clock input source outcome database found =>
      have kept : (state.setDatabase database).LocksExclusive := exclusive
      exact kept.setPhase found rfl

end Locks

section Observations

variable {db db' : ModelDatabase} {input : RestartModelOperationStoreInput}
  {source : ModelOperationRow}

namespace ModelDatabase

/-- The source that a restart has read: its terms are still stored, and the row
itself is if it was final. -/
structure SourceRead (db : ModelDatabase)
    (input : RestartModelOperationStoreInput) (source : ModelOperationRow) :
    Prop where
  owned : source.userId = input.userId
  stored : ∃ row, db.operations.find? input.sourceOperationId = some row ∧
    row.toModelOperationTerms = source.toModelOperationTerms ∧
      (source.status = .outcomeUnknown → row = source)

/-- A source whose lineage still has its grant. -/
structure SourceGranted (db : ModelDatabase)
    (input : RestartModelOperationStoreInput) (source : ModelOperationRow) :
    Prop where
  owned : source.userId = input.userId
  stored : db.operations.find? input.sourceOperationId = some source
  unknown : source.status = .outcomeUnknown
  unrestarted : db.lineageRestarts source.rootOperationId = []

/-- The operation that a restart asked for is stored. -/
structure RestartStored (db : ModelDatabase)
    (input : RestartModelOperationStoreInput) : Prop where
  source : ∃ source,
    db.operations.find? input.sourceOperationId = some source ∧
      source.userId = input.userId ∧
        ∃ existing,
          db.operations.find? input.restartedOperationId = some existing ∧
            existing.rootOperationId = source.rootOperationId ∧
              existing.restartedFromOperationId =
                some input.sourceOperationId ∧
                existing.userId = input.userId

theorem lockSource_eq_ok (locked : db.lockSource input = .ok source) :
    SourceRead db input source := by
  obtain ⟨row, read, locked⟩ := bind_eq_ok.mp locked
  split at locked
  · cases locked
  · rename_i owned
    cases locked
    exact ⟨not_not.mp owned, _, require_eq_ok.mp read, rfl, fun _ => rfl⟩

theorem lookUpRestart_eq_ok {outcome : RestartModelOperationOutcome}
    (read : SourceRead db input source)
    (answered : db.lookUpRestart input source = some (.ok outcome)) :
    outcome = .duplicate input.restartedOperationId ∧
      RestartStored db input := by
  obtain ⟨row, stored, terms, _⟩ := read.stored
  unfold lookUpRestart at answered
  split at answered
  · rename_i existing found
    split at answered
    · cases answered
    · rename_i matching
      simp only [not_or, not_not] at matching
      cases answered
      refine ⟨rfl, row, stored, ?_, existing, found, ?_, matching.2.1,
        matching.2.2⟩
      · rw [terms]
        exact read.owned
      · rw [terms]
        exact matching.1
  · cases answered

theorem restartDenial_eq_none (read : SourceRead db input source)
    (limit : source.explicitRestartLimit = 1)
    (granted : db.restartDenial source = none) :
    SourceGranted db input source := by
  obtain ⟨row, stored, _, kept⟩ := read.stored
  unfold restartDenial at granted
  split at granted
  · cases granted
  · rename_i unknown
    have unknown := not_not.mp unknown
    split at granted
    · cases granted
    · rename_i remaining
      cases kept unknown
      rw [limit, Nat.not_le, Nat.lt_one_iff, List.length_eq_zero_iff]
        at remaining
      exact ⟨read.owned, stored, unknown, remaining⟩

/-- A granted restart inserts what an undisturbed restart would. -/
theorem insertRestarted_eq_ok {clock : DatabaseClock}
    {outcome : RestartModelOperationOutcome}
    (granted : SourceGranted db input source)
    (limit : source.explicitRestartLimit = 1)
    (inserted : insertRestarted clock input source db =
      .ok (outcome, db')) :
    db.restart clock input = .ok (outcome, db') ∧
      RestartEffect clock input db outcome db' := by
  have same : db.restart clock input = .ok (outcome, db') := by
    obtain ⟨reserved, reserving, inserting⟩ := bind_eq_ok.mp inserted
    obtain ⟨written, statement, rest⟩ := bind_eq_ok.mp inserting
    obtain ⟨_, fresh, _⟩ := insertOperation_eq_some (require_eq_ok.mp statement)
    have operations :=
      (@reserveRestart_eq_ok clock input _ _ _ reserving).operations
    rw [operations] at fresh
    have unused := Table.find?_eq_none_iff.mpr fresh
    have locked : db.lockSource input = .ok source := by
      simp [lockSource, readOperationForUpdate, require, granted.stored,
        granted.owned, bind, Except.bind, pure, Except.pure]
    have allowed : db.restartDenial source = none := by
      simp [restartDenial, granted.unknown, limit, granted.unrestarted]
    rw [restart_eq_statements, locked]
    simp only [bind, Except.bind, lookUpRestart, unused, allowed]
    exact inserted
  exact ⟨same, restart_eq_ok same⟩

theorem RestartEffect.lineageRestarts_of_ne {clock : DatabaseClock}
    {outcome : RestartModelOperationOutcome} {root : ModelOperationId}
    (effect : RestartEffect clock input db outcome db')
    (stored : db.operations.find? input.sourceOperationId = some source)
    (different : source.rootOperationId ≠ root) :
    db'.lineageRestarts root = db.lineageRestarts root := by
  cases effect with
  | duplicate => rfl
  | restarted fresh found _ _ _ reserves =>
      cases Option.some.inj (stored.symm.trans found)
      have apart : (source.restartedRow clock input.sourceOperationId
          source.reservedCostMicroUsd).rootOperationId ≠ root := different
      rw [lineageRestarts_push_of_ne fresh apart,
        lineageRestarts_congr reserves.operations]

theorem RestartEffect.stored {clock : DatabaseClock}
    {outcome : RestartModelOperationOutcome}
    (effect : RestartEffect clock input db outcome db') :
    RestartStored db' input := by
  cases effect with
  | duplicate sourceFound owned found root restarted user =>
      exact ⟨_, sourceFound, owned, _, found, root, restarted, user⟩
  | restarted fresh found owned _ _ reserves =>
      rw [← reserves.operations] at found
      exact ⟨_, Table.find?_push_of_some fresh found, owned, _,
        Table.find?_push_self _ _ fresh, rfl, rfl, owned⟩

theorem RestartStored.restart_eq_duplicate (stored : RestartStored db input)
    (clock : DatabaseClock) :
    db.restart clock input =
      .ok (.duplicate input.restartedOperationId, db) := by
  obtain ⟨source, sourceFound, owned, existing, found, root, restarted,
    user⟩ := stored.source
  simp [restart, readOperationForUpdate, require, sourceFound, owned, found,
    root, restarted, user, bind, Except.bind, pure, Except.pure]

section Persistence

variable (terms : TermsPersist db db')
include terms

theorem SourceRead.persist (final : FinalRowsPersist db db')
    (read : SourceRead db input source) : SourceRead db' input source where
  owned := read.owned
  stored := by
    obtain ⟨row, stored, same, kept⟩ := read.stored
    by_cases unknown : source.status = .outcomeUnknown
    · cases kept unknown
      refine ⟨source, final.operations _ _ stored ?_, rfl, fun _ => rfl⟩
      rw [unknown]
      rfl
    · obtain ⟨row', stored', same'⟩ := terms _ _ stored
      exact ⟨row', stored', same'.trans same, fun other =>
        (unknown other).elim⟩

theorem RestartStored.persist (stored : RestartStored db input) :
    RestartStored db' input := by
  obtain ⟨source, sourceFound, owned, existing, found, root, restarted,
    user⟩ := stored.source
  obtain ⟨source', sourceFound', sameSource⟩ := terms _ _ sourceFound
  obtain ⟨existing', found', same⟩ := terms _ _ found
  refine ⟨source', sourceFound', ?_, existing', found', ?_, ?_, ?_⟩
  · rw [sameSource]
    exact owned
  · rw [same, sameSource]
    exact root
  · rw [same]
    exact restarted
  · rw [same]
    exact user

end Persistence

theorem SourceGranted.persist (final : FinalRowsPersist db db')
    (lineage : (db'.lineageRestarts source.rootOperationId).length =
      (db.lineageRestarts source.rootOperationId).length)
    (granted : SourceGranted db input source) :
    SourceGranted db' input source where
  owned := granted.owned
  stored := by
    apply final.operations _ _ granted.stored
    rw [granted.unknown]
    rfl
  unknown := granted.unknown
  unrestarted := by
    rw [granted.unrestarted] at lineage
    exact List.length_eq_zero_iff.mp lineage

/-- The source of a granted restart is the root of its lineage. -/
theorem SourceGranted.root (granted : SourceGranted db input source)
    (lineages : Lineages db) :
    source.rootOperationId = input.sourceOperationId := by
  apply lineages.roots _ _ granted.stored
  by_contra restarted
  have member : (input.sourceOperationId, source) ∈
      db.lineageRestarts source.rootOperationId :=
    mem_lineageRestarts.mpr
      ⟨granted.stored, rfl, Option.isSome_iff_ne_none.mpr restarted⟩
  rw [granted.unrestarted] at member
  cases member

end ModelDatabase

end Observations

section Invariant

open ModelDatabase

/-- What a restart has observed still holds. -/
def RestartCall.Observed (db : ModelDatabase) (restart : RestartCall) : Prop :=
  match restart.phase with
  | .locked source | .unused source => SourceRead db restart.input source
  | .granted source => SourceGranted db restart.input source
  | .returned (.ok _) => RestartStored db restart.input
  | .returned (.error _) => True

/-- The tables were written by undisturbed transactions, every lock is held
once, and no observation is outdated. -/
structure RacingState.Consistent (dates : DateBuiltins)
    (state : RacingState) : Prop where
  atomic : (modelSystem dates).Reachable state.model
  exclusive : state.LocksExclusive
  observed : ∀ restart call, state.restarts.find? restart = some call →
    call.Observed state.model.database

variable {dates : DateBuiltins} {state state' : RacingState}
  {db db' : ModelDatabase}

theorem RestartCall.Observed.persist {restart : RestartCall}
    (terms : TermsPersist db db') (final : FinalRowsPersist db db')
    (lineage : ∀ source, restart.phase = .granted source →
      (db'.lineageRestarts source.rootOperationId).length =
        (db.lineageRestarts source.rootOperationId).length)
    (observed : restart.Observed db) : restart.Observed db' := by
  obtain ⟨clock, input, phase⟩ := restart
  cases phase with
  | locked source | unused source =>
      exact SourceRead.persist terms final observed
  | granted source =>
      exact SourceGranted.persist final (lineage source rfl) observed
  | returned answer =>
      cases answer with
      | ok outcome => exact RestartStored.persist terms observed
      | error failure => exact trivial

/-- No transaction but a restart changes a lineage. -/
theorem ModelStep.lineageRestarts_length {action : ModelAction}
    {model model' : ModelState} (step : ModelStep dates model action model')
    (other : action.isRestart = false) (root : ModelOperationId) :
    (model'.database.lineageRestarts root).length =
      (model.database.lineageRestarts root).length := by
  cases step with
  | unprepared | unclaimed | responded | abandoned | uncompleted => rfl
  | unrestarted | restarted => cases other
  | prepared _ prepares =>
      cases prepares with
      | duplicate => rfl
      | prepared fresh reserves =>
          rw [lineageRestarts_push_of_none fresh rfl,
            lineageRestarts_congr reserves.operations]
  | claimed _ claims =>
      rcases claims.rewrites with same | ⟨row, set, rewrites⟩
      · exact congrArg List.length (lineageRestarts_congr same)
      · exact lineageRestarts_modify_length rewrites.found
          rewrites.operations rewrites.terms
  | completed _ completes =>
      rcases completes.rewrites with same | ⟨row, set, rewrites⟩
      · exact congrArg List.length (lineageRestarts_congr same)
      · exact lineageRestarts_modify_length rewrites.found
          rewrites.operations rewrites.terms

private theorem granted_apart {restart other : RestartId}
    {call otherCall : RestartCall} {source otherSource : ModelOperationRow}
    (consistent : state.Consistent dates)
    (found : state.restarts.find? restart = some call)
    (otherFound : state.restarts.find? other = some otherCall)
    (phase : call.phase = .granted source)
    (otherPhase : otherCall.phase = .granted otherSource)
    (different : other ≠ restart) :
    source.rootOperationId ≠ otherSource.rootOperationId := by
  intro same
  have lineages := reachable_lineages consistent.atomic
  have granted : SourceGranted state.model.database call.input source := by
    have observed := consistent.observed restart call found
    unfold RestartCall.Observed at observed
    rw [phase] at observed
    exact observed
  have otherGranted : SourceGranted state.model.database otherCall.input
      otherSource := by
    have observed := consistent.observed other otherCall otherFound
    unfold RestartCall.Observed at observed
    rw [otherPhase] at observed
    exact observed
  apply different
  apply consistent.exclusive other restart otherCall call otherFound found
  · rw [otherPhase]
    rfl
  · rw [phase]
    rfl
  · rw [← granted.root lineages, ← otherGranted.root lineages, same]

private theorem observed_setPhase {restart : RestartId} {phase : RestartPhase}
    (others : ∀ other call, other ≠ restart →
      state.restarts.find? other = some call →
      call.Observed state.model.database)
    (own : ∀ call, state.restarts.find? restart = some call →
      ({ call with phase := phase } : RestartCall).Observed
        state.model.database)
    (other : RestartId) (call : RestartCall)
    (found : (state.setPhase restart phase).restarts.find? other =
      some call) :
    call.Observed (state.setPhase restart phase).model.database := by
  rcases RacingState.find?_setPhase found with
    ⟨rfl, earlier, earlierFound, rfl⟩ | ⟨different, earlierFound⟩
  · exact own earlier earlierFound
  · exact others other call different earlierFound

/-- Every statement of a restart leaves a true observation behind. -/
theorem RestartCall.Advances.observed {restart : RestartCall}
    {phase : RestartPhase} (advances : restart.Advances db phase)
    (registered : ∀ operationId row,
      db.operations.find? operationId = some row → row.IsRegistered)
    (observed : restart.Observed db) :
    ({ restart with phase := phase } : RestartCall).Observed db := by
  cases advances with
  | @answered _ _ _ answer answered =>
      cases answer with
      | error failure => exact trivial
      | ok outcome => exact (lookUpRestart_eq_ok observed answered).2
  | unused => exact observed
  | @granted _ input source granted =>
      have read : SourceRead db input source := observed
      obtain ⟨row, stored, terms, _⟩ := read.stored
      apply restartDenial_eq_none read ?_ granted
      rw [← terms]
      exact (registered _ row stored).terms.explicitRestartLimit
  | failed => exact trivial

theorem RacingStep.consistent {action : RacingAction}
    (consistent : state.Consistent dates)
    (step : RacingStep dates state action state') :
    state'.Consistent dates := by
  have exclusive := step.locksExclusive consistent.exclusive
  have registered : ∀ operationId row,
      state.model.database.operations.find? operationId = some row →
      row.IsRegistered := fun _ _ found =>
    reachable_isRegistered consistent.atomic found
  cases step with
  | @acted action model other moved =>
      have modelStep := modelStep_of_next moved
      refine ⟨consistent.atomic.step moved, exclusive, ?_⟩
      intro restart call found
      exact (consistent.observed restart call found).persist
        modelStep.termsPersist modelStep.finalRowsPersist
        (fun _ _ => modelStep.lineageRestarts_length other _)
  | @began began clock input absent free =>
      refine ⟨consistent.atomic, exclusive, ?_⟩
      intro restart call found
      simp only [Table.find?_insertMissing, absent, Option.getD_none] at found
      split at found
      · cases Option.some.inj found
        cases locked : state.model.database.lockSource input with
        | ok source => exact lockSource_eq_ok locked
        | error failure => exact trivial
      · exact consistent.observed restart call found
  | advanced found _ advances =>
      refine ⟨consistent.atomic, exclusive, ?_⟩
      apply observed_setPhase
      · exact fun other call _ => consistent.observed other call
      · intro call present
        cases Option.some.inj (found.symm.trans present)
        exact advances.observed registered (consistent.observed _ _ found)
  | @inserted restart clock input source outcome database found inserted =>
      have granted : SourceGranted state.model.database input source :=
        consistent.observed restart _ found
      have limit :=
        (registered _ source granted.stored).terms.explicitRestartLimit
      obtain ⟨ran, effect⟩ := insertRestarted_eq_ok granted limit inserted
      refine ⟨?_, exclusive, ?_⟩
      · have moved : (modelSystem dates).next state.model
            (.restart clock input) =
              some { state.model with database := database } := by
          simp [modelSystem, ModelState.next, withTransaction, ran]
        exact consistent.atomic.step moved
      · have step : ModelStep dates state.model (.restart clock input)
            { state.model with database := database } := .restarted effect
        apply observed_setPhase
        · intro other call different otherFound
          refine (consistent.observed other call otherFound).persist
            step.termsPersist step.finalRowsPersist ?_
          intro otherSource otherPhase
          have apart := granted_apart consistent found otherFound rfl
            otherPhase different
          exact congrArg List.length
            (effect.lineageRestarts_of_ne granted.stored apart)
        · intro call present
          cases Option.some.inj (found.symm.trans present)
          exact effect.stored

theorem reachable_consistent
    (reached : (racingSystem dates).Reachable state) :
    state.Consistent dates := by
  refine System.Reachable.invariant ?_ ?_ reached
  · rintro state ⟨model, initial, rfl⟩
    refine ⟨.init initial, ?_, ?_⟩
    · intro restart other call otherCall found
      simp at found
    · intro restart call found
      simp at found
  · intro state action state' _ consistent taken
    exact (racingStep_of_next taken).consistent consistent

/-- The races change the tables as undisturbed transactions do, so that every
result about the runs of the model system holds of them. -/
theorem racing_reachable_model
    (reached : (racingSystem dates).Reachable state) :
    (modelSystem dates).Reachable state.model :=
  (reachable_consistent reached).atomic

end Invariant

section Returns

open ModelDatabase

variable {dates : DateBuiltins} {state state' : RacingState}

def RacingAction.isStatement : RacingAction → Bool
  | .act _ => false
  | _ => true

/-- The answer of a restart that has returned. -/
def RacingState.answer (state : RacingState) (restart : RestartId) :
    Option (Except ModelStoreFailure RestartModelOperationOutcome) :=
  (state.restarts.find? restart).bind (fun call =>
    match call.phase with
    | .returned answer => some answer
    | _ => none)

theorem RacingState.answer_setPhase {restart : RestartId} {call : RestartCall}
    {answer : Except ModelStoreFailure RestartModelOperationOutcome}
    (found : state.restarts.find? restart = some call) :
    (state.setPhase restart (.returned answer)).answer restart =
      some answer := by
  simp [RacingState.answer, RacingState.setPhase, found]

theorem insertRestarted_outcome {clock : DatabaseClock}
    {input : RestartModelOperationStoreInput} {source : ModelOperationRow}
    {outcome : RestartModelOperationOutcome} {db db' : ModelDatabase}
    (inserted : insertRestarted clock input source db = .ok (outcome, db')) :
    outcome = .restarted input.restartedOperationId := by
  obtain ⟨reserved, _, inserting⟩ := bind_eq_ok.mp inserted
  obtain ⟨written, _, rest⟩ := bind_eq_ok.mp inserting
  cases rest
  rfl

/-- A statement of a restart changes the tables only when the restart is
answered as restarted, and then it keeps every stored operation. -/
theorem RacingStep.statement {action : RacingAction}
    (consistent : state.Consistent dates)
    (statement : action.isStatement = true)
    (step : RacingStep dates state action state') :
    state'.model.database = state.model.database ∨
      ((∃ restart operationId, action = .insert restart ∧
        state'.answer restart = some (.ok (.restarted operationId))) ∧
        ∀ operationId row,
          state.model.database.operations.find? operationId = some row →
          state'.model.database.operations.find? operationId = some row) := by
  cases step with
  | acted => cases statement
  | began | advanced => exact .inl rfl
  | @inserted restart clock input source outcome database found inserted =>
      refine .inr ⟨⟨restart, input.restartedOperationId, rfl, ?_⟩, ?_⟩
      · have kept : (state.setDatabase database).restarts.find? restart =
            some ⟨clock, input, .granted source⟩ := found
        rw [RacingState.answer_setPhase kept,
          insertRestarted_outcome inserted]
      · have granted : SourceGranted state.model.database input source :=
          consistent.observed restart _ found
        have limit := (reachable_isRegistered consistent.atomic
          granted.stored).terms.explicitRestartLimit
        obtain ⟨_, effect⟩ := insertRestarted_eq_ok granted limit inserted
        intro operationId row present
        cases effect with
        | duplicate => exact present
        | restarted fresh _ _ _ _ reserves =>
            rw [← reserves.operations] at present
            exact Table.find?_push_of_some fresh present

/-- The lineage of restarts in every state of every run, whatever restarts race
on the same or on different sources. -/
theorem restart_lineage_kept
    (reached : (racingSystem dates).Reachable state) :
    (∀ operationId row sourceOperationId,
      state.model.database.operations.find? operationId = some row →
      row.restartedFromOperationId = some sourceOperationId →
      ∃ source,
        state.model.database.operations.find? sourceOperationId =
            some source ∧
          source.status = .outcomeUnknown ∧
            row.toModelOperationTerms.RestartOf sourceOperationId
              source.toModelOperationTerms) ∧
      (∀ operationId row,
        state.model.database.operations.find? operationId = some row →
        (state.model.database.lineageRestarts row.rootOperationId).length ≤
          row.explicitRestartLimit) ∧
      (∀ action state', action.isStatement = true →
        (racingSystem dates).next state action = some state' →
        state'.model.database = state.model.database ∨
          ((∃ restart operationId, action = .insert restart ∧
            state'.answer restart = some (.ok (.restarted operationId))) ∧
            ∀ operationId row,
              state.model.database.operations.find? operationId = some row →
              state'.model.database.operations.find? operationId =
                some row)) ∧
      (∀ input source,
        state.model.database.operations.find? input.sourceOperationId =
          some source →
        source.userId ≠ input.userId →
        state.model.database.lockSource input =
          .error (.notFound input.sourceOperationId)) ∧
      ∀ restart call outcome clock,
        state.restarts.find? restart = some call →
        call.phase = .returned (.ok outcome) →
        state.model.database.restart clock call.input =
          .ok (.duplicate call.input.restartedOperationId,
            state.model.database) := by
  have consistent := reachable_consistent reached
  have lineages := reachable_lineages consistent.atomic
  refine ⟨lineages.sources, ?_, ?_, ?_, ?_⟩
  · intro operationId row found
    rw [(reachable_isRegistered consistent.atomic
      found).terms.explicitRestartLimit]
    exact lineages.limited row.rootOperationId
  · intro action state' statement taken
    exact (racingStep_of_next taken).statement consistent statement
  · intro input source found foreign
    simp [lockSource, readOperationForUpdate, require, found, foreign, bind,
      Except.bind]
  · intro restart call outcome clock found returned
    have observed := consistent.observed restart call found
    unfold RestartCall.Observed at observed
    rw [returned] at observed
    exact RestartStored.restart_eq_duplicate observed clock

def sampleRestart : RestartModelOperationStoreInput :=
  { restartedOperationId := ⟨5⟩
    sourceOperationId := sampleOperation
    userId := sampleUser }

/-- A first restart is inserted while a second one, for another identifier,
comes second at the lock of the same source. -/
def racingRun : List RacingAction :=
  [.act (.prepare (sampleClock 0) sampleRequest),
    .act (.claim 0 sampleOperation (sampleClock 10) 10 ⟨3⟩),
    .act (.respond 0 (.error .modelProviderConnectionLost)),
    .act (.complete 0 (sampleClock 100) 100),
    .lockSource 0 (sampleClock 200) sampleRestart,
    .lookUp 0,
    .countLineage 0,
    .insert 0,
    .lockSource 1 (sampleClock 210)
      { sampleRestart with restartedOperationId := ⟨6⟩ },
    .lookUp 1,
    .countLineage 1]

theorem racingStart_initial (dates : DateBuiltins) :
    (racingSystem dates).Initial { model := sampleStart } :=
  ⟨sampleStart, sampleStart_initial dates, rfl⟩

theorem restart_lineage_kept_raced :
    ∃ state restarted,
      (racingSystem sampleDates).Reachable state ∧
      state.model.database.operations.find? ⟨5⟩ = some restarted ∧
        restarted.restartedFromOperationId = some sampleOperation ∧
          (∃ source,
            state.model.database.operations.find? sampleOperation =
                some source ∧
              source.status = .outcomeUnknown ∧
                restarted.toModelOperationTerms.RestartOf sampleOperation
                  source.toModelOperationTerms) ∧
            (state.model.database.lineageRestarts
              restarted.rootOperationId).length ≤
                restarted.explicitRestartLimit := by
  obtain ⟨state, reached, tested⟩ := System.exists_reachable_of_run
    racingRun
    (fun state => (state.model.database.operations.find? ⟨5⟩).any
      (fun row => row.restartedFromOperationId = some sampleOperation))
    (racingStart_initial sampleDates) (by decide +kernel)
  obtain ⟨restarted, found, from_sample⟩ := (Option.any_eq_true _ _).mp tested
  have restartedFrom : restarted.restartedFromOperationId =
      some sampleOperation := by simpa using from_sample
  have kept := restart_lineage_kept reached
  exact ⟨state, restarted, reached, found, restartedFrom,
    kept.1 _ restarted _ found restartedFrom, kept.2.1 _ restarted found⟩

end Returns

end XpensGo
