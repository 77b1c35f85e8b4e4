import XpensGo.Model.PreparedOnce
import XpensGo.Model.Lineage
import XpensGo.Model.Registration

/-!
# The request behind an operation identifier

Calls of `prepare` with any requests, statement by statement, among the other
transactions of the store.  Both looks at an identifier compare the digest that
the caller supplies, and nothing else of the request.  A request that reuses the
identifier of a different operation is refused unless it brings the stored
digest; then the operation is taken for its own duplicate.
-/

namespace XpensGo

open EcmaScript Postgres Relational Transition

/-- The operation that a request asks for. -/
structure ModelOperationTerms.IsRequested (terms : ModelOperationTerms)
    (request : PrepareModelOperationRequest) : Prop where
  userId : terms.userId = request.userId
  operation : terms.operation = request.operation
  provider : terms.provider = request.provider
  canonicalInput : terms.canonicalInput = request.canonicalInput

/-- An accepted request, and the clock that its transaction reads. -/
structure PrepareCall where
  clock : DatabaseClock
  request : PrepareModelOperationRequest
  input : PrepareModelOperationStoreInput
  accepted : request.storeInput = .ok input

/-- The transactions of the store that are not calls of `prepare`. -/
inductive OtherTransaction where
  | claim (clock : DatabaseClock) (operationId : ModelOperationId)
      (workerNow : Int) (generated : ModelAttemptId)
  | complete (clock : DatabaseClock) (input : CompleteModelOperationInput)
      (workerNow : Int)
  | restart (clock : DatabaseClock) (input : RestartModelOperationStoreInput)

namespace OtherTransaction

/-- The rows that a transaction leaves. -/
def run : OtherTransaction → ModelDatabase → ModelDatabase
  | .claim clock operationId workerNow generated, db =>
      (withTransaction
        (ModelDatabase.claim clock operationId workerNow generated) db).2
  | .complete clock input workerNow, db =>
      (withTransaction (ModelDatabase.complete clock input workerNow) db).2
  | .restart clock input, db =>
      (withTransaction (ModelDatabase.restart clock input) db).2

/-- The identifier under which a transaction may insert an operation. -/
def inserts : OtherTransaction → Option ModelOperationId
  | .claim _ _ _ _ | .complete _ _ _ => none
  | .restart _ input => some input.restartedOperationId

end OtherTransaction

abbrev PrepareRequests :=
  Sessions ModelDatabase PrepareLock PrepareCall PreparePhase PrepareAnswer

abbrev RequestTransaction :=
  Transaction ModelDatabase PrepareLock PrepareCall PreparePhase

inductive RequestAction where
  | call (action : SessionAction PrepareCall)
  | other (transaction : OtherTransaction)

def requestProgram :
    Program ModelDatabase PrepareLock PrepareCall PreparePhase PrepareAnswer :=
  { start := .checking
    instruction := fun call => prepareInstruction call.input call.clock }

/-- Some running call has inserted an operation under an identifier. -/
def isInserting (state : PrepareRequests)
    (operationId : ModelOperationId) : Bool :=
  !(state.sessions.select (fun _ running =>
    running.holds (.operation operationId))).isEmpty

/-- An insertion waits for the end of a call that has inserted the same
identifier. -/
def requestNext (state : PrepareRequests) :
    RequestAction → Option PrepareRequests
  | .call action => requestProgram.next state action
  | .other transaction =>
      if transaction.inserts.any (isInserting state) then
        none
      else
        some { state with committed := transaction.run state.committed }

/-- Any requests, on any stored rows. -/
def requestSystem : System PrepareRequests RequestAction :=
  { Initial := fun state => ∃ rows, state = { committed := rows }
    next := requestNext }

/-- The phases that look at the identifier. -/
def PreparePhase.looks : PreparePhase → Bool
  | .checking | .rechecking _ _ => true
  | _ => false

/-- A call that looks at its identifier finds no operation of its digest that
it did not ask for. -/
def LooksAtOwn (state : PrepareRequests) : RequestAction → Prop
  | .call (.step session) =>
      ∀ (transaction : RequestTransaction) row,
        state.sessions.find? session = some (.running transaction) →
        transaction.phase.looks = true →
        state.committed.operations.find?
          transaction.parameter.input.operationId = some row →
        row.inputDigest = transaction.parameter.input.inputDigest →
        row.IsRequested transaction.parameter.request
  | .call (.start _ _) | .other _ => True

section Commits

/-- What a commit may do to the operations: the stored ones keep their terms,
and one at most is inserted. -/
structure CommitsOperations (inserted : Option ModelOperationId)
    (db db' : ModelDatabase) : Prop where
  users : db'.users = db.users
  terms : TermsPersist db db'
  unused : ∀ operationId, inserted ≠ some operationId →
    db.operations.find? operationId = none →
    db'.operations.find? operationId = none

variable {db db' : ModelDatabase}

theorem commitsOperations_of_eq (inserted : Option ModelOperationId)
    (users : db'.users = db.users)
    (operations : db'.operations = db.operations) :
    CommitsOperations inserted db db' where
  users := users
  terms := by
    intro operationId row found
    exact ⟨row, by rw [operations]; exact found, rfl⟩
  unused := by
    intro operationId _ absent
    rw [operations]
    exact absent

private theorem unused_of_modify {changed operationId : ModelOperationId}
    {set : ModelOperationRow → ModelOperationRow}
    (written : db'.operations = db.operations.modify changed set)
    (absent : db.operations.find? operationId = none) :
    db'.operations.find? operationId = none := by
  rw [written, Table.find?_modify]
  split
  · rw [absent]
    rfl
  · exact absent

private theorem unused_of_push {pushed operationId : ModelOperationId}
    {row : ModelOperationRow}
    (fresh : pushed ∉ db.operations.rows.map Prod.fst)
    (different : some pushed ≠ some operationId)
    (absent : db.operations.find? operationId = none) :
    (db.operations.push pushed row fresh).find? operationId = none := by
  rw [Table.find?_push, if_neg (fun same => different (congrArg some same.symm))]
  exact absent

private theorem release_users {row : ModelOperationRow} {settlement : Int} :
    (db.release row settlement).users = db.users := by
  unfold ModelDatabase.release
  split <;> rfl

private theorem claim_commits {clock : DatabaseClock} {workerNow : Int}
    {generated : ModelAttemptId} {operationId : ModelOperationId}
    {outcome : ClaimModelOperationOutcome}
    (claims : ModelDatabase.ClaimEffect clock workerNow generated operationId
      db outcome db') :
    CommitsOperations none db db' where
  users := by
    cases claims with
    | stored | leased | waiting | expired => rfl
    | rejected => exact release_users
    | dispatched _ _ _ _ _ passed =>
        obtain ⟨dispatchCounters, rfl⟩ := passed.counted
        rfl
  terms := claims.termsPersist
  unused := by
    intro other _ absent
    rcases claims.rewrites with same | ⟨row, set, rewrites⟩
    · rw [same]
      exact absent
    · exact unused_of_modify rewrites.operations absent

private theorem complete_commits {clock : DatabaseClock} {workerNow : Int}
    {input : CompleteModelOperationInput}
    {completion : ModelOperationCompletion}
    (completes : ModelDatabase.CompleteEffect clock workerNow input db
      completion db') :
    CommitsOperations none db db' where
  users := by
    cases completes with
    | stale | scheduled => rfl
    | settled =>
        rw [ModelDatabase.setOperation_users]
        unfold ModelDatabase.releaseSettled
        split
        · rfl
        · exact release_users
  terms := completes.termsPersist
  unused := by
    intro other _ absent
    rcases completes.rewrites with same | ⟨row, set, rewrites⟩
    · rw [same]
      exact absent
    · exact unused_of_modify rewrites.operations absent

private theorem restart_commits {clock : DatabaseClock}
    {input : RestartModelOperationStoreInput}
    {outcome : RestartModelOperationOutcome}
    (restarts : ModelDatabase.RestartEffect clock input db outcome db') :
    CommitsOperations (some input.restartedOperationId) db db' where
  users := by
    cases restarts with
    | duplicate => rfl
    | restarted _ _ _ _ _ reserves =>
        have same := reserves.users
        exact same
  terms := restarts.termsPersist
  unused := by
    intro other different absent
    cases restarts with
    | duplicate => exact absent
    | restarted fresh _ _ _ _ reserves =>
        apply unused_of_push fresh different
        rw [reserves.operations]
        exact absent

theorem OtherTransaction.commits (transaction : OtherTransaction)
    (db : ModelDatabase) :
    CommitsOperations transaction.inserts db (transaction.run db) := by
  cases transaction with
  | claim clock operationId workerNow generated =>
      simp only [OtherTransaction.run]
      rcases withTransaction_cases
        (ModelDatabase.claim clock operationId workerNow generated) db with
        ⟨failure, _, same⟩ | ⟨outcome, committed, claimed, same⟩
      · rw [same]
        exact commitsOperations_of_eq _ rfl rfl
      · rw [same]
        exact claim_commits (ModelDatabase.claim_eq_ok claimed)
  | complete clock input workerNow =>
      simp only [OtherTransaction.run]
      rcases withTransaction_cases
        (ModelDatabase.complete clock input workerNow) db with
        ⟨failure, _, same⟩ | ⟨completion, committed, completed, same⟩
      · rw [same]
        exact commitsOperations_of_eq _ rfl rfl
      · rw [same]
        exact complete_commits (ModelDatabase.complete_eq_ok completed)
  | restart clock input =>
      simp only [OtherTransaction.run]
      rcases withTransaction_cases (ModelDatabase.restart clock input) db with
        ⟨failure, _, same⟩ | ⟨outcome, committed, restarted, same⟩
      · rw [same]
        exact commitsOperations_of_eq _ rfl rfl
      · rw [same]
        exact restart_commits (ModelDatabase.restart_eq_ok restarted)

end Commits

section Requests

/-- Writes that touch no operation. -/
def KeepsOperations (writes : ModelDatabase → ModelDatabase) : Prop :=
  ∀ db, (writes db).operations = db.operations ∧ (writes db).users = db.users

/-- The phases of a call that has not met its end. -/
def PreparePhase.isOpen : PreparePhase → Bool
  | .committing _ | .failing _ => false
  | _ => true

/-- What is known of a running call: it has written no operation, or it has
inserted its own under an identifier that it keeps from the others. -/
inductive RequestHolds (committed : ModelDatabase) (call : PrepareCall)
    (locks : List PrepareLock) :
    PreparePhase → (ModelDatabase → ModelDatabase) → Prop where
  | searching {phase : PreparePhase}
      {writes : ModelDatabase → ModelDatabase} :
      phase.isOpen = true →
      KeepsOperations writes →
      RequestHolds committed call locks phase writes
  | duplicate {row : ModelOperationRow}
      {writes : ModelDatabase → ModelDatabase} :
      KeepsOperations writes →
      committed.operations.find? call.input.operationId = some row →
      row.inputDigest = call.input.inputDigest →
      RequestHolds committed call locks
        (.committing (.duplicate call.input.operationId)) writes
  | prepared {earlier : ModelDatabase → ModelDatabase} :
      KeepsOperations earlier →
      .operation call.input.operationId ∈ locks →
      call.input.userId ∈ committed.users →
      (call.input.preparedRow call.clock).accepted = true →
      committed.operations.find? call.input.operationId = none →
      RequestHolds committed call locks
        (.committing (.prepared call.input.operationId))
        (fun db => ((earlier db).insertOperation call.input.operationId
          (call.input.preparedRow call.clock)).getD (earlier db))
  | failing {failure : ModelStoreFailure}
      {writes : ModelDatabase → ModelDatabase} :
      RequestHolds committed call locks (.failing failure) writes

variable {committed committed' : ModelDatabase} {call : PrepareCall}
  {locks locks' : List PrepareLock} {phase : PreparePhase}
  {writes : ModelDatabase → ModelDatabase}

/-- A commit that does not insert the identifier of a call changes nothing of
what is known of it. -/
theorem RequestHolds.commits {inserted : Option ModelOperationId}
    (holds : RequestHolds committed call locks phase writes)
    (commits : CommitsOperations inserted committed committed')
    (apart : .operation call.input.operationId ∈ locks →
      inserted ≠ some call.input.operationId) :
    RequestHolds committed' call locks phase writes := by
  cases holds with
  | searching isOpen keeps => exact .searching isOpen keeps
  | duplicate keeps found digest =>
      obtain ⟨row, still, terms⟩ := commits.terms _ _ found
      refine .duplicate keeps still ?_
      rw [terms]
      exact digest
  | prepared keeps locked known valid unused =>
      refine .prepared keeps locked ?_ valid ?_
      · rw [commits.users]
        exact known
      · exact commits.unused _ (apart locked) unused
  | failing => exact .failing

private theorem keepsOperations_openAccount {key : BudgetAccountKey}
    {ceiling : Nat} (keeps : KeepsOperations writes) :
    KeepsOperations (fun db => (writes db).openAccount key ceiling) :=
  fun db => keeps db

private theorem keepsOperations_chargeAccounts {charge : BudgetCharge}
    {reservation : Int} (keeps : KeepsOperations writes) :
    KeepsOperations (fun db =>
      ((writes db).chargeAccounts charge reservation).getD (writes db)) := by
  intro db
  simp only
  cases charged : (writes db).chargeAccounts charge reservation with
  | none => exact keeps db
  | some reserved =>
      cases ModelDatabase.chargeAccounts_eq_some charged
      exact keeps db

/-- A look at the identifier finds the digest of the call, another digest or
nothing. -/
private theorem RequestHolds.look {fresh : PreparePhase}
    (keeps : KeepsOperations writes)
    (unmet : RequestHolds committed call locks fresh writes) :
    RequestHolds committed call locks
      (PreparePhase.afterLook fresh
        ((writes committed).duplicatePrepare call.input)) writes := by
  unfold ModelDatabase.duplicatePrepare
  rw [(keeps committed).1]
  cases found : committed.operations.find? call.input.operationId with
  | none => exact unmet
  | some row =>
      simp only
      split
      · exact .failing
      · rename_i same
        exact .duplicate keeps found (by simpa using same)

private theorem RequestHolds.insert (keeps : KeepsOperations writes)
    (locked : .operation call.input.operationId ∈ locks) :
    RequestHolds committed call locks
      (PreparePhase.afterWrite
        (.committing (.prepared call.input.operationId))
        ((writes committed).insertOperation call.input.operationId
          (call.input.preparedRow call.clock)))
      (fun db => ((writes db).insertOperation call.input.operationId
        (call.input.preparedRow call.clock)).getD (writes db)) := by
  cases inserted : (writes committed).insertOperation call.input.operationId
    (call.input.preparedRow call.clock) with
  | none => exact .failing
  | some db =>
      obtain ⟨known, fresh, _⟩ := ModelDatabase.insertOperation_eq_some inserted
      refine .prepared keeps locked ?_
        (ModelDatabase.insertOperation_checks inserted).2 ?_
      · rw [← (keeps committed).2]
        exact known
      · rw [← (keeps committed).1]
        exact Table.find?_eq_none_iff.mpr fresh

private theorem isOpen_afterCheck (input : PrepareModelOperationStoreInput) :
    (PreparePhase.afterCheck input).isOpen = true := by
  unfold PreparePhase.afterCheck
  split <;> rfl

/-- A statement keeps what is known of its call. -/
theorem RequestHolds.execute {lock : ModelDatabase → Option PrepareLock}
    {write : ModelDatabase → ModelDatabase}
    {next : ModelDatabase → PreparePhase}
    (holds : RequestHolds committed call locks phase writes)
    (instruction : prepareInstruction call.input call.clock phase =
      .statement lock write next) :
    RequestHolds committed call
      ((lock (writes committed)).toList ++ locks) (next (writes committed))
      (fun rows => write (writes rows)) := by
  cases holds with
  | duplicate | prepared | failing => cases instruction
  | searching isOpen keeps =>
      cases phase with
      | checking =>
          cases instruction
          exact .look keeps (.searching (isOpen_afterCheck call.input) keeps)
      | insertingEnvironment | insertingUser =>
          cases instruction
          exact .searching rfl (keepsOperations_openAccount keeps)
      | lockingEnvironment =>
          cases instruction
          exact .searching rfl keeps
      | lockingUser environmentBudget =>
          cases instruction
          simp only [PreparePhase.afterLocks]
          split
          · exact .failing
          · exact .searching rfl keeps
      | rechecking environmentBudget userBudget =>
          cases instruction
          apply RequestHolds.look keeps
          unfold PreparePhase.afterBudgets
          split
          · exact .failing
          · exact .searching rfl keeps
      | reserving =>
          cases instruction
          simp only [PreparePhase.afterWrite]
          split
          · exact .searching rfl (keepsOperations_chargeAccounts keeps)
          · exact .failing
      | inserting =>
          cases instruction
          exact .insert keeps (List.mem_append_left _ (Option.mem_toList.mpr rfl))
      | committing outcome | failing failure => cases isOpen

end Requests

section Steps

variable {state state' : PrepareRequests} {action : RequestAction}

/-- The steps of the calls and of the other transactions. -/
inductive RequestStep (state : PrepareRequests) :
    RequestAction → PrepareRequests → Prop where
  | called {action : SessionAction PrepareCall} {state' : PrepareRequests} :
      SessionStep requestProgram state action state' →
      RequestStep state (.call action) state'
  | other {transaction : OtherTransaction} :
      (∀ session (running : RequestTransaction),
        state.sessions.find? session = some (.running running) →
        ∀ operationId, .operation operationId ∈ running.locks →
          transaction.inserts ≠ some operationId) →
      RequestStep state (.other transaction)
        { state with committed := transaction.run state.committed }

theorem requestStep_of_next
    (taken : requestSystem.next state action = some state') :
    RequestStep state action state' := by
  change requestNext state action = some state' at taken
  cases action with
  | call action =>
      have moved : (requestProgram.system (fun _ => True)).next state action =
        some state' := taken
      exact .called (sessionStep_of_next moved)
  | other transaction =>
      simp only [requestNext] at taken
      split at taken
      · cases taken
      · rename_i free
        cases taken
        apply RequestStep.other
        intro session running found operationId held inserts
        apply free
        rw [inserts, Option.any_some, isInserting, Bool.not_eq_true']
        by_contra empty
        have unheld := Table.select_isEmpty_iff.mp (by simpa using empty)
          session _ found
        simp [Session.holds, held] at unheld

/-- What is known of the calls that are running. -/
structure RequestsHold (state : PrepareRequests) : Prop where
  exclusive : state.LocksExclusive
  running : ∀ session (transaction : RequestTransaction),
    state.sessions.find? session = some (.running transaction) →
    RequestHolds state.committed transaction.parameter transaction.locks
      transaction.phase transaction.writes

private theorem storeInput_keeps {request : PrepareModelOperationRequest}
    {input : PrepareModelOperationStoreInput}
    (accepted : request.storeInput = .ok input) (clock : DatabaseClock) :
    (input.preparedRow clock).IsRequested request := by
  have sent := storeInput_eq_ok accepted
  exact ⟨sent.userId, sent.operation, sent.provider, sent.canonicalInput⟩

private theorem RequestHolds.commit {committed : ModelDatabase}
    {call : PrepareCall} {locks : List PrepareLock}
    {outcome : PrepareModelOperationOutcome}
    {writes : ModelDatabase → ModelDatabase}
    (holds : RequestHolds committed call locks (.committing outcome) writes) :
    (∃ inserted, CommitsOperations inserted committed (writes committed) ∧
      ∀ operationId, inserted = some operationId →
        .operation operationId ∈ locks) ∧
      (outcome = .duplicate call.input.operationId ∨
        committed.operations.find? call.input.operationId = none ∧
          ∃ row, (writes committed).operations.find? call.input.operationId =
              some row ∧
            row.IsRequested call.request) := by
  cases holds with
  | searching isOpen => cases isOpen
  | duplicate keeps =>
      refine ⟨⟨none, ?_, ?_⟩, .inl rfl⟩
      · exact commitsOperations_of_eq _ (keeps _).2 (keeps _).1
      · intro operationId inserts
        cases inserts
  | @prepared earlier keeps locked known valid unused =>
      have fresh : call.input.operationId ∉
          (earlier committed).operations.rows.map Prod.fst := by
        apply Table.find?_eq_none_iff.mp
        rw [(keeps committed).1]
        exact unused
      have inserted : ((earlier committed).insertOperation
          call.input.operationId (call.input.preparedRow call.clock)).getD
            (earlier committed) =
          { earlier committed with
            operations := (earlier committed).operations.push
              call.input.operationId (call.input.preparedRow call.clock)
                fresh } := by
        rw [insertOperation_isSome _ valid fresh]
        · rfl
        · rw [(keeps committed).2]
          exact known
      refine ⟨⟨some call.input.operationId, ?_, ?_⟩, .inr ⟨unused, ?_⟩⟩
      · beta_reduce
        rw [inserted]
        refine ⟨(keeps committed).2, ?_, ?_⟩
        · intro other row found
          rw [← (keeps committed).1] at found
          exact ⟨row, Table.find?_push_of_some fresh found, rfl⟩
        · intro other different absent
          rw [← (keeps committed).1] at absent
          exact unused_of_push fresh different absent
      · intro operationId same
        cases same
        exact locked
      · beta_reduce
        rw [inserted]
        exact ⟨_, Table.find?_push_self _ _ fresh,
          storeInput_keeps call.accepted call.clock⟩

theorem RequestsHold.step (holds : RequestsHold state)
    (step : RequestStep state action state') : RequestsHold state' := by
  cases step with
  | @other transaction apart =>
      refine ⟨holds.exclusive, ?_⟩
      intro session running found
      exact (holds.running session running found).commits
        (transaction.commits state.committed) (apart session running found _)
  | called step =>
      refine ⟨step.locksExclusive holds.exclusive, ?_⟩
      apply Sessions.RunningMeet.step
        (J := fun committed (running : RequestTransaction) =>
          RequestHolds committed running.parameter running.locks running.phase
            running.writes)
        holds.running holds.exclusive ?_ ?_ ?_ step
      · intro call
        exact .searching rfl (fun _ => ⟨rfl, rfl⟩)
      · intro running lock write next held instruction
        exact held.execute instruction
      · intro ending running answer held instruction other apart
        obtain ⟨call, phase, writes, locks⟩ := ending
        cases phase with
        | committing outcome =>
            obtain ⟨⟨inserted, commits, locked⟩, _⟩ := held.commit
            apply other.commits commits
            intro holding inserts
            exact apart _ holding (locked _ inserts)
        | _ => cases instruction

theorem reachable_requestsHold (reached : requestSystem.Reachable state) :
    RequestsHold state := by
  refine System.Reachable.invariant ?_ ?_ reached
  · rintro state ⟨rows, rfl⟩
    refine ⟨?_, ?_⟩
    · intro session transaction lock found
      simp at found
    · intro session transaction found
      simp at found
  · intro state action state' _ holds taken
    exact holds.step (requestStep_of_next taken)

theorem RequestStep.termsPersist (holds : RequestsHold state)
    (step : RequestStep state action state') :
    TermsPersist state.committed state'.committed := by
  have unchanged : TermsPersist state.committed state.committed :=
    fun _ row found => ⟨row, found, rfl⟩
  cases step with
  | @other transaction apart => exact (transaction.commits state.committed).terms
  | called step =>
      cases step with
      | started | executed | rolledBack => exact unchanged
      | @committed session transaction answer found instruction =>
          obtain ⟨call, phase, writes, locks⟩ := transaction
          have held := holds.running session _ found
          cases phase with
          | committing outcome =>
              obtain ⟨⟨inserted, commits, locked⟩, _⟩ := held.commit
              exact commits.terms
          | _ => cases instruction

end Steps

section SharedOperations

/-- A request adopts no operation but its own, and one that it did not ask for
keeps it from every success. -/
structure IdentityKept (state : PrepareRequests) : Prop where
  answered : ∀ session (transaction : RequestTransaction) outcome state',
    state.sessions.find? session = some (.running transaction) →
    requestSystem.next state (.call (.step session)) = some state' →
    state'.sessions.find? session = some (.ended (.ok outcome)) →
    ∃ row, state'.committed.operations.find?
        transaction.parameter.input.operationId = some row ∧
      row.IsRequested transaction.parameter.request
  refused : ∀ session (transaction : RequestTransaction) row answer state',
    state.sessions.find? session = some (.running transaction) →
    state.committed.operations.find?
      transaction.parameter.input.operationId = some row →
    ¬row.IsRequested transaction.parameter.request →
    requestSystem.next state (.call (.step session)) = some state' →
    state'.sessions.find? session = some (.ended answer) →
    (∃ failure, answer = .error failure) ∧ state'.committed = state.committed
  quiet : ∀ session state',
    requestSystem.next state (.call (.step session)) = some state' →
    state'.committed ≠ state.committed →
    ∃ outcome, state'.sessions.find? session = some (.ended (.ok outcome))
  persists : ∀ action state',
    requestSystem.next state action = some state' →
    TermsPersist state.committed state'.committed

/-- A call that is about to answer with a duplicate found what it asked for. -/
def AdoptsOwn (state : PrepareRequests) : Prop :=
  ∀ session (transaction : RequestTransaction) operationId,
    state.sessions.find? session = some (.running transaction) →
    transaction.phase = .committing (.duplicate operationId) →
    ∃ row, state.committed.operations.find?
        transaction.parameter.input.operationId = some row ∧
      row.IsRequested transaction.parameter.request

variable {state state' : PrepareRequests} {action : RequestAction}

private theorem requested_persists {db db' : ModelDatabase}
    {operationId : ModelOperationId} {request : PrepareModelOperationRequest}
    (persist : TermsPersist db db')
    (requested : ∃ row, db.operations.find? operationId = some row ∧
      row.IsRequested request) :
    ∃ row, db'.operations.find? operationId = some row ∧
      row.IsRequested request := by
  obtain ⟨row, found, asked⟩ := requested
  obtain ⟨row', still, terms⟩ := persist operationId row found
  refine ⟨row', still, ?_⟩
  rw [terms]
  exact asked

private theorem duplicate_of_look {call : PrepareCall} {phase : PreparePhase}
    {lock : ModelDatabase → Option PrepareLock}
    {write : ModelDatabase → ModelDatabase}
    {next : ModelDatabase → PreparePhase} {view : ModelDatabase}
    {operationId : ModelOperationId}
    (instruction : prepareInstruction call.input call.clock phase =
      .statement lock write next)
    (becomes : next view = .committing (.duplicate operationId)) :
    phase.looks = true ∧ ∃ row,
      view.operations.find? call.input.operationId = some row ∧
        row.inputDigest = call.input.inputDigest := by
  have looked : ∀ fresh : PreparePhase,
      fresh ≠ .committing (.duplicate operationId) →
      PreparePhase.afterLook fresh (view.duplicatePrepare call.input) =
        .committing (.duplicate operationId) →
      ∃ row, view.operations.find? call.input.operationId = some row ∧
        row.inputDigest = call.input.inputDigest := by
    intro fresh other same
    unfold ModelDatabase.duplicatePrepare at same
    split at same
    · exact (other same).elim
    · rename_i row found
      split at same
      · cases same
      · rename_i digest
        exact ⟨row, found, by simpa using digest⟩
  cases phase with
  | checking =>
      cases instruction
      refine ⟨rfl, looked _ ?_ becomes⟩
      unfold PreparePhase.afterCheck
      split <;> simp
  | rechecking environmentBudget userBudget =>
      cases instruction
      refine ⟨rfl, looked _ ?_ becomes⟩
      unfold PreparePhase.afterBudgets
      split <;> simp
  | insertingEnvironment | insertingUser | lockingEnvironment =>
      cases instruction
      cases becomes
  | lockingUser environmentBudget =>
      cases instruction
      simp only [PreparePhase.afterLocks] at becomes
      split at becomes <;> cases becomes
  | reserving | inserting =>
      cases instruction
      simp only [PreparePhase.afterWrite] at becomes
      split at becomes <;> cases becomes
  | committing outcome | failing failure => cases instruction

private theorem RequestHolds.operations_of_looks {committed : ModelDatabase}
    {call : PrepareCall} {locks : List PrepareLock} {phase : PreparePhase}
    {writes : ModelDatabase → ModelDatabase}
    (holds : RequestHolds committed call locks phase writes)
    (looks : phase.looks = true) :
    (writes committed).operations = committed.operations := by
  cases holds with
  | searching _ keeps => exact (keeps committed).1
  | duplicate | prepared | failing => cases looks

theorem AdoptsOwn.step (adopts : AdoptsOwn state) (holds : RequestsHold state)
    (own : LooksAtOwn state action) (step : RequestStep state action state') :
    AdoptsOwn state' := by
  have persist := step.termsPersist holds
  intro other running operationId present duplicate
  cases step with
  | other apart =>
      exact requested_persists persist
        (adopts other running operationId present duplicate)
  | called step =>
      cases step with
      | started absent =>
          rcases Sessions.find?_start absent present with
            ⟨_, same⟩ | ⟨_, earlier⟩
          · cases same
            cases duplicate
          · exact adopts other running operationId earlier duplicate
      | @executed session transaction lock write next found instruction =>
          rcases Sessions.find?_setSession present with
            ⟨_, same⟩ | ⟨_, earlier⟩
          · cases same
            obtain ⟨looks, row, stored, digest⟩ :=
              duplicate_of_look instruction duplicate
            have operations :=
              (holds.running session transaction found).operations_of_looks
                looks
            change (transaction.writes state.committed).operations.find? _ = _
              at stored
            rw [operations] at stored
            exact ⟨row, stored, own transaction row found looks stored digest⟩
          · exact adopts other running operationId earlier duplicate
      | committed | rolledBack =>
          have earlier :
              state.sessions.find? other = some (.running running) := by
            rcases Sessions.find?_setSession present with
              ⟨_, same⟩ | ⟨_, earlier⟩
            · cases same
            · exact earlier
          exact requested_persists persist
            (adopts other running operationId earlier duplicate)

theorem reachable_adoptsOwn
    (reached : requestSystem.ReachableWhere LooksAtOwn state) :
    AdoptsOwn state := by
  refine System.ReachableWhere.invariant ?_ ?_ reached
  · rintro state ⟨rows, rfl⟩ session transaction operationId found
    simp at found
  · intro state action state' earlier adopts own taken
    exact adopts.step (reachable_requestsHold earlier.reachable) own
      (requestStep_of_next taken)

private theorem ended_of_step {session : SessionId}
    {transaction : RequestTransaction} {answer : PrepareAnswer}
    (found : state.sessions.find? session = some (.running transaction))
    (step : RequestStep state (.call (.step session)) state')
    (ended : state'.sessions.find? session = some (.ended answer)) :
    (∃ outcome, transaction.phase = .committing outcome ∧
        answer = .ok outcome ∧
        state'.committed = transaction.writes state.committed) ∨
      (∃ failure, answer = .error failure) ∧
        state'.committed = state.committed := by
  cases step with
  | called step =>
      cases step with
      | @executed _ running lock write next before instruction =>
          rw [Sessions.find?_setSession_self before] at ended
          cases ended
      | @committed _ running outcome before instruction =>
          cases before.symm.trans found
          obtain ⟨call, phase, writes, locks⟩ := transaction
          change (state.setSession session _).sessions.find? session = _
            at ended
          rw [Sessions.find?_setSession_self before] at ended
          cases ended
          cases phase with
          | committing outcome =>
              cases instruction
              exact .inl ⟨outcome, rfl, rfl, rfl⟩
          | _ => cases instruction
      | @rolledBack _ running outcome before instruction =>
          obtain ⟨call, phase, writes, locks⟩ := running
          rw [Sessions.find?_setSession_self before] at ended
          cases ended
          cases phase with
          | failing failure =>
              cases instruction
              exact .inr ⟨⟨failure, rfl⟩, rfl⟩
          | _ => cases instruction

private theorem quiet_step {session : SessionId}
    (step : RequestStep state (.call (.step session)) state')
    (changed : state'.committed ≠ state.committed) :
    ∃ outcome, state'.sessions.find? session = some (.ended (.ok outcome)) := by
  cases step with
  | called step =>
      cases step with
      | executed | rolledBack => exact (changed rfl).elim
      | @committed _ running outcome before instruction =>
          obtain ⟨call, phase, writes, locks⟩ := running
          cases phase with
          | committing outcome =>
              cases instruction
              exact ⟨outcome, Sessions.find?_setSession_self before⟩
          | _ => cases instruction

theorem identityKept_of_adoptsOwn (holds : RequestsHold state)
    (adopts : AdoptsOwn state) : IdentityKept state where
  answered := by
    intro session transaction outcome state' found taken ended
    have step := requestStep_of_next taken
    rcases ended_of_step found step ended with
      ⟨committing, phase, answer, committed⟩ | ⟨⟨failure, answer⟩, _⟩
    · cases answer
      have held := holds.running session transaction found
      rw [phase] at held
      rcases held.commit.2 with rfl | ⟨_, stored⟩
      · exact requested_persists (step.termsPersist holds)
          (adopts session transaction _ found phase)
      · rw [committed]
        exact stored
    · cases answer
  refused := by
    intro session transaction row answer state' found stored other taken ended
    have step := requestStep_of_next taken
    rcases ended_of_step found step ended with
      ⟨committing, phase, _⟩ | failed
    · have held := holds.running session transaction found
      rw [phase] at held
      rcases held.commit.2 with rfl | ⟨unused, _⟩
      · obtain ⟨own, present, asked⟩ :=
          adopts session transaction _ found phase
        rw [stored] at present
        cases present
        exact (other asked).elim
      · rw [stored] at unused
        cases unused
    · exact failed
  quiet := fun session state' taken => quiet_step (requestStep_of_next taken)
  persists := fun action state' taken =>
    (requestStep_of_next taken).termsPersist holds

/-- A look that finds its own digest under a different request adopts that
operation. -/
private theorem adopts_of_look (holds : RequestsHold state)
    (foreign : ¬LooksAtOwn state action) :
    ∃ session state' transaction row,
      requestSystem.next state action = some state' ∧
        state'.sessions.find? session = some (.running transaction) ∧
        transaction.phase = .committing
          (.duplicate transaction.parameter.input.operationId) ∧
        state'.committed.operations.find?
          transaction.parameter.input.operationId = some row ∧
        ¬row.IsRequested transaction.parameter.request := by
  cases action with
  | other transaction => exact (foreign trivial).elim
  | call action =>
      cases action with
      | start session call => exact (foreign trivial).elim
      | step session =>
          simp only [LooksAtOwn, not_forall] at foreign
          obtain ⟨transaction, row, found, looks, stored, digest, other⟩ :=
            foreign
          have operations :=
            (holds.running session transaction found).operations_of_looks looks
          have duplicate : (transaction.view state.committed).duplicatePrepare
              transaction.parameter.input =
                some (.ok (.duplicate
                  transaction.parameter.input.operationId)) := by
            unfold ModelDatabase.duplicatePrepare Transaction.view
            rw [operations, stored]
            simp [digest]
          obtain ⟨fresh, instruction⟩ : ∃ fresh : PreparePhase,
              prepareInstruction transaction.parameter.input
                transaction.parameter.clock transaction.phase =
                .statement (fun _ => none) id (fun db =>
                  PreparePhase.afterLook fresh
                    (db.duplicatePrepare transaction.parameter.input)) := by
            cases phase : transaction.phase with
            | checking => exact ⟨_, rfl⟩
            | rechecking environmentBudget userBudget => exact ⟨_, rfl⟩
            | _ => simp [phase, PreparePhase.looks] at looks
          have moved : requestProgram.next state (.step session) = some _ :=
            Program.next_eq_executed found instruction (by simp)
          refine ⟨session, _, _, row, moved,
            Sessions.find?_setSession_self found, ?_, stored, other⟩
          simp [Transaction.execute, duplicate, PreparePhase.afterLook]

/-- As long as no call finds its own digest stored for a different request, no
request adopts an operation that it did not ask for.  Otherwise it does. -/
theorem operation_ids_unshared (state : PrepareRequests) :
    (requestSystem.ReachableWhere LooksAtOwn state → IdentityKept state) ∧
      ∀ action, requestSystem.Reachable state → ¬LooksAtOwn state action →
        ∃ session state' transaction row,
          requestSystem.next state action = some state' ∧
            state'.sessions.find? session = some (.running transaction) ∧
            transaction.phase = .committing
              (.duplicate transaction.parameter.input.operationId) ∧
            state'.committed.operations.find?
              transaction.parameter.input.operationId = some row ∧
            ¬row.IsRequested transaction.parameter.request := by
  constructor
  · intro reached
    exact identityKept_of_adoptsOwn (reachable_requestsHold reached.reachable)
      (reachable_adoptsOwn reached)
  · intro action reached foreign
    exact adopts_of_look (reachable_requestsHold reached) foreign

/-- A request for the sample operation, with one digest for every user. -/
def sampleCall (userId : UserId) (milliseconds : Int) : PrepareCall :=
  { clock := sampleClock milliseconds
    request := { sampleRequest with userId := userId }
    input := { preparedInput .openai with userId := userId }
    accepted := rfl }

/-- A request for the sample operation with a digest of its own. -/
def conflictingCall (userId : UserId) (milliseconds : Int) : PrepareCall :=
  { clock := sampleClock milliseconds
    request :=
      { sampleRequest with
        inputDigest := List.replicate 64 0x62
        userId := userId }
    input :=
      { preparedInput .openai with
        inputDigest := ⟨List.replicate 64 0x62, by decide⟩
        userId := userId }
    accepted := rfl }

def otherUser : UserId := ⟨9⟩

def requestsStart : PrepareRequests :=
  { committed := { users := [sampleUser, otherUser] } }

theorem requestsStart_initial : requestSystem.Initial requestsStart :=
  ⟨requestsStart.committed, rfl⟩

/-- One user's operation is stored, and another request looks at it. -/
def requestAfter (call : PrepareCall) : List RequestAction :=
  .call (.start 0 (sampleCall sampleUser 0)) ::
    List.replicate 9 (.call (.step 0)) ++
      [.call (.start 1 call), .call (.step 1)]

instance (terms : ModelOperationTerms)
    (request : PrepareModelOperationRequest) :
    Decidable (terms.IsRequested request) :=
  decidable_of_iff (terms.userId = request.userId ∧
      terms.operation = request.operation ∧
      terms.provider = request.provider ∧
      terms.canonicalInput = request.canonicalInput)
    ⟨fun ⟨userId, operation, provider, canonicalInput⟩ =>
      ⟨userId, operation, provider, canonicalInput⟩,
    fun asked => ⟨asked.userId, asked.operation, asked.provider,
      asked.canonicalInput⟩⟩

/-- A session answers with success on an operation that it did not ask
for. -/
def succeedsOnForeign (session : SessionId) (state : PrepareRequests) : Bool :=
  match state.sessions.find? session,
    requestNext state (.call (.step session)) with
  | some (.running call), some state' =>
      (state.committed.operations.find? call.parameter.input.operationId).any
        (fun row => !decide (row.IsRequested call.parameter.request)) &&
      match state'.sessions.find? session with
      | some (.ended (.ok _)) => true
      | _ => false
  | _, _ => false

private theorem not_identityKept_of_succeeds {session : SessionId}
    (succeeds : succeedsOnForeign session state = true) :
    ¬IdentityKept state := by
  intro kept
  simp only [succeedsOnForeign] at succeeds
  split at succeeds
  · rename_i call state' found taken
    rw [Bool.and_eq_true] at succeeds
    obtain ⟨foreign, ended⟩ := succeeds
    obtain ⟨row, stored, other⟩ := (Option.any_eq_true _ _).mp foreign
    split at ended
    · rename_i outcome answered
      obtain ⟨⟨failure, refused⟩, _⟩ := kept.refused session call row _ state'
        found stored (by simpa using other) taken answered
      cases refused
    · cases ended
  · cases succeeds

/-- Another user's request with the stored digest is told `Duplicate`. -/
theorem operation_of_another_user_adopted :
    ∃ state, requestSystem.Reachable state ∧ ¬IdentityKept state := by
  obtain ⟨state, reached, succeeds⟩ := System.exists_reachable_of_run
    (requestAfter (sampleCall otherUser 5)) (succeedsOnForeign 1)
    requestsStart_initial (by decide +kernel)
  exact ⟨state, reached, not_identityKept_of_succeeds succeeds⟩

def looksAtOwn (state : PrepareRequests) : RequestAction → Bool
  | .call (.step session) =>
      match state.sessions.find? session with
      | some (.running call) =>
          !call.phase.looks ||
            (state.committed.operations.find?
              call.parameter.input.operationId).all (fun row =>
                row.inputDigest ≠ call.parameter.input.inputDigest ||
                  decide (row.IsRequested call.parameter.request))
      | _ => true
  | .call (.start _ _) | .other _ => true

theorem looksAtOwn_sound (state : PrepareRequests) (action : RequestAction)
    (permitted : looksAtOwn state action = true) :
    LooksAtOwn state action := by
  cases action with
  | other transaction => trivial
  | call action =>
      cases action with
      | start session call => trivial
      | step session =>
          intro call row found looks stored digest
          simpa [looksAtOwn, found, looks, stored, digest] using permitted

def conflictAnswered (session : SessionId) (state : PrepareRequests) : Bool :=
  match state.sessions.find? session with
  | some (.ended (.error (.inputConflict operationId))) =>
      operationId = sampleOperation
  | _ => false

theorem operation_ids_unshared_conflict :
    ∃ state, conflictAnswered 1 state = true ∧ IdentityKept state := by
  obtain ⟨state, reached, answered⟩ := System.exists_reachableWhere_of_run
    (requestAfter (conflictingCall otherUser 5) ++ [.call (.step 1)])
    looksAtOwn (conflictAnswered 1) looksAtOwn_sound
    requestsStart_initial (by decide +kernel)
  exact ⟨state, answered, (operation_ids_unshared state).1 reached⟩

end SharedOperations

end XpensGo
