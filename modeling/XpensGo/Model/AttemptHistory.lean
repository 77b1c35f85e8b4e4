import XpensGo.Model.Registration

/-!
# The attempts of an operation

The attempts of every operation form a history: attempts that a transient rate
limit sent back for another dispatch, followed by at most one attempt of any
other kind.  Nothing checks `maximum_potentially_billable_attempts`; the bound
follows from the shape of the history.
-/

namespace XpensGo

open EcmaScript Postgres Relational Transition

/-- Rejected by a rate limit and scheduled for another dispatch. -/
def ModelAttemptRow.isRetried (attempt : ModelAttemptRow) : Bool :=
  attempt.status = .completed &&
    attempt.completionDisposition = some .explicitlyRejected &&
      attempt.observedFailure = some .modelProviderRateLimited &&
        attempt.retryPlan = .scheduleTransient429

def ModelAttemptRow.isFinal (attempt : ModelAttemptRow) : Bool :=
  attempt.status = .completed && attempt.retryPlan = .none

abbrev AttemptEntry := ModelAttemptId × ModelAttemptRow

/-- The attempts that belong to the status of an operation. -/
inductive AttemptTrail (row : ModelOperationRow) : List AttemptEntry → Prop
    where
  | waiting {retried : List AttemptEntry} :
      row.status = .prepared ∨ row.status = .retryScheduled →
      (∀ entry ∈ retried, entry.2.isRetried = true) →
      AttemptTrail row retried
  | dispatched {retried : List AttemptEntry} {current : ModelAttemptId}
      {attempt : ModelAttemptRow} :
      row.status = .dispatched →
      row.currentAttemptId = some current →
      (∀ entry ∈ retried, entry.2.isRetried = true) →
      attempt.status = .dispatched →
      attempt.retryPlan = .none →
      AttemptTrail row (retried ++ [(current, attempt)])
  | refused {retried : List AttemptEntry} :
      row.status.isTerminal = true →
      (∀ entry ∈ retried, entry.2.isRetried = true) →
      AttemptTrail row retried
  | answered {retried : List AttemptEntry} {last : ModelAttemptId}
      {attempt : ModelAttemptRow} :
      row.status.isTerminal = true →
      (∀ entry ∈ retried, entry.2.isRetried = true) →
      attempt.isFinal = true →
      AttemptTrail row (retried ++ [(last, attempt)])

/-- The attempts of one operation, in the order of their insertion. -/
structure AttemptHistory (row : ModelOperationRow)
    (attempts : List AttemptEntry) : Prop where
  ordinals : attempts.map (fun entry => entry.2.attemptOrdinal) =
    List.range' 1 row.httpDispatchCount
  bounded : row.httpDispatchCount ≤ row.maximumHttpDispatches
  retries : row.transientRateLimitRetriesUsed =
    attempts.countP (fun entry => entry.2.retryPlan = .scheduleTransient429)
  trail : AttemptTrail row attempts

namespace AttemptHistory

variable {row row' : ModelOperationRow} {attempts retried : List AttemptEntry}
  {current : ModelAttemptId} {attempt attempt' : ModelAttemptRow}

theorem start (fresh : row.httpDispatchCount = 0)
    (unused : row.transientRateLimitRetriesUsed = 0)
    (prepared : row.status = .prepared) : AttemptHistory row [] where
  ordinals := by simp [fresh]
  bounded := by omega
  retries := by simp [unused]
  trail := .waiting (.inl prepared) (by simp)

theorem waiting (history : AttemptHistory row attempts)
    (active : row.status = .prepared ∨ row.status = .retryScheduled) :
    ∀ entry ∈ attempts, entry.2.isRetried = true := by
  cases history.trail with
  | waiting _ retried => exact retried
  | dispatched dispatched =>
      rw [dispatched] at active
      rcases active with active | active <;> cases active
  | refused terminal retried => exact retried
  | answered terminal =>
      have unfinished :=
        ModelOperationStatus.isTerminal_eq_false_of_active active
      rw [unfinished] at terminal
      cases terminal

/-- A dispatched operation ends with its current attempt. -/
theorem ends_with_current (history : AttemptHistory row attempts)
    (dispatched : row.status = .dispatched)
    (claimed : row.currentAttemptId = some current) :
    ∃ retried attempt, attempts = retried ++ [(current, attempt)] ∧
      (∀ entry ∈ retried, entry.2.isRetried = true) ∧
        attempt.status = .dispatched ∧ attempt.retryPlan = .none := by
  cases history.trail with
  | waiting active =>
      rw [dispatched] at active
      rcases active with active | active <;> cases active
  | dispatched _ other retried running unplanned =>
      rw [claimed] at other
      cases other
      exact ⟨_, _, rfl, retried, running, unplanned⟩
  | refused terminal | answered terminal =>
      exact absurd dispatched
        (ModelOperationStatus.ne_dispatched_of_isTerminal terminal)

theorem refuse (history : AttemptHistory row attempts)
    (active : row.status = .prepared ∨ row.status = .retryScheduled)
    (clock : DatabaseClock) (failure : ObservedFailure)
    (clearsClaim : Bool) :
    AttemptHistory (row.rejectBeforeDispatch clock failure clearsClaim)
      attempts where
  ordinals := history.ordinals
  bounded := history.bounded
  retries := history.retries
  trail := .refused rfl (history.waiting active)

theorem dispatch (history : AttemptHistory row attempts)
    (active : row.status = .prepared ∨ row.status = .retryScheduled)
    (remaining : row.httpDispatchCount < row.maximumHttpDispatches)
    (clock : DatabaseClock) (operationId : ModelOperationId)
    (generated : ModelAttemptId) :
    AttemptHistory (row.dispatch clock generated)
      (attempts ++
        [(generated, row.dispatchedAttempt clock operationId)]) where
  ordinals := by
    simp [history.ordinals, ModelOperationRow.dispatch,
      ModelOperationRow.dispatchedAttempt, List.range'_concat, Nat.add_comm]
  bounded := remaining
  retries := by
    simp [history.retries, ModelOperationRow.dispatch,
      ModelOperationRow.dispatchedAttempt]
  trail := .dispatched rfl rfl (history.waiting active) rfl rfl

/-- The current attempt is answered for good. -/
theorem answer (history : AttemptHistory row (retried ++ [(current, attempt)]))
    (sentBack : ∀ entry ∈ retried, entry.2.isRetried = true)
    (unplanned : attempt.retryPlan = .none)
    (terms : row'.toModelOperationTerms = row.toModelOperationTerms)
    (dispatches : row'.httpDispatchCount = row.httpDispatchCount)
    (used : row'.transientRateLimitRetriesUsed =
      row.transientRateLimitRetriesUsed)
    (terminal : row'.status.isTerminal = true)
    (sameOrdinal : attempt'.attemptOrdinal = attempt.attemptOrdinal)
    (final : attempt'.isFinal = true) :
    AttemptHistory row' (retried ++ [(current, attempt')]) where
  ordinals := by simpa [sameOrdinal, dispatches] using history.ordinals
  bounded := by
    rw [dispatches, terms]
    exact history.bounded
  retries := by
    have planned : attempt'.retryPlan = .none := by
      simp only [ModelAttemptRow.isFinal, Bool.and_eq_true,
        decide_eq_true_eq] at final
      exact final.2
    rw [used, history.retries]
    simp [planned, unplanned]
  trail := .answered terminal sentBack final

/-- The current attempt is sent back for another dispatch. -/
theorem sendBack
    (history : AttemptHistory row (retried ++ [(current, attempt)]))
    (sentBack : ∀ entry ∈ retried, entry.2.isRetried = true)
    (unplanned : attempt.retryPlan = .none)
    (terms : row'.toModelOperationTerms = row.toModelOperationTerms)
    (dispatches : row'.httpDispatchCount = row.httpDispatchCount)
    (used : row'.transientRateLimitRetriesUsed =
      row.transientRateLimitRetriesUsed + 1)
    (scheduled : row'.status = .retryScheduled)
    (sameOrdinal : attempt'.attemptOrdinal = attempt.attemptOrdinal)
    (retry : attempt'.isRetried = true) :
    AttemptHistory row' (retried ++ [(current, attempt')]) where
  ordinals := by simpa [sameOrdinal, dispatches] using history.ordinals
  bounded := by
    rw [dispatches, terms]
    exact history.bounded
  retries := by
    have planned : attempt'.retryPlan = .scheduleTransient429 := by
      simp only [ModelAttemptRow.isRetried, Bool.and_eq_true,
        decide_eq_true_eq] at retry
      exact retry.2
    rw [used, history.retries]
    simp [planned, unplanned]
  trail := by
    refine .waiting (.inr scheduled) ?_
    intro entry member
    rcases List.mem_append.mp member with earlier | last
    · exact sentBack entry earlier
    · rw [List.mem_singleton] at last
      subst last
      exact retry

end AttemptHistory

namespace ModelDatabase

/-- `SELECT … FROM model_attempts WHERE operation_id = …`. -/
def attemptsOf (db : ModelDatabase) (operationId : ModelOperationId) :
    List AttemptEntry :=
  db.attempts.select (fun _ attempt => attempt.operationId = operationId)

/-- Every operation has a history and every attempt has an operation. -/
structure AttemptHistories (db : ModelDatabase) : Prop where
  histories : ∀ operationId row,
    db.operations.find? operationId = some row →
    AttemptHistory row (db.attemptsOf operationId)
  references : ∀ attemptId attempt,
    db.attempts.find? attemptId = some attempt →
    ∃ row, db.operations.find? attempt.operationId = some row

variable {db db' : ModelDatabase} {operationId : ModelOperationId}
  {row : ModelOperationRow}

theorem AttemptHistories.attemptsOf_eq_nil (histories : AttemptHistories db)
    (absent : db.operations.find? operationId = none) :
    db.attemptsOf operationId = [] := by
  refine List.eq_nil_iff_forall_not_mem.mpr ?_
  rintro ⟨attemptId, attempt⟩ member
  obtain ⟨found, selected⟩ := Table.mem_select.mp member
  obtain ⟨row, present⟩ := histories.references attemptId attempt found
  have same : attempt.operationId = operationId := by simpa using selected
  rw [same, absent] at present
  cases present

/-- A new operation starts without attempts. -/
theorem AttemptHistories.insert (histories : AttemptHistories db)
    {reserved : ModelDatabase}
    (operations : reserved.operations = db.operations)
    (attempts : reserved.attempts = db.attempts)
    (fresh : operationId ∉ reserved.operations.rows.map Prod.fst)
    (unused : row.httpDispatchCount = 0)
    (unretried : row.transientRateLimitRetriesUsed = 0)
    (prepared : row.status = .prepared) :
    AttemptHistories { reserved with
      operations := reserved.operations.push operationId row fresh } where
  histories := by
    intro other present found
    change AttemptHistory present (Table.select reserved.attempts _)
    rw [attempts]
    rw [Table.find?_push] at found
    split at found
    · rename_i equal
      subst equal
      cases found
      have absent := Table.find?_eq_none_iff.mpr fresh
      rw [operations] at absent
      have empty := histories.attemptsOf_eq_nil absent
      unfold attemptsOf at empty
      rw [empty]
      exact .start unused unretried prepared
    · rw [operations] at found
      exact histories.histories other present found
  references := by
    intro attemptId attempt found
    rw [attempts] at found
    obtain ⟨present, presentFound⟩ :=
      histories.references attemptId attempt found
    rw [← operations] at presentFound
    exact ⟨present, Table.find?_push_of_some fresh presentFound⟩

/-- One operation is rewritten and only its own attempts change. -/
theorem AttemptHistories.write (histories : AttemptHistories db)
    (set : ModelOperationRow → ModelOperationRow)
    (found : db.operations.find? operationId = some row)
    (operations : db'.operations = db.operations.modify operationId set)
    (others : ∀ other, other ≠ operationId →
      db'.attemptsOf other = db.attemptsOf other)
    (references : ∀ attemptId attempt,
      db'.attempts.find? attemptId = some attempt →
      ∃ present, db.operations.find? attempt.operationId = some present)
    (written : AttemptHistory (set row) (db'.attemptsOf operationId)) :
    AttemptHistories db' where
  histories := by
    intro other present presentFound
    rw [operations, Table.find?_modify] at presentFound
    split at presentFound
    · rename_i same
      subst same
      rw [found] at presentFound
      cases presentFound
      exact written
    · rename_i different
      rw [others other different]
      exact histories.histories other present presentFound
  references := by
    intro attemptId attempt attemptFound
    obtain ⟨present, presentFound⟩ := references attemptId attempt attemptFound
    rw [operations, Table.find?_modify, presentFound]
    split
    · exact ⟨_, rfl⟩
    · exact ⟨_, rfl⟩

section CurrentAttempt

variable {retried : List AttemptEntry} {current : ModelAttemptId}
  {attempt : ModelAttemptRow}

private theorem current_found
    (selection : db.attemptsOf operationId = retried ++ [(current, attempt)]) :
    db.attempts.find? current = some attempt ∧
      attempt.operationId = operationId := by
  have member : (current, attempt) ∈ db.attemptsOf operationId := by
    simp [selection]
  obtain ⟨found, selected⟩ := Table.mem_select.mp member
  exact ⟨found, by simpa using selected⟩

/-- Rewriting the current attempt leaves the other operations alone. -/
theorem AttemptHistories.answer (histories : AttemptHistories db)
    (set : ModelAttemptRow → ModelAttemptRow)
    (rewrite : ModelOperationRow → ModelOperationRow)
    (found : db.operations.find? operationId = some row)
    (selection : db.attemptsOf operationId = retried ++ [(current, attempt)])
    (running : attempt.status = .dispatched)
    (sameOperation : (set attempt).operationId = attempt.operationId)
    (attempts : db'.attempts = (db.setDispatchedAttempt current set).attempts)
    (operations : db'.operations = db.operations.modify operationId rewrite)
    (written : AttemptHistory (rewrite row)
      (retried ++ [(current, set attempt)])) :
    AttemptHistories db' := by
  obtain ⟨attemptFound, owned⟩ := current_found selection
  have modified : db'.attempts = db.attempts.modify current set := by
    rw [attempts]
    exact Table.updateWhere_eq_modify (fun row => row.status = .dispatched)
      attemptFound (by simp [running]) set
  refine histories.write rewrite found operations ?_ ?_ ?_
  · intro other different
    unfold attemptsOf
    rw [modified]
    refine Table.select_modify_of_false attemptFound ?_ ?_
    · simpa [owned] using different.symm
    · simpa [sameOperation, owned] using different.symm
  · intro attemptId present presentFound
    rw [modified, Table.find?_modify] at presentFound
    split at presentFound
    · rename_i same
      subst same
      rw [attemptFound] at presentFound
      cases presentFound
      rw [sameOperation]
      exact histories.references _ _ attemptFound
    · exact histories.references _ _ presentFound
  · have rewritten : db'.attemptsOf operationId =
        retried ++ [(current, set attempt)] := by
      unfold attemptsOf
      rw [modified]
      exact Table.select_modify_last selection (by simp [sameOperation])
    rw [rewritten]
    exact written

end CurrentAttempt

end ModelDatabase

open ModelDatabase

theorem attemptHistories_invariant (dates : DateBuiltins) :
    DatabaseInvariant dates AttemptHistories where
  initially := by
    intro users
    refine ⟨?_, ?_⟩
    · intro operationId row found
      simp at found
    · intro attemptId attempt found
      simp at found
  prepared := by
    intro clock request input outcome db db' histories _ prepares
    cases prepares with
    | duplicate => exact histories
    | prepared fresh reserves =>
        exact histories.insert reserves.operations reserves.attempts fresh
          rfl rfl rfl
  restarted := by
    intro clock input outcome db db' histories restarts
    cases restarts with
    | duplicate => exact histories
    | restarted fresh _ _ _ _ reserves =>
        exact histories.insert reserves.operations reserves.attempts fresh
          rfl rfl rfl
  claimed := by
    intro clock workerNow generated operationId outcome db db' histories claims
    cases claims with
    | stored | leased | waiting => exact histories
    | expired found dispatched current =>
        have history := histories.histories _ _ found
        obtain ⟨retried, attempt, selection, sentBack, running, unplanned⟩ :=
          history.ends_with_current dispatched current
        rw [selection] at history
        exact histories.answer (ModelAttemptRow.expireLease clock)
          (ModelOperationRow.expireLease clock) found selection running rfl
          rfl rfl (history.answer sentBack unplanned rfl rfl rfl rfl rfl rfl)
    | @rejected _ failure clearsClaim found active =>
        refine histories.write
          (ModelOperationRow.rejectBeforeDispatch clock failure clearsClaim)
          found (by simp) ?_ ?_ ?_
        · intro other _
          simp [attemptsOf]
        · simpa using histories.references
        · simpa [attemptsOf] using
            (histories.histories _ _ found).refuse active clock failure
              clearsClaim
    | @dispatched row _ fresh found active _ remaining passed =>
        obtain ⟨dispatchCounters, rfl⟩ := passed.counted
        refine histories.write (ModelOperationRow.dispatch clock generated)
          found rfl ?_ ?_ ?_
        · intro other different
          refine Table.select_push_of_false _ fresh (decide_eq_false ?_)
          exact different.symm
        · intro attemptId attempt attemptFound
          simp only [setOperation_attempts, Table.find?_push] at attemptFound
          split at attemptFound
          · cases attemptFound
            exact ⟨row, found⟩
          · exact histories.references _ _ attemptFound
        · have pushed : (db.attempts.push generated
              (row.dispatchedAttempt clock operationId) fresh).select
                (fun _ attempt => attempt.operationId = operationId) =
              db.attemptsOf operationId ++
                [(generated, row.dispatchedAttempt clock operationId)] :=
            Table.select_push_of_true _ fresh (decide_eq_true rfl)
          simp only [attemptsOf, setOperation_attempts, pushed]
          exact (histories.histories _ _ found).dispatch active remaining
            clock operationId generated
  completed := by
    intro clock workerNow operationId attempt result completion db db'
      histories completes
    cases completes with
    | stale => exact histories
    | @scheduled _ _ delay found dispatched current effective planned =>
        have history := histories.histories _ _ found
        obtain ⟨retried, last, selection, sentBack, running, unplanned⟩ :=
          history.ends_with_current dispatched current
        rw [selection] at history
        have retry : (last.complete clock completion
            result.toOption).isRetried = true := by
          have planned' := planned
          rw [effective] at planned'
          obtain ⟨asked, submitted, _⟩ := effectiveCompletion_schedules planned'
          obtain ⟨rejected, limited⟩ := submittedCompletion_schedules submitted
          have disposition : completion.disposition = .explicitlyRejected := by
            simpa [effective, completeInput] using rejected
          have failure : completion.observedFailure =
              some .modelProviderRateLimited := by
            simpa [effective, completeInput] using limited
          simp [ModelAttemptRow.isRetried, ModelAttemptRow.complete,
            disposition, failure, planned, ModelRetryPlan.name]
        exact histories.answer
          (ModelAttemptRow.complete clock completion result.toOption)
          (ModelOperationRow.scheduleRetry clock completion delay)
          found selection running rfl rfl rfl
          (history.sendBack sentBack unplanned rfl rfl rfl rfl rfl retry)
    | settled found dispatched current effective planned =>
        have history := histories.histories _ _ found
        obtain ⟨retried, last, selection, sentBack, running, unplanned⟩ :=
          history.ends_with_current dispatched current
        rw [selection] at history
        have final : (last.complete clock completion
            result.toOption).isFinal = true := by
          simp [ModelAttemptRow.isFinal, ModelAttemptRow.complete, planned,
            ModelRetryPlan.name]
        have terminal : completion.disposition.status.isTerminal = true := by
          cases completion.disposition <;> rfl
        exact histories.answer
          (ModelAttemptRow.complete clock completion result.toOption)
          (ModelOperationRow.settle clock completion result.toOption _ _)
          found selection running rfl (by simp [completeInput]) (by simp; rfl)
          (history.answer sentBack unplanned rfl rfl rfl terminal rfl final)

/-- The current attempt of a dispatched operation is stored and running. -/
theorem ModelDatabase.AttemptHistories.current_running {db : ModelDatabase}
    (histories : AttemptHistories db) {operationId : ModelOperationId}
    {row : ModelOperationRow} {current : ModelAttemptId}
    (found : db.operations.find? operationId = some row)
    (dispatched : row.status = .dispatched)
    (claimed : row.currentAttemptId = some current) :
    ∃ attempt, db.attempts.find? current = some attempt ∧
      attempt.status = .dispatched ∧ attempt.operationId = operationId := by
  have history := histories.histories operationId row found
  obtain ⟨retried, attempt, selection, _, running, _⟩ :=
    history.ends_with_current dispatched claimed
  obtain ⟨attemptFound, owned⟩ := current_found selection
  exact ⟨attempt, attemptFound, running, owned⟩

section Consequences

variable {row : ModelOperationRow} {attempts : List AttemptEntry}

private theorem isRetried_completed {attempt : ModelAttemptRow}
    (retried : attempt.isRetried = true) :
    attempt.status = .completed ∧
      attempt.retryPlan = .scheduleTransient429 := by
  simp only [ModelAttemptRow.isRetried, Bool.and_eq_true,
    decide_eq_true_eq] at retried
  exact ⟨retried.1.1.1, retried.2⟩

private theorem isFinal_completed {attempt : ModelAttemptRow}
    (final : attempt.isFinal = true) :
    attempt.status = .completed ∧ attempt.retryPlan = .none := by
  simpa [ModelAttemptRow.isFinal] using final

private theorem countP_eq_zero_of_retried {retried : List AttemptEntry}
    (condition : ModelAttemptRow → Bool)
    (sentBack : ∀ entry ∈ retried, entry.2.isRetried = true)
    (excluded : ∀ attempt : ModelAttemptRow, attempt.isRetried = true →
      condition attempt = false) :
    retried.countP (fun entry => condition entry.2) = 0 := by
  rw [List.countP_eq_zero]
  intro entry member
  simp [excluded entry.2 (sentBack entry member)]

/-- The last attempt has the number of the dispatches as its ordinal. -/
theorem AttemptHistory.last_ordinal (history : AttemptHistory row attempts)
    {retried : List AttemptEntry} {last : AttemptEntry}
    (split : attempts = retried ++ [last]) :
    last.2.attemptOrdinal = retried.length + 1 ∧
      row.httpDispatchCount = retried.length + 1 := by
  have ordinals := history.ordinals
  have length := congrArg List.length ordinals
  rw [split] at ordinals length
  simp only [List.map_append, List.map_cons, List.map_nil,
    List.length_append, List.length_map, List.length_range',
    List.length_singleton] at ordinals length
  rw [← length, List.range'_concat] at ordinals
  have equal := List.append_inj_right' ordinals rfl
  simp only [List.cons.injEq, and_true] at equal
  omega

/-- All attempts but the last were sent back. -/
theorem AttemptHistory.isRetried_of_lt
    (history : AttemptHistory row attempts) {entry : AttemptEntry}
    (member : entry ∈ attempts)
    (earlier : entry.2.attemptOrdinal < row.httpDispatchCount) :
    entry.2.isRetried = true := by
  have not_last : ∀ {retried last}, attempts = retried ++ [last] →
      entry ∈ retried := by
    intro retried last split
    rw [split] at member
    rcases List.mem_append.mp member with before | final
    · exact before
    · rw [List.mem_singleton] at final
      subst final
      have equal := history.last_ordinal split
      omega
  cases history.trail with
  | waiting _ sentBack | refused _ sentBack => exact sentBack entry member
  | dispatched _ _ sentBack => exact sentBack entry (not_last rfl)
  | answered _ sentBack => exact sentBack entry (not_last rfl)

theorem AttemptHistory.countP_dispatched
    (history : AttemptHistory row attempts) :
    attempts.countP (fun entry => entry.2.status = .dispatched) =
      if row.status = .dispatched then 1 else 0 := by
  have none_retried : ∀ retried : List AttemptEntry,
      (∀ entry ∈ retried, entry.2.isRetried = true) →
      retried.countP (fun entry => entry.2.status = .dispatched) = 0 :=
    fun retried sentBack => countP_eq_zero_of_retried
      (fun attempt => attempt.status = .dispatched) sentBack
      (fun attempt sent => by simp [(isRetried_completed sent).1])
  cases history.trail with
  | waiting active sentBack =>
      rw [none_retried _ sentBack]
      rcases active with prepared | retry
      · simp [prepared]
      · simp [retry]
  | dispatched dispatched _ sentBack running =>
      rw [List.countP_append, none_retried _ sentBack]
      simp [dispatched, running]
  | refused terminal sentBack =>
      rw [none_retried _ sentBack, if_neg
        (ModelOperationStatus.ne_dispatched_of_isTerminal terminal)]
  | answered terminal sentBack final =>
      rw [List.countP_append, none_retried _ sentBack]
      have completed := (isFinal_completed final).1
      rw [if_neg (ModelOperationStatus.ne_dispatched_of_isTerminal terminal)]
      simp [completed]

theorem AttemptHistory.current_of_dispatched
    (history : AttemptHistory row attempts) {entry : AttemptEntry}
    (member : entry ∈ attempts) (running : entry.2.status = .dispatched) :
    row.currentAttemptId = some entry.1 := by
  have not_retried : entry.2.isRetried = false := by
    simp [ModelAttemptRow.isRetried, running]
  cases history.trail with
  | waiting _ sentBack | refused _ sentBack =>
      simp [sentBack entry member] at not_retried
  | dispatched _ current sentBack =>
      rcases List.mem_append.mp member with earlier | last
      · simp [sentBack entry earlier] at not_retried
      · rw [List.mem_singleton] at last
        rw [last]
        exact current
  | answered _ sentBack final =>
      rcases List.mem_append.mp member with earlier | last
      · simp [sentBack entry earlier] at not_retried
      · rw [List.mem_singleton] at last
        subst last
        rw [(isFinal_completed final).1] at running
        cases running

theorem AttemptHistory.countP_not_retried
    (history : AttemptHistory row attempts) :
    attempts.countP (fun entry => !entry.2.isRetried) ≤ 1 := by
  have none_retried : ∀ retried : List AttemptEntry,
      (∀ entry ∈ retried, entry.2.isRetried = true) →
      retried.countP (fun entry => !entry.2.isRetried) = 0 :=
    fun retried sentBack => countP_eq_zero_of_retried
      (fun attempt => !attempt.isRetried) sentBack
      (fun attempt sent => by simp [sent])
  cases history.trail with
  | waiting _ sentBack | refused _ sentBack =>
      rw [none_retried _ sentBack]
      omega
  | dispatched _ _ sentBack | answered _ sentBack =>
      rw [List.countP_append, none_retried _ sentBack, List.countP_singleton]
      split <;> omega

theorem AttemptHistory.countP_scheduled
    (history : AttemptHistory row attempts) :
    row.transientRateLimitRetriesUsed =
      attempts.countP (fun entry => entry.2.status = .completed &&
        entry.2.retryPlan = .scheduleTransient429) := by
  rw [history.retries]
  refine List.countP_congr ?_
  intro entry member
  have completed : entry.2.retryPlan = .scheduleTransient429 →
      entry.2.status = .completed := by
    intro planned
    cases history.trail with
    | waiting _ sentBack | refused _ sentBack =>
        exact (isRetried_completed (sentBack entry member)).1
    | dispatched _ _ sentBack _ unplanned =>
        rcases List.mem_append.mp member with earlier | last
        · exact (isRetried_completed (sentBack entry earlier)).1
        · rw [List.mem_singleton] at last
          subst last
          rw [unplanned] at planned
          cases planned
    | answered _ sentBack final =>
        rcases List.mem_append.mp member with earlier | last
        · exact (isRetried_completed (sentBack entry earlier)).1
        · rw [List.mem_singleton] at last
          subst last
          exact (isFinal_completed final).1
  simpa using completed

end Consequences

/-- In every run, the attempts of an operation are numbered without gaps, only
a dispatched operation has a running attempt, and all attempts but the last
were rejected by a rate limit and scheduled again.  So at most
`maximum_potentially_billable_attempts` of them, which is one, may be billed. -/
theorem at_most_one_billable_attempt {dates : DateBuiltins}
    {state : ModelState} (reached : (modelSystem dates).Reachable state)
    {operationId : ModelOperationId} {row : ModelOperationRow}
    (found : state.database.operations.find? operationId = some row) :
    let attempts := state.database.attemptsOf operationId
    attempts.map (fun entry => entry.2.attemptOrdinal) =
        List.range' 1 row.httpDispatchCount ∧
      row.httpDispatchCount ≤ row.maximumHttpDispatches ∧
      attempts.countP (fun entry => entry.2.status = .dispatched) =
        (if row.status = .dispatched then 1 else 0) ∧
      (∀ entry ∈ attempts, entry.2.status = .dispatched →
        row.currentAttemptId = some entry.1) ∧
      (∀ entry ∈ attempts, entry.2.status = .completed →
        entry.2.attemptOrdinal < row.httpDispatchCount →
        entry.2.completionDisposition = some .explicitlyRejected ∧
          entry.2.observedFailure = some .modelProviderRateLimited ∧
            entry.2.retryPlan = .scheduleTransient429) ∧
      row.transientRateLimitRetriesUsed =
        attempts.countP (fun entry => entry.2.status = .completed &&
          entry.2.retryPlan = .scheduleTransient429) ∧
      attempts.countP (fun entry => !entry.2.isRetried) ≤
        row.maximumPotentiallyBillableAttempts ∧
      row.maximumPotentiallyBillableAttempts = 1 := by
  intro attempts
  have history := ((attemptHistories_invariant dates).holds reached).histories
    operationId row found
  have billable : row.maximumPotentiallyBillableAttempts = 1 := by
    rw [(reachable_isRegistered reached
      found).terms.maximumPotentiallyBillableAttempts]
    exact modelOperationProfiles_billable row.operation
  refine ⟨history.ordinals, history.bounded, history.countP_dispatched, ?_, ?_,
    history.countP_scheduled, ?_, billable⟩
  · intro entry member running
    exact history.current_of_dispatched member running
  · intro entry member _ earlier
    have retried := history.isRetried_of_lt member earlier
    simp only [ModelAttemptRow.isRetried, Bool.and_eq_true,
      decide_eq_true_eq] at retried
    exact ⟨retried.1.1.2, retried.1.2, retried.2⟩
  · rw [billable]
    exact history.countP_not_retried

/-- Two dispatches of one operation, the first of them sent back. -/
theorem at_most_one_billable_attempt_rate_limited :
    ∃ state row, (modelSystem sampleDates).Reachable state ∧
      state.database.operations.find? sampleOperation = some row ∧
        row.httpDispatchCount = 2 ∧
          (state.database.attemptsOf sampleOperation).map
            (fun entry => entry.2.attemptOrdinal) = List.range' 1 2 := by
  obtain ⟨state, reached, tested⟩ := System.exists_reachable_of_run
    rateLimitedRun
    (fun state => (state.database.operations.find? sampleOperation).any
      (fun row => row.httpDispatchCount = 2))
    (sampleStart_initial sampleDates) (by decide +kernel)
  obtain ⟨row, found, dispatched⟩ := (Option.any_eq_true _ _).mp tested
  have dispatched : row.httpDispatchCount = 2 := by simpa using dispatched
  have history := (at_most_one_billable_attempt reached found).1
  rw [dispatched] at history
  exact ⟨state, row, reached, found, dispatched, history⟩

end XpensGo
