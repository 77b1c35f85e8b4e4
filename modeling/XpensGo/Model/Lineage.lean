import XpensGo.Model.Finality

/-!
# The lineage of a restart

A restart copies the terms of its source under a new deadline and in a new
budget period.  Its source keeps an unknown outcome, and the restarts of one
root never exceed the limit that every operation of the lineage carries.
-/

namespace XpensGo

open EcmaScript Postgres Relational Transition

/-- All columns that no statement updates are those of the source, except for
the source itself, the deadline and the budget period. -/
def ModelOperationTerms.RestartOf (terms : ModelOperationTerms)
    (sourceOperationId : ModelOperationId) (source : ModelOperationTerms) :
    Prop :=
  terms = { source with
    restartedFromOperationId := some sourceOperationId
    deadlineAt := terms.deadlineAt
    budgetPeriodStart := terms.budgetPeriodStart }

namespace ModelDatabase

structure Lineages (db : ModelDatabase) : Prop where
  roots : ∀ operationId row, db.operations.find? operationId = some row →
    row.restartedFromOperationId = none → row.rootOperationId = operationId
  sources : ∀ operationId row sourceOperationId,
    db.operations.find? operationId = some row →
    row.restartedFromOperationId = some sourceOperationId →
    ∃ source, db.operations.find? sourceOperationId = some source ∧
      source.status = .outcomeUnknown ∧
        row.toModelOperationTerms.RestartOf sourceOperationId
          source.toModelOperationTerms
  limited : ∀ root, (db.lineageRestarts root).length ≤ 1

variable {db db' reserved : ModelDatabase} {root operationId : ModelOperationId}
  {row : ModelOperationRow}

theorem mem_lineageRestarts :
    (operationId, row) ∈ db.lineageRestarts root ↔
      db.operations.find? operationId = some row ∧
        row.rootOperationId = root ∧
          row.restartedFromOperationId.isSome = true := by
  unfold lineageRestarts
  rw [Table.mem_select, Bool.and_eq_true, decide_eq_true_eq]

theorem lineageRestarts_congr (operations : db'.operations = db.operations) :
    db'.lineageRestarts root = db.lineageRestarts root := by
  unfold lineageRestarts
  rw [operations]

/-- A new operation without a source belongs to no lineage but its own. -/
theorem lineageRestarts_push_of_none
    (fresh : operationId ∉ db.operations.rows.map Prod.fst)
    (unrestarted : row.restartedFromOperationId = none) :
    ({ db with
        operations := db.operations.push operationId row fresh }
      : ModelDatabase).lineageRestarts root = db.lineageRestarts root := by
  refine Table.select_push_of_false _ fresh ?_
  simp [unrestarted]

theorem lineageRestarts_push_of_ne
    (fresh : operationId ∉ db.operations.rows.map Prod.fst)
    (different : row.rootOperationId ≠ root) :
    ({ db with
        operations := db.operations.push operationId row fresh }
      : ModelDatabase).lineageRestarts root = db.lineageRestarts root := by
  refine Table.select_push_of_false _ fresh ?_
  simp [different]

theorem lineageRestarts_push_length
    (fresh : operationId ∉ db.operations.rows.map Prod.fst) :
    (({ db with
        operations := db.operations.push operationId row fresh }
      : ModelDatabase).lineageRestarts root).length ≤
      (db.lineageRestarts root).length +
        if row.rootOperationId = root then 1 else 0 := by
  change (Table.select (db.operations.push operationId row fresh) _).length ≤ _
  rw [Table.select_push, List.length_append]
  apply Nat.add_le_add_left
  by_cases same : row.rootOperationId = root
  · rw [if_pos same]
    split
    · exact Nat.le_refl 1
    · exact Nat.zero_le 1
  · simp [same]

/-- Rewriting a row under the same terms keeps the size of every lineage. -/
theorem lineageRestarts_modify_length
    {set : ModelOperationRow → ModelOperationRow}
    (found : db.operations.find? operationId = some row)
    (operations : db'.operations = db.operations.modify operationId set)
    (kept : (set row).toModelOperationTerms = row.toModelOperationTerms) :
    (db'.lineageRestarts root).length = (db.lineageRestarts root).length := by
  unfold lineageRestarts
  rw [operations, Table.select_modify found, List.length_map]
  rw [kept]

/-- One unfinished operation is rewritten under its own terms. -/
structure Rewrites (db db' : ModelDatabase) (operationId : ModelOperationId)
    (row : ModelOperationRow) (set : ModelOperationRow → ModelOperationRow) :
    Prop where
  found : db.operations.find? operationId = some row
  unfinished : row.status.isTerminal = false
  operations : db'.operations = db.operations.modify operationId set
  terms : (set row).toModelOperationTerms = row.toModelOperationTerms

/-- A claim changes at most one operation, which is unfinished. -/
theorem ClaimEffect.rewrites {clock : DatabaseClock} {workerNow : Int}
    {generated : ModelAttemptId} {outcome : ClaimModelOperationOutcome}
    (claims : ClaimEffect clock workerNow generated operationId db outcome
      db') :
    db'.operations = db.operations ∨
      ∃ row set, Rewrites db db' operationId row set := by
  cases claims with
  | stored | leased | waiting => exact .inl rfl
  | @expired row _ _ found dispatched =>
      exact .inr ⟨row, ModelOperationRow.expireLease clock, found,
        ModelOperationStatus.isTerminal_eq_false_of_dispatched dispatched,
        rfl, rfl⟩
  | @rejected row failure clearsClaim found active =>
      exact .inr ⟨row,
        ModelOperationRow.rejectBeforeDispatch clock failure clearsClaim,
        found, ModelOperationStatus.isTerminal_eq_false_of_active active,
        by simp, rfl⟩
  | @dispatched row _ _ found active _ _ passed =>
      obtain ⟨dispatchCounters, rfl⟩ := passed.counted
      exact .inr ⟨row, ModelOperationRow.dispatch clock generated, found,
        ModelOperationStatus.isTerminal_eq_false_of_active active, rfl, rfl⟩

/-- A completion changes at most its own operation, which is dispatched. -/
theorem CompleteEffect.rewrites {clock : DatabaseClock} {workerNow : Int}
    {input : CompleteModelOperationInput}
    {completion : ModelOperationCompletion}
    (completes : CompleteEffect clock workerNow input db completion db') :
    db'.operations = db.operations ∨
      ∃ row set, Rewrites db db' input.operationId row set := by
  cases completes with
  | stale => exact .inl rfl
  | @scheduled row completion delay found dispatched =>
      exact .inr ⟨row, ModelOperationRow.scheduleRetry clock completion delay,
        found,
        ModelOperationStatus.isTerminal_eq_false_of_dispatched dispatched,
        rfl, rfl⟩
  | @settled row completion found dispatched =>
      exact .inr ⟨row, ModelOperationRow.settle clock completion input.result
          row.reservedCostMicroUsd (row.settlement completion input.result),
        found,
        ModelOperationStatus.isTerminal_eq_false_of_dispatched dispatched,
        by simp, rfl⟩

/-- The lineages survive a rewrite of an unfinished operation: it is the source
of no restart. -/
theorem Lineages.rewrite {set : ModelOperationRow → ModelOperationRow}
    (lineages : Lineages db) (rewrites : Rewrites db db' operationId row set) :
    Lineages db' where
  roots := by
    intro other present found unrestarted
    rw [rewrites.operations, Table.find?_modify] at found
    split at found
    · rename_i same
      subst same
      rw [rewrites.found] at found
      cases Option.some.inj found
      rw [rewrites.terms] at unrestarted ⊢
      exact lineages.roots other row rewrites.found unrestarted
    · exact lineages.roots other present found unrestarted
  sources := by
    intro other present sourceId found restarted
    have earlier : ∃ before,
        db.operations.find? other = some before ∧
          present.toModelOperationTerms = before.toModelOperationTerms := by
      rw [rewrites.operations, Table.find?_modify] at found
      split at found
      · rename_i same
        subst same
        rw [rewrites.found] at found
        cases Option.some.inj found
        exact ⟨row, rewrites.found, rewrites.terms⟩
      · exact ⟨present, found, rfl⟩
    obtain ⟨before, beforeFound, terms⟩ := earlier
    rw [terms] at restarted ⊢
    obtain ⟨source, sourceFound, unknown, restart⟩ :=
      lineages.sources other before sourceId beforeFound restarted
    have different : sourceId ≠ operationId := by
      intro same
      subst same
      cases Option.some.inj (sourceFound.symm.trans rewrites.found)
      have unfinished := rewrites.unfinished
      rw [unknown] at unfinished
      cases unfinished
    refine ⟨source, ?_, unknown, restart⟩
    rw [rewrites.operations, Table.find?_modify_of_ne _ _ different]
    exact sourceFound
  limited := by
    intro root
    rw [lineageRestarts_modify_length rewrites.found rewrites.operations
      rewrites.terms]
    exact lineages.limited root

theorem Lineages.congr (lineages : Lineages db)
    (operations : db'.operations = db.operations) : Lineages db' where
  roots := by
    rw [operations]
    exact lineages.roots
  sources := by
    rw [operations]
    exact lineages.sources
  limited := by
    intro root
    rw [lineageRestarts_congr operations]
    exact lineages.limited root

/-- A new operation is a root or has a stored source. -/
theorem Lineages.push (lineages : Lineages db)
    (fresh : operationId ∉ db.operations.rows.map Prod.fst)
    (root : row.restartedFromOperationId = none →
      row.rootOperationId = operationId)
    (source : ∀ sourceId, row.restartedFromOperationId = some sourceId →
      ∃ source, db.operations.find? sourceId = some source ∧
        source.status = .outcomeUnknown ∧
          row.toModelOperationTerms.RestartOf sourceId
            source.toModelOperationTerms)
    (limited : ∀ root, (({ db with
        operations := db.operations.push operationId row fresh }
      : ModelDatabase).lineageRestarts root).length ≤ 1) :
    Lineages { db with
      operations := db.operations.push operationId row fresh } where
  roots := by
    intro other present found unrestarted
    rw [Table.find?_push] at found
    split at found
    · rename_i same
      cases Option.some.inj found
      rw [same]
      exact root unrestarted
    · exact lineages.roots other present found unrestarted
  sources := by
    intro other present sourceId found restarted
    have stored : ∃ source, db.operations.find? sourceId = some source ∧
        source.status = .outcomeUnknown ∧
          present.toModelOperationTerms.RestartOf sourceId
            source.toModelOperationTerms := by
      rw [Table.find?_push] at found
      split at found
      · cases Option.some.inj found
        exact source sourceId restarted
      · exact lineages.sources other present sourceId found restarted
    obtain ⟨before, beforeFound, unknown, restart⟩ := stored
    exact ⟨before, Table.find?_push_of_some fresh beforeFound, unknown,
      restart⟩
  limited := limited

end ModelDatabase

open ModelDatabase

/-- The lineages together with the limits that the registry gives them. -/
theorem lineages_invariant (dates : DateBuiltins) :
    DatabaseInvariant dates (fun db => Lineages db ∧
      ∀ operationId row, db.operations.find? operationId = some row →
        row.IsRegistered) where
  initially := by
    intro users
    refine ⟨⟨?_, ?_, ?_⟩, (isRegistered_invariant dates).database.initially
      users⟩
    · intro operationId row found
      simp at found
    · intro operationId row sourceId found
      simp at found
    · intro root
      exact Nat.zero_le 1
  prepared := by
    rintro clock request input outcome db db' ⟨lineages, registered⟩ accepted
      prepares
    refine ⟨?_, (isRegistered_invariant dates).database.prepared registered
      accepted prepares⟩
    cases prepares with
    | duplicate => exact lineages
    | prepared fresh reserves =>
        have reserved := lineages.congr reserves.operations
        refine reserved.push fresh (fun _ => rfl) ?_ ?_
        · intro sourceId restarted
          cases restarted
        · intro root
          rw [lineageRestarts_push_of_none fresh rfl]
          exact reserved.limited root
  restarted := by
    rintro clock input outcome db db' ⟨lineages, registered⟩ restarts
    refine ⟨?_, (isRegistered_invariant dates).database.restarted registered
      restarts⟩
    cases restarts with
    | duplicate => exact lineages
    | @restarted source _ fresh found _ unknown granted reserves =>
        have reserved := lineages.congr reserves.operations
        refine reserved.push fresh ?_ ?_ ?_
        · intro unrestarted
          cases unrestarted
        · intro sourceId restarted
          cases restarted
          rw [reserves.operations]
          exact ⟨source, found, unknown, rfl⟩
        · intro root
          have limit := (registered _ source found).terms.explicitRestartLimit
          have pushed := @lineageRestarts_push_length _ root _
            (source.restartedRow clock input.sourceOperationId
              source.reservedCostMicroUsd) fresh
          rw [lineageRestarts_congr reserves.operations] at pushed
          have earlier := lineages.limited root
          split at pushed
          · rename_i same
            have same : source.rootOperationId = root := same
            rw [same] at granted
            omega
          · omega
  claimed := by
    rintro clock workerNow generated operationId outcome db db'
      ⟨lineages, registered⟩ claims
    refine ⟨?_, (isRegistered_invariant dates).database.claimed registered
      claims⟩
    rcases claims.rewrites with same | ⟨row, set, rewrites⟩
    · exact lineages.congr same
    · exact lineages.rewrite rewrites
  completed := by
    rintro clock workerNow operationId attempt result completion db db'
      ⟨lineages, registered⟩ completes
    refine ⟨?_, (isRegistered_invariant dates).database.completed registered
      completes⟩
    rcases completes.rewrites with same | ⟨row, set, rewrites⟩
    · exact lineages.congr same
    · exact lineages.rewrite rewrites

theorem reachable_lineages {dates : DateBuiltins} {state : ModelState}
    (reached : (modelSystem dates).Reachable state) :
    Lineages state.database :=
  ((lineages_invariant dates).holds reached).1

end XpensGo
