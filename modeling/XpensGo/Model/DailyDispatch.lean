import XpensGo.Model.AttemptHistory
import XpensGo.Model.BudgetAccounts

/-!
# Daily dispatches

The counter of a user and a date is the number of OpenAI attempts of the user
that were started on that date.  The counter is taken in the transaction that
inserts the attempt, after all gates that can still refuse it.
-/

namespace XpensGo

open EcmaScript Postgres Relational Transition

namespace ModelDatabase

/-- The counter of a user and a date; an absent counter stands for zero. -/
def dailyCount (db : ModelDatabase) (userId : UserId)
    (date : CalendarDate) : Nat :=
  (db.dispatchCounters.find? (userId, date)).getD 0

/-- An OpenAI attempt of the user that was started on the date. -/
def isDailyDispatch (db : ModelDatabase) (userId : UserId)
    (date : CalendarDate) (attempt : ModelAttemptRow) : Bool :=
  attempt.startedOn = date &&
    (db.operations.find? attempt.operationId).any (fun row =>
      row.provider = .openai && row.userId = userId)

/-- `SELECT COUNT(*)` of those attempts. -/
def dailyDispatches (db : ModelDatabase) (userId : UserId)
    (date : CalendarDate) : Nat :=
  db.attempts.sum (fun _ attempt =>
    if db.isDailyDispatch userId date attempt then 1 else 0)

/-- Every counter is the number of its attempts and within the limit. -/
structure DailyCounts (db : ModelDatabase) : Prop where
  counted : ∀ userId date,
    db.dailyCount userId date = db.dailyDispatches userId date
  limited : ∀ userId date, db.dailyCount userId date ≤ 20
  positive : ∀ key count,
    db.dispatchCounters.find? key = some count → 0 < count

section Counters

variable {db db' counted : ModelDatabase} {userId : UserId}
  {date : CalendarDate}

theorem takeDailyDispatch_eq_some {limit : Nat}
    (taken : db.takeDailyDispatch userId date limit = some counted) :
    (∃ counters, counted = { db with dispatchCounters := counters }) ∧
      (db.dispatchCounters.find? (userId, date) = none ∨
        db.dailyCount userId date < limit) ∧
      ∀ key, counted.dispatchCounters.find? key =
        if key = (userId, date) then
          some (db.dailyCount userId date + 1)
        else
          db.dispatchCounters.find? key := by
  unfold takeDailyDispatch at taken
  cases present : db.dispatchCounters.find? (userId, date) with
  | none =>
      rw [present] at taken
      cases Option.some.inj taken
      refine ⟨⟨_, rfl⟩, .inl rfl, ?_⟩
      intro key
      rw [Table.find?_insertMissing, present]
      simp [dailyCount, present]
  | some count =>
      rw [present] at taken
      simp only at taken
      split at taken
      · rename_i below
        cases Option.some.inj taken
        refine ⟨⟨_, rfl⟩, .inr (by simpa [dailyCount, present] using below),
          ?_⟩
        intro key
        rw [Table.find?_modify]
        split
        · rename_i same
          subst same
          simp [dailyCount, present]
        · rfl
      · cases taken

private theorem isDailyDispatch_persist (terms : TermsPersist db db')
    {attempt : ModelAttemptRow}
    (reference : ∃ row, db.operations.find? attempt.operationId = some row) :
    db'.isDailyDispatch userId date attempt =
      db.isDailyDispatch userId date attempt := by
  obtain ⟨row, found⟩ := reference
  obtain ⟨row', found', same⟩ := terms _ row found
  unfold isDailyDispatch
  rw [found, found']
  simp only [Option.any_some, same]

private theorem dailyDispatches_of_eq (terms : TermsPersist db db')
    (histories : AttemptHistories db)
    (attempts : db'.attempts = db.attempts) :
    db'.dailyDispatches userId date = db.dailyDispatches userId date := by
  unfold dailyDispatches
  rw [attempts]
  refine Table.sum_congr ?_
  intro attemptId attempt found
  rw [isDailyDispatch_persist terms
    (histories.references attemptId attempt found)]

private theorem dailyDispatches_update (terms : TermsPersist db db')
    (histories : AttemptHistories db) (current : ModelAttemptId)
    (set : ModelAttemptRow → ModelAttemptRow)
    (attempts : db'.attempts = (db.setDispatchedAttempt current set).attempts)
    (kept : ∀ attempt, (set attempt).operationId = attempt.operationId ∧
      (set attempt).startedOn = attempt.startedOn) :
    db'.dailyDispatches userId date = db.dailyDispatches userId date := by
  have same : ∀ attemptId attempt,
      db.attempts.find? attemptId = some attempt →
      (if db'.isDailyDispatch userId date (set attempt) then (1 : Nat)
        else 0) =
        if db'.isDailyDispatch userId date attempt then 1 else 0 := by
    intro attemptId attempt _
    have equal : db'.isDailyDispatch userId date (set attempt) =
        db'.isDailyDispatch userId date attempt := by
      simp only [isDailyDispatch, kept attempt]
    rw [equal]
  unfold dailyDispatches
  rw [attempts, setDispatchedAttempt, Table.sum_updateWhere_of_eq same]
  refine Table.sum_congr ?_
  intro attemptId attempt found
  rw [isDailyDispatch_persist terms
    (histories.references attemptId attempt found)]

private theorem dailyDispatches_push (terms : TermsPersist db db')
    (histories : AttemptHistories db) {generated : ModelAttemptId}
    {attempt : ModelAttemptRow}
    (fresh : generated ∉ db.attempts.rows.map Prod.fst)
    (attempts : db'.attempts = db.attempts.push generated attempt fresh)
    (reference : ∃ row, db.operations.find? attempt.operationId = some row) :
    db'.dailyDispatches userId date = db.dailyDispatches userId date +
      if db.isDailyDispatch userId date attempt then 1 else 0 := by
  unfold dailyDispatches
  rw [attempts, Table.sum_push, isDailyDispatch_persist terms reference]
  congr 1
  refine Table.sum_congr ?_
  intro attemptId other found
  rw [isDailyDispatch_persist terms
    (histories.references attemptId other found)]

private theorem DailyCounts.keep (counts : DailyCounts db)
    (counters : db'.dispatchCounters = db.dispatchCounters)
    (dispatches : ∀ userId date,
      db'.dailyDispatches userId date = db.dailyDispatches userId date) :
    DailyCounts db' := by
  have same : ∀ userId date,
      db'.dailyCount userId date = db.dailyCount userId date := by
    intro userId date
    simp only [dailyCount, counters]
  refine ⟨?_, ?_, ?_⟩
  · intro userId date
    rw [same, dispatches]
    exact counts.counted userId date
  · intro userId date
    rw [same]
    exact counts.limited userId date
  · rw [counters]
    exact counts.positive

private theorem DailyCounts.take {limit : Nat} (counts : DailyCounts db)
    (limitEq : limit = 20)
    (taken : db.takeDailyDispatch userId date limit = some counted)
    (counters : db'.dispatchCounters = counted.dispatchCounters)
    (dispatches : ∀ otherUser otherDate,
      db'.dailyDispatches otherUser otherDate =
        db.dailyDispatches otherUser otherDate +
          if (otherUser, otherDate) = (userId, date) then 1 else 0) :
    DailyCounts db' := by
  obtain ⟨_, below, lookups⟩ := takeDailyDispatch_eq_some taken
  have moved : ∀ otherUser otherDate,
      db'.dailyCount otherUser otherDate = db.dailyCount otherUser otherDate +
        if (otherUser, otherDate) = (userId, date) then 1 else 0 := by
    intro otherUser otherDate
    simp only [dailyCount, counters, lookups]
    split
    · rename_i same
      simp only [Prod.mk.injEq] at same
      obtain ⟨rfl, rfl⟩ := same
      rfl
    · rfl
  refine ⟨?_, ?_, ?_⟩
  · intro otherUser otherDate
    rw [moved, dispatches, counts.counted]
  · intro otherUser otherDate
    rw [moved]
    split
    · rename_i same
      simp only [Prod.mk.injEq] at same
      obtain ⟨rfl, rfl⟩ := same
      rcases below with absent | below
      · simp [dailyCount, absent]
      · omega
    · exact counts.limited otherUser otherDate
  · intro key count found
    rw [counters, lookups] at found
    split at found
    · cases found
      exact Nat.succ_pos _
    · exact counts.positive key count found

end Counters

end ModelDatabase

open ModelDatabase

section Runs

variable {db db' : ModelDatabase}

private theorem ReservationEffect.dispatchCounters {reserved : ModelDatabase}
    {charge : BudgetCharge} {environmentCeiling userCeiling : Nat}
    {reservation : Int} {billed : Prop}
    (reserves : ReservationEffect db charge environmentCeiling userCeiling
      reservation billed reserved) :
    reserved.dispatchCounters = db.dispatchCounters := by
  cases reserves with
  | unbilled => rfl
  | charged _ funded =>
      subst funded
      rfl

theorem release_dispatchCounters {row : ModelOperationRow}
    {settlement : Int} :
    (db.release row settlement).dispatchCounters = db.dispatchCounters := by
  unfold release
  split <;> rfl

theorem dailyCounts_invariant (dates : DateBuiltins) :
    DatabaseInvariant dates (fun db =>
      (∀ operationId row, db.operations.find? operationId = some row →
        row.IsRegistered) ∧ AttemptHistories db ∧ DailyCounts db) where
  initially := by
    intro users
    refine ⟨(isRegistered_invariant dates).database.initially users,
      (attemptHistories_invariant dates).initially users, ?_⟩
    refine ⟨?_, ?_, ?_⟩
    · intro userId date
      simp [dailyCount, dailyDispatches]
    · intro userId date
      simp [dailyCount]
    · intro key count found
      simp at found
  prepared := by
    rintro clock request input outcome db db' ⟨registered, histories, counts⟩
      accepted prepares
    refine ⟨(isRegistered_invariant dates).database.prepared registered
      accepted prepares, (attemptHistories_invariant dates).prepared histories
        accepted prepares, ?_⟩
    have terms := prepares.termsPersist
    cases prepares with
    | duplicate => exact counts
    | prepared _ reserves =>
        refine counts.keep ?_
          (fun _ _ => dailyDispatches_of_eq terms histories reserves.attempts)
        have kept := ReservationEffect.dispatchCounters reserves
        exact kept
  restarted := by
    rintro clock input outcome db db' ⟨registered, histories, counts⟩ restarts
    refine ⟨(isRegistered_invariant dates).database.restarted registered
      restarts, (attemptHistories_invariant dates).restarted histories
        restarts, ?_⟩
    have terms := restarts.termsPersist
    cases restarts with
    | duplicate => exact counts
    | restarted _ _ _ _ _ reserves =>
        refine counts.keep ?_
          (fun _ _ => dailyDispatches_of_eq terms histories reserves.attempts)
        have kept := ReservationEffect.dispatchCounters reserves
        exact kept
  claimed := by
    rintro clock workerNow generated operationId outcome db db'
      ⟨registered, histories, counts⟩ claims
    refine ⟨(isRegistered_invariant dates).database.claimed registered claims,
      (attemptHistories_invariant dates).claimed histories claims, ?_⟩
    have terms := claims.termsPersist
    cases claims with
    | stored | leased | waiting => exact counts
    | @expired _ current =>
        exact counts.keep rfl (fun _ _ => dailyDispatches_update terms
          histories current (ModelAttemptRow.expireLease clock) rfl
          (fun _ => ⟨rfl, rfl⟩))
    | rejected =>
        exact counts.keep release_dispatchCounters
          (fun _ _ => dailyDispatches_of_eq terms histories (by simp))
    | @dispatched row counted fresh found _ _ _ passed =>
        have unlimited := (registered _ _ found).terms.dailyDispatchLimit
        cases passed with
        | deterministic other =>
            refine counts.keep rfl ?_
            intro userId date
            rw [dailyDispatches_push terms histories fresh rfl ⟨row, found⟩]
            have unbilled : db.isDailyDispatch userId date
                (row.dispatchedAttempt clock operationId) = false := by
              simp [isDailyDispatch, ModelOperationRow.dispatchedAttempt,
                found, other]
            rw [unbilled]
            rfl
        | openai openai _ _ taken =>
            refine counts.take unlimited taken rfl ?_
            intro userId date
            obtain ⟨⟨dispatchCounters, rfl⟩, _⟩ :=
              takeDailyDispatch_eq_some taken
            rw [dailyDispatches_push terms histories fresh rfl ⟨row, found⟩]
            have dispatch : db.isDailyDispatch userId date
                (row.dispatchedAttempt clock operationId) =
                  decide ((userId, date) = (row.userId, clock.currentDate)) := by
              by_cases sameUser : row.userId = userId
              · by_cases sameDate : clock.currentDate = date
                · simp [isDailyDispatch, ModelOperationRow.dispatchedAttempt,
                    found, openai, sameUser, sameDate]
                · simp [isDailyDispatch, ModelOperationRow.dispatchedAttempt,
                    sameDate, Ne.symm sameDate]
              · simp [isDailyDispatch, ModelOperationRow.dispatchedAttempt,
                  found, sameUser, Ne.symm sameUser]
            rw [dispatch]
            simp
  completed := by
    rintro clock workerNow operationId attempt result completion db db'
      ⟨registered, histories, counts⟩ completes
    refine ⟨(isRegistered_invariant dates).database.completed registered
      completes, (attemptHistories_invariant dates).completed histories
        completes, ?_⟩
    have terms := completes.termsPersist
    cases completes with
    | stale => exact counts
    | @scheduled _ completion =>
        exact counts.keep rfl (fun _ _ => dailyDispatches_update terms
          histories attempt.attemptId
          (ModelAttemptRow.complete clock completion result.toOption) rfl
          (fun _ => ⟨rfl, rfl⟩))
    | @settled row completion =>
        refine counts.keep ?_ (fun _ _ => dailyDispatches_update terms
          histories attempt.attemptId
          (ModelAttemptRow.complete clock completion result.toOption)
          (by simp; rfl) (fun _ => ⟨rfl, rfl⟩))
        simp only [setOperation, releaseSettled]
        split
        · rfl
        · exact release_dispatchCounters

variable {dates : DateBuiltins} {state : ModelState} {clock : DatabaseClock}
  {workerNow : Int} {generated : ModelAttemptId}
  {operationId : ModelOperationId} {outcome : ClaimModelOperationOutcome}

/-- Only the claim that dispatches an OpenAI attempt takes a counter. -/
theorem ModelDatabase.ClaimEffect.dispatchCounters
    (claims : ClaimEffect clock workerNow generated operationId db outcome db')
    (uncounted : (∀ attempt, outcome ≠ .claimed attempt) ∨
      ∃ row, db.operations.find? operationId = some row ∧
        row.provider = .deterministic) :
    db'.dispatchCounters = db.dispatchCounters := by
  cases claims with
  | stored | leased | waiting | expired => rfl
  | rejected => exact release_dispatchCounters
  | dispatched _ found _ _ _ passed =>
      rcases uncounted with unclaimed | ⟨row, present, deterministic⟩
      · exact (unclaimed _ rfl).elim
      · cases found.symm.trans present
        cases passed with
        | deterministic => rfl
        | openai openai =>
            rw [deterministic] at openai
            cases openai

/-- A rejected claim ends its operation and releases its reservation. -/
theorem ModelDatabase.ClaimEffect.released
    {completion : ModelOperationCompletion}
    (registered : ∀ row, db.operations.find? operationId = some row →
      row.IsRegistered)
    (claims : ClaimEffect clock workerNow generated operationId db
      (.rejected completion) db') :
    ∃ row row', db.operations.find? operationId = some row ∧
      db'.operations.find? operationId = some row' ∧
        row'.status = .explicitlyRejected ∧
          row'.observedFailure = completion.observedFailure ∧
            row'.reservedCostMicroUsd = 0 ∧
      ∀ key account, db.accounts.find? key = some account →
        ∃ account', db'.accounts.find? key = some account' ∧
          account'.reservedMicroUsd = account.reservedMicroUsd -
              (if row.chargedTo key then row.reservedCostMicroUsd else 0) ∧
            account'.settledMicroUsd = account.settledMicroUsd := by
  cases claims with
  | @rejected row failure clearsClaim found active =>
      refine ⟨row, row.rejectBeforeDispatch clock failure clearsClaim, found,
        ?_, rfl, rfl, rfl, ?_⟩
      · rw [setOperation_operations, release_operations,
          Table.find?_modify_self, found]
        rfl
      · intro key account accountFound
        have unfinished :=
          ModelOperationStatus.isTerminal_eq_false_of_active active
        rw [setOperation_accounts, find?_release, accountFound]
        rw [(registered row found).releases_eq unfinished]
        refine ⟨_, rfl, ?_⟩
        cases row.chargedTo key <;> simp

/-- In every run, the counter of a user and a date is the number of OpenAI
attempts of the user that were started on the date, and at most the daily
limit.  Only a claim that dispatches one of them moves it; a claim that the
daily limit rejects ends its operation and releases its reservation. -/
theorem daily_dispatches_counted
    (reached : (modelSystem dates).Reachable state) :
    (∀ userId date,
      state.database.dailyCount userId date =
        state.database.dailyDispatches userId date ∧
      state.database.dailyCount userId date ≤ 20) ∧
      (∀ operationId row,
        state.database.operations.find? operationId = some row →
        row.dailyDispatchLimit = 20) ∧
      (∀ clock operationId workerNow generated outcome database,
        state.database.claim clock operationId workerNow generated =
          .ok (outcome, database) →
        ((∀ attempt, outcome ≠ .claimed attempt) ∨
          ∃ row, state.database.operations.find? operationId = some row ∧
            row.provider = .deterministic) →
        database.dispatchCounters = state.database.dispatchCounters) ∧
      ∀ clock operationId workerNow generated completion database,
        state.database.claim clock operationId workerNow generated =
          .ok (.rejected completion, database) →
        completion.observedFailure = some .modelDailyDispatchLimitExceeded →
        ∃ row row', state.database.operations.find? operationId = some row ∧
          database.operations.find? operationId = some row' ∧
            row'.status = .explicitlyRejected ∧
              row'.observedFailure = some .modelDailyDispatchLimitExceeded ∧
                row'.reservedCostMicroUsd = 0 ∧
          ∀ key account, state.database.accounts.find? key = some account →
            ∃ account', database.accounts.find? key = some account' ∧
              account'.reservedMicroUsd = account.reservedMicroUsd -
                  (if row.chargedTo key then row.reservedCostMicroUsd
                  else 0) ∧
                account'.settledMicroUsd = account.settledMicroUsd := by
  obtain ⟨registered, _, counts⟩ := (dailyCounts_invariant dates).holds reached
  refine ⟨?_, ?_, ?_, ?_⟩
  · intro userId date
    exact ⟨counts.counted userId date, counts.limited userId date⟩
  · intro operationId row found
    exact (registered operationId row found).terms.dailyDispatchLimit
  · intro clock operationId workerNow generated outcome database claimed
      uncounted
    exact (claim_eq_ok claimed).dispatchCounters uncounted
  · intro clock operationId workerNow generated completion database claimed
      limited
    rw [← limited]
    exact (claim_eq_ok claimed).released (registered operationId)

/-- Both attempts of the sample run were started on one date. -/
theorem daily_dispatches_counted_rate_limited :
    ∃ state, (modelSystem sampleDates).Reachable state ∧
      state.database.dailyCount sampleUser (sampleClock 0).currentDate = 2 ∧
        state.database.dailyDispatches sampleUser
          (sampleClock 0).currentDate = 2 := by
  obtain ⟨state, reached, tested⟩ := System.exists_reachable_of_run
    rateLimitedRun
    (fun state => state.database.dailyCount sampleUser
      (sampleClock 0).currentDate = 2)
    (sampleStart_initial sampleDates) (by decide +kernel)
  have two := of_decide_eq_true tested
  have counted := ((daily_dispatches_counted reached).1 sampleUser
    (sampleClock 0).currentDate).1
  exact ⟨state, reached, two, counted ▸ two⟩

end Runs

end XpensGo
