/-!
# Transactions and database time

A transaction either commits its result and its new state or rolls back to the
state it started from.  A statement that violates a constraint aborts its
transaction; `require` turns such a statement into a failure.

`CURRENT_TIMESTAMP` is constant within a transaction and has microsecond
precision, while the driver hands dates to the program as whole milliseconds.
`CURRENT_DATE` depends on the time zone of the session and is read separately.
-/

namespace Postgres

universe u v w

structure Uuid where
  number : Nat
  deriving DecidableEq, Repr

/-- Microseconds since the epoch. -/
abbrev Timestamp := Int

namespace Timestamp

/-- `Date.prototype.getTime` of a column read through the driver. -/
def getTime (timestamp : Timestamp) : Int :=
  timestamp / 1000

/-- `timestamp + milliseconds * INTERVAL '1 millisecond'`. -/
def addMilliseconds (timestamp : Timestamp) (milliseconds : Int) : Timestamp :=
  timestamp + milliseconds * 1000

/-- `timestamp + seconds * INTERVAL '1 second'`. -/
def addSeconds (timestamp : Timestamp) (seconds : Int) : Timestamp :=
  timestamp + seconds * 1000000

/-- A `Date` built from whole milliseconds and stored in a column. -/
def ofMillis (milliseconds : Int) : Timestamp :=
  milliseconds * 1000

@[simp] theorem getTime_ofMillis (milliseconds : Int) :
    getTime (ofMillis milliseconds) = milliseconds := by
  simp [getTime, ofMillis]

end Timestamp

structure CalendarDate where
  year : Int
  month : Nat
  day : Nat
  deriving DecidableEq, Repr

/-- `date_trunc('month', date)::date`. -/
def CalendarDate.monthStart (date : CalendarDate) : CalendarDate :=
  { date with day := 1 }

/-- The clock readings of one transaction. -/
structure DatabaseClock where
  currentTimestamp : Timestamp
  currentDate : CalendarDate
  deriving Repr

variable {σ : Type u} {ε : Type v} {α : Type w}

/-- A statement that returns `none` violated a constraint. -/
def require (failure : ε) : Option α → Except ε α
  | some value => .ok value
  | none => .error failure

/-- Commit a successful transaction and roll back a failed one. -/
def withTransaction (transaction : σ → Except ε (α × σ)) (database : σ) :
    Except ε α × σ :=
  match transaction database with
  | .ok (result, committed) => (.ok result, committed)
  | .error failure => (.error failure, database)

@[simp] theorem require_eq_ok {failure : ε} {statement : Option α}
    {value : α} :
    require failure statement = .ok value ↔ statement = some value := by
  cases statement <;> simp [require]

theorem bind_eq_ok {β : Type w} {action : Except ε α}
    {rest : α → Except ε β} {result : β} :
    (action >>= rest) = .ok result ↔
      ∃ value, action = .ok value ∧ rest value = .ok result := by
  cases action <;> simp [bind, Except.bind]

theorem require_eq_error {failure : ε} {statement : Option α} {error : ε} :
    require failure statement = .error error ↔
      statement = none ∧ failure = error := by
  cases statement <;> simp [require]

theorem bind_eq_error {β : Type w} {action : Except ε α}
    {next : α → Except ε β} {error : ε} :
    (action >>= next) = .error error ↔
      action = .error error ∨
        ∃ value, action = .ok value ∧ next value = .error error := by
  cases action <;> simp [bind, Except.bind]

/-- Either nothing changed or the transaction committed. -/
theorem withTransaction_cases (transaction : σ → Except ε (α × σ))
    (database : σ) :
    (∃ failure, transaction database = .error failure ∧
      withTransaction transaction database = (.error failure, database)) ∨
    ∃ result committed, transaction database = .ok (result, committed) ∧
      withTransaction transaction database = (.ok result, committed) := by
  unfold withTransaction
  cases outcome : transaction database with
  | error failure => exact .inl ⟨failure, rfl, rfl⟩
  | ok value => exact .inr ⟨value.1, value.2, rfl, rfl⟩

end Postgres
