import XpensGo.Relational.Aggregate
import XpensGo.Transition.System

/-!
# Transactions under READ COMMITTED

A program is a transaction taken statement by statement, with a phase between
its statements.  Any number of sessions run it, each with a parameter of its
own.  A statement reads the rows that are committed when it runs, together with
the writes of its own session.  It may need a lock, which a session keeps until
it ends; a statement waits as long as another session holds the lock that it
needs.  The other sessions see the writes of a session when it commits.

The writes of a session are kept as a function of the committed rows.  This is
faithful for programs that lock the rows they write.
-/

namespace Postgres

open Relational Transition

universe u v w x y

/-- What a program does at one of its phases. -/
inductive Instruction (σ : Type u) (ρ : Type v) (φ : Type w) (ο : Type x) where
  | statement (lock : σ → Option ρ) (write : σ → σ) (next : σ → φ)
  | commit (outcome : ο)
  | rollback (outcome : ο)

/-- A transaction with parameters `π`, phases `φ` and outcomes `ο` over the
rows `σ` and the locks `ρ`. -/
structure Program (σ : Type u) (ρ : Type v) (π : Type y) (φ : Type w)
    (ο : Type x) where
  start : φ
  instruction : π → φ → Instruction σ ρ φ ο

abbrev SessionId := Nat

/-- A transaction in progress. -/
structure Transaction (σ : Type u) (ρ : Type v) (π : Type y) (φ : Type w) where
  parameter : π
  phase : φ
  writes : σ → σ
  locks : List ρ

inductive Session (σ : Type u) (ρ : Type v) (π : Type y) (φ : Type w)
    (ο : Type x) where
  | running (transaction : Transaction σ ρ π φ)
  | ended (outcome : ο)

structure Sessions (σ : Type u) (ρ : Type v) (π : Type y) (φ : Type w)
    (ο : Type x) where
  committed : σ
  sessions : Table SessionId (Session σ ρ π φ ο) := .empty

inductive SessionAction (π : Type y) where
  | start (session : SessionId) (parameter : π)
  | step (session : SessionId)

section Semantics

variable {σ : Type u} {ρ : Type v} {π : Type y} {φ : Type w} {ο : Type x}
  [DecidableEq ρ]

/-- The rows that the next statement of a transaction reads. -/
def Transaction.view (transaction : Transaction σ ρ π φ) (committed : σ) : σ :=
  transaction.writes committed

def Session.holds (session : Session σ ρ π φ ο) (lock : ρ) : Bool :=
  match session with
  | .running transaction => lock ∈ transaction.locks
  | .ended _ => false

namespace Sessions

/-- Some other session holds the lock that a statement needs. -/
def isBlocked (state : Sessions σ ρ π φ ο) (session : SessionId)
    (needed : Option ρ) : Bool :=
  needed.any (fun lock => !(state.sessions.select (fun other running =>
    other ≠ session && running.holds lock)).isEmpty)

def setSession (state : Sessions σ ρ π φ ο) (session : SessionId)
    (value : Session σ ρ π φ ο) : Sessions σ ρ π φ ο :=
  { state with
    sessions := state.sessions.modify session (fun _ => value) }

def commit (state : Sessions σ ρ π φ ο) (session : SessionId) (rows : σ)
    (outcome : ο) : Sessions σ ρ π φ ο :=
  { state with committed := rows }.setSession session (.ended outcome)

end Sessions

/-- A transaction after a statement that was not blocked. -/
def Transaction.execute (transaction : Transaction σ ρ π φ) (committed : σ)
    (lock : σ → Option ρ) (write : σ → σ) (next : σ → φ) :
    Transaction σ ρ π φ :=
  { transaction with
    phase := next (transaction.view committed)
    writes := fun rows => write (transaction.writes rows)
    locks := (lock (transaction.view committed)).toList ++ transaction.locks }

namespace Program

variable (program : Program σ ρ π φ ο)

def next (state : Sessions σ ρ π φ ο) :
    SessionAction π → Option (Sessions σ ρ π φ ο)
  | .start session parameter =>
      if (state.sessions.find? session).isSome then
        none
      else
        some { state with
          sessions := state.sessions.insertMissing session
            (.running
              { parameter := parameter
                phase := program.start
                writes := id
                locks := [] }) }
  | .step session =>
      match state.sessions.find? session with
      | some (.running transaction) =>
          match program.instruction transaction.parameter
            transaction.phase with
          | .statement lock write next =>
              if state.isBlocked session
                  (lock (transaction.view state.committed)) then
                none
              else
                some (state.setSession session
                  (.running (transaction.execute state.committed lock write
                    next)))
          | .commit outcome =>
              some (state.commit session (transaction.view state.committed)
                outcome)
          | .rollback outcome =>
              some (state.setSession session (.ended outcome))
      | _ => none

/-- Sessions that start on committed rows which `initially` admits. -/
def system (initially : σ → Prop) :
    System (Sessions σ ρ π φ ο) (SessionAction π) :=
  { Initial := fun state =>
      ∃ rows, initially rows ∧ state = { committed := rows }
    next := program.next }

/-- A program that runs from a phase with no other session in between: its
outcome and the rows it leaves. -/
def runAlone (parameter : π) (start : σ) : Nat → φ → σ → Option (ο × σ)
  | 0, _, _ => none
  | fuel + 1, phase, view =>
      match program.instruction parameter phase with
      | .statement _ write next =>
          runAlone parameter start fuel (next view) (write view)
      | .commit outcome => some (outcome, view)
      | .rollback outcome => some (outcome, start)

end Program

end Semantics

section Lookup

variable {σ : Type u} {ρ : Type v} {π : Type y} {φ : Type w} {ο : Type x}
  {state : Sessions σ ρ π φ ο} {session other : SessionId}

/-- A session found after a write to one session is that one or another. -/
theorem Sessions.find?_setSession {value found : Session σ ρ π φ ο}
    (read : (state.setSession session value).sessions.find? other =
      some found) :
    (other = session ∧ found = value) ∨
      (other ≠ session ∧ state.sessions.find? other = some found) := by
  rcases Table.find?_modify_cases read with ⟨same, _, _, rfl⟩ | unmoved
  · exact .inl ⟨same, rfl⟩
  · exact .inr unmoved

theorem Sessions.find?_setSession_of_ne {value : Session σ ρ π φ ο}
    (different : other ≠ session) :
    (state.setSession session value).sessions.find? other =
      state.sessions.find? other :=
  Table.find?_modify_of_ne _ _ different

theorem Sessions.find?_setSession_self {value found : Session σ ρ π φ ο}
    (present : state.sessions.find? session = some found) :
    (state.setSession session value).sessions.find? session = some value := by
  rw [Sessions.setSession, Table.find?_modify_self, present]
  rfl

theorem Sessions.setSession_commit {rows : σ} {outcome : ο}
    {value : Session σ ρ π φ ο} :
    (state.commit session rows outcome).setSession session value =
      { state with committed := rows }.setSession session value := by
  simp [Sessions.commit, Sessions.setSession, Table.modify_modify]

/-- A transaction that runs after a session has ended is another one. -/
theorem Sessions.find?_endSession {outcome : ο}
    {transaction : Transaction σ ρ π φ}
    (found : (state.setSession session (.ended outcome)).sessions.find? other =
      some (.running transaction)) :
    other ≠ session ∧
      state.sessions.find? other = some (.running transaction) := by
  rcases Sessions.find?_setSession found with ⟨_, impossible⟩ | earlier
  · cases impossible
  · exact earlier

theorem Sessions.find?_start {value found : Session σ ρ π φ ο}
    (absent : state.sessions.find? session = none)
    (read : (state.sessions.insertMissing session value).find? other =
      some found) :
    (other = session ∧ found = value) ∨
      (other ≠ session ∧ state.sessions.find? other = some found) := by
  simp only [Table.find?_insertMissing, absent, Option.getD_none] at read
  split at read
  · rename_i same
    exact .inl ⟨same, (Option.some.inj read).symm⟩
  · rename_i different
    exact .inr ⟨different, read⟩

/-- No session but the given one holds a lock. -/
def Sessions.FreeFor (state : Sessions σ ρ π φ ο) (session : SessionId)
    (lock : ρ) : Prop :=
  ∀ other transaction, other ≠ session →
    state.sessions.find? other = some (.running transaction) →
    lock ∉ transaction.locks

/-- No lock is held by two sessions. -/
def Sessions.LocksExclusive (state : Sessions σ ρ π φ ο) : Prop :=
  ∀ session transaction lock,
    state.sessions.find? session = some (.running transaction) →
    lock ∈ transaction.locks → state.FreeFor session lock

private theorem freeFor_setSession {lock : ρ} {value : Session σ ρ π φ ο}
    (free : state.FreeFor other lock)
    (released : session ≠ other → ∀ transaction,
      value = .running transaction → lock ∉ transaction.locks) :
    (state.setSession session value).FreeFor other lock := by
  intro third transaction different found
  rcases Sessions.find?_setSession found with ⟨rfl, same⟩ | ⟨_, earlier⟩
  · exact released different transaction same.symm
  · exact free third transaction different earlier

end Lookup

section Steps

variable {σ : Type u} {ρ : Type v} {π : Type y} {φ : Type w} {ο : Type x}
  [DecidableEq ρ] {program : Program σ ρ π φ ο} {initially : σ → Prop}
  {state state' : Sessions σ ρ π φ ο} {session other : SessionId}

theorem Sessions.isBlocked_eq_false {needed : Option ρ} :
    state.isBlocked session needed = false ↔
      ∀ lock, needed = some lock → state.FreeFor session lock := by
  cases needed with
  | none => simp [Sessions.isBlocked]
  | some lock =>
      simp only [Sessions.isBlocked, Option.any_some, Bool.not_eq_false',
        Table.select_isEmpty_iff, Option.some.injEq]
      constructor
      · rintro free _ rfl other transaction different found held
        have unheld := free other _ found
        simp [different, Session.holds, held] at unheld
      · intro free other running found
        cases running with
        | ended outcome => simp [Session.holds]
        | running transaction =>
            by_cases same : other = session
            · simp [same]
            · simpa [same, Session.holds] using
                free lock rfl other transaction same found

/-- The transitions of a program. -/
inductive SessionStep (program : Program σ ρ π φ ο)
    (state : Sessions σ ρ π φ ο) :
    SessionAction π → Sessions σ ρ π φ ο → Prop where
  | started {session : SessionId} {parameter : π} :
      state.sessions.find? session = none →
      SessionStep program state (.start session parameter)
        { state with
          sessions := state.sessions.insertMissing session
            (.running
              { parameter := parameter
                phase := program.start
                writes := id
                locks := [] }) }
  | executed {session : SessionId} {transaction : Transaction σ ρ π φ}
      {lock : σ → Option ρ} {write : σ → σ} {next : σ → φ} :
      state.sessions.find? session = some (.running transaction) →
      program.instruction transaction.parameter transaction.phase =
        .statement lock write next →
      (∀ needed, lock (transaction.view state.committed) = some needed →
        state.FreeFor session needed) →
      SessionStep program state (.step session)
        (state.setSession session
          (.running (transaction.execute state.committed lock write next)))
  | committed {session : SessionId} {transaction : Transaction σ ρ π φ}
      {outcome : ο} :
      state.sessions.find? session = some (.running transaction) →
      program.instruction transaction.parameter transaction.phase =
        .commit outcome →
      SessionStep program state (.step session)
        (state.commit session (transaction.view state.committed) outcome)
  | rolledBack {session : SessionId} {transaction : Transaction σ ρ π φ}
      {outcome : ο} :
      state.sessions.find? session = some (.running transaction) →
      program.instruction transaction.parameter transaction.phase =
        .rollback outcome →
      SessionStep program state (.step session)
        (state.setSession session (.ended outcome))

theorem sessionStep_of_next {action : SessionAction π}
    (taken : (program.system initially).next state action = some state') :
    SessionStep program state action state' := by
  change program.next state action = some state' at taken
  cases action with
  | start session parameter =>
      simp only [Program.next] at taken
      split at taken
      · cases taken
      · rename_i absent
        cases taken
        exact .started (by simpa using absent)
  | step session =>
      simp only [Program.next] at taken
      split at taken
      · rename_i transaction found
        split at taken
        · rename_i lock write next instruction
          split at taken
          · cases taken
          · rename_i free
            cases taken
            exact .executed found instruction
              (Sessions.isBlocked_eq_false.mp (by simpa using free))
        · rename_i outcome instruction
          cases taken
          exact .committed found instruction
        · rename_i outcome instruction
          cases taken
          exact .rolledBack found instruction
      · cases taken

end Steps

section Waiting

variable {σ : Type u} {ρ : Type v} {π : Type y} {φ : Type w} {ο : Type x}
  [DecidableEq ρ] {program : Program σ ρ π φ ο} {state : Sessions σ ρ π φ ο}
  {session : SessionId} {transaction : Transaction σ ρ π φ}

/-- The next statement of a transaction needs a lock that another one holds. -/
def Program.Waits (program : Program σ ρ π φ ο) (state : Sessions σ ρ π φ ο)
    (session : SessionId) (transaction : Transaction σ ρ π φ) : Prop :=
  ∃ lock write next, program.instruction transaction.parameter
      transaction.phase = .statement lock write next ∧
    ∃ needed, lock (transaction.view state.committed) = some needed ∧
      ∃ other holder, other ≠ session ∧
        state.sessions.find? other = some (.running holder) ∧
        needed ∈ holder.locks

theorem Program.waits_of_next_eq_none
    (found : state.sessions.find? session = some (.running transaction))
    (stuck : program.next state (.step session) = none) :
    program.Waits state session transaction := by
  simp only [Program.next, found] at stuck
  split at stuck
  · rename_i lock write next instruction
    split at stuck
    · rename_i blocked
      by_contra waits
      have free : state.isBlocked session
          (lock (transaction.view state.committed)) = false := by
        refine Sessions.isBlocked_eq_false.mpr ?_
        intro needed locks other holder different present held
        exact waits ⟨lock, write, next, instruction, needed, locks, other,
          holder, different, present, held⟩
      rw [free] at blocked
      cases blocked
    · cases stuck
  · cases stuck
  · cases stuck

end Waiting

section Locks

variable {σ : Type u} {ρ : Type v} {π : Type y} {φ : Type w} {ο : Type x}
  {program : Program σ ρ π φ ο} {initially : σ → Prop}
  {state state' : Sessions σ ρ π φ ο}

theorem SessionStep.ended {action : SessionAction π} {outcome : ο}
    (step : SessionStep program state action state')
    (found : state.sessions.find? session = some (.ended outcome)) :
    state'.sessions.find? session = some (.ended outcome) := by
  have unmoved : ∀ (moved : SessionId) (running : Transaction σ ρ π φ),
      state.sessions.find? moved = some (.running running) →
      session ≠ moved := by
    rintro moved running present rfl
    rw [found] at present
    cases present
  cases step with
  | @started moved _ absent =>
      have different : session ≠ moved := by
        rintro rfl
        rw [found] at absent
        cases absent
      simp only [Table.find?_insertMissing, if_neg different]
      exact found
  | executed present | rolledBack present =>
      rw [Sessions.find?_setSession_of_ne (unmoved _ _ present)]
      exact found
  | committed present =>
      exact (Sessions.find?_setSession_of_ne (unmoved _ _ present)).trans found

theorem Sessions.LocksExclusive.endSession (exclusive : state.LocksExclusive)
    (ended : SessionId) (outcome : ο) :
    (state.setSession ended (.ended outcome)).LocksExclusive := by
  intro session transaction lock present held
  obtain ⟨_, earlier⟩ := Sessions.find?_endSession present
  apply freeFor_setSession
  · exact exclusive session transaction lock earlier held
  · rintro _ _ ended
    cases ended

theorem SessionStep.locksExclusive {action : SessionAction π}
    (exclusive : state.LocksExclusive)
    (step : SessionStep program state action state') :
    state'.LocksExclusive := by
  cases step with
  | @started started parameter absent =>
      intro session transaction lock found held
      rcases Sessions.find?_start absent found with ⟨rfl, same⟩ | ⟨_, earlier⟩
      · cases same
        cases held
      · intro other otherTransaction different otherFound
        rcases Sessions.find?_start absent otherFound with
          ⟨rfl, same⟩ | ⟨_, otherEarlier⟩
        · cases same
          exact List.not_mem_nil
        · exact exclusive session transaction lock earlier held other
            otherTransaction different otherEarlier
  | @executed executed before lock write next present _ free =>
      intro session transaction held found member
      rcases Sessions.find?_setSession found with ⟨rfl, same⟩ | ⟨other, earlier⟩
      · cases same
        refine freeFor_setSession ?_ (fun different => (different rfl).elim)
        rcases List.mem_append.mp member with new | old
        · exact free held (Option.mem_toList.mp new)
        · exact exclusive session before held present old
      · have apart := exclusive session transaction held earlier member
        refine freeFor_setSession apart ?_
        intro different target equal new
        cases equal
        rcases List.mem_append.mp new with needed | old
        · exact free held (Option.mem_toList.mp needed) session transaction
            other earlier member
        · exact apart executed before different present old
  | committed found | rolledBack found => exact exclusive.endSession _ _

theorem reachable_locksExclusive [DecidableEq ρ]
    (reached : (program.system initially).Reachable state) :
    state.LocksExclusive := by
  refine System.Reachable.invariant ?_ ?_ reached
  · rintro state ⟨rows, _, rfl⟩ session transaction lock found
    simp at found
  · intro state action state' _ exclusive taken
    exact (sessionStep_of_next taken).locksExclusive exclusive

/-- Every running transaction meets an assertion about the committed rows and
itself. -/
def Sessions.RunningMeet (state : Sessions σ ρ π φ ο)
    (J : σ → Transaction σ ρ π φ → Prop) : Prop :=
  ∀ session transaction,
    state.sessions.find? session = some (.running transaction) →
    J state.committed transaction

variable {J : σ → Transaction σ ρ π φ → Prop}

theorem Sessions.RunningMeet.setSession {session : SessionId}
    {value : Session σ ρ π φ ο} (meets : state.RunningMeet J)
    (met : ∀ transaction, value = .running transaction →
      J state.committed transaction) :
    (state.setSession session value).RunningMeet J := by
  intro other transaction found
  rcases Sessions.find?_setSession found with ⟨_, same⟩ | ⟨_, earlier⟩
  · exact met transaction same.symm
  · exact meets other transaction earlier

theorem Sessions.RunningMeet.endSession (meets : state.RunningMeet J)
    (session : SessionId) (outcome : ο) :
    (state.setSession session (.ended outcome)).RunningMeet J := by
  apply meets.setSession
  intro transaction ended
  cases ended

/-- An assertion that holds when a transaction starts, that its statements
keep, and that survives the commit of a transaction with other locks, holds of
every running transaction. -/
theorem Sessions.RunningMeet.step {action : SessionAction π}
    (meets : state.RunningMeet J) (exclusive : state.LocksExclusive)
    (starts : ∀ parameter, J state.committed
      { parameter := parameter
        phase := program.start
        writes := id
        locks := [] })
    (keeps : ∀ {transaction lock write next},
      J state.committed transaction →
      program.instruction transaction.parameter transaction.phase =
        .statement lock write next →
      J state.committed
        (transaction.execute state.committed lock write next))
    (survives : ∀ {ending transaction outcome},
      J state.committed ending →
      program.instruction ending.parameter ending.phase = .commit outcome →
      J state.committed transaction →
      (∀ lock ∈ transaction.locks, lock ∉ ending.locks) →
      J (ending.view state.committed) transaction)
    (step : SessionStep program state action state') :
    state'.RunningMeet J := by
  cases step with
  | started absent =>
      intro other transaction found
      rcases Sessions.find?_start absent found with ⟨_, same⟩ | ⟨_, earlier⟩
      · cases same
        exact starts _
      · exact meets other transaction earlier
  | executed present instruction =>
      apply meets.setSession
      intro transaction moved
      cases moved
      exact keeps (meets _ _ present) instruction
  | @committed session ending outcome present instruction =>
      intro other transaction found
      obtain ⟨different, earlier⟩ := Sessions.find?_endSession found
      apply survives (meets _ _ present) instruction
        (meets other transaction earlier)
      intro lock held
      exact exclusive other transaction lock earlier held session ending
        different.symm present
  | rolledBack present => exact meets.endSession _ _

end Locks

section Termination

variable {σ : Type u} {ρ : Type v} {π : Type y} {φ : Type w} {ο : Type x}
  {program : Program σ ρ π φ ο} {state state' : Sessions σ ρ π φ ο}

/-- A rank that every statement of a program lowers. -/
def Program.Descends (program : Program σ ρ π φ ο) (rank : φ → Nat) : Prop :=
  ∀ parameter phase lock write next,
    program.instruction parameter phase = .statement lock write next →
    ∀ view, rank (next view) < rank phase

/-- What a session has left to do. -/
def Session.remaining (rank : φ → Nat) : Session σ ρ π φ ο → Nat
  | .running transaction => rank transaction.phase + 1
  | .ended _ => 0

def Sessions.remaining (state : Sessions σ ρ π φ ο) (rank : φ → Nat) : Nat :=
  state.sessions.sum (fun _ session => session.remaining rank)

private theorem remaining_setSession {session : SessionId}
    {value earlier : Session σ ρ π φ ο} {rank : φ → Nat}
    (found : state.sessions.find? session = some earlier)
    (less : value.remaining rank < earlier.remaining rank) :
    (state.setSession session value).remaining rank <
      state.remaining rank := by
  have moved := Table.sum_modify found (fun _ => value)
    (fun _ session => session.remaining rank)
  change (state.sessions.modify session (fun _ => value)).sum _ <
    state.sessions.sum _
  omega

theorem SessionStep.remaining_lt {rank : φ → Nat} {session : SessionId}
    (descends : program.Descends rank)
    (step : SessionStep program state (.step session) state') :
    state'.remaining rank < state.remaining rank := by
  cases step with
  | executed found instruction =>
      apply remaining_setSession found
      have lower := descends _ _ _ _ _ instruction
      simpa [Session.remaining, Transaction.execute] using lower _
  | committed found | rolledBack found =>
      exact remaining_setSession found (Nat.succ_pos _)

end Termination

section Alone

variable {σ : Type u} {ρ : Type v} {π : Type y} {φ : Type w} {ο : Type x}
  [DecidableEq ρ] {program : Program σ ρ π φ ο} {initially : σ → Prop}
  {session : SessionId}

variable {state : Sessions σ ρ π φ ο} {transaction : Transaction σ ρ π φ}

/-- A statement runs when no other session holds the lock that it needs. -/
theorem Program.next_eq_executed {lock : σ → Option ρ} {write : σ → σ}
    {next : σ → φ}
    (found : state.sessions.find? session = some (.running transaction))
    (instruction : program.instruction transaction.parameter
      transaction.phase = .statement lock write next)
    (free : ∀ needed, lock (transaction.view state.committed) = some needed →
      state.FreeFor session needed) :
    program.next state (.step session) =
      some (state.setSession session
        (.running (transaction.execute state.committed lock write next))) := by
  have unblocked : state.isBlocked session
      (lock (transaction.view state.committed)) = false :=
    Sessions.isBlocked_eq_false.mpr free
  simp [Program.next, found, instruction, unblocked]

private theorem next_eq_committed {outcome : ο}
    (found : state.sessions.find? session = some (.running transaction))
    (instruction : program.instruction transaction.parameter
      transaction.phase = .commit outcome) :
    program.next state (.step session) =
      some (state.commit session (transaction.view state.committed)
        outcome) := by
  simp [Program.next, found, instruction]

private theorem next_eq_rolledBack {outcome : ο}
    (found : state.sessions.find? session = some (.running transaction))
    (instruction : program.instruction transaction.parameter
      transaction.phase = .rollback outcome) :
    program.next state (.step session) =
      some (state.setSession session (.ended outcome)) := by
  simp [Program.next, found, instruction]

/-- A session that no other session disturbs ends as the program alone does. -/
theorem exists_run_of_runAlone {fuel : Nat} {outcome : ο} {rows : σ}
    (alone : ∀ lock, state.FreeFor session lock)
    (found : state.sessions.find? session = some (.running transaction))
    (ran : program.runAlone transaction.parameter state.committed fuel
      transaction.phase (transaction.view state.committed) =
        some (outcome, rows)) :
    ∃ labels state', (program.system initially).run state labels =
      some state' ∧ state'.committed = rows ∧
        state'.sessions.find? session = some (.ended outcome) := by
  induction fuel generalizing state transaction with
  | zero => cases ran
  | succ fuel induction =>
      simp only [Program.runAlone] at ran
      split at ran
      · rename_i lock write next instruction
        have moved := Program.next_eq_executed found instruction
          (fun needed _ => alone needed)
        have still : ∀ needed, (state.setSession session
            (.running (transaction.execute state.committed lock write
              next))).FreeFor session needed := by
          intro needed
          exact freeFor_setSession (alone needed)
            (fun different => (different rfl).elim)
        have present : (state.setSession session
            (.running (transaction.execute state.committed lock write
              next))).sessions.find? session =
                some (.running (transaction.execute state.committed lock
                  write next)) := by
          simp [Sessions.setSession, found]
        obtain ⟨labels, state', rest, committed, ended⟩ :=
          induction still present ran
        refine ⟨.step session :: labels, state', ?_, committed, ended⟩
        simp only [System.run, Program.system, moved]
        exact rest
      · rename_i answer instruction
        cases ran
        have moved := next_eq_committed found instruction
        refine ⟨[.step session], state.commit session
          (transaction.view state.committed) outcome, ?_, rfl, ?_⟩
        · simp only [System.run, Program.system, moved]
        · simp [Sessions.commit, Sessions.setSession, found]
      · rename_i answer instruction
        cases ran
        have moved := next_eq_rolledBack found instruction
        refine ⟨[.step session], state.setSession session (.ended outcome),
          ?_, rfl, ?_⟩
        · simp only [System.run, Program.system, moved]
        · simp [Sessions.setSession, found]

/-- A session that starts while no lock is held, and that no other session
disturbs, ends as the program alone does. -/
theorem exists_run_of_start {fuel : Nat} {parameter : π} {outcome : ο}
    {rows : σ}
    (absent : state.sessions.find? session = none)
    (alone : ∀ lock, state.FreeFor session lock)
    (ran : program.runAlone parameter state.committed fuel program.start
      state.committed = some (outcome, rows)) :
    ∃ labels state', (program.system initially).run state
        (.start session parameter :: labels) = some state' ∧
      state'.committed = rows ∧
        state'.sessions.find? session = some (.ended outcome) := by
  let begun : Transaction σ ρ π φ :=
    { parameter := parameter
      phase := program.start
      writes := id
      locks := [] }
  let started : Sessions σ ρ π φ ο :=
    { state with
      sessions := state.sessions.insertMissing session (.running begun) }
  have moved : program.next state (.start session parameter) =
      some started := by
    simp [Program.next, absent, started, begun]
  have present : started.sessions.find? session = some (.running begun) := by
    simp [started, Table.find?_insertMissing, absent]
  have still : ∀ lock, started.FreeFor session lock := by
    intro lock other transaction different found
    rcases Sessions.find?_start absent found with ⟨same, _⟩ | ⟨_, earlier⟩
    · exact (different same).elim
    · exact alone lock other transaction different earlier
  obtain ⟨labels, state', rest, committed, ended⟩ :
      ∃ labels state', (program.system initially).run started labels =
        some state' ∧ state'.committed = rows ∧
          state'.sessions.find? session = some (.ended outcome) :=
    exists_run_of_runAlone still present ran
  refine ⟨labels, state', ?_, committed, ended⟩
  simp only [System.run, Program.system, moved]
  exact rest

end Alone

end Postgres
