import XpensGo.Postgres.ReadCommitted

/-!
# Serializability

A run is serial when it leaves the rows, and gives the answers, of its
transactions one after the other in the order in which they end.  It is enough
that an assertion which every running transaction meets allows each ending on
the rows that are committed at that moment.

A specification need not be deterministic.  It relates the rows before a
transaction to its outcome and to the rows after it.
-/

namespace Postgres

open Relational Transition

universe u v w x y

/-- The outcomes and the rows that are allowed for a transaction. -/
abbrev Specification (σ : Type u) (π : Type y) (ο : Type x) :=
  π → σ → ο → σ → Prop

/-- A transaction that has ended. -/
structure Ending (π : Type y) (ο : Type x) where
  session : SessionId
  parameter : π
  outcome : ο

/-- Transactions one after the other, with the rows that the last one leaves. -/
inductive Serial {σ : Type u} {π : Type y} {ο : Type x}
    (allows : Specification σ π ο) (first : σ) : List (Ending π ο) → σ → Prop
    where
  | start : Serial allows first [] first
  | ended {endings : List (Ending π ο)} {ending : Ending π ο} {rows last : σ} :
      Serial allows first endings rows →
      allows ending.parameter rows ending.outcome last →
      Serial allows first (endings ++ [ending]) last

section Serial

variable {σ : Type u} {π : Type y} {ο : Type x}
  {allows : Specification σ π ο} {first last : σ}
  {endings : List (Ending π ο)}

theorem Serial.invariant {I : σ → Prop}
    (serial : Serial allows first endings last) (initially : I first)
    (kept : ∀ parameter rows outcome rows', I rows →
      allows parameter rows outcome rows' → I rows') : I last := by
  induction serial with
  | start => exact initially
  | ended _ allowed holds => exact kept _ _ _ _ holds allowed

/-- What one of the transactions brings about, and all of them keep, holds after
the last one. -/
theorem Serial.persists {I K : σ → Prop} {ending : Ending π ο}
    (serial : Serial allows first endings last) (initially : I first)
    (kept : ∀ parameter rows outcome rows', I rows →
      allows parameter rows outcome rows' → I rows')
    (member : ending ∈ endings)
    (reaches : ∀ rows rows', I rows →
      allows ending.parameter rows ending.outcome rows' → K rows')
    (stays : ∀ parameter rows outcome rows', K rows →
      allows parameter rows outcome rows' → K rows') : K last := by
  induction serial with
  | start => cases member
  | @ended endings final rows rows' earlier allowed induction =>
      rcases List.mem_append.mp member with old | new
      · exact stays _ _ _ _ (induction old) allowed
      · cases List.mem_singleton.mp new
        exact reaches _ _ (earlier.invariant initially kept) allowed

end Serial

section Histories

variable {σ : Type u} {ρ : Type v} {π : Type y} {φ : Type w} {ο : Type x}

/-- The transaction that a step ends. -/
def Program.ending? (program : Program σ ρ π φ ο)
    (state : Sessions σ ρ π φ ο) :
    SessionAction π → Option (Ending π ο)
  | .start _ _ => none
  | .step session =>
      match state.sessions.find? session with
      | some (.running transaction) =>
          match program.instruction transaction.parameter
            transaction.phase with
          | .commit outcome | .rollback outcome =>
              some
                { session := session
                  parameter := transaction.parameter
                  outcome := outcome }
          | .statement _ _ _ => none
      | _ => none

/-- The transactions of a run in the order in which they end. -/
def Program.history [DecidableEq ρ] (program : Program σ ρ π φ ο) :
    Sessions σ ρ π φ ο → List (SessionAction π) → List (Ending π ο)
  | _, [] => []
  | state, action :: actions =>
      match program.next state action with
      | none => []
      | some state' =>
          (program.ending? state action).toList ++
            program.history state' actions

variable {program : Program σ ρ π φ ο} {initially : σ → Prop}
  {allows : Specification σ π ο} {state state' : Sessions σ ρ π φ ο}

/-- What is known of a transaction where it ends allows its ending. -/
structure EndsAllowed (program : Program σ ρ π φ ο)
    (allows : Specification σ π ο) (J : σ → Transaction σ ρ π φ → Prop) :
    Prop where
  committed : ∀ {rows transaction outcome}, J rows transaction →
    program.instruction transaction.parameter transaction.phase =
      .commit outcome →
    allows transaction.parameter rows outcome (transaction.view rows)
  rolledBack : ∀ {rows transaction outcome}, J rows transaction →
    program.instruction transaction.parameter transaction.phase =
      .rollback outcome →
    allows transaction.parameter rows outcome rows

variable {J : σ → Transaction σ ρ π φ → Prop}

/-- A step ends no transaction and commits nothing, or it ends one in an
allowed way. -/
theorem SessionStep.ending_cases {action : SessionAction π}
    (step : SessionStep program state action state')
    (ends : EndsAllowed program allows J) (meets : state.RunningMeet J) :
    (program.ending? state action = none ∧
        state'.committed = state.committed) ∨
      ∃ ending, program.ending? state action = some ending ∧
        allows ending.parameter state.committed ending.outcome
          state'.committed := by
  cases step with
  | started => exact .inl ⟨rfl, rfl⟩
  | executed present instruction =>
      left
      exact ⟨by simp only [Program.ending?, present, instruction], rfl⟩
  | @committed session transaction answer present instruction =>
      right
      refine ⟨⟨session, transaction.parameter, answer⟩, ?_, ?_⟩
      · simp only [Program.ending?, present, instruction]
      · exact ends.committed (meets _ _ present) instruction
  | @rolledBack session transaction answer present instruction =>
      right
      refine ⟨⟨session, transaction.parameter, answer⟩, ?_, ?_⟩
      · simp only [Program.ending?, present, instruction]
      · exact ends.rolledBack (meets _ _ present) instruction

/-- What a run has recorded of its sessions: the start of the running ones and
the ending of the others, once for each. -/
structure Recorded (state : Sessions σ ρ π φ ο)
    (taken : List (SessionAction π)) (endings : List (Ending π ο)) : Prop where
  running : ∀ session transaction,
    state.sessions.find? session = some (.running transaction) →
    .start session transaction.parameter ∈ taken
  ended : ∀ session outcome,
    state.sessions.find? session = some (.ended outcome) →
    ∃ parameter, ⟨session, parameter, outcome⟩ ∈ endings ∧
      .start session parameter ∈ taken
  present : ∀ ending ∈ endings,
    state.sessions.find? ending.session = some (.ended ending.outcome)
  once : (endings.map Ending.session).Nodup

theorem Recorded.initial (rows : σ) :
    Recorded ({ committed := rows } : Sessions σ ρ π φ ο) [] [] where
  running := fun _ _ found => by simp at found
  ended := fun _ _ found => by simp at found
  present := fun _ member => by cases member
  once := List.nodup_nil

section Steps

variable {taken : List (SessionAction π)} {endings : List (Ending π ο)}
  {action : SessionAction π}

private theorem Recorded.end {session : SessionId}
    {transaction : Transaction σ ρ π φ} {outcome : ο} {committed : σ}
    (recorded : Recorded state taken endings)
    (found : state.sessions.find? session = some (.running transaction)) :
    Recorded
      ({ state with committed := committed }.setSession session
        (.ended outcome)) (taken ++ [action])
      (endings ++ [⟨session, transaction.parameter, outcome⟩]) where
  running := by
    intro other running present
    obtain ⟨_, earlier⟩ := Sessions.find?_endSession present
    exact List.mem_append_left _ (recorded.running _ _ earlier)
  ended := by
    intro other answer present
    rcases Sessions.find?_setSession present with ⟨rfl, same⟩ | ⟨_, earlier⟩
    · cases same
      exact ⟨transaction.parameter, List.mem_append_right _ (by simp),
        List.mem_append_left _ (recorded.running _ _ found)⟩
    · obtain ⟨parameter, member, started⟩ := recorded.ended _ _ earlier
      exact ⟨parameter, List.mem_append_left _ member,
        List.mem_append_left _ started⟩
  present := by
    intro ending member
    rcases List.mem_append.mp member with old | new
    · have earlier := recorded.present ending old
      have different : ending.session ≠ session := by
        rintro same
        rw [same, found] at earlier
        cases earlier
      exact (Sessions.find?_setSession_of_ne different).trans earlier
    · cases List.mem_singleton.mp new
      have present : ({ state with committed := committed } :
          Sessions σ ρ π φ ο).sessions.find? session =
            some (.running transaction) := found
      exact Sessions.find?_setSession_self present
  once := by
    rw [List.map_append]
    refine List.nodup_append.mpr ⟨recorded.once, by simp, ?_⟩
    intro earlier member last new same
    obtain ⟨ending, old, rfl⟩ := List.mem_map.mp member
    have present := recorded.present ending old
    rw [same, List.mem_singleton.mp new, found] at present
    cases present

private theorem Recorded.move (recorded : Recorded state taken endings)
    (step : SessionStep program state action state')
    (moved : ∀ session found, state'.sessions.find? session = some found →
      state.sessions.find? session = some found ∨
        ∃ transaction, found = .running transaction ∧
          .start session transaction.parameter ∈ taken ++ [action]) :
    Recorded state' (taken ++ [action]) endings where
  running := by
    intro session transaction found
    rcases moved session _ found with earlier | ⟨_, same, started⟩
    · exact List.mem_append_left _ (recorded.running _ _ earlier)
    · cases same
      exact started
  ended := by
    intro session outcome found
    rcases moved session _ found with earlier | ⟨_, impossible, _⟩
    · obtain ⟨parameter, member, started⟩ := recorded.ended _ _ earlier
      exact ⟨parameter, member, List.mem_append_left _ started⟩
    · cases impossible
  present := fun ending member => step.ended (recorded.present ending member)
  once := recorded.once

theorem Recorded.step (recorded : Recorded state taken endings)
    (step : SessionStep program state action state') :
    Recorded state' (taken ++ [action])
      (endings ++ (program.ending? state action).toList) := by
  cases step with
  | @started session parameter absent =>
      change Recorded _ _ (endings ++ [])
      rw [List.append_nil]
      apply recorded.move (SessionStep.started absent)
      intro other found present
      rcases Sessions.find?_start absent present with
        ⟨rfl, same⟩ | ⟨_, earlier⟩
      · exact .inr ⟨_, same, by simp⟩
      · exact .inl earlier
  | @executed session transaction lock write next found instruction free =>
      have none : program.ending? state (.step session) = none := by
        simp only [Program.ending?, found, instruction]
      rw [none]
      change Recorded _ _ (endings ++ [])
      rw [List.append_nil]
      apply recorded.move (.executed found instruction free)
      intro other moved present
      rcases Sessions.find?_setSession present with
        ⟨rfl, same⟩ | ⟨_, earlier⟩
      · have started := recorded.running _ _ found
        exact .inr ⟨_, same, List.mem_append_left _ started⟩
      · exact .inl earlier
  | @committed session transaction outcome found instruction =>
      have ends : program.ending? state (.step session) =
          some ⟨session, transaction.parameter, outcome⟩ := by
        simp only [Program.ending?, found, instruction]
      rw [ends]
      exact recorded.end found
  | @rolledBack session transaction outcome found instruction =>
      have ends : program.ending? state (.step session) =
          some ⟨session, transaction.parameter, outcome⟩ := by
        simp only [Program.ending?, found, instruction]
      rw [ends]
      exact recorded.end found

end Steps

/-- A run is serial: it leaves the rows of its transactions one after the
other, in the order in which they end, and every session that has ended is one
of them, with its answer. -/
structure Serialized [DecidableEq ρ] (program : Program σ ρ π φ ο)
    (allows : Specification σ π ο) (rows : σ)
    (actions : List (SessionAction π)) (state : Sessions σ ρ π φ ο) :
    Prop where
  serial : Serial allows rows
    (program.history { committed := rows } actions) state.committed
  recorded : Recorded state actions
    (program.history { committed := rows } actions)

variable [DecidableEq ρ]

private theorem serialized_from {rows : σ}
    (ends : EndsAllowed program allows J)
    (meets : ∀ state, (program.system initially).Reachable state →
      state.RunningMeet J)
    {taken actions : List (SessionAction π)} {endings : List (Ending π ο)}
    (reached : (program.system initially).Reachable state)
    (serial : Serial allows rows endings state.committed)
    (recorded : Recorded state taken endings)
    (ran : (program.system initially).run state actions = some state') :
    Serial allows rows (endings ++ program.history state actions)
        state'.committed ∧
      Recorded state' (taken ++ actions)
        (endings ++ program.history state actions) := by
  induction actions generalizing state taken endings with
  | nil =>
      cases ran
      simp only [Program.history, List.append_nil]
      exact ⟨serial, recorded⟩
  | cons action actions induction =>
      simp only [System.run] at ran
      split at ran
      · cases ran
      · rename_i middle moved
        have step := sessionStep_of_next moved
        change program.next state action = some middle at moved
        have further : Serial allows rows
            (endings ++ (program.ending? state action).toList)
            middle.committed := by
          rcases step.ending_cases ends (meets state reached) with
            ⟨none, same⟩ | ⟨ending, ended, allowed⟩
          · rw [none, same]
            simpa using serial
          · rw [ended]
            exact .ended serial allowed
        have rest := induction (reached.step moved) further
          (recorded.step step) ran
        simp only [Program.history, moved]
        rw [List.append_assoc, List.append_assoc] at rest
        exact rest

/-- An assertion that holds when a transaction starts, that its statements
keep, and that survives the commits of transactions with other locks. -/
structure Program.Maintains (program : Program σ ρ π φ ο)
    (J : σ → Transaction σ ρ π φ → Prop) : Prop where
  starts : ∀ rows parameter, J rows
    { parameter := parameter
      phase := program.start
      writes := id
      locks := [] }
  keeps : ∀ {rows transaction lock write next}, J rows transaction →
    program.instruction transaction.parameter transaction.phase =
      .statement lock write next →
    J rows (transaction.execute rows lock write next)
  survives : ∀ {rows ending transaction outcome}, J rows ending →
    program.instruction ending.parameter ending.phase = .commit outcome →
    J rows transaction →
    (∀ lock ∈ transaction.locks, lock ∉ ending.locks) →
    J (ending.view rows) transaction

omit [DecidableEq ρ] in
theorem Program.Maintains.step {action : SessionAction π}
    (maintains : program.Maintains J) (meets : state.RunningMeet J)
    (exclusive : state.LocksExclusive)
    (step : SessionStep program state action state') :
    state'.RunningMeet J :=
  meets.step exclusive (maintains.starts _) maintains.keeps
    maintains.survives step

theorem Program.Maintains.reachable (maintains : program.Maintains J)
    (reached : (program.system initially).Reachable state) :
    state.RunningMeet J := by
  refine System.Reachable.invariant (I := fun state => state.RunningMeet J)
    ?_ ?_ reached
  · rintro state ⟨rows, _, rfl⟩ session transaction found
    simp at found
  · intro state action state' reached meets taken
    exact maintains.step meets (reachable_locksExclusive reached)
      (sessionStep_of_next taken)

theorem Program.Maintains.serialized (maintains : program.Maintains J)
    (ends : EndsAllowed program allows J) {rows : σ}
    (initial : initially rows) {actions : List (SessionAction π)}
    (ran : (program.system initially).run { committed := rows } actions =
      some state) :
    Serialized program allows rows actions state := by
  obtain ⟨serial, recorded⟩ := serialized_from ends
    (fun _ reached => maintains.reachable reached)
    (.init ⟨rows, initial, rfl⟩) .start (.initial rows) ran
  exact ⟨serial, recorded⟩

end Histories

end Postgres
