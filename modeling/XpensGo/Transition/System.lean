/-!
# Transition systems

A system is a set of initial states and a guarded, executable step function:
`next state label` is `none` when the label is not enabled.  All choices of the
environment, such as clock readings, generated identifiers and the order of
the participants, are carried by the labels, so a run is a list of labels.

`ReachableWhere allowed` collects the states of the runs whose steps all meet a
condition on the state before the step and on its label.
-/

namespace Transition

universe u v w x

structure System (σ : Type u) (ℓ : Type v) where
  Initial : σ → Prop
  next : σ → ℓ → Option σ

namespace System

variable {σ : Type u} {ℓ : Type v}

/-- States of the runs whose steps all meet `allowed`. -/
inductive ReachableWhere (system : System σ ℓ) (allowed : σ → ℓ → Prop) :
    σ → Prop where
  | init {state : σ} :
      system.Initial state → ReachableWhere system allowed state
  | step {state state' : σ} {label : ℓ} :
      ReachableWhere system allowed state →
      allowed state label →
      system.next state label = some state' →
      ReachableWhere system allowed state'

/-- States of all runs. -/
def Reachable (system : System σ ℓ) : σ → Prop :=
  system.ReachableWhere (fun _ _ => True)

/-- Replay a list of labels. -/
def run (system : System σ ℓ) (state : σ) : List ℓ → Option σ
  | [] => some state
  | label :: labels =>
      match system.next state label with
      | none => none
      | some state' => system.run state' labels

variable {system : System σ ℓ} {allowed : σ → ℓ → Prop}

theorem Reachable.init {state : σ} (initial : system.Initial state) :
    system.Reachable state :=
  ReachableWhere.init initial

theorem Reachable.step {state state' : σ} {label : ℓ}
    (reached : system.Reachable state)
    (taken : system.next state label = some state') :
    system.Reachable state' :=
  ReachableWhere.step reached trivial taken

theorem ReachableWhere.mono {weaker : σ → ℓ → Prop} {state : σ}
    (implied : ∀ state label, allowed state label → weaker state label)
    (reached : system.ReachableWhere allowed state) :
    system.ReachableWhere weaker state := by
  induction reached with
  | init initial => exact .init initial
  | step _ permitted taken induction =>
      exact .step induction (implied _ _ permitted) taken

/-- A condition may be weakened by what holds of the states that its runs
reach. -/
theorem ReachableWhere.imply {weaker : σ → ℓ → Prop} {state : σ}
    (implied : ∀ state label, system.ReachableWhere allowed state →
      allowed state label → weaker state label)
    (reached : system.ReachableWhere allowed state) :
    system.ReachableWhere weaker state := by
  induction reached with
  | init initial => exact .init initial
  | step earlier permitted taken induction =>
      exact .step induction (implied _ _ earlier permitted) taken

theorem ReachableWhere.reachable {state : σ}
    (reached : system.ReachableWhere allowed state) :
    system.Reachable state :=
  reached.mono (fun _ _ _ => trivial)

/-- An invariant of the allowed steps holds in every state of every allowed
run.  The step may assume that its first state was reached. -/
theorem ReachableWhere.invariant {I : σ → Prop}
    (initially : ∀ state, system.Initial state → I state)
    (preserved : ∀ state label state',
      system.ReachableWhere allowed state → I state → allowed state label →
      system.next state label = some state' → I state')
    {state : σ} (reached : system.ReachableWhere allowed state) : I state := by
  induction reached with
  | init initial => exact initially _ initial
  | step earlier permitted taken induction =>
      exact preserved _ _ _ earlier induction permitted taken

theorem Reachable.invariant {I : σ → Prop}
    (initially : ∀ state, system.Initial state → I state)
    (preserved : ∀ state label state',
      system.Reachable state → I state →
      system.next state label = some state' → I state')
    {state : σ} (reached : system.Reachable state) : I state :=
  ReachableWhere.invariant initially
    (fun state label state' earlier holds _ taken =>
      preserved state label state' earlier holds taken) reached

/-- A property that no step destroys persists along every run. -/
theorem run_preserves {I : σ → Prop}
    (preserved : ∀ state label state',
      system.Reachable state → I state →
      system.next state label = some state' → I state')
    {labels : List ℓ} {state state' : σ}
    (reached : system.Reachable state) (holds : I state)
    (ran : system.run state labels = some state') : I state' := by
  induction labels generalizing state with
  | nil =>
      cases ran
      exact holds
  | cons label labels induction =>
      simp only [run] at ran
      split at ran
      · cases ran
      · rename_i middle taken
        exact induction (reached.step taken)
          (preserved state label middle reached holds taken) ran

/-- Some step of a replay meets a condition on the state before it and on its
label. -/
def SomeStep (system : System σ ℓ) (event : σ → ℓ → Prop) :
    σ → List ℓ → Prop
  | _, [] => False
  | state, label :: labels =>
      event state label ∨
        ∃ state', system.next state label = some state' ∧
          system.SomeStep event state' labels

/-- A property that only certain steps destroy persists along every run without
such a step. -/
theorem run_preserves_or_someStep {I : σ → Prop} {event : σ → ℓ → Prop}
    (preserved : ∀ state label state',
      system.Reachable state → I state →
      system.next state label = some state' →
      event state label ∨ I state')
    {labels : List ℓ} {state state' : σ}
    (reached : system.Reachable state) (holds : I state)
    (ran : system.run state labels = some state') :
    system.SomeStep event state labels ∨ I state' := by
  induction labels generalizing state with
  | nil =>
      cases ran
      exact .inr holds
  | cons label labels induction =>
      simp only [run] at ran
      split at ran
      · cases ran
      · rename_i middle taken
        rcases preserved state label middle reached holds taken with
          met | kept
        · exact .inl (.inl met)
        · rcases induction (reached.step taken) kept ran with
            later | final
          · exact .inl (.inr ⟨middle, taken, later⟩)
          · exact .inr final

/-- What a certain step brings about holds at the end of every replay with such
a step. -/
theorem SomeStep.holds_after {I K : σ → Prop} {event : σ → ℓ → Prop}
    (kept : ∀ state label state', system.Reachable state → I state →
      system.next state label = some state' → I state')
    (reaches : ∀ state label state', system.Reachable state → I state →
      event state label → system.next state label = some state' → K state')
    (persists : ∀ state label state', system.Reachable state → K state →
      system.next state label = some state' → K state')
    {labels : List ℓ} {state state' : σ}
    (some : system.SomeStep event state labels)
    (reached : system.Reachable state) (holds : I state)
    (ran : system.run state labels = Option.some state') : K state' := by
  induction labels generalizing state with
  | nil => exact some.elim
  | cons label labels induction =>
      simp only [run] at ran
      split at ran
      · cases ran
      · rename_i middle taken
        rcases some with met | ⟨next, steps, later⟩
        · exact run_preserves persists (reached.step taken)
            (reaches state label middle reached holds met taken) ran
        · rw [taken] at steps
          cases steps
          exact induction later (reached.step taken)
            (kept state label middle reached holds taken) ran

/-- A step that meets the condition after a replay is a step of the longer
replay. -/
theorem SomeStep.of_last {event : σ → ℓ → Prop} {labels : List ℓ}
    {state state' : σ} {label : ℓ}
    (ran : system.run state labels = some state')
    (met : event state' label) :
    system.SomeStep event state (labels ++ [label]) := by
  induction labels generalizing state with
  | nil =>
      cases ran
      exact .inl met
  | cons first labels induction =>
      simp only [run] at ran
      split at ran
      · cases ran
      · rename_i middle taken
        exact .inr ⟨middle, taken, induction ran⟩

/-- If no step is of the second kind, a step of the first kind is not of it. -/
theorem SomeStep.and_not {event other : σ → ℓ → Prop} {labels : List ℓ}
    {state : σ} (some : system.SomeStep event state labels)
    (none : ¬ system.SomeStep other state labels) :
    system.SomeStep (fun state label => event state label ∧
      ¬ other state label) state labels := by
  induction labels generalizing state with
  | nil => exact some.elim
  | cons label labels induction =>
      rcases some with met | ⟨middle, taken, later⟩
      · exact .inl ⟨met, fun also => none (.inl also)⟩
      · refine .inr ⟨middle, taken, induction later ?_⟩
        exact fun also => none (.inr ⟨middle, taken, also⟩)

theorem SomeStep.append {event : σ → ℓ → Prop} {labels : List ℓ}
    {state : σ} (some : system.SomeStep event state labels)
    (further : List ℓ) :
    system.SomeStep event state (labels ++ further) := by
  induction labels generalizing state with
  | nil => exact some.elim
  | cons first labels induction =>
      rcases some with met | ⟨middle, taken, later⟩
      · exact .inl met
      · exact .inr ⟨middle, taken, induction later⟩

theorem run_concat {labels : List ℓ} {state state' state'' : σ} {label : ℓ}
    (ran : system.run state labels = some state')
    (taken : system.next state' label = some state'') :
    system.run state (labels ++ [label]) = some state'' := by
  induction labels generalizing state with
  | nil =>
      cases ran
      simp [run, taken]
  | cons first labels induction =>
      simp only [run] at ran
      split at ran
      · cases ran
      · rename_i middle moved
        simp only [List.cons_append, run, moved]
        exact induction ran

theorem Reachable.run {labels : List ℓ} {state state' : σ}
    (reached : system.Reachable state)
    (ran : system.run state labels = some state') :
    system.Reachable state' :=
  (run_preserves (I := fun state => system.Reachable state)
    (fun _ _ _ _ earlier taken => earlier.step taken) reached reached ran)

theorem ReachableWhere.run {labels : List ℓ} {state state' : σ}
    (reached : system.ReachableWhere allowed state)
    (met : ∀ label ∈ labels, ∀ state, allowed state label)
    (ran : system.run state labels = some state') :
    system.ReachableWhere allowed state' := by
  induction labels generalizing state with
  | nil =>
      cases ran
      exact reached
  | cons label labels induction =>
      simp only [System.run] at ran
      split at ran
      · cases ran
      · rename_i middle taken
        apply induction
          (.step reached (met label List.mem_cons_self state) taken) _ ran
        intro other member
        exact met other (List.mem_cons_of_mem label member)

/-- A replay whose steps all lower a measure is no longer than the measure. -/
theorem length_le_of_run {measure : σ → Nat}
    (lowered : ∀ state label state', system.Reachable state →
      system.next state label = some state' →
      measure state' < measure state)
    {labels : List ℓ} {state state' : σ}
    (reached : system.Reachable state)
    (ran : system.run state labels = some state') :
    labels.length + measure state' ≤ measure state := by
  induction labels generalizing state with
  | nil =>
      cases ran
      simp
  | cons label labels induction =>
      simp only [run] at ran
      split at ran
      · cases ran
      · rename_i middle taken
        have first := lowered state label middle reached taken
        have rest := induction (reached.step taken) ran
        rw [List.length_cons]
        omega

theorem reachable_of_run {labels : List ℓ} {state state' : σ}
    (initial : system.Initial state)
    (ran : system.run state labels = some state') :
    system.Reachable state' :=
  (Reachable.init initial).run ran

theorem exists_reachable_of_run (labels : List ℓ) (test : σ → Bool)
    {state : σ} (initial : system.Initial state)
    (ran : (system.run state labels).any test = true) :
    ∃ state', system.Reachable state' ∧ test state' = true := by
  obtain ⟨state', replayed, passed⟩ := (Option.any_eq_true _ _).mp ran
  exact ⟨_, reachable_of_run initial replayed, passed⟩

/-- Replays whose every step meets the condition, for concrete runs. -/
def runWhere (system : System σ ℓ) (allowed : σ → ℓ → Bool) (state : σ) :
    List ℓ → Option σ
  | [] => some state
  | label :: labels =>
      if allowed state label then
        match system.next state label with
        | none => none
        | some state' => system.runWhere allowed state' labels
      else
        none

theorem reachableWhere_of_runWhere {permitted : σ → ℓ → Bool}
    {labels : List ℓ} {state state' : σ}
    (sound : ∀ state label, permitted state label = true →
      allowed state label)
    (reached : system.ReachableWhere allowed state)
    (ran : system.runWhere permitted state labels = some state') :
    system.ReachableWhere allowed state' := by
  induction labels generalizing state with
  | nil =>
      cases ran
      exact reached
  | cons label labels induction =>
      simp only [runWhere] at ran
      split at ran
      · rename_i met
        split at ran
        · cases ran
        · rename_i middle taken
          exact induction (.step reached (sound _ _ met) taken) ran
      · cases ran

/-- A replay whose steps and whose last state pass their tests shows a state
of an allowed run that passes the test. -/
theorem exists_reachableWhere_of_run (labels : List ℓ)
    (permitted : σ → ℓ → Bool) (test : σ → Bool) {state : σ}
    (sound : ∀ state label, permitted state label = true →
      allowed state label)
    (initial : system.Initial state)
    (ran : (system.runWhere permitted state labels).any test = true) :
    ∃ state', system.ReachableWhere allowed state' ∧ test state' = true := by
  obtain ⟨state', replayed, passed⟩ := (Option.any_eq_true _ _).mp ran
  exact ⟨_, reachableWhere_of_runWhere sound (.init initial) replayed, passed⟩

section Simulation

variable {τ : Type w} {m : Type x} {abstract : System τ m}

/-- If every concrete step is an abstract step or changes nothing abstractly,
the abstraction of a reachable state is reachable. -/
theorem Reachable.simulate (view : σ → τ)
    (initially : ∀ state, system.Initial state →
      abstract.Initial (view state))
    (simulated : ∀ state label state', system.Reachable state →
      system.next state label = some state' →
      view state' = view state ∨
        ∃ action, abstract.next (view state) action = some (view state'))
    {state : σ} (reached : system.Reachable state) :
    abstract.Reachable (view state) := by
  refine Reachable.invariant (I := fun state =>
    abstract.Reachable (view state)) ?_ ?_ reached
  · intro state initial
    exact .init (initially state initial)
  · intro state label state' earlier viewed taken
    rcases simulated state label state' earlier taken with
      same | ⟨action, moved⟩
    · rw [same]
      exact viewed
    · exact viewed.step moved

/-- The same for the runs whose steps meet a condition. -/
theorem ReachableWhere.simulate (view : σ → τ) {permitted : τ → m → Prop}
    (initially : ∀ state, system.Initial state →
      abstract.Initial (view state))
    (simulated : ∀ state label state', system.ReachableWhere allowed state →
      allowed state label → system.next state label = some state' →
      view state' = view state ∨
        ∃ action, permitted (view state) action ∧
          abstract.next (view state) action = some (view state'))
    {state : σ} (reached : system.ReachableWhere allowed state) :
    abstract.ReachableWhere permitted (view state) := by
  refine ReachableWhere.invariant (I := fun state =>
    abstract.ReachableWhere permitted (view state)) ?_ ?_ reached
  · intro state initial
    exact .init (initially state initial)
  · intro state label state' earlier viewed met taken
    rcases simulated state label state' earlier met taken with
      same | ⟨action, meets, moved⟩
    · rw [same]
      exact viewed
    · exact viewed.step meets moved

end Simulation

end System

end Transition
