import XpensGo.Transition.System
import Mathlib.Data.List.Nodup
import Mathlib.Logic.Function.Basic

/-!
# Bounded concurrent loops

A loop runs one effect for every element of a list.  Effects are started in the
order of the list, as long as fewer than `bound` of them are running.  The
first effect that fails stops the loop: no further effect is started, and those
that are still running are interrupted where they stand.

An effect is a step function with phases of its own.  All effects work on one
store, which other participants change at any time.
-/

namespace Concurrency

open Transition

universe u v w x y z

/-- Where the effect of an element stands. -/
inductive Progress (φ : Type u) (ρ : Type v) where
  | waiting
  | running (phase : φ)
  | succeeded (result : ρ)
  | failed
  | interrupted (phase : φ)
  deriving DecidableEq, Repr

/-- What becomes of an effect that takes a step. -/
inductive EffectStep (φ : Type u) (ρ : Type v) where
  | continues (phase : φ)
  | succeeds (result : ρ)
  | fails
  deriving DecidableEq, Repr

namespace Progress

variable {φ : Type u} {ρ : Type v}

/-- The effect has not started. -/
def isWaiting : Progress φ ρ → Bool
  | .waiting => true
  | .running _ | .succeeded _ | .failed | .interrupted _ => false

/-- The effect has started and not ended. -/
def isRunning : Progress φ ρ → Bool
  | .running _ => true
  | .waiting | .succeeded _ | .failed | .interrupted _ => false

/-- The effect has failed. -/
def isFailed : Progress φ ρ → Bool
  | .failed => true
  | .waiting | .running _ | .succeeded _ | .interrupted _ => false

/-- The result of an effect that has succeeded. -/
def result? : Progress φ ρ → Option ρ
  | .succeeded result => some result
  | .waiting | .running _ | .failed | .interrupted _ => none

/-- A running effect ends without a result. -/
def interrupt : Progress φ ρ → Progress φ ρ
  | .running phase => .interrupted phase
  | .waiting => .waiting
  | .succeeded result => .succeeded result
  | .failed => .failed
  | .interrupted phase => .interrupted phase

@[simp] theorem isWaiting_iff {progress : Progress φ ρ} :
    progress.isWaiting = true ↔ progress = .waiting := by
  cases progress <;> simp [isWaiting]

@[simp] theorem isFailed_iff {progress : Progress φ ρ} :
    progress.isFailed = true ↔ progress = .failed := by
  cases progress <;> simp [isFailed]

@[simp] theorem isFailed_interrupt (progress : Progress φ ρ) :
    progress.interrupt.isFailed = progress.isFailed := by
  cases progress <;> rfl

@[simp] theorem isWaiting_interrupt (progress : Progress φ ρ) :
    progress.interrupt.isWaiting = progress.isWaiting := by
  cases progress <;> rfl

@[simp] theorem isRunning_interrupt (progress : Progress φ ρ) :
    progress.interrupt.isRunning = false := by
  cases progress <;> rfl

end Progress

/-- The progress of all effects after a step of one of them. -/
def EffectStep.advance {ι : Type w} {φ : Type u} {ρ : Type v} [DecidableEq ι]
    (progress : ι → Progress φ ρ) (element : ι) :
    EffectStep φ ρ → ι → Progress φ ρ
  | .continues phase => Function.update progress element (.running phase)
  | .succeeds result => Function.update progress element (.succeeded result)
  | .fails =>
      Function.update (fun other => (progress other).interrupt) element .failed

theorem EffectStep.advance_congr {ι : Type w} {φ : Type u} {ρ : Type v}
    {α : Type x} [DecidableEq ι] {element other : ι} {f : Progress φ ρ → α}
    (progress : ι → Progress φ ρ) (result : EffectStep φ ρ)
    (kept : ∀ earlier, f earlier.interrupt = f earlier)
    (different : other ≠ element) :
    f (result.advance progress element other) = f (progress other) := by
  cases result with
  | continues phase => rw [advance, Function.update_of_ne different]
  | succeeds value => rw [advance, Function.update_of_ne different]
  | fails =>
      rw [advance, Function.update_of_ne different]
      exact kept (progress other)

theorem EffectStep.running_of_advance {ι : Type w} {φ : Type u} {ρ : Type v}
    [DecidableEq ι] {progress : ι → Progress φ ρ} {element other : ι}
    {result : EffectStep φ ρ} {phase : φ} (different : other ≠ element)
    (running : result.advance progress element other = .running phase) :
    progress other = .running phase := by
  cases result with
  | continues further => rwa [advance, Function.update_of_ne different] at running
  | succeeds value => rwa [advance, Function.update_of_ne different] at running
  | fails =>
      rw [advance, Function.update_of_ne different] at running
      have idle := Progress.isRunning_interrupt (progress other)
      rw [running] at idle
      cases idle

theorem EffectStep.advance_ne_failed {ι : Type w} {φ : Type u} {ρ : Type v}
    [DecidableEq ι] {progress : ι → Progress φ ρ} {element : ι}
    {result : EffectStep φ ρ} (goesOn : result ≠ .fails)
    (unfailed : ∀ other, progress other ≠ .failed) (other : ι) :
    result.advance progress element other ≠ .failed := by
  by_cases same : other = element
  · subst same
    cases result with
    | continues phase => simp [advance]
    | succeeds value => simp [advance]
    | fails => exact absurd rfl goesOn
  · intro failed
    have kept := advance_congr progress result Progress.isFailed_interrupt same
    rw [failed] at kept
    exact unfailed other (Progress.isFailed_iff.mp kept.symm)

/-- `Effect.forEach` over some elements with a bound on running effects. -/
structure ForEach (ι : Type w) (φ : Type u) (ρ : Type v) (S : Type x)
    (ℓ : Type y) (μ : Type z) where
  elements : List ι
  bound : Nat
  enter : ι → φ
  effect : ι → φ → ℓ → S → Option (S × EffectStep φ ρ)
  others : μ → S → Option S

/-- The progress of each element, and the store of the effects. -/
structure LoopState (ι : Type w) (φ : Type u) (ρ : Type v) (S : Type x) where
  store : S
  progress : ι → Progress φ ρ

/-- A new effect starts, an effect makes a step, or others write. -/
inductive LoopAction (ι : Type w) (ℓ : Type y) (μ : Type z) where
  | start
  | step (element : ι) (label : ℓ)
  | others (action : μ)

namespace ForEach

variable {ι : Type w} {φ : Type u} {ρ : Type v} {S : Type x} {ℓ : Type y}
  {μ : Type z}

section Definitions

variable (loop : ForEach ι φ ρ S ℓ μ)

/-- So many effects are running. -/
def running (progress : ι → Progress φ ρ) : Nat :=
  loop.elements.countP (fun element => (progress element).isRunning)

/-- An effect has failed, so that no other one starts. -/
def stopped (progress : ι → Progress φ ρ) : Bool :=
  loop.elements.any (fun element => (progress element).isFailed)

/-- The element to start next. -/
def following (progress : ι → Progress φ ρ) : Option ι :=
  loop.elements.find? (fun element => (progress element).isWaiting)

def next [DecidableEq ι] (state : LoopState ι φ ρ S) :
    LoopAction ι ℓ μ → Option (LoopState ι φ ρ S)
  | .start =>
      if loop.running state.progress < loop.bound ∧
          loop.stopped state.progress = false then
        (loop.following state.progress).map (fun element =>
          { state with
            progress := Function.update state.progress element
              (.running (loop.enter element)) })
      else
        none
  | .step element label =>
      match state.progress element with
      | .running phase =>
          (loop.effect element phase label state.store).map (fun taken =>
            { store := taken.1
              progress := taken.2.advance state.progress element })
      | _ => none
  | .others action =>
      (loop.others action state.store).map (fun store =>
        { state with store := store })

/-- The state before the first element is started. -/
def initial (store : S) : LoopState ι φ ρ S :=
  { store := store
    progress := fun _ => .waiting }

def system [DecidableEq ι] (store : S) :
    System (LoopState ι φ ρ S) (LoopAction ι ℓ μ) :=
  { Initial := fun state => state = initial store
    next := loop.next }

/-- No effect is running, and no effect will be started. -/
def Ended (state : LoopState ι φ ρ S) : Prop :=
  (∀ element ∈ loop.elements, (state.progress element).isRunning = false) ∧
    (loop.stopped state.progress = true ∨
      loop.following state.progress = none)

instance (state : LoopState ι φ ρ S) : Decidable (loop.Ended state) :=
  inferInstanceAs (Decidable (_ ∧ _))

/-- What the loop returns: the results of all its effects. -/
def results (state : LoopState ι φ ρ S) : Option (List ρ) :=
  loop.elements.mapM (fun element => (state.progress element).result?)

/-- What a step of a loop does. -/
inductive Step [DecidableEq ι] : LoopState ι φ ρ S → LoopAction ι ℓ μ →
    LoopState ι φ ρ S → Prop where
  | start {state : LoopState ι φ ρ S} {element : ι} :
      element ∈ loop.elements →
      state.progress element = .waiting →
      (∀ other ∈ loop.elements, state.progress other ≠ .failed) →
      Step state .start
        { state with
          progress := Function.update state.progress element
            (.running (loop.enter element)) }
  | step {state : LoopState ι φ ρ S} {element : ι} {label : ℓ} {phase : φ}
      {store : S} {result : EffectStep φ ρ} :
      state.progress element = .running phase →
      loop.effect element phase label state.store = some (store, result) →
      Step state (.step element label)
        { store := store
          progress := result.advance state.progress element }
  | others {state : LoopState ι φ ρ S} {action : μ} {store : S} :
      loop.others action state.store = some store →
      Step state (.others action) { state with store := store }

end Definitions

section Steps

variable {loop : ForEach ι φ ρ S ℓ μ} {state state' : LoopState ι φ ρ S}
  {action : LoopAction ι ℓ μ}

theorem stopped_eq_false {progress : ι → Progress φ ρ} :
    loop.stopped progress = false ↔
      ∀ element ∈ loop.elements, progress element ≠ .failed := by
  simp [stopped]

theorem following_eq_none {progress : ι → Progress φ ρ} :
    loop.following progress = none ↔
      ∀ element ∈ loop.elements, progress element ≠ .waiting := by
  simp [following, List.find?_eq_none]

variable [DecidableEq ι]

theorem step_of_next (taken : loop.next state action = some state') :
    loop.Step state action state' := by
  cases action with
  | start =>
      simp only [next] at taken
      split at taken
      · rename_i guarded
        obtain ⟨element, following, rfl⟩ := Option.map_eq_some_iff.mp taken
        have waiting := List.find?_some following
        exact .start (List.mem_of_find?_eq_some following)
          (Progress.isWaiting_iff.mp waiting)
          (stopped_eq_false.mp guarded.2)
      · cases taken
  | step element label =>
      simp only [next] at taken
      split at taken
      · rename_i phase running
        obtain ⟨⟨store, result⟩, ran, rfl⟩ := Option.map_eq_some_iff.mp taken
        exact .step running ran
      · cases taken
  | others action =>
      obtain ⟨store, ran, rfl⟩ := Option.map_eq_some_iff.mp taken
      exact .others ran

/-- The element that a loop starts is the first that waits. -/
theorem next_start {element : ι} {started rest : List ι}
    (split : loop.elements = started ++ element :: rest)
    (earlier : ∀ other ∈ started, state.progress other ≠ .waiting)
    (waiting : state.progress element = .waiting)
    (below : loop.running state.progress < loop.bound)
    (unfailed : ∀ other ∈ loop.elements, state.progress other ≠ .failed) :
    loop.next state .start = some
      { state with
        progress := Function.update state.progress element
          (.running (loop.enter element)) } := by
  have following : loop.following state.progress = some element := by
    have skipped : started.find? (fun other =>
        (state.progress other).isWaiting) = none := by
      simpa [List.find?_eq_none] using earlier
    rw [ForEach.following, split, List.find?_append, skipped,
      Option.none_or]
    exact List.find?_cons_of_pos (Progress.isWaiting_iff.mpr waiting)
  simp only [next, following, Option.map_some]
  rw [if_pos ⟨below, stopped_eq_false.mpr unfailed⟩]

theorem next_step (loop : ForEach ι φ ρ S ℓ μ) {element : ι} {label : ℓ}
    {phase : φ} {store : S}
    {result : EffectStep φ ρ}
    (running : state.progress element = .running phase)
    (ran : loop.effect element phase label state.store =
      some (store, result)) :
    loop.next state (.step element label) = some
      { store := store
        progress := result.advance state.progress element } := by
  simp only [next, running, ran, Option.map_some]

theorem ended_of_fails {element : ι} (member : element ∈ loop.elements)
    (store : S) (progress : ι → Progress φ ρ) :
    loop.Ended
      { store := store
        progress := EffectStep.fails.advance progress element } := by
  constructor
  · intro other _
    by_cases same : other = element
    · subst same
      simp [EffectStep.advance, Progress.isRunning]
    · simp [EffectStep.advance, Function.update_of_ne same]
  · left
    apply List.any_eq_true.mpr
    exact ⟨element, member, by simp [EffectStep.advance]⟩

/-- Only elements of the list are started, and an effect is interrupted only
when another one has failed. -/
structure Orderly (loop : ForEach ι φ ρ S ℓ μ) (state : LoopState ι φ ρ S) :
    Prop where
  started : ∀ element, state.progress element ≠ .waiting →
    element ∈ loop.elements
  interrupted : ∀ element phase,
    state.progress element = .interrupted phase →
    ∃ other ∈ loop.elements, state.progress other = .failed

/-- A running effect that goes on or succeeds is no reason for an
interruption. -/
private theorem Orderly.interrupted_update (orderly : loop.Orderly state)
    {chosen element : ι} {phase : φ} {progress : Progress φ ρ}
    (unfailed : state.progress chosen ≠ .failed)
    (uninterrupted : progress ≠ .interrupted phase)
    (interrupted : Function.update state.progress chosen progress element =
      .interrupted phase) :
    ∃ other ∈ loop.elements,
      Function.update state.progress chosen progress other = .failed := by
  by_cases same : element = chosen
  · subst same
    rw [Function.update_self] at interrupted
    exact absurd interrupted uninterrupted
  · rw [Function.update_of_ne same] at interrupted
    obtain ⟨other, listed, failed⟩ :=
      orderly.interrupted element phase interrupted
    have different : other ≠ chosen := by
      rintro rfl
      exact unfailed failed
    exact ⟨other, listed, by rw [Function.update_of_ne different, failed]⟩

theorem Orderly.step (orderly : loop.Orderly state)
    (taken : loop.Step state action state') : loop.Orderly state' := by
  cases taken with
  | @start chosen member waiting unfailed =>
      constructor
      · intro element started
        by_cases same : element = chosen
        · exact same ▸ member
        · simp only [Function.update_of_ne same] at started
          exact orderly.started element started
      · intro element phase interrupted
        exact orderly.interrupted_update (by simp [waiting]) (by simp)
          interrupted
  | @step chosen label phase store result running ran =>
      have member : chosen ∈ loop.elements := by
        apply orderly.started
        rw [running]
        simp
      constructor
      · intro element started
        by_cases same : element = chosen
        · exact same ▸ member
        · apply orderly.started
          have waits := EffectStep.advance_congr state.progress result
            Progress.isWaiting_interrupt same
          intro waiting
          rw [waiting] at waits
          exact started (Progress.isWaiting_iff.mp waits)
      · intro element reached interrupted
        cases result with
        | fails => exact ⟨chosen, member, by simp [EffectStep.advance]⟩
        | continues further =>
            exact orderly.interrupted_update (by simp [running]) (by simp)
              interrupted
        | succeeds value =>
            exact orderly.interrupted_update (by simp [running]) (by simp)
              interrupted
  | others ran => exact ⟨orderly.started, orderly.interrupted⟩

end Steps

section Runs

variable [DecidableEq ι] {loop : ForEach ι φ ρ S ℓ μ} {store : S}
  {state : LoopState ι φ ρ S}
  {allowed : LoopState ι φ ρ S → LoopAction ι ℓ μ → Prop}

theorem reachable_orderly
    (reached : (loop.system store).ReachableWhere allowed state) :
    loop.Orderly state := by
  refine System.Reachable.invariant ?_ ?_ reached.reachable
  · rintro state rfl
    constructor
    · intro element started
      exact absurd rfl started
    · intro element phase interrupted
      cases interrupted
  · intro state action state' _ orderly taken
    exact orderly.step (step_of_next taken)

/-- No effect fails in a run none of whose steps does. -/
theorem not_failed_of_reachable
    (succeeds : ∀ state element label phase written,
      (loop.system store).ReachableWhere allowed state →
      allowed state (.step element label) →
      state.progress element = .running phase →
      loop.effect element phase label state.store ≠ some (written, .fails))
    (reached : (loop.system store).ReachableWhere allowed state) :
    ∀ element, state.progress element ≠ .failed := by
  refine System.ReachableWhere.invariant (I := fun state =>
    ∀ element, state.progress element ≠ .failed) ?_ ?_ reached
  · rintro state rfl element failed
    cases failed
  · intro state action state' earlier unfailed permitted taken element
    cases step_of_next taken with
    | @start chosen _ _ _ =>
        by_cases same : element = chosen
        · subst same
          simp
        · simp only [Function.update_of_ne same]
          exact unfailed element
    | @step chosen label phase store result running ran =>
        apply EffectStep.advance_ne_failed _ unfailed
        rintro rfl
        exact succeeds _ _ _ _ _ earlier permitted running ran
    | others ran => exact unfailed element

end Runs

/-- A loop in which no effect has failed ends with the success of them all. -/
theorem Orderly.succeeded {loop : ForEach ι φ ρ S ℓ μ}
    {state : LoopState ι φ ρ S} (orderly : loop.Orderly state)
    (ended : loop.Ended state)
    (unfailed : ∀ element ∈ loop.elements, state.progress element ≠ .failed) :
    ∀ element ∈ loop.elements, ∃ result,
      state.progress element = .succeeded result := by
  intro element member
  have idle := ended.1 element member
  have started : state.progress element ≠ .waiting := by
    rcases ended.2 with stopped | exhausted
    · rw [stopped_eq_false.mpr unfailed] at stopped
      cases stopped
    · exact following_eq_none.mp exhausted element member
  cases current : state.progress element with
  | waiting => exact absurd current started
  | running phase =>
      rw [current] at idle
      cases idle
  | succeeded result => exact ⟨result, rfl⟩
  | failed => exact absurd current (unfailed element member)
  | interrupted phase =>
      obtain ⟨other, listed, failed⟩ :=
        orderly.interrupted element phase current
      exact absurd failed (unfailed other listed)

end ForEach

end Concurrency
