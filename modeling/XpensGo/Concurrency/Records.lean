import XpensGo.Concurrency.ForEach
import Mathlib.Algebra.BigOperators.Group.List.Basic
import Mathlib.Tactic.Ring

/-!
# Loops that write records

The effect of an element appends records of its own to a common log and
succeeds.  However the effects of a loop interleave, the log holds for every
element what its own effect has written, once, and a loop that has ended has
the results that it would have without concurrency.
-/

namespace Concurrency

open Transition

universe u v w

/-- What a log says of one element. -/
def recordsOf {ι : Type u} {κ : Type v} [DecidableEq ι] (element : ι)
    (records : List (ι × κ)) : List κ :=
  records.filterMap (fun record =>
    if record.1 = element then some record.2 else none)

section Logs

variable {ι : Type u} {κ : Type v} [DecidableEq ι] {element other : ι}

@[simp] theorem recordsOf_nil :
    recordsOf element ([] : List (ι × κ)) = [] :=
  rfl

@[simp] theorem recordsOf_append (before after : List (ι × κ)) :
    recordsOf element (before ++ after) =
      recordsOf element before ++ recordsOf element after :=
  List.filterMap_append

theorem recordsOf_map_self (records : List κ) :
    recordsOf element (records.map (fun record => (element, record))) =
      records := by
  unfold recordsOf
  simp [List.filterMap_map]

theorem recordsOf_map_of_ne (different : other ≠ element)
    (records : List κ) :
    recordsOf element (records.map (fun record => (other, record))) = [] := by
  unfold recordsOf
  simp [List.filterMap_map, different]

/-- The log of a list of distinct elements with at most one record each. -/
theorem recordsOf_filterMap {elements : List ι} {record : ι → Option κ}
    (distinct : elements.Nodup) :
    recordsOf element (elements.filterMap (fun other =>
      (record other).map (fun written => (other, written)))) =
        if element ∈ elements then (record element).toList else [] := by
  induction elements with
  | nil => rfl
  | cons first elements induction =>
      obtain ⟨fresh, distinct⟩ := List.nodup_cons.mp distinct
      have rest := induction distinct
      by_cases same : first = element
      · subst same
        rw [if_neg fresh] at rest
        cases written : record first with
        | none => simpa [List.filterMap_cons, written] using rest
        | some value =>
            simp only [List.filterMap_cons, written, Option.map_some]
            rw [← List.singleton_append, recordsOf_append, rest]
            simp [recordsOf]
      · have other : element ≠ first := Ne.symm same
        cases written : record first with
        | none => simpa [List.filterMap_cons, written, other] using rest
        | some value =>
            simp only [List.filterMap_cons, written, Option.map_some]
            rw [← List.singleton_append, recordsOf_append, rest]
            simp [recordsOf, same, other]

end Logs

namespace ForEach

/-- The loop whose effects write `record` and return `value`. -/
def recording {ι : Type u} {ρ : Type v} {κ : Type w} (elements : List ι)
    (bound : Nat) (record : ι → List κ) (value : ι → ρ) :
    ForEach ι Unit ρ (List (ι × κ)) Unit Empty :=
  { elements := elements
    bound := bound
    enter := fun _ => ()
    effect := fun element _ _ store =>
      some (store ++ (record element).map (fun written => (element, written)),
        .succeeds (value element))
    others := fun action _ => action.elim }

variable {ι : Type u} {ρ : Type v} {κ : Type w} [DecidableEq ι]
  {elements : List ι} {bound : Nat} {record : ι → List κ} {value : ι → ρ}
  {store : List (ι × κ)} {state state' : LoopState ι Unit ρ (List (ι × κ))}
  {action : LoopAction ι Unit Empty}

section Invariant

/-- What the log and the results are at any moment. -/
structure Recorded (record : ι → List κ) (value : ι → ρ)
    (store : List (ι × κ)) (state : LoopState ι Unit ρ (List (ι × κ))) :
    Prop where
  written : ∀ element, recordsOf element state.store =
    recordsOf element store ++
      if (state.progress element).result?.isSome then record element else []
  returned : ∀ element result,
    state.progress element = .succeeded result → result = value element
  unfailed : ∀ element, state.progress element ≠ .failed

theorem reachable_recorded
    (reached : ((recording elements bound record value).system store).Reachable
      state) : Recorded record value store state := by
  refine System.Reachable.invariant ?_ ?_ reached
  · rintro state rfl
    constructor
    · intro element
      exact (List.append_nil _).symm
    · intro element result succeeded
      cases succeeded
    · intro element failed
      cases failed
  · intro state action state' _ recorded taken
    cases step_of_next taken with
    | @start chosen member waiting unfailed =>
        constructor
        · intro element
          by_cases same : element = chosen
          · subst same
            have before := recorded.written element
            rw [waiting] at before
            simpa [Progress.result?] using before
          · simpa [Function.update_of_ne same] using
              recorded.written element
        · intro element result succeeded
          by_cases same : element = chosen
          · subst same
            simp at succeeded
          · simp only [Function.update_of_ne same] at succeeded
            exact recorded.returned element result succeeded
        · intro element
          by_cases same : element = chosen
          · subst same
            simp
          · simp only [Function.update_of_ne same]
            exact recorded.unfailed element
    | @step chosen label phase written result running ran =>
        cases ran
        constructor
        · intro element
          by_cases same : element = chosen
          · subst same
            have before := recorded.written element
            rw [running] at before
            simp only [Progress.result?, Option.isSome_none,
              Bool.false_eq_true, if_false, List.append_nil] at before
            simp [EffectStep.advance, Progress.result?, before,
              recordsOf_map_self]
          · have kept := recorded.written element
            simpa [EffectStep.advance, Function.update_of_ne same,
              recordsOf_map_of_ne (Ne.symm same)] using kept
        · intro element result succeeded
          by_cases same : element = chosen
          · subst same
            simp only [EffectStep.advance, Function.update_self,
              Progress.succeeded.injEq] at succeeded
            exact succeeded.symm
          · simp only [EffectStep.advance,
              Function.update_of_ne same] at succeeded
            exact recorded.returned element result succeeded
        · have goesOn : (EffectStep.succeeds (value chosen) :
              EffectStep Unit ρ) ≠ .fails := by
            rintro ⟨⟩
          exact EffectStep.advance_ne_failed goesOn recorded.unfailed
    | @others action store ran => exact action.elim

variable (reached :
  ((recording elements bound record value).system store).Reachable state)
  (ended : (recording elements bound record value).Ended state)
include reached ended

theorem progress_of_ended {element : ι} (member : element ∈ elements) :
    state.progress element = .succeeded (value element) := by
  have recorded := reachable_recorded reached
  obtain ⟨result, succeeded⟩ := (reachable_orderly reached).succeeded ended
    (fun element _ => recorded.unfailed element) element member
  rw [succeeded, recorded.returned element result succeeded]

theorem results_of_ended :
    (recording elements bound record value).results state =
      some (elements.map value) := by
  have all : ∀ rest : List ι, rest ⊆ elements →
      rest.mapM (fun element => (state.progress element).result?) =
        some (rest.map value) := by
    intro rest
    induction rest with
    | nil => intro _; rfl
    | cons element rest induction =>
        intro listed
        obtain ⟨member, others⟩ := List.cons_subset.mp listed
        rw [List.mapM_cons, progress_of_ended reached ended member,
          induction others]
        rfl
  exact all elements (List.Subset.refl _)

theorem recordsOf_of_ended (element : ι) :
    recordsOf element state.store = recordsOf element store ++
      if element ∈ elements then record element else [] := by
  rw [(reachable_recorded reached).written element]
  by_cases member : element ∈ elements
  · rw [progress_of_ended reached ended member]
    simp [Progress.result?, member]
  · have waiting : state.progress element = .waiting := by
      by_contra started
      exact member ((reachable_orderly reached).started element started)
    rw [waiting]
    simp [Progress.result?, member]

end Invariant

section Termination

/-- How many steps an effect still takes. -/
def remainingSteps : Progress Unit ρ → Nat
  | .waiting => 2
  | .running _ => 1
  | .succeeded _ | .failed | .interrupted _ => 0

def remaining (elements : List ι)
    (state : LoopState ι Unit ρ (List (ι × κ))) : Nat :=
  (elements.map (fun element =>
    remainingSteps (state.progress element))).sum

omit [DecidableEq ι] in
theorem remaining_initial (elements : List ι) (store : List (ι × κ)) :
    remaining elements (initial store : LoopState ι Unit ρ (List (ι × κ))) =
      2 * elements.length := by
  simp [remaining, initial, remainingSteps, List.map_const', Nat.mul_comm]

private theorem sum_update (steps : Progress Unit ρ → Nat)
    (progress : ι → Progress Unit ρ) (after : Progress Unit ρ) {chosen : ι}
    (distinct : elements.Nodup) (member : chosen ∈ elements) :
    (elements.map (fun element =>
      steps (Function.update progress chosen after element))).sum +
        steps (progress chosen) =
      (elements.map (fun element => steps (progress element))).sum +
        steps after := by
  induction elements with
  | nil => cases member
  | cons first elements induction =>
      obtain ⟨fresh, distinct⟩ := List.nodup_cons.mp distinct
      simp only [List.map_cons, List.sum_cons]
      rcases List.mem_cons.mp member with rfl | later
      · have untouched : elements.map (fun element =>
            steps (Function.update progress chosen after element)) =
              elements.map (fun element => steps (progress element)) := by
          apply List.map_congr_left
          intro element listed
          have different : element ≠ chosen := by
            rintro rfl
            exact fresh listed
          rw [Function.update_of_ne different]
        rw [untouched, Function.update_self]
        omega
      · have different : first ≠ chosen := by
          rintro rfl
          exact fresh later
        rw [Function.update_of_ne different]
        have rest := induction distinct later
        omega

/-- Every step of the loop is one of those that remain. -/
theorem remaining_of_next (distinct : elements.Nodup)
    (reached : ((recording elements bound record value).system store).Reachable
      state)
    (taken : (recording elements bound record value).next state action =
      some state') :
    remaining elements state' + 1 = remaining elements state := by
  cases step_of_next taken with
  | @start chosen member waiting unfailed =>
      have summed := sum_update remainingSteps state.progress (.running ())
        distinct member
      rw [waiting] at summed
      have same : remaining elements
          { state with
            progress := Function.update state.progress chosen
              (.running ()) } + 2 = remaining elements state + 1 := summed
      exact Nat.succ.inj same
  | @step chosen label phase written result running ran =>
      cases ran
      have member : chosen ∈ elements := by
        apply (reachable_orderly reached).started
        rw [running]
        simp
      have summed := sum_update remainingSteps state.progress
        (.succeeded (value chosen)) distinct member
      rw [running] at summed
      exact summed
  | @others action store ran => exact action.elim

/-- A loop that has not ended has a step. -/
theorem exists_next (positive : 0 < bound)
    (reached : ((recording elements bound record value).system store).Reachable
      state)
    (unended : ¬(recording elements bound record value).Ended state) :
    ∃ action state', (recording elements bound record value).next state
      action = some state' := by
  by_cases running : ∃ element ∈ elements, ∃ phase,
      state.progress element = .running phase
  · obtain ⟨element, _, phase, running⟩ := running
    exact ⟨.step element (), _, next_step _ running rfl⟩
  · have idle : ∀ element ∈ elements,
        (state.progress element).isRunning = false := by
      intro element member
      cases current : state.progress element with
      | running phase =>
          exact absurd ⟨element, member, phase, current⟩ running
      | _ => rfl
    have unstopped :
        (recording elements bound record value).stopped state.progress =
          false :=
      stopped_eq_false.mpr (fun element _ =>
        (reachable_recorded reached).unfailed element)
    cases following : (recording elements bound record value).following
        state.progress with
    | none => exact absurd ⟨idle, .inr following⟩ unended
    | some element =>
        have none : (recording elements bound record value).running
            state.progress = 0 := by
          apply List.countP_eq_zero.mpr
          intro other member
          simp [idle other member]
        obtain ⟨state', taken⟩ : ∃ state',
            (recording elements bound record value).next state .start =
              some state' := by
          simp only [next, following, Option.map_some]
          rw [if_pos ⟨none ▸ positive, unstopped⟩]
          exact ⟨_, rfl⟩
        exact ⟨.start, state', taken⟩

end Termination

end ForEach

end Concurrency
