import Mathlib.Algebra.Order.Group.Int
import Mathlib.Algebra.Order.Group.Unbundled.Basic

/-!
# Sliding windows

A limiter admits an event if fewer events than its limit have happened since
one width of the window before it.  The events need not be admitted in the
order of their times: a window that contains a new event begins at most one
width before it, so the limiter has counted the events of every such window,
whatever it has counted besides.
-/

namespace RateLimit

universe u

variable {τ : Type u} [LinearOrder τ]

/-- The events of a closed window. -/
def countWithin (times : List τ) (first last : τ) : Nat :=
  times.countP (fun time => first ≤ time && time ≤ last)

/-- The events that happened at a time or after it. -/
def countSince (times : List τ) (since : τ) : Nat :=
  times.countP (fun time => since ≤ time)

/-- No closed window of this width holds more events than the limit. -/
def Limited [Add τ] (limit : Nat) (width : τ) (times : List τ) : Prop :=
  ∀ first, countWithin times first (first + width) ≤ limit

theorem countWithin_append_singleton (times : List τ) (first last now : τ) :
    countWithin (times ++ [now]) first last =
      countWithin times first last +
        if first ≤ now ∧ now ≤ last then 1 else 0 := by
  by_cases inside : first ≤ now ∧ now ≤ last
  · simp [countWithin, List.countP_append, inside]
  · have outside : (decide (first ≤ now) && decide (now ≤ last)) = false := by
      simpa using inside
    simp [countWithin, List.countP_append, inside, outside]

theorem countWithin_le_countSince {times : List τ} {first last since : τ}
    (covers : ∀ time ∈ times, first ≤ time → since ≤ time) :
    countWithin times first last ≤ countSince times since := by
  apply List.countP_mono_left
  intro time member within
  simp only [Bool.and_eq_true, decide_eq_true_eq] at within
  exact decide_eq_true (covers time member within.1)

theorem countSince_le {times : List τ} {first second : τ}
    (covers : ∀ time ∈ times, first ≤ time → second ≤ time) :
    countSince times first ≤ countSince times second := by
  apply List.countP_mono_left
  intro time member counted
  exact decide_eq_true (covers time member (of_decide_eq_true counted))

theorem countSince_antitone {times : List τ} {first second : τ}
    (later : first ≤ second) :
    countSince times second ≤ countSince times first :=
  countSince_le (fun _ _ counted => later.trans counted)

theorem countSince_lt {times : List τ} {first second time : τ}
    (member : time ∈ times) (counted : first ≤ time) (leaves : time < second) :
    countSince times second < countSince times first := by
  obtain ⟨before, after, rfl⟩ := List.append_of_mem member
  have later := counted.trans leaves.le
  have earlierCounts := @countSince_antitone τ _ before first second later
  have laterCounts := @countSince_antitone τ _ after first second later
  unfold countSince at earlierCounts laterCounts ⊢
  rw [List.countP_append, List.countP_append, List.countP_cons,
    List.countP_cons, if_pos (decide_eq_true counted),
    if_neg (by simpa using leaves)]
  omega

theorem countSince_eq_countWithin {times : List τ} {first last : τ}
    (ordered : ∀ time ∈ times, time ≤ last) :
    countSince times first = countWithin times first last := by
  apply List.countP_congr
  intro time member
  simp [ordered time member]

theorem Limited.nil [Add τ] {limit : Nat} {width : τ} :
    Limited limit width [] :=
  fun _ => Nat.zero_le limit

theorem Limited.sublist [Add τ] {limit : Nat} {width : τ}
    {times fewer : List τ} (limited : Limited limit width times)
    (kept : fewer.Sublist times) : Limited limit width fewer :=
  fun first => (kept.countP_le).trans (limited first)

section Ordered

variable [AddCommGroup τ] [IsOrderedAddMonoid τ] {limit : Nat}
  {width now since : τ} {times : List τ}

/-- The limiter keeps the limit; it may count from any time that leaves out no
event of the last width. -/
theorem Limited.append (limited : Limited limit width times)
    (covers : ∀ time ∈ times, now - width ≤ time → since ≤ time)
    (room : countSince times since < limit) :
    Limited limit width (times ++ [now]) := by
  intro first
  rw [countWithin_append_singleton]
  by_cases inside : first ≤ now ∧ now ≤ first + width
  · have counted : countWithin times first (first + width) ≤
        countSince times since := by
      apply countWithin_le_countSince
      intro time member later
      have begins : now - width ≤ first := sub_le_iff_le_add.mpr inside.2
      exact covers time member (begins.trans later)
    rw [if_pos inside]
    omega
  · rw [if_neg inside]
    exact limited first

end Ordered

end RateLimit
