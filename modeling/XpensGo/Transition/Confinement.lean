/-!
# Confined handlers

A handler reads and rewrites a state, and it may fail in two ways: an error is
caught by its caller and leaves the changes made so far, and where the result is
`none` an exception leaves nothing of them.

A handler is confined to a part of the state when its result and that part after
it depend on that part before it only, and when it changes the rest in no other
way than is allowed.  The rules below derive this from the statements that a
handler is made of.
-/

namespace Transition

universe u v w

/-- A handler with a caught error and an uncaught exception. -/
abbrev Handler (σ : Type u) (ε α : Type u) := ExceptT ε (StateT σ Option) α

namespace Handler

variable {σ ε α β : Type u}

/-- A statement that cannot fail. -/
def statement (run : σ → α × σ) : Handler σ ε α :=
  fun state => some (.ok (run state).1, (run state).2)

/-- A statement that raises an exception where it is `none`. -/
def attempt (run : σ → Option (α × σ)) : Handler σ ε α :=
  fun state => (run state).map (fun result => (.ok result.1, result.2))

/-- A statement that changes nothing. -/
def read (query : σ → α) : Handler σ ε α :=
  statement (fun state => (query state, state))

/-- The error of a handler as a value. -/
def caught (handler : Handler σ ε α) : Handler σ ε (Except ε α) :=
  fun state => (handler state).map (fun result => (.ok result.1, result.2))

/-- A handler whose changes are committed if it answers, and rolled back if it
does not. -/
def transaction (handler : Handler σ ε α) : Handler σ ε (Option α) :=
  fun state =>
    match handler state with
    | some (.ok value, final) => some (.ok (some value), final)
    | _ => some (.ok none, state)

theorem pure_apply (value : α) (state : σ) :
    (pure value : Handler σ ε α) state = some (.ok value, state) := rfl

theorem throw_apply (error : ε) (state : σ) :
    (throw error : Handler σ ε α) state = some (.error error, state) := rfl

theorem bind_apply (first : Handler σ ε α) (next : α → Handler σ ε β)
    (state : σ) :
    (first >>= next) state =
      match first state with
      | none => none
      | some (.error error, middle) => some (.error error, middle)
      | some (.ok value, middle) => next value middle := by
  change ((first state).bind fun result =>
    ExceptT.bindCont next result.1 result.2) = _
  cases first state with
  | none => rfl
  | some result =>
      obtain ⟨outcome, middle⟩ := result
      cases outcome with
      | error error => rfl
      | ok value => rfl

/-- The ways in which a sequence ends. -/
theorem bind_eq_some {first : Handler σ ε α} {next : α → Handler σ ε β}
    {state final : σ} {outcome : Except ε β}
    (ran : (first >>= next) state = some (outcome, final)) :
    (∃ error, first state = some (.error error, final) ∧
        outcome = .error error) ∨
      ∃ value middle, first state = some (.ok value, middle) ∧
        next value middle = some (outcome, final) := by
  rw [bind_apply] at ran
  split at ran
  · cases ran
  · rename_i error middle failed
    cases ran
    exact .inl ⟨error, failed, rfl⟩
  · rename_i value middle answered
    exact .inr ⟨value, middle, answered, ran⟩

end Handler

section Rules

variable {σ ε α β : Type u} {ω : Type v}

/-- The handler keeps `I`, changes the state as `Keeps` allows, and its result
and the part `own` of the state after it depend on that part before it only. -/
structure Confined (I : σ → Prop) (own : σ → ω) (Keeps : σ → σ → Prop)
    (handler : Handler σ ε α) : Prop where
  keeps : ∀ {state outcome final}, I state →
    handler state = some (outcome, final) → I final ∧ Keeps state final
  depends : ∀ {state other}, I state → I other → own state = own other →
    (handler state).map (fun result => (result.1, own result.2)) =
      (handler other).map (fun result => (result.1, own result.2))

/-- What may be done to the rest, any number of times. -/
structure Repeatable (Keeps : σ → σ → Prop) : Prop where
  refl : ∀ state, Keeps state state
  trans : ∀ {first middle last}, Keeps first middle → Keeps middle last →
    Keeps first last

variable {I : σ → Prop} {own : σ → ω} {Keeps : σ → σ → Prop}

theorem Confined.pure (allowed : Repeatable Keeps) (value : α) :
    Confined I own Keeps (pure value : Handler σ ε α) where
  keeps := by
    intro state outcome final holds ran
    rw [Handler.pure_apply] at ran
    cases ran
    exact ⟨holds, allowed.refl _⟩
  depends := by
    intro state other _ _ same
    simp only [Handler.pure_apply, Option.map_some, same]

theorem Confined.throw (allowed : Repeatable Keeps) (error : ε) :
    Confined I own Keeps (throw error : Handler σ ε α) where
  keeps := by
    intro state outcome final holds ran
    rw [Handler.throw_apply] at ran
    cases ran
    exact ⟨holds, allowed.refl _⟩
  depends := by
    intro state other _ _ same
    simp only [Handler.throw_apply, Option.map_some, same]

theorem Confined.mono {Weaker : σ → σ → Prop} {handler : Handler σ ε α}
    (confined : Confined I own Keeps handler)
    (implies : ∀ {state final}, Keeps state final → Weaker state final) :
    Confined I own Weaker handler where
  keeps := fun holds ran =>
    ⟨(confined.keeps holds ran).1, implies (confined.keeps holds ran).2⟩
  depends := confined.depends

/-- What follows a handler may rely on what its answers are like. -/
theorem Confined.bind_of_answers (allowed : Repeatable Keeps)
    {first : Handler σ ε α} {next : α → Handler σ ε β} {P : α → Prop}
    (confined : Confined I own Keeps first)
    (answers : ∀ {state value middle}, I state →
      first state = some (.ok value, middle) → P value)
    (continues : ∀ value, P value → Confined I own Keeps (next value)) :
    Confined I own Keeps (first >>= next) where
  keeps := by
    intro state outcome final holds ran
    rcases Handler.bind_eq_some ran with
      ⟨error, failed, _⟩ | ⟨value, middle, answered, rest⟩
    · exact confined.keeps holds failed
    · obtain ⟨kept, moved⟩ := confined.keeps holds answered
      obtain ⟨kept', moved'⟩ :=
        (continues value (answers holds answered)).keeps kept rest
      exact ⟨kept', allowed.trans moved moved'⟩
  depends := by
    intro state other holds holds' same
    have agree := confined.depends holds holds' same
    rw [Handler.bind_apply, Handler.bind_apply]
    cases left : first state with
    | none =>
        rw [left] at agree
        cases right : first other with
        | none => rfl
        | some result =>
            rw [right] at agree
            cases agree
    | some result =>
        obtain ⟨outcome, middle⟩ := result
        cases right : first other with
        | none =>
            rw [left, right] at agree
            cases agree
        | some result' =>
            obtain ⟨outcome', middle'⟩ := result'
            rw [left, right, Option.map_some, Option.map_some,
              Option.some.injEq, Prod.mk.injEq] at agree
            obtain ⟨outcomes, parts⟩ := agree
            change outcome = outcome' at outcomes
            subst outcomes
            cases outcome with
            | error error =>
                simp only [Option.map_some]
                exact congrArg (fun part => some (Except.error error, part))
                  parts
            | ok value =>
                exact (continues value (answers holds left)).depends
                  (confined.keeps holds left).1
                  (confined.keeps holds' right).1 parts

theorem Confined.bind (allowed : Repeatable Keeps)
    {first : Handler σ ε α} {next : α → Handler σ ε β}
    (confined : Confined I own Keeps first)
    (continues : ∀ value, Confined I own Keeps (next value)) :
    Confined I own Keeps (first >>= next) :=
  .bind_of_answers allowed (P := fun _ => True) confined
    (fun _ _ => trivial) (fun value _ => continues value)

/-- A statement is confined if it acts on the part. -/
theorem Confined.attempt {run : σ → Option (α × σ)}
    (act : ω → Option (α × ω))
    (keeps : ∀ state answer final, I state →
      run state = some (answer, final) → I final ∧ Keeps state final)
    (acts : ∀ state, I state →
      (run state).map (fun result => (result.1, own result.2)) =
        act (own state)) :
    Confined I own Keeps (Handler.attempt run : Handler σ ε α) where
  keeps := by
    intro state outcome final holds ran
    obtain ⟨result, answered, same⟩ := Option.map_eq_some_iff.mp ran
    cases same
    exact keeps state result.1 result.2 holds answered
  depends := by
    intro state other holds holds' same
    have left := acts state holds
    have right := acts other holds'
    rw [← same, ← left] at right
    have outcomes := congrArg (Option.map (fun result : α × ω =>
      ((Except.ok result.1 : Except ε α), result.2))) right
    simp only [Option.map_map, Function.comp_def] at outcomes
    simp only [Handler.attempt, Option.map_map, Function.comp_def]
    exact outcomes.symm

theorem Confined.statement {run : σ → α × σ} (act : ω → α × ω)
    (keeps : ∀ state, I state → I (run state).2 ∧ Keeps state (run state).2)
    (acts : ∀ state, I state →
      ((run state).1, own (run state).2) = act (own state)) :
    Confined I own Keeps (Handler.statement run : Handler σ ε α) where
  keeps := by
    intro state outcome final holds ran
    cases ran
    exact keeps state holds
  depends := by
    intro state other holds holds' same
    have results := (acts state holds).trans
      ((congrArg act same).trans (acts other holds').symm)
    rw [Prod.mk.injEq] at results
    simp only [Handler.statement, Option.map_some, results.1, results.2]

/-- A statement under a condition that does not depend on the state. -/
theorem Confined.guarded {condition : Prop} [Decidable condition]
    {run : σ → α × σ}
    (confined : Confined I own Keeps
      (Handler.statement run : Handler σ ε α)) :
    Confined I own Keeps (Handler.attempt (fun state =>
      if condition then some (run state) else none) : Handler σ ε α) := by
  by_cases met : condition
  · simp only [if_pos met]
    exact confined
  · simp only [if_neg met]
    constructor
    · intro state outcome final _ ran
      cases ran
    · intro state other _ _ _
      rfl

theorem Confined.read (allowed : Repeatable Keeps) {query : σ → α}
    (answer : ω → α)
    (answers : ∀ state, I state → query state = answer (own state)) :
    Confined I own Keeps (Handler.read query : Handler σ ε α) := by
  apply Confined.statement (fun part => (answer part, part))
  · intro state holds
    exact ⟨holds, allowed.refl state⟩
  · intro state holds
    rw [answers state holds]

theorem Confined.caught {handler : Handler σ ε α}
    (confined : Confined I own Keeps handler) :
    Confined I own Keeps (Handler.caught handler) where
  keeps := by
    intro state outcome final holds ran
    obtain ⟨result, answered, same⟩ := Option.map_eq_some_iff.mp ran
    cases same
    exact confined.keeps holds answered
  depends := by
    intro state other holds holds' same
    have outcomes := congrArg (Option.map (fun result : Except ε α × ω =>
      ((Except.ok result.1 : Except ε (Except ε α)), result.2)))
      (confined.depends holds holds' same)
    simp only [Option.map_map, Function.comp_def] at outcomes
    simp only [Handler.caught, Option.map_map, Function.comp_def]
    exact outcomes

theorem Confined.transaction (allowed : Repeatable Keeps)
    {handler : Handler σ ε α} (confined : Confined I own Keeps handler) :
    Confined I own Keeps (Handler.transaction handler) where
  keeps := by
    intro state outcome final holds ran
    unfold Handler.transaction at ran
    split at ran
    · rename_i value middle answered
      cases ran
      exact confined.keeps holds answered
    · cases ran
      exact ⟨holds, allowed.refl _⟩
  depends := by
    intro state other holds holds' same
    have agree := confined.depends holds holds' same
    unfold Handler.transaction
    cases left : handler state with
    | none =>
        rw [left, Option.map_none] at agree
        rw [Option.map_eq_none_iff.mp agree.symm]
        simp only [Option.map_some, same]
    | some result =>
        obtain ⟨outcome, middle⟩ := result
        rw [left, Option.map_some] at agree
        obtain ⟨result', answered, agreed⟩ :=
          Option.map_eq_some_iff.mp agree.symm
        obtain ⟨outcome', middle'⟩ := result'
        rw [Prod.mk.injEq] at agreed
        obtain ⟨answers, parts⟩ := agreed
        change outcome' = outcome at answers
        subst answers
        rw [answered]
        cases outcome' with
        | error error => simp only [Option.map_some, same]
        | ok value =>
            exact congrArg (fun part => some (Except.ok (some value), part))
              parts.symm

theorem Confined.ite {condition : Prop} [Decidable condition]
    {left right : Handler σ ε α}
    (positive : condition → Confined I own Keeps left)
    (negative : ¬condition → Confined I own Keeps right) :
    Confined I own Keeps (if condition then left else right) := by
  split
  · exact positive ‹_›
  · exact negative ‹_›

/-- A handler for each element, one after the other. -/
theorem Confined.mapM (allowed : Repeatable Keeps)
    {γ : Type w} {each : γ → Handler σ ε β}
    {items : List γ}
    (confined : ∀ item ∈ items, Confined I own Keeps (each item)) :
    Confined I own Keeps (items.mapM each) := by
  induction items with
  | nil =>
      rw [List.mapM_nil]
      exact .pure allowed []
  | cons item items induction =>
      rw [List.mapM_cons]
      apply Confined.bind allowed (confined item List.mem_cons_self)
      intro value
      apply Confined.bind allowed (induction (fun other member =>
        confined other (List.mem_cons_of_mem item member)))
      intro values
      exact .pure allowed (value :: values)

end Rules

end Transition
