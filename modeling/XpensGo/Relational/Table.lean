import Mathlib.Algebra.BigOperators.Group.List.Basic
import Mathlib.Data.Fintype.EquivFin
import Mathlib.Data.List.Nodup

/-!
# Keyed tables

A relational table is a finite list of rows addressed by a primary key.  The
key column is kept outside the row, so an update cannot rename a row, and the
uniqueness of the key is a field of the table rather than a proof obligation
of every transaction.

The operations mirror the SQL statements they stand for: a lookup by key, a
filtered selection, an aggregate, an update of the rows that meet a condition,
and the insertions with and without a conflict clause.  Insertions and updates
that can violate a row constraint return `none`.
-/

namespace Relational

universe u v w

/-- A finite table whose rows are addressed by a primary key. -/
structure Table (κ : Type u) (ρ : Type v) where
  rows : List (κ × ρ)
  keysNodup : (rows.map Prod.fst).Nodup

namespace Table

variable {κ : Type u} {ρ : Type v}

def empty : Table κ ρ :=
  { rows := []
    keysNodup := by simp }

/-- Rewrite every row; no statement can change a primary key. -/
def update (table : Table κ ρ) (set : κ → ρ → ρ) : Table κ ρ :=
  { rows := table.rows.map (fun entry => (entry.1, set entry.1 entry.2))
    keysNodup := by
      simpa [List.map_map, Function.comp_def] using table.keysNodup }

/-- The table with other columns. -/
def mapRows {τ : Type w} (table : Table κ ρ) (columns : ρ → τ) : Table κ τ :=
  { rows := table.rows.map (fun entry => (entry.1, columns entry.2))
    keysNodup := by
      simpa [List.map_map, Function.comp_def] using table.keysNodup }

/-- `UPDATE … SET set WHERE condition`. -/
def updateWhere (table : Table κ ρ) (condition : κ → ρ → Bool)
    (set : ρ → ρ) : Table κ ρ :=
  table.update (fun key row => if condition key row then set row else row)

/-- `UPDATE … SET set WHERE condition` under a row constraint. -/
def updateWhere? (table : Table κ ρ) (check : ρ → Bool)
    (condition : κ → ρ → Bool) (set : ρ → ρ) : Option (Table κ ρ) :=
  if table.rows.all (fun entry =>
      !condition entry.1 entry.2 || check (set entry.2)) then
    some (table.updateWhere condition set)
  else
    none

/-- `SELECT … WHERE condition`, in insertion order. -/
def select (table : Table κ ρ) (condition : κ → ρ → Bool) : List (κ × ρ) :=
  table.rows.filter (fun entry => condition entry.1 entry.2)

/-- `SELECT SUM(charge)`. -/
def sum {M : Type w} [AddCommMonoid M] (table : Table κ ρ)
    (charge : κ → ρ → M) : M :=
  (table.rows.map (fun entry => charge entry.1 entry.2)).sum

theorem update_update (table : Table κ ρ) (first second : κ → ρ → ρ) :
    (table.update first).update second =
      table.update (fun key row => second key (first key row)) := by
  simp [update, List.map_map, Function.comp_def]

variable [DecidableEq κ]

def find? (table : Table κ ρ) (key : κ) : Option ρ :=
  table.rows.lookup key

/-- Append a row whose key is unused. -/
def push (table : Table κ ρ) (key : κ) (row : ρ)
    (fresh : key ∉ table.rows.map Prod.fst) : Table κ ρ :=
  { rows := table.rows ++ [(key, row)]
    keysNodup := by
      rw [List.map_append]
      exact List.nodup_append.mpr ⟨table.keysNodup, by simp, by
        intro left leftMember right rightMember equality
        have rightKey : right = key := by simpa using rightMember
        exact fresh (rightKey ▸ equality ▸ leftMember)⟩ }

/-- `INSERT` under a row constraint and the primary key. -/
def insert? (table : Table κ ρ) (check : ρ → Bool) (key : κ) (row : ρ) :
    Option (Table κ ρ) :=
  if fresh : key ∉ table.rows.map Prod.fst then
    if check row then some (table.push key row fresh) else none
  else
    none

/-- `INSERT … ON CONFLICT (key) DO NOTHING`. -/
def insertMissing (table : Table κ ρ) (key : κ) (row : ρ) : Table κ ρ :=
  if fresh : key ∉ table.rows.map Prod.fst then
    table.push key row fresh
  else
    table

/-- A multi-row `INSERT … ON CONFLICT (key) DO NOTHING`. -/
def insertAllMissing (table : Table κ ρ) (entries : List (κ × ρ)) :
    Table κ ρ :=
  entries.foldl (fun current entry => current.insertMissing entry.1 entry.2)
    table

/-- `UPDATE … SET set WHERE key = …`. -/
def modify (table : Table κ ρ) (key : κ) (set : ρ → ρ) : Table κ ρ :=
  table.updateWhere (fun candidate _ => candidate = key) set

/-- `UPDATE … SET set WHERE key = …` under a row constraint. -/
def modify? (table : Table κ ρ) (check : ρ → Bool) (key : κ)
    (set : ρ → ρ) : Option (Table κ ρ) :=
  table.updateWhere? check (fun candidate _ => candidate = key) set

section Lookup

private theorem lookup_eq_some_iff_mem {rows : List (κ × ρ)}
    (keysNodup : (rows.map Prod.fst).Nodup) {key : κ} {row : ρ} :
    rows.lookup key = some row ↔ (key, row) ∈ rows := by
  induction rows with
  | nil => simp
  | cons head tail induction =>
      obtain ⟨headKey, headRow⟩ := head
      simp only [List.map_cons, List.nodup_cons] at keysNodup
      obtain ⟨headFresh, tailNodup⟩ := keysNodup
      by_cases same : key = headKey
      · subst same
        have tailAbsent : (key, row) ∉ tail := fun member =>
          headFresh (List.mem_map.mpr ⟨_, member, rfl⟩)
        simp [tailAbsent, eq_comm]
      · have different : (key == headKey) = false := by simpa using same
        simp [List.lookup_cons, different, same, induction tailNodup]

theorem find?_eq_some_iff_mem {table : Table κ ρ} {key : κ} {row : ρ} :
    table.find? key = some row ↔ (key, row) ∈ table.rows :=
  lookup_eq_some_iff_mem table.keysNodup

theorem find?_eq_none_iff {table : Table κ ρ} {key : κ} :
    table.find? key = none ↔ key ∉ table.rows.map Prod.fst := by
  constructor
  · intro absent member
    obtain ⟨⟨_, row⟩, rowMember, rfl⟩ := List.mem_map.mp member
    have found := find?_eq_some_iff_mem.mpr rowMember
    simp [absent] at found
  · intro fresh
    cases result : table.find? key with
    | none => rfl
    | some row =>
        exact (fresh (List.mem_map.mpr
          ⟨_, find?_eq_some_iff_mem.mp result, rfl⟩)).elim

theorem exists_unused (table : Table κ ρ) {key : Nat → κ}
    (injective : Function.Injective key) :
    ∃ number, table.find? (key number) = none := by
  by_contra used
  simp only [not_exists, find?_eq_none_iff, not_not] at used
  refine not_injective_infinite_finite
    (fun number => (⟨key number, List.mem_toFinset.mpr (used number)⟩ :
      (table.rows.map Prod.fst).toFinset)) ?_
  intro first second same
  exact injective (congrArg Subtype.val same)

@[simp] theorem find?_empty (key : κ) :
    (empty : Table κ ρ).find? key = none := rfl

@[simp] theorem find?_update (table : Table κ ρ) (set : κ → ρ → ρ)
    (key : κ) :
    (table.update set).find? key = (table.find? key).map (set key) := by
  change (table.rows.map fun entry => (entry.1, set entry.1 entry.2)).lookup
    key = (table.rows.lookup key).map (set key)
  induction table.rows with
  | nil => rfl
  | cons head tail induction =>
      obtain ⟨headKey, headRow⟩ := head
      by_cases same : key = headKey
      · simp [same]
      · have different : (key == headKey) = false := by simpa using same
        simpa [List.lookup_cons, different] using induction

theorem update_congr {table : Table κ ρ} {first second : κ → ρ → ρ}
    (agree : ∀ key row, table.find? key = some row →
      first key row = second key row) :
    table.update first = table.update second := by
  have rows : table.rows.map (fun entry =>
        (entry.1, first entry.1 entry.2)) =
      table.rows.map (fun entry => (entry.1, second entry.1 entry.2)) := by
    apply List.map_congr_left
    intro entry member
    rw [agree entry.1 entry.2 (find?_eq_some_iff_mem.mpr member)]
  simp only [update, rows]

theorem modify_congr {table : Table κ ρ} {key : κ} {first second : ρ → ρ}
    (agree : ∀ row, table.find? key = some row → first row = second row) :
    table.modify key first = table.modify key second := by
  unfold modify updateWhere
  apply update_congr
  intro candidate row found
  by_cases same : candidate = key
  · subst same
    simp [agree row found]
  · simp [same]

theorem modify_modify (table : Table κ ρ) (key : κ) (first second : ρ → ρ) :
    (table.modify key first).modify key second =
      table.modify key (fun row => second (first row)) := by
  have rows : ((table.modify key first).modify key second).rows =
      (table.modify key (fun row => second (first row))).rows := by
    simp only [modify, updateWhere, update, List.map_map]
    apply List.map_congr_left
    intro entry _
    by_cases same : entry.1 = key
    · simp [same]
    · simp [same]
  cases left : (table.modify key first).modify key second
  cases right : table.modify key (fun row => second (first row))
  simpa [left, right] using rows

theorem find?_updateWhere (table : Table κ ρ) (condition : κ → ρ → Bool)
    (set : ρ → ρ) (key : κ) :
    (table.updateWhere condition set).find? key =
      (table.find? key).map
        (fun row => if condition key row then set row else row) := by
  simp [updateWhere]

theorem find?_modify (table : Table κ ρ) (key : κ) (set : ρ → ρ)
    (other : κ) :
    (table.modify key set).find? other =
      if other = key then (table.find? other).map set
      else table.find? other := by
  by_cases same : other = key
  · simp [modify, find?_updateWhere, same]
  · simp [modify, find?_updateWhere, same]

@[simp] theorem find?_modify_self (table : Table κ ρ) (key : κ)
    (set : ρ → ρ) :
    (table.modify key set).find? key = (table.find? key).map set := by
  simp [find?_modify]

theorem find?_modify_of_ne (table : Table κ ρ) {key other : κ}
    (set : ρ → ρ) (different : other ≠ key) :
    (table.modify key set).find? other = table.find? other := by
  simp [find?_modify, different]

/-- A row found after an update is an updated row or another one. -/
theorem find?_modify_cases {table : Table κ ρ} {key other : κ} {set : ρ → ρ}
    {row : ρ} (found : (table.modify key set).find? other = some row) :
    (other = key ∧ ∃ before, table.find? key = some before ∧
      row = set before) ∨
      (other ≠ key ∧ table.find? other = some row) := by
  rw [find?_modify] at found
  split at found
  · rename_i same
    subst same
    obtain ⟨before, present, rfl⟩ := Option.map_eq_some_iff.mp found
    exact .inl ⟨rfl, before, present, rfl⟩
  · rename_i different
    exact .inr ⟨different, found⟩

theorem find?_push (table : Table κ ρ) {key : κ} (row : ρ)
    (fresh : key ∉ table.rows.map Prod.fst) (other : κ) :
    (table.push key row fresh).find? other =
      if other = key then some row else table.find? other := by
  by_cases same : other = key
  · subst same
    have member : (other, row) ∈ (table.push other row fresh).rows := by
      simp [push]
    simp [find?_eq_some_iff_mem.mpr member]
  · rw [if_neg same]
    cases result : table.find? other with
    | none =>
        have absent := find?_eq_none_iff.mp result
        apply find?_eq_none_iff.mpr
        simpa [push, same] using absent
    | some present =>
        have member := find?_eq_some_iff_mem.mp result
        apply find?_eq_some_iff_mem.mpr
        simp [push, member]

@[simp] theorem find?_push_self (table : Table κ ρ) {key : κ} (row : ρ)
    (fresh : key ∉ table.rows.map Prod.fst) :
    (table.push key row fresh).find? key = some row := by
  simp [find?_push]

theorem find?_push_of_some {table : Table κ ρ} {key : κ} {row : ρ}
    (fresh : key ∉ table.rows.map Prod.fst) {other : κ} {present : ρ}
    (found : table.find? other = some present) :
    (table.push key row fresh).find? other = some present := by
  have different : other ≠ key := by
    rintro rfl
    exact fresh (List.mem_map.mpr
      ⟨_, find?_eq_some_iff_mem.mp found, rfl⟩)
  simp [find?_push, different, found]

theorem find?_insertMissing (table : Table κ ρ) (key : κ) (row : ρ)
    (other : κ) :
    (table.insertMissing key row).find? other =
      if other = key then some ((table.find? key).getD row)
      else table.find? other := by
  unfold insertMissing
  split
  · rename_i fresh
    have absent := find?_eq_none_iff.mpr fresh
    simp [find?_push, absent]
  · rename_i present
    cases result : table.find? key with
    | none => exact (present (find?_eq_none_iff.mp result)).elim
    | some existing =>
        by_cases same : other = key
        · simp [same, result]
        · simp [same]

/-- A row found after an insertion was there or is new. -/
theorem find?_insertMissing_cases {table : Table κ ρ} {key other : κ}
    {row present : ρ}
    (found : (table.insertMissing key row).find? other = some present) :
    table.find? other = some present ∨
      (other = key ∧ table.find? key = none ∧ present = row) := by
  rw [find?_insertMissing] at found
  split at found
  · rename_i same
    subst same
    cases earlier : table.find? other with
    | none =>
        rw [earlier] at found
        cases found
        exact .inr ⟨rfl, rfl, rfl⟩
    | some existing =>
        rw [earlier] at found
        exact .inl found
  · exact .inl found

theorem find?_insertAllMissing_isSome (table : Table κ ρ)
    (entries : List (κ × ρ)) (key : κ) :
    ((table.insertAllMissing entries).find? key).isSome ↔
      (table.find? key).isSome ∨ key ∈ entries.map Prod.fst := by
  induction entries generalizing table with
  | nil => simp [insertAllMissing]
  | cons entry entries induction =>
      have step := induction (table.insertMissing entry.1 entry.2)
      change ((table.insertMissing entry.1 entry.2).insertAllMissing
        entries |>.find? key).isSome ↔ _
      rw [step, find?_insertMissing]
      by_cases same : key = entry.1
      · simp [same]
      · simp [same]

/-- A row found after a multi-row insertion was there or was inserted. -/
theorem find?_insertAllMissing_cases {table : Table κ ρ}
    {entries : List (κ × ρ)} {key : κ} {row : ρ}
    (found : (table.insertAllMissing entries).find? key = some row) :
    table.find? key = some row ∨
      (table.find? key = none ∧ (key, row) ∈ entries) := by
  induction entries generalizing table with
  | nil => exact .inl found
  | cons entry entries induction =>
      obtain ⟨inserted, value⟩ := entry
      rcases @induction (table.insertMissing inserted value) found with
        earlier | ⟨absent, member⟩
      · rcases find?_insertMissing_cases earlier with
          present | ⟨rfl, absent, rfl⟩
        · exact .inl present
        · exact .inr ⟨absent, List.mem_cons_self⟩
      · refine .inr ⟨?_, List.mem_cons_of_mem _ member⟩
        rw [find?_insertMissing] at absent
        split at absent
        · cases absent
        · exact absent

end Lookup

end Table

end Relational
