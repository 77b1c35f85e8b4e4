import XpensGo.Relational.Table
import Mathlib.Algebra.Order.BigOperators.Group.List
import Mathlib.Algebra.Order.Group.Int
import Mathlib.Tactic.Abel

/-!
# Selections and aggregates of keyed tables

How a filtered selection and a sum change when one row is inserted or one row
is rewritten.  A materialised aggregate, such as a balance kept beside the
rows it summarises, stays correct exactly when it moves by the amounts these
lemmas name.
-/

namespace Relational

universe u v w

namespace Table

variable {κ : Type u} {ρ : Type v}

section Insertions

variable {M : Type w} [AddCommMonoid M] {condition : κ → ρ → Bool}

@[simp] theorem sum_empty (charge : κ → ρ → M) :
    (empty : Table κ ρ).sum charge = 0 := by
  simp [sum, empty]

@[simp] theorem sum_push (table : Table κ ρ) {key : κ} (row : ρ)
    (fresh : key ∉ table.rows.map Prod.fst) (charge : κ → ρ → M) :
    (table.push key row fresh).sum charge =
      table.sum charge + charge key row := by
  simp [sum, push]

@[simp] theorem select_empty :
    (empty : Table κ ρ).select condition = [] := rfl

theorem select_push (table : Table κ ρ) {key : κ} (row : ρ)
    (fresh : key ∉ table.rows.map Prod.fst) :
    (table.push key row fresh).select condition =
      table.select condition ++
        (if condition key row then [(key, row)] else []) := by
  unfold select push
  rw [List.filter_append]
  cases selected : condition key row with
  | false => simp [selected]
  | true => simp [selected]

theorem select_push_of_false (table : Table κ ρ) {key : κ} {row : ρ}
    (fresh : key ∉ table.rows.map Prod.fst)
    (unselected : condition key row = false) :
    (table.push key row fresh).select condition =
      table.select condition := by
  simp [select_push, unselected]

theorem select_push_of_true (table : Table κ ρ) {key : κ} {row : ρ}
    (fresh : key ∉ table.rows.map Prod.fst)
    (selected : condition key row = true) :
    (table.push key row fresh).select condition =
      table.select condition ++ [(key, row)] := by
  simp [select_push, selected]

/-- A rewrite that neither the condition nor a column sees changes nothing in
that column of a selection. -/
theorem map_select_update (table : Table κ ρ) (set : κ → ρ → ρ) {α : Type w}
    (column : ρ → α)
    (unselected : ∀ key row, condition key (set key row) = condition key row)
    (unseen : ∀ key row, column (set key row) = column row) :
    ((table.update set).select condition).map (fun entry => column entry.2) =
      (table.select condition).map (fun entry => column entry.2) := by
  simp [update, select, List.filter_map, Function.comp_def, unselected, unseen]

theorem select_keys_nodup (table : Table κ ρ) (condition : κ → ρ → Bool) :
    ((table.select condition).map Prod.fst).Nodup :=
  table.keysNodup.sublist (List.Sublist.map Prod.fst List.filter_sublist)

end Insertions

variable [DecidableEq κ]

section Statements

variable {table table' : Table κ ρ} {check : ρ → Bool}

theorem insert?_eq_some_iff {key : κ} {row : ρ} :
    table.insert? check key row = some table' ↔
      check row = true ∧
        ∃ fresh : key ∉ table.rows.map Prod.fst,
          table' = table.push key row fresh := by
  unfold insert?
  split
  · rename_i fresh
    by_cases valid : check row
    · simp [valid, fresh, eq_comm]
    · simp [valid]
  · rename_i present
    constructor
    · intro equality
      cases equality
    · rintro ⟨_, fresh, _⟩
      exact (present fresh).elim

theorem updateWhere?_eq_some_iff {condition : κ → ρ → Bool} {set : ρ → ρ} :
    table.updateWhere? check condition set = some table' ↔
      (∀ key row, table.find? key = some row → condition key row = true →
        check (set row) = true) ∧
        table' = table.updateWhere condition set := by
  unfold updateWhere?
  split
  · rename_i valid
    rw [List.all_eq_true] at valid
    constructor
    · intro equality
      refine ⟨?_, (Option.some.inj equality).symm⟩
      intro key row found selected
      have checked := valid _ (find?_eq_some_iff_mem.mp found)
      simpa [selected] using checked
    · rintro ⟨_, rfl⟩
      rfl
  · rename_i violated
    constructor
    · intro equality
      cases equality
    · rintro ⟨valid, _⟩
      apply (violated _).elim
      rw [List.all_eq_true]
      rintro ⟨key, row⟩ member
      cases selected : condition key row with
      | false => simp
      | true =>
          simp [valid key row (find?_eq_some_iff_mem.mpr member) selected]

theorem modify?_eq_some_iff {key : κ} {set : ρ → ρ} :
    table.modify? check key set = some table' ↔
      (∀ row, table.find? key = some row → check (set row) = true) ∧
        table' = table.modify key set := by
  unfold modify? modify
  rw [updateWhere?_eq_some_iff]
  constructor
  · rintro ⟨valid, equality⟩
    exact ⟨fun row found => valid key row found (by simp), equality⟩
  · rintro ⟨valid, equality⟩
    refine ⟨?_, equality⟩
    intro candidate row found selected
    have same : candidate = key := by simpa using selected
    subst same
    exact valid row found

end Statements

/-- A condition on the key and on the row selects at most one row. -/
theorem updateWhere_eq_modify {table : Table κ ρ} {key : κ} {row : ρ}
    (condition : ρ → Bool) (found : table.find? key = some row)
    (met : condition row = true) (set : ρ → ρ) :
    table.updateWhere (fun candidate row => candidate = key && condition row)
      set = table.modify key set := by
  have rows : ∀ entry ∈ table.rows,
      (entry.1, if (decide (entry.1 = key) && condition entry.2) = true then
        set entry.2 else entry.2) =
      (entry.1, if decide (entry.1 = key) = true then set entry.2
        else entry.2) := by
    rintro ⟨candidate, present⟩ member
    by_cases same : candidate = key
    · subst same
      have identical : present = row := by
        have presentFound := find?_eq_some_iff_mem.mpr member
        rw [found] at presentFound
        exact (Option.some.inj presentFound).symm
      simp [identical, met]
    · simp [same]
  simp only [modify, updateWhere, update, mk.injEq]
  exact List.map_congr_left rows

/-- A row splits its table into the rows before it and the rows after it, none
of which carries its key. -/
private theorem exists_split {table : Table κ ρ} {key : κ} {row : ρ}
    (found : table.find? key = some row) :
    ∃ before after, table.rows = before ++ (key, row) :: after ∧
      (∀ entry ∈ before, entry.1 ≠ key) ∧
        ∀ entry ∈ after, entry.1 ≠ key := by
  obtain ⟨before, after, rows⟩ :=
    List.append_of_mem (find?_eq_some_iff_mem.mp found)
  have distinct := table.keysNodup
  rw [rows, List.map_append, List.map_cons, List.nodup_append,
    List.nodup_cons] at distinct
  obtain ⟨_, ⟨keyFresh, _⟩, disjoint⟩ := distinct
  refine ⟨before, after, rows, ?_, ?_⟩
  · intro entry member equality
    exact disjoint entry.1 (List.mem_map.mpr ⟨entry, member, rfl⟩) key
      (by simp) equality
  · intro entry member equality
    exact keyFresh (List.mem_map.mpr ⟨entry, member, equality⟩)

private theorem map_modify_of_ne {key : κ} (set : ρ → ρ)
    {rows : List (κ × ρ)} (different : ∀ entry ∈ rows, entry.1 ≠ key) :
    rows.map (fun entry => (entry.1,
      if entry.1 = key then set entry.2 else entry.2)) = rows := by
  rw [List.map_congr_left (g := id)]
  · simp
  · intro entry member
    simp [different entry member]

theorem modify_rows {table : Table κ ρ} {key : κ} {row : ρ}
    {before after : List (κ × ρ)} (set : ρ → ρ)
    (rows : table.rows = before ++ (key, row) :: after)
    (beforeOther : ∀ entry ∈ before, entry.1 ≠ key)
    (afterOther : ∀ entry ∈ after, entry.1 ≠ key) :
    (table.modify key set).rows = before ++ (key, set row) :: after := by
  have beforeSame := map_modify_of_ne set beforeOther
  have afterSame := map_modify_of_ne set afterOther
  simp [modify, updateWhere, update, rows, beforeSame, afterSame]

section Aggregates

variable {M : Type w} [AddCommMonoid M]

/-- Rewriting one row moves the sum by the change of its own charge. -/
theorem sum_modify {table : Table κ ρ} {key : κ} {row : ρ}
    (found : table.find? key = some row) (set : ρ → ρ)
    (charge : κ → ρ → M) :
    (table.modify key set).sum charge + charge key row =
      table.sum charge + charge key (set row) := by
  obtain ⟨before, after, rows, beforeOther, afterOther⟩ := exists_split found
  unfold sum
  rw [modify_rows set rows beforeOther afterOther, rows]
  simp only [List.map_append, List.map_cons, List.sum_append, List.sum_cons]
  abel

theorem sum_congr {table : Table κ ρ} {left right : κ → ρ → M}
    (agree : ∀ key row, table.find? key = some row →
      left key row = right key row) :
    table.sum left = table.sum right := by
  unfold sum
  rw [List.map_congr_left]
  rintro ⟨key, row⟩ member
  exact agree key row (find?_eq_some_iff_mem.mpr member)

theorem sum_eq_zero {table : Table κ ρ} {charge : κ → ρ → M}
    (vanishes : ∀ key row, table.find? key = some row →
      charge key row = 0) :
    table.sum charge = 0 := by
  rw [sum_congr vanishes]
  simp [sum]

theorem sum_nonneg {table : Table κ ρ} {charge : κ → ρ → Int}
    (nonneg : ∀ key row, table.find? key = some row → 0 ≤ charge key row) :
    0 ≤ table.sum charge := by
  refine List.sum_nonneg ?_
  intro amount member
  obtain ⟨⟨key, row⟩, rowMember, rfl⟩ := List.mem_map.mp member
  exact nonneg key row (find?_eq_some_iff_mem.mpr rowMember)

/-- Rewrites that keep the charge of every row keep the sum. -/
theorem sum_updateWhere_of_eq {table : Table κ ρ}
    {condition : κ → ρ → Bool} {set : ρ → ρ} {charge : κ → ρ → M}
    (same : ∀ key row, table.find? key = some row →
      charge key (set row) = charge key row) :
    (table.updateWhere condition set).sum charge = table.sum charge := by
  unfold sum updateWhere update
  rw [List.map_map]
  congr 1
  refine List.map_congr_left ?_
  rintro ⟨key, row⟩ member
  simp only [Function.comp_apply]
  split
  · exact same key row (find?_eq_some_iff_mem.mpr member)
  · rfl

theorem le_sum {table : Table κ ρ} {charge : κ → ρ → Int} {key : κ} {row : ρ}
    (nonneg : ∀ key row, table.find? key = some row → 0 ≤ charge key row)
    (found : table.find? key = some row) :
    charge key row ≤ table.sum charge := by
  refine List.single_le_sum ?_ _ ?_
  · intro amount member
    obtain ⟨⟨other, present⟩, presentMember, rfl⟩ := List.mem_map.mp member
    exact nonneg other present (find?_eq_some_iff_mem.mpr presentMember)
  · exact List.mem_map.mpr ⟨(key, row), find?_eq_some_iff_mem.mp found, rfl⟩

end Aggregates

section Selections

variable {condition : κ → ρ → Bool}

theorem mem_select {table : Table κ ρ} {key : κ} {row : ρ} :
    (key, row) ∈ table.select condition ↔
      table.find? key = some row ∧ condition key row = true := by
  rw [find?_eq_some_iff_mem]
  simp [select]

theorem select_isEmpty_iff {table : Table κ ρ} :
    (table.select condition).isEmpty = true ↔
      ∀ key row, table.find? key = some row → condition key row = false := by
  rw [List.isEmpty_iff, List.eq_nil_iff_forall_not_mem]
  constructor
  · intro unselected key row found
    by_contra selected
    exact unselected (key, row)
      (mem_select.mpr ⟨found, by simpa using selected⟩)
  · intro unselected entry member
    obtain ⟨found, selected⟩ := mem_select.mp member
    rw [unselected entry.1 entry.2 found] at selected
    cases selected

/-- A selection that only one row meets. -/
theorem select_eq_singleton {table : Table κ ρ} {key : κ} {row : ρ}
    (found : table.find? key = some row)
    (selected : condition key row = true)
    (only : ∀ other otherRow, table.find? other = some otherRow →
      condition other otherRow = true → other = key) :
    table.select condition = [(key, row)] := by
  obtain ⟨before, after, rows, beforeOther, afterOther⟩ := exists_split found
  have unselected : ∀ entries : List (κ × ρ),
      (∀ entry ∈ entries, entry ∈ table.rows) →
      (∀ entry ∈ entries, entry.1 ≠ key) →
      (entries.filter fun entry => condition entry.1 entry.2) = [] := by
    intro entries present others
    apply List.filter_eq_nil_iff.mpr
    intro entry member met
    exact others entry member (only entry.1 entry.2
      (find?_eq_some_iff_mem.mpr (present entry member)) met)
  unfold select
  rw [rows, List.filter_append, List.filter_cons, if_pos selected,
    unselected before (by simp [rows]; tauto) beforeOther,
    unselected after (by simp [rows]; tauto) afterOther]
  rfl

/-- Rewriting a row without changing whether it is selected rewrites that row
inside the selection and keeps the order of the selection. -/
theorem select_modify {table : Table κ ρ} {key : κ} {row : ρ}
    (found : table.find? key = some row) {set : ρ → ρ}
    (stable : condition key (set row) = condition key row) :
    (table.modify key set).select condition =
      (table.select condition).map (fun entry =>
        (entry.1, if entry.1 = key then set entry.2 else entry.2)) := by
  obtain ⟨before, after, rows, beforeOther, afterOther⟩ := exists_split found
  have unchanged : ∀ entries : List (κ × ρ),
      (∀ entry ∈ entries, entry.1 ≠ key) →
      (entries.filter fun entry => condition entry.1 entry.2).map
          (fun entry =>
            (entry.1, if entry.1 = key then set entry.2 else entry.2)) =
        entries.filter fun entry => condition entry.1 entry.2 := by
    intro entries others
    have filteredOther : ∀ entry ∈ entries.filter
        (fun entry => condition entry.1 entry.2), entry.1 ≠ key :=
      fun entry member => others entry (List.mem_of_mem_filter member)
    simpa using map_modify_of_ne set filteredOther
  unfold select
  rw [modify_rows set rows beforeOther afterOther, rows]
  simp only [List.filter_append, List.map_append, List.filter_cons, stable]
  cases selected : condition key row with
  | false => simp [unchanged before beforeOther, unchanged after afterOther]
  | true => simp [unchanged before beforeOther, unchanged after afterOther]

/-- Rewriting a row that stays outside a selection keeps the selection. -/
theorem select_modify_of_false {table : Table κ ρ} {key : κ} {row : ρ}
    (found : table.find? key = some row) {set : ρ → ρ}
    (unselected : condition key row = false)
    (stillUnselected : condition key (set row) = false) :
    (table.modify key set).select condition = table.select condition := by
  obtain ⟨before, after, rows, beforeOther, afterOther⟩ := exists_split found
  unfold select
  rw [modify_rows set rows beforeOther afterOther, rows]
  simp [List.filter_append, unselected, stillUnselected]

/-- When the rewritten row is the last selected row, only the end of the
selection changes. -/
theorem select_modify_last {table : Table κ ρ} {key : κ} {row : ρ}
    {earlier : List (κ × ρ)} {set : ρ → ρ}
    (selection : table.select condition = earlier ++ [(key, row)])
    (stable : condition key (set row) = condition key row) :
    (table.modify key set).select condition =
      earlier ++ [(key, set row)] := by
  have member : (key, row) ∈ table.select condition := by simp [selection]
  have found := (mem_select.mp member).1
  have distinct := table.select_keys_nodup condition
  rw [selection, List.map_append, List.nodup_append] at distinct
  have earlierOther : ∀ entry ∈ earlier, entry.1 ≠ key := by
    intro entry entryMember
    exact distinct.2.2 entry.1
      (List.mem_map.mpr ⟨entry, entryMember, rfl⟩) key (by simp)
  rw [select_modify found stable, selection, List.map_append]
  simp [map_modify_of_ne set earlierOther]

end Selections

end Table

end Relational
