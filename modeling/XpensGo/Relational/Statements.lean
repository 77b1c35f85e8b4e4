import XpensGo.Relational.Aggregate

/-!
# Deletions, upserts and generated keys

`DELETE` of the rows that meet a condition, `INSERT` that updates the row on a
conflict, and tables with a key that the database generates: the next key is one
more than the largest that was ever used, so a deleted row's key is not used
again and the rows stand in the order of their keys.

A statement on the rows that one selection shows is described on this selection,
and a statement on other rows leaves it as it is.
-/

namespace Relational

universe u v w

namespace Table

variable {κ : Type u} {ρ : Type v}

/-- `DELETE … WHERE condition`. -/
def deleteWhere (table : Table κ ρ) (condition : κ → ρ → Bool) :
    Table κ ρ :=
  { rows := table.rows.filter (fun entry => !condition entry.1 entry.2)
    keysNodup := table.keysNodup.sublist
      (List.filter_sublist.map Prod.fst) }

theorem select_deleteWhere (table : Table κ ρ)
    (deleted condition : κ → ρ → Bool) :
    (table.deleteWhere deleted).select condition =
      (table.select condition).filter (fun entry =>
        !deleted entry.1 entry.2) := by
  unfold select deleteWhere
  rw [List.filter_comm]

theorem select_of_implies (table : Table κ ρ) {narrow wide : κ → ρ → Bool}
    (implies : ∀ key row, narrow key row = true → wide key row = true) :
    table.select narrow =
      (table.select wide).filter (fun entry => narrow entry.1 entry.2) := by
  unfold select
  rw [List.filter_filter]
  congr 1
  funext entry
  cases selected : narrow entry.1 entry.2 with
  | false => simp
  | true => simp [implies _ _ selected]

/-- An update that does not change which rows are selected. -/
theorem select_updateWhere (table : Table κ ρ)
    {updated condition : κ → ρ → Bool} {set : ρ → ρ}
    (stable : ∀ key row, updated key row = true →
      condition key (set row) = condition key row) :
    (table.updateWhere updated set).select condition =
      (table.select condition).map (fun entry =>
        (entry.1, if updated entry.1 entry.2 then set entry.2
          else entry.2)) := by
  unfold updateWhere update select
  rw [List.filter_map]
  congr 1
  apply List.filter_congr
  intro entry _
  simp only [Function.comp_apply]
  split
  · rename_i met
    exact stable entry.1 entry.2 met
  · rfl

/-- An update of rows that are not selected, neither before nor after it. -/
theorem select_updateWhere_of_disjoint (table : Table κ ρ)
    {updated condition : κ → ρ → Bool} {set : ρ → ρ}
    (before : ∀ key row, updated key row = true → condition key row = false)
    (after : ∀ key row, updated key row = true →
      condition key (set row) = false) :
    (table.updateWhere updated set).select condition =
      table.select condition := by
  rw [select_updateWhere table (fun key row met => by
    rw [before key row met, after key row met])]
  refine (List.map_congr_left ?_).trans (List.map_id _)
  intro entry member
  have selected : condition entry.1 entry.2 = true :=
    (List.mem_filter.mp member).2
  have unmet : ¬updated entry.1 entry.2 = true := by
    intro met
    rw [before entry.1 entry.2 met] at selected
    cases selected
  simp [unmet]

/-- A deletion of rows that are not selected. -/
theorem select_deleteWhere_of_disjoint (table : Table κ ρ)
    {deleted condition : κ → ρ → Bool}
    (disjoint : ∀ key row, (key, row) ∈ table.rows →
      deleted key row = true → condition key row = false) :
    (table.deleteWhere deleted).select condition =
      table.select condition := by
  rw [select_deleteWhere]
  apply List.filter_eq_self.mpr
  intro entry member
  obtain ⟨present, selected⟩ := List.mem_filter.mp member
  cases met : deleted entry.1 entry.2 with
  | false => rfl
  | true =>
      rw [disjoint _ _ present met] at selected
      cases selected

/-- A deletion of all that is selected. -/
theorem select_deleteWhere_of_covers (table : Table κ ρ)
    {deleted condition : κ → ρ → Bool}
    (covers : ∀ key row, (key, row) ∈ table.rows →
      condition key row = true → deleted key row = true) :
    (table.deleteWhere deleted).select condition = [] := by
  rw [select_deleteWhere]
  apply List.filter_eq_nil_iff.mpr
  intro entry member
  obtain ⟨present, selected⟩ := List.mem_filter.mp member
  simp [covers _ _ present selected]

/-- A deletion of the rows with another value in a column. -/
theorem select_deleteWhere_of_ne {γ : Type w} [DecidableEq γ]
    (table : Table κ ρ) (column : κ → ρ → γ) {deleted selected : γ}
    (different : selected ≠ deleted) :
    (table.deleteWhere (fun key row => column key row = deleted)).select
        (fun key row => column key row = selected) =
      table.select (fun key row => column key row = selected) := by
  apply select_deleteWhere_of_disjoint
  intro key row _ met
  rw [of_decide_eq_true met]
  exact decide_eq_false different.symm

/-- An update after which nothing is selected. -/
theorem select_updateWhere_of_covers (table : Table κ ρ)
    {updated condition : κ → ρ → Bool} {set : ρ → ρ}
    (covers : ∀ key row, condition key row = true → updated key row = true)
    (cleared : ∀ key row, condition key (set row) = false) :
    (table.updateWhere updated set).select condition = [] := by
  apply List.filter_eq_nil_iff.mpr
  intro entry member
  obtain ⟨before, _, rfl⟩ := List.mem_map.mp member
  intro selected
  simp only at selected
  split at selected
  · rw [cleared] at selected
    cases selected
  · rename_i unmet
    exact unmet (covers _ _ selected)

section Upserts

variable [DecidableEq κ]

/-- `INSERT … ON CONFLICT (key) DO UPDATE SET`. -/
def upsert (table : Table κ ρ) (key : κ) (row : ρ) (set : ρ → ρ) :
    Table κ ρ :=
  if fresh : key ∉ table.rows.map Prod.fst then
    table.push key row fresh
  else
    table.modify key set

/-- An upsert in a list of rows. -/
def upsertRow (rows : List (κ × ρ)) (key : κ) (row : ρ) (set : ρ → ρ) :
    List (κ × ρ) :=
  if key ∉ rows.map Prod.fst then
    rows ++ [(key, row)]
  else
    rows.map (fun entry =>
      (entry.1, if entry.1 = key then set entry.2 else entry.2))

variable {table : Table κ ρ} {key : κ} {row : ρ} {set : ρ → ρ}

theorem rows_upsert :
    (table.upsert key row set).rows = upsertRow table.rows key row set := by
  unfold upsert upsertRow
  split
  · rfl
  · simp only [modify, updateWhere, update, decide_eq_true_eq]

/-- An upsert under a key that a selection by key shows. -/
theorem select_upsert (table : Table κ ρ) (key : κ) (row : ρ) (set : ρ → ρ)
    (condition : κ → Bool) (selected : condition key = true) :
    (table.upsert key row set).select (fun candidate _ => condition candidate)
      = upsertRow (table.select (fun candidate _ => condition candidate)) key
          row set := by
  have same : key ∈ (table.select (fun candidate _ =>
      condition candidate)).map Prod.fst ↔ key ∈ table.rows.map Prod.fst := by
    simp only [List.mem_map, select, List.mem_filter]
    constructor
    · rintro ⟨entry, member, rfl⟩
      exact ⟨entry, member.1, rfl⟩
    · rintro ⟨entry, member, rfl⟩
      exact ⟨entry, ⟨member, selected⟩, rfl⟩
  change (table.upsert key row set).rows.filter _ = _
  rw [rows_upsert]
  unfold upsertRow
  by_cases fresh : key ∉ table.rows.map Prod.fst
  · rw [if_pos fresh, if_pos (same.not.mpr fresh), List.filter_append]
    simp [select, selected]
  · rw [if_neg fresh, if_neg (fun absent => fresh (same.not.mp absent)),
      List.filter_map]
    rfl

/-- An upsert under a key that a selection by key does not show. -/
theorem select_upsert_of_false (table : Table κ ρ) (key : κ) (row : ρ)
    (set : ρ → ρ) (condition : κ → Bool)
    (unselected : condition key = false) :
    (table.upsert key row set).select (fun candidate _ => condition candidate)
      = table.select (fun candidate _ => condition candidate) := by
  unfold upsert
  split
  · exact select_push_of_false table _ unselected
  · apply select_updateWhere_of_disjoint
    · intro candidate _ met
      rw [of_decide_eq_true met, unselected]
    · intro candidate _ met
      rw [of_decide_eq_true met, unselected]

theorem find?_upsert (other : κ) :
    (table.upsert key row set).find? other =
      if other = key then
        some ((table.find? key).elim row set)
      else
        table.find? other := by
  unfold upsert
  by_cases fresh : key ∉ table.rows.map Prod.fst
  · rw [dif_pos fresh, find?_push, find?_eq_none_iff.mpr fresh]
    rfl
  · rw [dif_neg fresh, find?_modify]
    split
    · rename_i same
      subst same
      cases found : table.find? other with
      | none => exact (fresh (find?_eq_none_iff.mp found)).elim
      | some old => rfl
    · rfl

theorem find?_deleteWhere (table : Table κ ρ) (condition : κ → ρ → Bool)
    (key : κ) :
    (table.deleteWhere condition).find? key =
      (table.find? key).filter (fun row => !condition key row) := by
  cases found : (table.deleteWhere condition).find? key with
  | some row =>
      have member := find?_eq_some_iff_mem.mp found
      obtain ⟨present, kept⟩ := List.mem_filter.mp member
      rw [find?_eq_some_iff_mem.mpr present]
      rw [Option.filter_some, if_pos kept]
  | none =>
      symm
      apply Option.filter_eq_none_iff.mpr
      intro row present
      have absent := find?_eq_none_iff.mp found
      intro kept
      refine absent (List.mem_map.mpr ⟨(key, row), ?_, rfl⟩)
      exact List.mem_filter.mpr ⟨find?_eq_some_iff_mem.mp present, kept⟩

end Upserts

end Table

/-- A table with an `INTEGER PRIMARY KEY AUTOINCREMENT`, and its largest key so
far. -/
structure AutoTable (ρ : Type v) where
  table : Table Nat ρ := .empty
  sequence : Nat := 0
  bounded : ∀ key ∈ table.rows.map Prod.fst, key ≤ sequence := by
    intro key member
    cases member
  ordered : (table.rows.map Prod.fst).Pairwise (· < ·) := by
    exact List.Pairwise.nil

namespace AutoTable

variable {ρ : Type v} (rows : AutoTable ρ)

theorem fresh_succ : rows.sequence + 1 ∉ rows.table.rows.map Prod.fst := by
  intro member
  have := rows.bounded _ member
  omega

theorem bounded_push (row : ρ) :
    ∀ key ∈ (rows.table.push _ row rows.fresh_succ).rows.map Prod.fst,
      key ≤ rows.sequence + 1 := by
  intro key member
  simp only [Table.push, List.map_append, List.mem_append, List.map_cons,
    List.map_nil, List.mem_singleton] at member
  rcases member with old | rfl
  · have := rows.bounded key old
    omega
  · exact Nat.le_refl _

theorem ordered_push (row : ρ) :
    ((rows.table.push _ row rows.fresh_succ).rows.map Prod.fst).Pairwise
      (· < ·) := by
  simp only [Table.push, List.map_append, List.map_cons, List.map_nil]
  apply List.pairwise_append.mpr
  refine ⟨rows.ordered, List.pairwise_singleton _ _, ?_⟩
  intro key member other isNew
  rw [List.mem_singleton.mp isNew]
  exact Nat.lt_succ_of_le (rows.bounded key member)

/-- `INSERT`, with the key that is generated. -/
def insert (row : ρ) : Nat × AutoTable ρ :=
  (rows.sequence + 1,
    { table := rows.table.push (rows.sequence + 1) row rows.fresh_succ
      sequence := rows.sequence + 1
      bounded := rows.bounded_push row
      ordered := rows.ordered_push row })

def updateWhere (condition : Nat → ρ → Bool) (set : ρ → ρ) : AutoTable ρ :=
  { table := rows.table.updateWhere condition set
    sequence := rows.sequence
    bounded := by
      intro key member
      apply rows.bounded key
      simpa [Table.updateWhere, Table.update, List.map_map,
        Function.comp_def] using member
    ordered := by
      simpa [Table.updateWhere, Table.update, List.map_map,
        Function.comp_def] using rows.ordered }

def deleteWhere (condition : Nat → ρ → Bool) : AutoTable ρ :=
  { table := rows.table.deleteWhere condition
    sequence := rows.sequence
    bounded := by
      intro key member
      obtain ⟨entry, kept, rfl⟩ := List.mem_map.mp member
      exact rows.bounded _
        (List.mem_map.mpr ⟨entry, (List.mem_filter.mp kept).1, rfl⟩)
    ordered := rows.ordered.sublist
      (List.filter_sublist.map Prod.fst) }

/-- `SELECT … WHERE condition ORDER BY key`. -/
def select (condition : Nat → ρ → Bool) : List (Nat × ρ) :=
  rows.table.select condition

/-- All rows meet a condition. -/
def All (condition : ρ → Prop) : Prop :=
  ∀ entry ∈ rows.table.rows, condition entry.2

variable {rows} {condition : ρ → Prop}

theorem select_insert (row : ρ) (selected : Nat → ρ → Bool) :
    (rows.insert row).2.select selected =
      rows.select selected ++
        if selected (rows.sequence + 1) row then
          [(rows.sequence + 1, row)]
        else
          [] := by
  unfold select insert
  rw [Table.select_push]

theorem select_of_implies {narrow wide : Nat → ρ → Bool}
    (implies : ∀ key row, narrow key row = true → wide key row = true) :
    rows.select narrow =
      (rows.select wide).filter (fun entry => narrow entry.1 entry.2) :=
  Table.select_of_implies rows.table implies

theorem select_deleteWhere (deleted selected : Nat → ρ → Bool) :
    (rows.deleteWhere deleted).select selected =
      (rows.select selected).filter (fun entry =>
        !deleted entry.1 entry.2) :=
  Table.select_deleteWhere rows.table deleted selected

theorem select_deleteWhere_of_disjoint
    {deleted selected : Nat → ρ → Bool}
    (disjoint : ∀ key row, (key, row) ∈ rows.table.rows →
      deleted key row = true → selected key row = false) :
    (rows.deleteWhere deleted).select selected = rows.select selected :=
  Table.select_deleteWhere_of_disjoint rows.table disjoint

theorem select_deleteWhere_of_ne {γ : Type w} [DecidableEq γ]
    (column : Nat → ρ → γ) {deleted selected : γ}
    (different : selected ≠ deleted) :
    (rows.deleteWhere (fun key row => column key row = deleted)).select
        (fun key row => column key row = selected) =
      rows.select (fun key row => column key row = selected) :=
  Table.select_deleteWhere_of_ne rows.table column different

theorem select_deleteWhere_of_covers
    {deleted selected : Nat → ρ → Bool}
    (covers : ∀ key row, (key, row) ∈ rows.table.rows →
      selected key row = true → deleted key row = true) :
    (rows.deleteWhere deleted).select selected = [] :=
  Table.select_deleteWhere_of_covers rows.table covers

theorem select_updateWhere_of_disjoint
    {updated selected : Nat → ρ → Bool} {set : ρ → ρ}
    (before : ∀ key row, updated key row = true → selected key row = false)
    (after : ∀ key row, updated key row = true →
      selected key (set row) = false) :
    (rows.updateWhere updated set).select selected = rows.select selected :=
  Table.select_updateWhere_of_disjoint rows.table before after

theorem select_updateWhere_of_covers
    {updated selected : Nat → ρ → Bool} {set : ρ → ρ}
    (covers : ∀ key row, selected key row = true → updated key row = true)
    (cleared : ∀ key row, selected key (set row) = false) :
    (rows.updateWhere updated set).select selected = [] :=
  Table.select_updateWhere_of_covers rows.table covers cleared

theorem All.insert (all : rows.All condition) {row : ρ}
    (meets : condition row) : (rows.insert row).2.All condition := by
  intro entry member
  rcases List.mem_append.mp member with old | isNew
  · exact all entry old
  · rw [List.mem_singleton.mp isNew]
    exact meets

theorem All.updateWhere (all : rows.All condition)
    {updated : Nat → ρ → Bool} {set : ρ → ρ}
    (stable : ∀ row, condition row → condition (set row)) :
    (rows.updateWhere updated set).All condition := by
  intro entry member
  obtain ⟨before, present, rfl⟩ := List.mem_map.mp member
  have holds := all before present
  change condition (if updated before.1 before.2 then set before.2
    else before.2)
  split
  · exact stable _ holds
  · exact holds

theorem All.deleteWhere (all : rows.All condition)
    (deleted : Nat → ρ → Bool) : (rows.deleteWhere deleted).All condition :=
  fun entry member => all entry (List.mem_filter.mp member).1

end AutoTable

end Relational
