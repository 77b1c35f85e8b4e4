import Mathlib.Logic.Function.Basic
import XpensGo.Relational.Table

/-!
# Views of tables

A table viewed as a partial map from its keys, possibly with only some of the
columns of its rows.  Insertions and updates by key become updates of the map.
-/

namespace Relational

universe u v w

namespace View

variable {κ : Type u} {ρ : Type v} [DecidableEq κ] {rows : κ → Option ρ}
  {key other : κ} {row found : ρ}

theorem update_eq_some
    (read : Function.update rows key (some row) other = some found) :
    (other = key ∧ found = row) ∨ (other ≠ key ∧ rows other = some found) := by
  rw [Function.update_apply] at read
  split at read
  · rename_i same
    exact .inl ⟨same, (Option.some.inj read).symm⟩
  · rename_i different
    exact .inr ⟨different, read⟩

theorem update_of_ne (different : other ≠ key)
    (present : rows other = some found) :
    Function.update rows key (some row) other = some found := by
  rw [Function.update_of_ne different]
  exact present

theorem update_of_none (absent : rows key = none)
    (present : rows other = some found) :
    Function.update rows key (some row) other = some found := by
  refine update_of_ne ?_ present
  intro same
  rw [same, absent] at present
  cases present

end View

namespace Table

variable {κ : Type u} {ρ : Type v} {τ : Type w} [DecidableEq κ]
  {table : Table κ ρ} {key : κ} {row : ρ}

theorem find?_push_eq_update (fresh : key ∉ table.rows.map Prod.fst) :
    (table.push key row fresh).find? =
      Function.update table.find? key (some row) := by
  funext other
  rw [find?_push, Function.update_apply]

theorem map_find?_push_eq_update (columns : ρ → τ)
    (fresh : key ∉ table.rows.map Prod.fst) :
    (fun other => ((table.push key row fresh).find? other).map columns) =
      Function.update (fun other => (table.find? other).map columns) key
        (some (columns row)) := by
  funext other
  rw [find?_push, Function.update_apply]
  split <;> rfl

theorem find?_modify_eq_update {set : ρ → ρ}
    (found : table.find? key = some row) :
    (table.modify key set).find? =
      Function.update table.find? key (some (set row)) := by
  funext other
  rw [find?_modify, Function.update_apply]
  split
  · rename_i same
    rw [same, found]
    rfl
  · rfl

theorem map_find?_modify_eq_update (columns : ρ → τ) {set : ρ → ρ}
    (found : table.find? key = some row) :
    (fun other => ((table.modify key set).find? other).map columns) =
      Function.update (fun other => (table.find? other).map columns) key
        (some (columns (set row))) := by
  funext other
  rw [find?_modify, Function.update_apply]
  split
  · rename_i same
    rw [same, found]
    rfl
  · rfl

end Table

end Relational
