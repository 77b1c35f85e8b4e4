import XpensGo.Model.Registration

/-!
# Movements of the budget accounts

What a reservation and a release do to a single account row, and which
accounts exist.
-/

namespace XpensGo

open EcmaScript Postgres Relational

/-- An OpenAI operation is charged to the account of its environment and to
that of its user, both in its own period. -/
def ModelOperationRow.chargedTo (row : ModelOperationRow)
    (key : BudgetAccountKey) : Bool :=
  row.provider = .openai && row.charge.covers key

namespace ModelDatabase

variable {db : ModelDatabase} {charge : BudgetCharge} {key : BudgetAccountKey}
  {account : BudgetAccountRow}

theorem find?_setAccounts {set : BudgetAccountRow → BudgetAccountRow} :
    (db.setAccounts charge set).accounts.find? key =
      (db.accounts.find? key).map (fun account =>
        if charge.covers key then set account else account) :=
  Table.find?_updateWhere ..

/-- A reserved account, with the kill switch of an exhausted environment. -/
def reservedAccount (charge : BudgetCharge) (reservation : Int)
    (key : BudgetAccountKey) (account : BudgetAccountRow) :
    BudgetAccountRow :=
  let charged :=
    if charge.covers key then
      { account with
        reservedMicroUsd := account.reservedMicroUsd + reservation }
    else
      account
  if key = charge.environmentAccount && charged.exhausted then
    { charged with killSwitch := true }
  else
    charged

theorem find?_reserve {reservation : Int} :
    (db.reserve charge reservation).accounts.find? key =
      (db.accounts.find? key).map (reservedAccount charge reservation key) := by
  unfold reserve recordBudgetThresholds
  rw [Table.find?_updateWhere, find?_setAccounts, Option.map_map]
  rfl

@[simp] theorem reservedAccount_ceilingMicroUsd {reservation : Int} :
    (reservedAccount charge reservation key account).ceilingMicroUsd =
      account.ceilingMicroUsd := by
  simp only [reservedAccount]
  split <;> split <;> rfl

@[simp] theorem reservedAccount_settledMicroUsd {reservation : Int} :
    (reservedAccount charge reservation key account).settledMicroUsd =
      account.settledMicroUsd := by
  simp only [reservedAccount]
  split <;> split <;> rfl

@[simp] theorem reservedAccount_reservedMicroUsd {reservation : Int} :
    (reservedAccount charge reservation key account).reservedMicroUsd =
      account.reservedMicroUsd +
        if charge.covers key then reservation else 0 := by
  by_cases covered : charge.covers key = true
  · simp only [reservedAccount, covered, if_true]
    split <;> rfl
  · simp only [reservedAccount, covered, Bool.false_eq_true, if_false]
    split <;> simp

/-- An account found after the insertion was there or is new and empty. -/
theorem find?_insertBudgetAccounts {environmentCeiling userCeiling : Nat}
    (found : (db.insertBudgetAccounts charge environmentCeiling
      userCeiling).accounts.find? key = some account) :
    db.accounts.find? key = some account ∨
      (db.accounts.find? key = none ∧ charge.covers key = true ∧
        account.reservedMicroUsd = 0 ∧ account.settledMicroUsd = 0 ∧
          0 ≤ account.ceilingMicroUsd) := by
  rcases Table.find?_insertAllMissing_cases found with
    earlier | ⟨absent, member⟩
  · exact .inl earlier
  · simp only [List.mem_cons, Prod.mk.injEq, List.not_mem_nil, or_false]
      at member
    rcases member with ⟨rfl, rfl⟩ | ⟨rfl, rfl⟩
    · exact .inr ⟨absent, by simp, rfl, rfl, Int.natCast_nonneg _⟩
    · exact .inr ⟨absent, by simp, rfl, rfl, Int.natCast_nonneg _⟩

/-- Accounts are never deleted. -/
theorem find?_insertBudgetAccounts_of_some
    {environmentCeiling userCeiling : Nat}
    (found : db.accounts.find? key = some account) :
    (db.insertBudgetAccounts charge environmentCeiling
      userCeiling).accounts.find? key = some account := by
  simp only [insertBudgetAccounts, Table.insertAllMissing, List.foldl_cons,
    List.foldl_nil, Table.find?_insertMissing]
  split
  · rename_i user
    subst user
    have different : charge.userAccount ≠ charge.environmentAccount := by
      simp [BudgetCharge.userAccount, BudgetCharge.environmentAccount]
    simp [different, found]
  · split
    · rename_i environment
      subst environment
      simp [found]
    · exact found

/-- Which accounts a release moves. -/
def releases (row : ModelOperationRow) (key : BudgetAccountKey) : Bool :=
  !(row.provider = .deterministic || row.reservedCostMicroUsd = 0) &&
    row.charge.covers key

theorem find?_release {row : ModelOperationRow} {settlement : Int} :
    (db.release row settlement).accounts.find? key =
      (db.accounts.find? key).map (fun account =>
        if releases row key then
          { account with
            reservedMicroUsd :=
              account.reservedMicroUsd - row.reservedCostMicroUsd
            settledMicroUsd := account.settledMicroUsd + settlement }
        else
          account) := by
  unfold release
  split
  · rename_i skipped
    have unmoved : releases row key = false := by
      rcases skipped with deterministic | unreserved
      · simp [releases, deterministic]
      · simp [releases, unreserved]
    simp [unmoved]
  · rename_i charged
    rw [find?_setAccounts]
    rw [not_or] at charged
    have moved : releases row key = row.charge.covers key := by
      simp [releases, charged.1, charged.2]
    simp [moved]

end ModelDatabase

section Registered

variable {row : ModelOperationRow} {key : BudgetAccountKey}

theorem ModelOperationRow.IsRegistered.reserved_pos
    (registered : row.IsRegistered) (billable : row.MayBill) :
    0 < row.reservedCostMicroUsd := by
  rw [registered.reservation, dueReservation, if_pos billable]
  exact_mod_cast modelOperationProfiles_cost_pos row.operation

theorem ModelOperationRow.IsRegistered.reserved_nonneg
    (registered : row.IsRegistered) : 0 ≤ row.reservedCostMicroUsd := by
  rw [registered.reservation, dueReservation]
  split
  · exact Int.natCast_nonneg _
  · exact le_rfl

theorem ModelOperationRow.IsRegistered.releases_eq
    (registered : row.IsRegistered) (unfinished : row.status.isTerminal = false) :
    ModelDatabase.releases row key = row.chargedTo key := by
  cases provider : row.provider with
  | deterministic =>
      simp [ModelDatabase.releases, chargedTo, provider]
  | openai =>
      have positive := registered.reserved_pos ⟨provider, .inl unfinished⟩
      have nonzero : row.reservedCostMicroUsd ≠ 0 := by omega
      simp [ModelDatabase.releases, chargedTo, provider, nonzero]

end Registered

end XpensGo
