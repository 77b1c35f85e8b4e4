import XpensGo.Bot.Isolation

/-!
# Budget alerts

A check reports the thresholds of the budgets that the month's debits have
reached and that were not reported before.  It may claim each alert as it goes,
or leave the marks to its caller, who sends the alerts first.
-/

namespace XpensGo

open EcmaScript Relational Transition

namespace Bot

variable {α : Type}

/-- An alert that a budget has reached a threshold. -/
structure Alert (α : Type) where
  ledgerId : String
  category : String
  monthlyLimit : α
  spent : α
  percentUsed : α
  threshold : Nat
  daysLeft : Int
  month : String

/-- The row of `alerts_sent` that stands for the alert. -/
def Alert.key (alert : Alert α) : AlertKey :=
  { ledgerId := alert.ledgerId
    category := alert.category
    month := alert.month
    threshold := alert.threshold }

/-- `ALERT_THRESHOLDS`, in percent of the limit. -/
def alertThresholds : List Nat := [80, 100]

/-- The days of the month after this one. -/
def daysLeft (date : Calendar.Date) : Int :=
  Calendar.makeDay (nextMonthStart date) - Calendar.makeDay date - 1

/-- Live debits of the month in India until today. -/
def isSpentUntil (now : Int) (row : EntryRow α) : Bool :=
  row.type = .debit && (row.deletedAt.isNone &&
    (isoformat (monthStart (istDate now)) ≤ row.txnDate &&
      row.txnDate ≤ isoformat (istDate now)))

/-- `ORDER BY ledger_id, category`. -/
def isListedBefore (first second : (String × String) × α) : Prop :=
  first.1.1 < second.1.1 ∨
    (first.1.1 = second.1.1 ∧ first.1.2 ≤ second.1.2)

instance : DecidableRel (isListedBefore (α := α)) :=
  fun _ _ => inferInstanceAs (Decidable (_ ∨ _))

section Check

variable (builtins : Builtins α)

/-- The alerts that a budget may raise, with the month's spend. -/
def budgetAlerts (now : Int) (db : BotDatabase α)
    (budget : (String × String) × α) : List (Alert α) :=
  let spent := builtins.sum ((db.entries.select (fun _ row =>
    row.ledgerId = budget.1.1 && (row.category = budget.1.2 &&
      isSpentUntil now row))).map (fun entry => entry.2.amount))
  alertThresholds.map (fun threshold =>
    { ledgerId := budget.1.1
      category := budget.1.2
      monthlyLimit := budget.2
      spent := spent
      percentUsed := builtins.percent spent budget.2
      threshold := threshold
      daysLeft := daysLeft (istDate now)
      month := monthText (istDate now) })

/-- All budgets at all thresholds, in the order of the loops. -/
def possibleAlerts (now : Int) (db : BotDatabase α) : List (Alert α) :=
  (db.budgets.rows.insertionSort isListedBefore).flatMap
    (budgetAlerts builtins now db)

/-- The alert is recorded as sent. -/
def isMarked (key : AlertKey) (db : BotDatabase α) : Bool :=
  (db.alertsSent.find? key).isSome

/-- Whether an alert is new; with `claim` it is marked. -/
def noteAlert (claim : Bool) (key : AlertKey) (db : BotDatabase α) :
    Bool × BotDatabase α :=
  (!isMarked key db, if claim then markAlertSent key db else db)

/-- The loops of `check_budget_alerts`. -/
def checkAlerts (claim : Bool) :
    List (Alert α) → BotDatabase α → List (Alert α) × BotDatabase α
  | [], db => ([], db)
  | alert :: alerts, db =>
      if builtins.isBelow alert.percentUsed alert.threshold then
        checkAlerts claim alerts db
      else
        let noted := noteAlert claim alert.key db
        let rest := checkAlerts claim alerts noted.2
        (if noted.1 then alert :: rest.1 else rest.1, rest.2)

/-- `check_budget_alerts`: the alerts of the day, which may be claimed
with it. -/
def checkBudgetAlerts (claim : Bool) (now : Int) (db : BotDatabase α) :
    List (Alert α) × BotDatabase α :=
  checkAlerts builtins claim (possibleAlerts builtins now db) db

end Check

section Marks

variable {key other : AlertKey} {db : BotDatabase α}

theorem isMarked_markAlertSent :
    isMarked other (markAlertSent key db) =
      (decide (other = key) || isMarked other db) := by
  unfold isMarked markAlertSent
  simp only [Table.find?_insertMissing]
  by_cases same : other = key
  · subst same
    cases db.alertsSent.find? other with
    | none => simp
    | some row => simp
  · simp [same]

end Marks

section Checks

variable {builtins : Builtins α}

/-- The threshold is reached and the alert is not marked. -/
def isDue (builtins : Builtins α) (db : BotDatabase α) (alert : Alert α) :
    Bool :=
  !builtins.isBelow alert.percentUsed alert.threshold &&
    !isMarked alert.key db

theorem checkAlerts_false (alerts : List (Alert α)) (db : BotDatabase α) :
    checkAlerts builtins false alerts db =
      (alerts.filter (isDue builtins db), db) := by
  induction alerts with
  | nil => rfl
  | cons alert alerts induction =>
      simp only [checkAlerts, noteAlert, Bool.false_eq_true, if_false,
        induction, List.filter_cons, isDue]
      by_cases below : builtins.isBelow alert.percentUsed alert.threshold
      · simp [below]
      · simp [below]

/-- Claims do not hide one another, for no two alerts have the same key. -/
theorem checkAlerts_true {alerts : List (Alert α)}
    (distinct : (alerts.map Alert.key).Nodup) (db : BotDatabase α) :
    (checkAlerts builtins true alerts db).1 =
        alerts.filter (isDue builtins db) ∧
      ∀ key, isMarked key (checkAlerts builtins true alerts db).2 =
        (isMarked key db ||
          (alerts.filter (isDue builtins db)).any (fun alert =>
            alert.key = key)) := by
  induction alerts generalizing db with
  | nil =>
      refine ⟨rfl, ?_⟩
      intro key
      simp [checkAlerts]
  | cons alert alerts induction =>
      obtain ⟨fresh, distinct⟩ := List.nodup_cons.mp distinct
      cases below : builtins.isBelow alert.percentUsed alert.threshold with
      | true =>
          have skipped : isDue builtins db alert = false := by
            simp [isDue, below]
          simp only [checkAlerts, below, if_true, List.filter_cons, skipped,
            Bool.false_eq_true, if_false]
          exact induction distinct db
      | false =>
          obtain ⟨reported, marked⟩ :=
            induction distinct (markAlertSent alert.key db)
          have same : alerts.filter
              (isDue builtins (markAlertSent alert.key db)) =
                alerts.filter (isDue builtins db) := by
            apply List.filter_congr
            intro other member
            have different : other.key ≠ alert.key := fun same =>
              fresh (List.mem_map.mpr ⟨other, member, same⟩)
            simp [isDue, isMarked_markAlertSent, different]
          rw [same] at reported marked
          have due : isDue builtins db alert = !isMarked alert.key db := by
            simp [isDue, below]
          simp only [checkAlerts, below, noteAlert, Bool.false_eq_true,
            if_false, if_true, List.filter_cons, due, reported]
          refine ⟨trivial, ?_⟩
          intro key
          rw [marked, isMarked_markAlertSent]
          by_cases same : key = alert.key
          · subst same
            cases found : isMarked alert.key db with
            | true => simp
            | false => simp
          · cases found : isMarked alert.key db with
            | true => simp [same]
            | false => simp [same, Ne.symm same]

theorem checkAlerts_frame (claim : Bool) (alerts : List (Alert α))
    (db : BotDatabase α) :
    (checkAlerts builtins claim alerts db).2.budgets = db.budgets ∧
      (checkAlerts builtins claim alerts db).2.entries = db.entries := by
  induction alerts generalizing db with
  | nil => exact ⟨rfl, rfl⟩
  | cons alert alerts induction =>
      simp only [checkAlerts]
      split
      · exact induction db
      · obtain ⟨budgets, entries⟩ := induction (noteAlert claim alert.key db).2
        have kept : (noteAlert claim alert.key db).2.budgets = db.budgets ∧
            (noteAlert claim alert.key db).2.entries = db.entries := by
          cases claim with
          | false => exact ⟨rfl, rfl⟩
          | true => exact ⟨rfl, rfl⟩
        exact ⟨budgets.trans kept.1, entries.trans kept.2⟩

theorem possibleAlerts_congr {now : Int} {db db' : BotDatabase α}
    (budgets : db'.budgets = db.budgets) (entries : db'.entries = db.entries) :
    possibleAlerts builtins now db' = possibleAlerts builtins now db := by
  unfold possibleAlerts budgetAlerts
  rw [budgets, entries]

theorem possibleAlerts_distinct (now : Int) (db : BotDatabase α) :
    ((possibleAlerts builtins now db).map Alert.key).Nodup := by
  have keys : ((db.budgets.rows.insertionSort isListedBefore).map
      Prod.fst).Nodup :=
    ((List.perm_insertionSort isListedBefore db.budgets.rows).map
      Prod.fst).nodup_iff.mpr db.budgets.keysNodup
  unfold possibleAlerts
  rw [List.map_flatMap]
  apply List.nodup_flatMap.mpr
  constructor
  · intro budget _
    simp only [budgetAlerts, List.map_map]
    apply List.Nodup.map _ (by decide)
    intro first second same
    exact congrArg AlertKey.threshold same
  · apply (List.pairwise_map.mp keys).imp
    intro first second different key listed listed'
    obtain ⟨alert, member, rfl⟩ := List.mem_map.mp listed
    obtain ⟨alert', member', same⟩ := List.mem_map.mp listed'
    obtain ⟨threshold, _, rfl⟩ := List.mem_map.mp member
    obtain ⟨threshold', _, rfl⟩ := List.mem_map.mp member'
    apply different
    apply Prod.ext
    · exact (congrArg AlertKey.ledgerId same).symm
    · exact (congrArg AlertKey.category same).symm

/-- A check that claims reports what a check that does not claim reports: the
alerts whose thresholds are reached and that are not marked, each once.  It
marks these and no others, and the next check reports nothing. -/
theorem alerts_claimed_once (builtins : Builtins α) (now : Int)
    (db : BotDatabase α) :
    let claimed := checkBudgetAlerts builtins true now db
    checkBudgetAlerts builtins false now db = (claimed.1, db) ∧
      (∀ alert, alert ∈ claimed.1 ↔
        alert ∈ possibleAlerts builtins now db ∧
          builtins.isBelow alert.percentUsed alert.threshold = false ∧
          isMarked alert.key db = false) ∧
      (claimed.1.map Alert.key).Nodup ∧
      (∀ key, isMarked key claimed.2 = true ↔
        isMarked key db = true ∨ ∃ alert ∈ claimed.1, alert.key = key) ∧
      ∀ claim, (checkBudgetAlerts builtins claim now claimed.2).1 = [] := by
  have distinct : ((possibleAlerts builtins now db).map Alert.key).Nodup :=
    possibleAlerts_distinct now db
  obtain ⟨reported, marked⟩ := checkAlerts_true distinct db
  obtain ⟨budgets, entries⟩ :=
    checkAlerts_frame true (possibleAlerts builtins now db) db
  intro claimed
  have alerts : claimed.1 =
      (possibleAlerts builtins now db).filter (isDue builtins db) := reported
  have marks : ∀ key, isMarked key claimed.2 = (isMarked key db ||
      claimed.1.any (fun alert => alert.key = key)) := by
    intro key
    rw [alerts]
    exact marked key
  have again : possibleAlerts builtins now claimed.2 =
      possibleAlerts builtins now db := possibleAlerts_congr budgets entries
  have nothing : (possibleAlerts builtins now db).filter
      (isDue builtins claimed.2) = [] := by
    apply List.filter_eq_nil_iff.mpr
    intro alert member due
    simp only [isDue, Bool.and_eq_true, Bool.not_eq_true'] at due
    obtain ⟨reached, unmarked⟩ := due
    rw [marks] at unmarked
    obtain ⟨before, unreported⟩ := Bool.or_eq_false_iff.mp unmarked
    have listed : alert ∈ claimed.1 := by
      rw [alerts]
      apply List.mem_filter.mpr
      exact ⟨member, by simp [isDue, reached, before]⟩
    exact List.any_eq_false.mp unreported alert listed (decide_eq_true rfl)
  refine ⟨?_, ?_, ?_, ?_, ?_⟩
  · rw [alerts]
    exact checkAlerts_false _ db
  · intro alert
    rw [alerts, List.mem_filter]
    simp [isDue]
  · rw [alerts]
    exact distinct.sublist (List.filter_sublist.map Alert.key)
  · intro key
    rw [marks, Bool.or_eq_true, List.any_eq_true]
    simp
  · intro claim
    unfold checkBudgetAlerts
    rw [again]
    cases claim with
    | false => rw [checkAlerts_false, nothing]
    | true => rw [(checkAlerts_true distinct claimed.2).1, nothing]

end Checks

end Bot

end XpensGo
