import Mathlib.Algebra.Order.Ring.Nat
import XpensGo.EcmaScript.Value

/-!
# Days of the proleptic Gregorian calendar

Day numbers as in the time values of ECMAScript: a year begins at
`dayFromYear`, and `dateFromDay` finds the year, the month and the day of a day
number.  Both directions agree on all dates that exist.
-/

namespace EcmaScript

namespace Calendar

/-- A year, a month and a day, which need not exist. -/
structure Date where
  year : Int
  month : Nat
  day : Nat
  deriving DecidableEq, Repr

/-- The Gregorian rule. -/
def isLeapYear (year : Int) : Bool :=
  year % 4 = 0 && (year % 100 ≠ 0 || year % 400 = 0)

/-- The length of a year. -/
def daysInYear (leap : Bool) : Nat :=
  if leap then 366 else 365

/-- The length of a month. -/
def daysInMonth (leap : Bool) (month : Nat) : Nat :=
  if month = 2 then if leap then 29 else 28
  else if month = 4 ∨ month = 6 ∨ month = 9 ∨ month = 11 then 30
  else 31

theorem daysInMonth_le (leap : Bool) (month : Nat) :
    daysInMonth leap month ≤ 31 := by
  unfold daysInMonth
  split
  · cases leap <;> decide
  · split <;> omega

namespace Date

/-- The calendar has the date. -/
def Exists (date : Date) : Prop :=
  1 ≤ date.month ∧ date.month ≤ 12 ∧ 1 ≤ date.day ∧
    date.day ≤ daysInMonth (isLeapYear date.year) date.month

instance (date : Date) : Decidable date.Exists :=
  inferInstanceAs (Decidable (_ ∧ _ ∧ _ ∧ _))

end Date

/-- The number of the first day of a year. -/
def dayFromYear (year : Int) : Int :=
  365 * (year - 1970) + (year - 1969) / 4 - (year - 1901) / 100 +
    (year - 1601) / 400

/-- The year of a day; the estimate is at most one year off. -/
def yearFromDay (day : Int) : Int :=
  let estimate := day * 400 / 146097 + 1970
  if dayFromYear (estimate + 1) ≤ day then estimate + 1
  else if dayFromYear estimate ≤ day then estimate
  else estimate - 1

/-- The days of a year before a month. -/
def daysBefore (leap : Bool) (month : Nat) : Nat :=
  ((List.range' 1 (month - 1)).map (daysInMonth leap)).sum

/-- The month of a day of the year. -/
def monthFromDay (leap : Bool) (dayInYear : Nat) : Nat :=
  ((List.range' 1 12).find? (fun month =>
    dayInYear < daysBefore leap (month + 1))).getD 12

/-- `MakeDay`: the days since 1970 of a date. -/
def makeDay (date : Date) : Int :=
  dayFromYear date.year +
    (daysBefore (isLeapYear date.year) date.month + date.day - 1 : Nat)

/-- The date of a day since 1970. -/
def dateFromDay (day : Int) : Date :=
  let year := yearFromDay day
  let leap := isLeapYear year
  let dayInYear := (day - dayFromYear year).toNat
  let month := monthFromDay leap dayInYear
  { year := year
    month := month
    day := dayInYear - daysBefore leap month + 1 }

section Years

variable {year later day : Int}

theorem dayFromYear_succ (year : Int) :
    dayFromYear (year + 1) = dayFromYear year + daysInYear (isLeapYear year) := by
  unfold dayFromYear daysInYear isLeapYear
  split
  · rename_i leap
    simp at leap
    omega
  · rename_i common
    simp at common
    omega

theorem dayFromYear_mono (ordered : year ≤ later) :
    dayFromYear year ≤ dayFromYear later := by
  unfold dayFromYear
  omega

theorem yearFromDay_spec (day : Int) :
    dayFromYear (yearFromDay day) ≤ day ∧
      day < dayFromYear (yearFromDay day + 1) := by
  unfold yearFromDay
  dsimp only
  split
  · rename_i later
    refine ⟨later, ?_⟩
    unfold dayFromYear
    omega
  · rename_i notLater
    split
    · rename_i begun
      exact ⟨begun, Int.not_le.mp notLater⟩
    · rename_i notBegun
      constructor
      · unfold dayFromYear
        omega
      · simpa using notBegun

theorem yearFromDay_eq (begun : dayFromYear year ≤ day)
    (unfinished : day < dayFromYear (year + 1)) : yearFromDay day = year := by
  obtain ⟨begins, ends⟩ := yearFromDay_spec day
  rcases Int.lt_trichotomy (yearFromDay day) year with before | same | after
  · have finished := dayFromYear_mono (Int.add_one_le_of_lt before)
    omega
  · exact same
  · have finished := dayFromYear_mono (Int.add_one_le_of_lt after)
    omega

end Years

section Months

private theorem monthFromDay_spec :
    ∀ leap : Bool, ∀ dayInYear, dayInYear < daysInYear leap →
      let month := monthFromDay leap dayInYear
      1 ≤ month ∧ month ≤ 12 ∧ daysBefore leap month ≤ dayInYear ∧
        dayInYear < daysBefore leap month + daysInMonth leap month := by
  decide +kernel

private theorem monthFromDay_eq :
    ∀ leap : Bool, ∀ month, month < 13 → 1 ≤ month →
      ∀ day, day < daysInMonth leap month →
        monthFromDay leap (daysBefore leap month + day) = month ∧
          daysBefore leap month + day < daysInYear leap := by
  decide +kernel

end Months

section Dates

variable {date : Date}

private theorem dayInYear_lt (day : Int) :
    (day - dayFromYear (yearFromDay day)).toNat <
      daysInYear (isLeapYear (yearFromDay day)) := by
  obtain ⟨begins, ends⟩ := yearFromDay_spec day
  rw [dayFromYear_succ] at ends
  omega

theorem dateFromDay_exists (day : Int) : (dateFromDay day).Exists := by
  obtain ⟨first, last, begun, unfinished⟩ :=
    monthFromDay_spec _ _ (dayInYear_lt day)
  refine ⟨first, last, ?_, ?_⟩
  · simp only [dateFromDay]
    omega
  · simp only [dateFromDay]
    omega

private theorem dayInYear_of_exists (present : date.Exists) :
    monthFromDay (isLeapYear date.year)
        (daysBefore (isLeapYear date.year) date.month + date.day - 1) =
          date.month ∧
      daysBefore (isLeapYear date.year) date.month + date.day - 1 <
        daysInYear (isLeapYear date.year) := by
  obtain ⟨first, last, begins, ends⟩ := present
  have counted : daysBefore (isLeapYear date.year) date.month + date.day - 1 =
      daysBefore (isLeapYear date.year) date.month + (date.day - 1) := by
    omega
  rw [counted]
  exact monthFromDay_eq _ _ (by omega) first _ (by omega)

theorem makeDay_within (present : date.Exists) :
    dayFromYear date.year ≤ makeDay date ∧
      makeDay date < dayFromYear (date.year + 1) := by
  have within := (dayInYear_of_exists present).2
  rw [dayFromYear_succ]
  unfold makeDay
  omega

theorem dateFromDay_makeDay (present : date.Exists) :
    dateFromDay (makeDay date) = date := by
  have month := (dayInYear_of_exists present).1
  have begins := present.2.2.1
  have year : yearFromDay (makeDay date) = date.year :=
    yearFromDay_eq (makeDay_within present).1 (makeDay_within present).2
  have dayInYear : (makeDay date - dayFromYear date.year).toNat =
      daysBefore (isLeapYear date.year) date.month + date.day - 1 := by
    unfold makeDay
    omega
  unfold dateFromDay
  dsimp only
  rw [year, dayInYear, month]
  congr 1
  omega

end Dates

/-- The decimal digits of a number, padded to a width. -/
def decimal : Nat → Nat → JsString
  | 0, _ => []
  | width + 1, value =>
      decimal width (value / 10) ++ [UInt16.ofNat (0x30 + value % 10)]

/-- Four digits, or a sign and six digits. -/
def isoYear (year : Int) : JsString :=
  if 0 ≤ year ∧ year ≤ 9999 then
    decimal 4 year.toNat
  else
    (if 0 ≤ year then 0x2b else 0x2d) :: decimal 6 year.natAbs

/-- `YYYY-MM-DD`. -/
def isoDate (date : Date) : JsString :=
  isoYear date.year ++ (0x2d :: decimal 2 date.month ++
    0x2d :: decimal 2 date.day)

/-- `THH:mm:ss.sssZ`. -/
def isoTime (milliseconds : Nat) : JsString :=
  0x54 :: decimal 2 (milliseconds / 3600000) ++
    (0x3a :: decimal 2 (milliseconds / 60000 % 60) ++
      (0x3a :: decimal 2 (milliseconds / 1000 % 60) ++
        (0x2e :: decimal 3 (milliseconds % 1000) ++ [0x5a])))

/-- The length of a day. -/
def millisecondsPerDay : Int :=
  86400000

section Texts

variable {date : Date} {width value : Nat}

@[simp] theorem length_decimal : (decimal width value).length = width := by
  induction width generalizing value with
  | zero => rfl
  | succ width induction => simp [decimal, induction]

theorem length_isoDate (begun : 0 ≤ date.year) (ended : date.year ≤ 9999) :
    (isoDate date).length = 10 := by
  simp [isoDate, isoYear, begun, ended]

theorem head?_isoDate (outside : ¬(0 ≤ date.year ∧ date.year ≤ 9999)) :
    (isoDate date).head? = some 0x2b ∨ (isoDate date).head? = some 0x2d := by
  unfold isoDate isoYear
  rw [if_neg outside]
  split
  · exact .inl rfl
  · exact .inr rfl

/-- The number that digits stand for. -/
def numeral (digits : JsString) : Nat :=
  digits.foldl (fun value digit => value * 10 + (digit.toNat - 0x30)) 0

theorem numeral_decimal (small : value < 10 ^ width) :
    numeral (decimal width value) = value := by
  induction width generalizing value with
  | zero =>
      have none : value = 0 := by
        simpa using small
      subst none
      rfl
  | succ width induction =>
      have quotient : value / 10 < 10 ^ width := by
        rw [Nat.pow_succ] at small
        omega
      have last : (UInt16.ofNat (0x30 + value % 10)).toNat - 0x30 =
          value % 10 := by
        rw [UInt16.toNat_ofNat']
        omega
      have first := induction quotient
      unfold numeral at first ⊢
      rw [decimal, List.foldl_append, first, List.foldl_cons, List.foldl_nil,
        last]
      omega

end Texts

end Calendar

open Calendar JsString

/-- `Date.parse` reads the beginning of every date of the years 0 to 9999, and
whatever it reads is a time value; `toISOString` writes the date and the time of
day of a time value.  Nothing is said of the texts of other dates, which may be
refused or read as a later date. -/
structure DateBuiltins.Standard (dates : DateBuiltins) : Prop where
  parse_date : ∀ date : Calendar.Date, date.Exists → 0 ≤ date.year →
    date.year ≤ 9999 →
    dates.parse (isoDate date ++ ofString "T00:00:00.000Z") =
      some (makeDay date * millisecondsPerDay)
  parse_timeValue : ∀ text time, dates.parse text = some time →
    -8640000000000000 ≤ time ∧ time ≤ 8640000000000000
  toISOString_eq : ∀ time, -8640000000000000 ≤ time →
    time ≤ 8640000000000000 →
    dates.toISOString time =
      isoDate (dateFromDay (time / millisecondsPerDay)) ++
        isoTime (time % millisecondsPerDay).toNat

namespace Calendar

/-- The date at the beginning of a text of digits. -/
def readDate (text : JsString) : Date :=
  { year := numeral (text.take 4)
    month := numeral ((text.drop 5).take 2)
    day := numeral ((text.drop 8).take 2) }

/-- Date functions that refuse the texts of all other dates. -/
def strictDates : DateBuiltins :=
  { parse := fun text =>
      if (readDate text).Exists ∧ (readDate text).year ≤ 9999 ∧
          text = isoDate (readDate text) ++ ofString "T00:00:00.000Z" then
        some (makeDay (readDate text) * millisecondsPerDay)
      else
        none
    toISOString := fun time =>
      isoDate (dateFromDay (time / millisecondsPerDay)) ++
        isoTime (time % millisecondsPerDay).toNat }

private theorem readDate_isoDate {date : Date} (present : date.Exists)
    (begun : 0 ≤ date.year) (ended : date.year ≤ 9999) (rest : JsString) :
    readDate (isoDate date ++ rest) = date := by
  obtain ⟨_, last, _, ends⟩ := present
  have short := daysInMonth_le (isLeapYear date.year) date.month
  have year := @numeral_decimal 4 date.year.toNat (by omega)
  have month := @numeral_decimal 2 date.month (by omega)
  have day := @numeral_decimal 2 date.day (by omega)
  have written : isoDate date ++ rest = decimal 4 date.year.toNat ++
      (0x2d :: (decimal 2 date.month ++
        0x2d :: (decimal 2 date.day ++ rest))) := by
    simp [isoDate, isoYear, begun, ended]
  have beyond : ∀ width value count, width ≤ count →
      (decimal width value).drop count = [] :=
    fun width value count enough => List.drop_eq_nil_of_le (by simpa)
  have years : Int.ofNat date.year.toNat = date.year :=
    Int.toNat_of_nonneg begun
  have parts : readDate (isoDate date ++ rest) =
      { year := Int.ofNat date.year.toNat
        month := date.month
        day := date.day } := by
    unfold readDate
    rw [written]
    simp [List.drop_append, year, month, day,
      beyond 4 date.year.toNat 5 (by decide),
      beyond 4 date.year.toNat 8 (by decide),
      beyond 2 date.month 3 (by decide)]
  rw [parts, years]

theorem strictDates_standard : strictDates.Standard where
  parse_date := by
    intro date present begun ended
    have read := readDate_isoDate present begun ended
      (ofString "T00:00:00.000Z")
    simp only [strictDates]
    rw [read, if_pos ⟨present, ended, rfl⟩]
  parse_timeValue := by
    intro text time read
    simp only [strictDates] at read
    split at read
    · rename_i accepted
      cases read
      obtain ⟨present, ended, _⟩ := accepted
      obtain ⟨begins, ends⟩ := makeDay_within present
      have first : 0 ≤ (readDate text).year := Int.natCast_nonneg _
      unfold dayFromYear at begins ends
      unfold millisecondsPerDay
      omega
    · cases read
  toISOString_eq := fun _ _ _ => rfl

end Calendar

end EcmaScript
