import Mathlib.Data.Nat.Find
import Mathlib.Order.Monotone.Basic
import Mathlib.Tactic.IntervalCases

/-!
# Civil time

Dates of the Gregorian calendar and times of the day in UTC, from the seconds since 1970. A date is
read off a day number with tables of where the years and the months start: the year is the last
that starts no later than the day, and the month the last of its year. The order of the seconds is
the order of the years, months, days, hours, minutes and seconds.

Fields are written with a fixed number of digits, so that texts have the order of the times.

## Main definitions

* `CivilTime.ofSeconds` — the date and the time of the day
* `padded` — a number with leading zeros

## Main results

* `CivilTime.fields_lt` — later seconds have later fields
* `padded_append_lt` — the first number that differs decides how two texts compare
-/

namespace RtCore.Foundation

/-! ### Places in a table -/

/-- The last of the places up to `bound` that starts no later than `n`. -/
def lastStart (start : ℕ → ℕ) (bound n : ℕ) : ℕ := Nat.findGreatest (fun i => start i ≤ n) bound

section LastStart

variable {start : ℕ → ℕ} {bound bound' n n' : ℕ}

theorem lastStart_le (start : ℕ → ℕ) (bound n : ℕ) : lastStart start bound n ≤ bound :=
  Nat.findGreatest_le _

theorem start_lastStart_le (first : start 0 ≤ n) : start (lastStart start bound n) ≤ n :=
  Nat.findGreatest_spec (P := fun i => start i ≤ n) (Nat.zero_le _) first

/-- The place behind starts later, as the place behind the last one does. -/
theorem lt_start_lastStart_succ (end_ : n < start (bound + 1)) :
    n < start (lastStart start bound n + 1) := by
  rcases Nat.lt_or_eq_of_le (lastStart_le start bound n) with inside | last
  · exact Nat.lt_of_not_le (Nat.findGreatest_is_greatest (P := fun i => start i ≤ n)
      (Nat.lt_succ_self _) inside)
  · rw [last]
    exact end_

/-- A later number is in a later place, or farther from the start of the same one. -/
theorem lastStart_lt (first : start 0 ≤ n) (bounds : bound ≤ bound') (later : n < n') :
    lastStart start bound n < lastStart start bound' n' ∨
      lastStart start bound n = lastStart start bound' n' ∧
        n - start (lastStart start bound n) < n' - start (lastStart start bound' n') := by
  have places : lastStart start bound n ≤ lastStart start bound' n' :=
    Nat.findGreatest_mono (fun i (isStart : start i ≤ n) => isStart.trans later.le) bounds
  rcases Nat.lt_or_eq_of_le places with before | same
  · exact .inl before
  · refine .inr ⟨same, ?_⟩
    rw [← same]
    have begun : start (lastStart start bound n) ≤ n := start_lastStart_le first
    omega

end LastStart

/-! ### The calendar -/

/-- The days from the first day of the year 1 to the first day of the year `y + 1`. -/
def daysBefore (y : ℕ) : ℕ := 365 * y + y / 4 - y / 100 + y / 400

/-- Whether the year has 366 days. -/
def isLeapYear (year : ℕ) : Bool := (year % 4 = 0 && year % 100 ≠ 0) || year % 400 = 0

/-- The days of the year before a month; months are numbered from 0. -/
def daysBeforeMonth (isLeap : Bool) (month : ℕ) : ℕ :=
  let days := [0, 31, 59, 90, 120, 151, 181, 212, 243, 273, 304, 334].getD month 365
  if isLeap && 1 < month then days + 1 else days

/-- The days from the first day of the year 1 to the first day of 1970. -/
def epochDay : ℕ := 719162

/-- A date and a time of the day. -/
structure CivilTime where
  year : ℕ
  month : ℕ
  day : ℕ
  hour : ℕ
  minute : ℕ
  second : ℕ
  deriving DecidableEq, Repr

namespace CivilTime

/-- The time that is `seconds` after the first day of the year 1 begins. -/
def ofYearOne (seconds : ℕ) : CivilTime :=
  let day := seconds / 86400
  let y := lastStart daysBefore (day / 365) day
  let dayOfYear := day - daysBefore y
  let month := lastStart (daysBeforeMonth (isLeapYear (y + 1))) 11 dayOfYear
  { year := y + 1
    month := month + 1
    day := dayOfYear - daysBeforeMonth (isLeapYear (y + 1)) month + 1
    hour := seconds % 86400 / 3600
    minute := seconds % 3600 / 60
    second := seconds % 60 }

/-- The time that is `seconds` after 1970 begins, from the year 1 on. -/
def ofSeconds (seconds : ℤ) : CivilTime := ofYearOne (seconds + epochDay * 86400).toNat

/-- The fields, the largest units first. -/
def fields (time : CivilTime) : List ℕ :=
  [time.year, time.month, time.day, time.hour, time.minute, time.second]

example : ofSeconds 1709210096 = ⟨2024, 2, 29, 12, 34, 56⟩ := by decide +kernel

theorem daysBeforeMonth_zero (isLeap : Bool) : daysBeforeMonth isLeap 0 = 0 := by
  cases isLeap <;> rfl

/-- Dates are in the order of the day numbers. -/
private theorem date_lt {day day' : ℕ} (later : day < day') :
    let y := lastStart daysBefore (day / 365) day
    let y' := lastStart daysBefore (day' / 365) day'
    let m := lastStart (daysBeforeMonth (isLeapYear (y + 1))) 11 (day - daysBefore y)
    let m' := lastStart (daysBeforeMonth (isLeapYear (y' + 1))) 11 (day' - daysBefore y')
    y < y' ∨ y = y' ∧ (m < m' ∨ m = m' ∧
      day - daysBefore y - daysBeforeMonth (isLeapYear (y + 1)) m <
        day' - daysBefore y' - daysBeforeMonth (isLeapYear (y' + 1)) m') := by
  intro y y' m m'
  have years : y < y' ∨ y = y' ∧ day - daysBefore y < day' - daysBefore y' :=
    lastStart_lt (Nat.zero_le _) (Nat.div_le_div_right later.le) later
  rcases years with before | ⟨same, dayLater⟩
  · exact .inl before
  refine .inr ⟨same, ?_⟩
  unfold m m'
  rw [← same] at dayLater ⊢
  exact lastStart_lt (by rw [daysBeforeMonth_zero]; exact Nat.zero_le _) le_rfl dayLater

/-- Later times have later fields. -/
theorem fields_ofYearOne_lt {seconds seconds' : ℕ} (later : seconds < seconds') :
    (ofYearOne seconds).fields < (ofYearOne seconds').fields := by
  have clock : seconds / 86400 < seconds' / 86400 ∨ seconds / 86400 = seconds' / 86400 ∧
      (seconds % 86400 / 3600 < seconds' % 86400 / 3600 ∨
        seconds % 86400 / 3600 = seconds' % 86400 / 3600 ∧
          (seconds % 3600 / 60 < seconds' % 3600 / 60 ∨
            seconds % 3600 / 60 = seconds' % 3600 / 60 ∧ seconds % 60 < seconds' % 60)) := by
    omega
  simp only [fields, List.cons_lt_cons_iff, List.not_lt_nil, and_false, or_false]
  rcases clock with dayLater | ⟨sameDay, timeLater⟩
  · have date := date_lt dayLater
    simp only [ofYearOne] at date ⊢
    rcases date with year | ⟨sameYear, month | ⟨sameMonth, day⟩⟩
    · exact .inl (Nat.succ_lt_succ year)
    · exact .inr ⟨congrArg Nat.succ sameYear, .inl (Nat.succ_lt_succ month)⟩
    · exact .inr ⟨congrArg Nat.succ sameYear, .inr ⟨congrArg Nat.succ sameMonth,
        .inl (Nat.succ_lt_succ day)⟩⟩
  · simp only [ofYearOne, sameDay]
    exact .inr ⟨trivial, .inr ⟨trivial, .inr ⟨trivial, timeLater⟩⟩⟩

theorem fields_lt {seconds seconds' : ℤ} (since : -(epochDay * 86400) ≤ seconds)
    (later : seconds < seconds') : (ofSeconds seconds).fields < (ofSeconds seconds').fields := by
  apply fields_ofYearOne_lt
  omega

/-- A day lies in its year. -/
private theorem dayOfYear_lt (day : ℕ) :
    let y := lastStart daysBefore (day / 365) day
    day - daysBefore y < 365 + if isLeapYear (y + 1) then 1 else 0 := by
  intro y
  have begun : daysBefore y ≤ day := start_lastStart_le (Nat.zero_le _)
  have next : day < daysBefore (y + 1) := by
    apply lt_start_lastStart_succ
    unfold daysBefore
    omega
  have leap : isLeapYear (y + 1) = true ↔
      ((y + 1) % 4 = 0 ∧ (y + 1) % 100 ≠ 0) ∨ (y + 1) % 400 = 0 := by
    simp [isLeapYear]
  split_ifs with isLeap
  · unfold daysBefore at *
    omega
  · rw [leap] at isLeap
    unfold daysBefore at *
    omega

/-- The fields are those of a date and of a time of the day. -/
theorem fields_bounds (seconds : ℕ) :
    let time := ofYearOne seconds
    time.month ≤ 12 ∧ time.day ≤ 31 ∧ time.hour < 24 ∧ time.minute < 60 ∧ time.second < 60 := by
  intro time
  let day := seconds / 86400
  let y := lastStart daysBefore (day / 365) day
  let dayOfYear := day - daysBefore y
  let month := lastStart (daysBeforeMonth (isLeapYear (y + 1))) 11 dayOfYear
  have inYear : dayOfYear < 365 + if isLeapYear (y + 1) then 1 else 0 := dayOfYear_lt day
  have months : month ≤ 11 := lastStart_le _ _ _
  have begun : daysBeforeMonth (isLeapYear (y + 1)) month ≤ dayOfYear :=
    start_lastStart_le (by rw [daysBeforeMonth_zero]; exact Nat.zero_le _)
  have next : dayOfYear < daysBeforeMonth (isLeapYear (y + 1)) (month + 1) := by
    apply lt_start_lastStart_succ
    revert inYear
    cases isLeapYear (y + 1) <;> exact id
  -- No month is longer than 31 days, in leap years as in others.
  have length : daysBeforeMonth (isLeapYear (y + 1)) (month + 1) ≤
      daysBeforeMonth (isLeapYear (y + 1)) month + 31 := by
    clear_value month
    cases isLeapYear (y + 1) <;> interval_cases month <;> decide
  refine ⟨Nat.succ_le_succ months, ?_, ?_, ?_, ?_⟩
  · change dayOfYear - daysBeforeMonth (isLeapYear (y + 1)) month + 1 ≤ 31
    omega
  · change seconds % 86400 / 3600 < 24
    omega
  · change seconds % 3600 / 60 < 60
    omega
  · change seconds % 60 < 60
    omega

end CivilTime

/-! ### Texts of numbers -/

/-- A number with leading zeros up to a width. -/
def padded (width number : ℕ) : List Char :=
  List.replicate (width - (Nat.toDigits 10 number).length) '0' ++ Nat.toDigits 10 number

/-- The last digit of a number that fits into a width stands behind the others. -/
theorem padded_succ {width number : ℕ} (positive : 0 < width) :
    padded (width + 1) number = padded width (number / 10) ++ [Nat.digitChar (number % 10)] := by
  unfold padded
  by_cases oneDigit : number < 10
  · rw [Nat.toDigits_of_lt_base oneDigit, Nat.div_eq_of_lt oneDigit, Nat.mod_eq_of_lt oneDigit,
      Nat.toDigits_zero, List.length_singleton, List.length_singleton, Nat.add_sub_cancel,
      ← List.replicate_succ', Nat.sub_add_cancel positive]
  · rw [Nat.toDigits_of_base_le (by decide) (Nat.le_of_not_lt oneDigit), List.length_append,
      List.length_singleton, Nat.add_sub_add_right, List.append_assoc]

theorem length_padded {width number : ℕ} (positive : 0 < width) (fits : number < 10 ^ width) :
    (padded width number).length = width := by
  have digits : (Nat.toDigits 10 number).length ≤ width :=
    (Nat.length_toDigits_le_iff (by decide) positive).mpr fits
  rw [padded, List.length_append, List.length_replicate, Nat.sub_add_cancel digits]

/-- Texts of one length decide how longer ones compare. -/
theorem append_lt_append {α : Type*} [LT α] {a b : List α} (same : a.length = b.length)
    (less : a < b) (rest rest' : List α) : a ++ rest < b ++ rest' := by
  induction a generalizing b with
  | nil =>
    rw [List.length_eq_zero_iff.mp same.symm] at less
    exact absurd less (List.not_lt_nil _)
  | cons x a ih =>
    cases b with
    | nil => cases same
    | cons y b =>
      rw [List.cons_append, List.cons_append, List.cons_lt_cons_iff]
      rcases List.cons_lt_cons_iff.mp less with first | ⟨equal, others⟩
      · exact .inl first
      · exact .inr ⟨equal, ih (Nat.succ_inj.mp same) others⟩

/-- A common beginning does not decide. -/
theorem append_left_lt {α : Type*} [LT α] (first : List α) {a b : List α} (less : a < b) :
    first ++ a < first ++ b := by
  induction first with
  | nil => exact less
  | cons x first ih => exact List.cons_lt_cons_iff.mpr (.inr ⟨rfl, ih⟩)

/-- Numbers that are written with as many digits compare as their texts do. -/
theorem padded_lt {width number number' : ℕ} (positive : 0 < width) (fits : number' < 10 ^ width)
    (less : number < number') : padded width number < padded width number' := by
  induction width, positive using Nat.le_induction generalizing number number' with
  | base =>
    have digits {n : ℕ} (small : n < 10) : padded 1 n = [Nat.digitChar n] := by
      rw [padded, Nat.toDigits_of_lt_base small]
      rfl
    rw [digits (by omega), digits (by omega), List.cons_lt_cons_iff]
    have small : number' < 10 := by omega
    interval_cases number' <;> interval_cases number <;> decide
  | succ width positive ih =>
    rw [padded_succ positive, padded_succ positive]
    rcases Nat.lt_or_eq_of_le (Nat.div_le_div_right (c := 10) less.le) with before | same
    · have upper : number' / 10 < 10 ^ width := by
        rw [Nat.pow_succ] at fits
        omega
      refine append_lt_append ?_ (ih upper before) _ _
      rw [length_padded positive upper, length_padded positive (before.trans upper)]
    · rw [same]
      apply append_left_lt
      have small : number' % 10 < 10 := Nat.mod_lt _ (by decide)
      have last : number % 10 < number' % 10 := by omega
      generalize number' % 10 = digit' at *
      generalize number % 10 = digit at *
      interval_cases digit' <;> interval_cases digit <;> decide

/-- The first field in which they differ decides how two texts compare. -/
theorem padded_append_lt {width number number' : ℕ} {rest rest' : List Char}
    (positive : 0 < width) (fits : number' < 10 ^ width)
    (less : number < number' ∨ number = number' ∧ rest < rest') :
    padded width number ++ rest < padded width number' ++ rest' := by
  rcases less with first | ⟨rfl, others⟩
  · refine append_lt_append ?_ (padded_lt positive fits first) _ _
    rw [length_padded positive fits, length_padded positive (first.trans fits)]
  · exact append_left_lt _ others

end RtCore.Foundation
