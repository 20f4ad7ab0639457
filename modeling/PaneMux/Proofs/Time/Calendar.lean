import Mathlib.Order.Monotone.Basic
import Mathlib.Tactic.IntervalCases
import PaneMux.Time.Calendar

/-!
# Days and dates

The running count of days and the calendar say the same thing: the date of a day exists, and counting
its days gives the day back, in any year before or after the epoch.

The difficulty is the year. The calendar finds it by one division, after taking the leap days out of
the day by three others; that this hits the year and not its neighbour is checked at the first and
the last day of each of the four hundred years of an era, and holds in between because the quotient
rises with the day.

## Architecture

- **§1** years of an era: where they start (`yearStart`), and that the division finds them
- **§2** the date of a day of a year (`ofParts`), its count of days and that it exists
- **§3** the two directions of the calendar, together
-/

namespace PaneMux.Time.Date

/-! ## §1 Years of an era -/

/-- The days of an era before its year `y`. -/
def yearStart (y : Nat) : Nat := 365 * y + y / 4 - y / 100 + y / 400

/-- A day of an era with the leap days before it taken out. -/
def rank (n : Nat) : Nat := n - n / 1460 + n / 36524 - n / 146096

theorem rank_mono : Monotone rank := by
  refine monotone_nat_of_le_succ fun n => ?_
  unfold rank
  omega

private theorem rank_ends :
    ∀ y < 400, y ≤ rank (yearStart y) / 365 ∧ rank (yearStart (y + 1) - 1) / 365 ≤ y := by
  decide +kernel

/-- **The division finds the year.** -/
theorem rank_div {n y : Nat} (hy : y < 400) (hfirst : yearStart y ≤ n)
    (hlast : n < yearStart (y + 1)) : rank n / 365 = y := by
  obtain ⟨hlow, hhigh⟩ := rank_ends y hy
  have hge : rank (yearStart y) ≤ rank n := rank_mono hfirst
  have hle : rank n ≤ rank (yearStart (y + 1) - 1) := rank_mono (by omega)
  omega

/-- Every day lies in a year. -/
theorem exists_year {n k : Nat} (h : n < yearStart k) :
    ∃ y < k, yearStart y ≤ n ∧ n < yearStart (y + 1) := by
  induction k with
  | zero => simp [yearStart] at h
  | succ k ih =>
    by_cases hbefore : n < yearStart k
    · obtain ⟨y, hy, hyear⟩ := ih hbefore
      exact ⟨y, by omega, hyear⟩
    · exact ⟨k, by omega, by omega, h⟩

/-- A year has 365 days, and one more when the calendar year it ends in is a leap year. -/
theorem yearStart_succ {y : Nat} (hy : y < 400) :
    yearStart (y + 1) ≤ yearStart y + 365 + (if isLeapYear (y + 1) then 1 else 0) := by
  unfold yearStart isLeapYear
  simp only [Bool.and_eq_true, Bool.or_eq_true, decide_eq_true_eq]
  split <;> omega

/-! ## §2 Days of a year -/

/-- The date of day `n` of year `y` of an era, both counted from March. -/
def ofParts (era : Int) (y n : Nat) : Date :=
  let m := (5 * n + 2) / 153
  let month := if m < 10 then m + 3 else m - 9
  { year := y + era * 400 + (if month ≤ 2 then 1 else 0), month, day := n - (153 * m + 2) / 5 + 1 }

variable {days era : Int} {y n : Nat}

theorem day_le (hy : y < 400) (hn : yearStart y + n < yearStart (y + 1)) : n ≤ 365 := by
  have hlength := yearStart_succ hy
  split at hlength <;> omega

theorem ofDays_eq_ofParts (hy : y < 400) (hn : yearStart y + n < yearStart (y + 1))
    (h : days + epochOffset = era * 146097 + (yearStart y + n : Nat)) :
    ofDays days = ofParts era y n := by
  have hend : yearStart (y + 1) ≤ 146097 := by unfold yearStart; omega
  have hera : (days + epochOffset) / 146097 = era := by omega
  have hday : (days + epochOffset) % 146097 = (yearStart y + n : Nat) := by omega
  have hyear : (((yearStart y + n : Nat) : Int) - (yearStart y + n : Nat) / 1460
      + (yearStart y + n : Nat) / 36524 - (yearStart y + n : Nat) / 146096) / 365 = y := by
    have hrank := rank_div hy (by omega) hn
    unfold rank at hrank
    omega
  have hstart : 365 * (y : Int) + y / 4 - y / 100 = yearStart y := by unfold yearStart; omega
  have hrest : ((yearStart y + n : Nat) : Int) - yearStart y = n := by omega
  have hmonth : (5 * (n : Int) + 2) / 153 = ((5 * n + 2) / 153 : Nat) := by omega
  have hle := day_le hy hn
  unfold ofDays ofParts
  simp only [hera, hday, hyear, hstart, hrest, hmonth]
  generalize hm : (5 * n + 2) / 153 = m
  congr 1
  case e_year => split <;> split <;> split <;> omega
  case e_month => split <;> split <;> omega
  case e_day => omega

theorem toDays_ofParts (hy : y < 400) (hn : n ≤ 365) :
    (ofParts era y n).toDays = era * 146097 + (yearStart y + n : Nat) - epochOffset := by
  have hstart : (yearStart y : Int) = y * 365 + y / 4 - y / 100 := by unfold yearStart; omega
  unfold toDays ofParts
  simp only []
  generalize hm : (5 * n + 2) / 153 = m
  -- January and February belong to the calendar year after the one counted from March
  by_cases hlate : m < 10
  · simp only [hlate, if_true, show ¬ m + 3 ≤ 2 by omega, if_false]
    omega
  · simp only [hlate, if_false, show m - 9 ≤ 2 by omega, if_true]
    omega

theorem isLeapYear_add_era (year : Int) : isLeapYear (year + era * 400) = isLeapYear year := by
  have hfour : (year + era * 400) % 4 = year % 4 := by omega
  have hhundred : (year + era * 400) % 100 = year % 100 := by omega
  have hall : (year + era * 400) % 400 = year % 400 := by omega
  rw [isLeapYear, isLeapYear, hfour, hhundred, hall]

theorem isValid_ofParts (hy : y < 400) (hn : yearStart y + n < yearStart (y + 1)) :
    (ofParts era y n).IsValid := by
  have hlength := yearStart_succ hy
  have hle := day_le hy hn
  unfold IsValid ofParts daysInMonth
  simp only []
  generalize hm : (5 * n + 2) / 153 = m
  have hbound : m ≤ 11 := by omega
  by_cases hfebruary : m = 11
  · -- the last month has what the eleven before it leave of the year
    subst hfebruary
    have hleap : isLeapYear ((y : Int) + era * 400 + 1) = isLeapYear (y + 1) := by
      rw [add_right_comm, isLeapYear_add_era]
    simp only [show ¬ 11 < 10 by omega, if_false, show 11 - 9 = 2 by omega, le_refl, if_true, hleap]
    split at hlength
    case isTrue h => rw [if_pos h]; omega
    case isFalse h => rw [if_neg h]; omega
  · interval_cases m <;> simp <;> omega

/-! ## §3 Both directions -/

/-- Every day is a day of a year of an era. -/
theorem exists_parts (days : Int) :
    ∃ (era : Int) (y n : Nat), y < 400 ∧ yearStart y + n < yearStart (y + 1) ∧
      days + epochOffset = era * 146097 + (yearStart y + n : Nat) := by
  have hinside : ((days + epochOffset) % 146097).toNat < yearStart 400 := by
    rw [show yearStart 400 = 146097 by rfl]
    omega
  obtain ⟨y, hy, hfirst, hlast⟩ := exists_year hinside
  refine ⟨(days + epochOffset) / 146097, y,
    ((days + epochOffset) % 146097).toNat - yearStart y, hy, by omega, by omega⟩

/-- **The date of a day has that day's count.** -/
@[simp]
theorem toDays_ofDays (days : Int) : (ofDays days).toDays = days := by
  obtain ⟨era, y, n, hy, hn, h⟩ := exists_parts days
  rw [ofDays_eq_ofParts hy hn h, toDays_ofParts hy (day_le hy hn)]
  omega

/-- **The date of a day exists.** -/
theorem isValid_ofDays (days : Int) : (ofDays days).IsValid := by
  obtain ⟨era, y, n, hy, hn, h⟩ := exists_parts days
  rw [ofDays_eq_ofParts hy hn h]
  exact isValid_ofParts hy hn

end PaneMux.Time.Date
