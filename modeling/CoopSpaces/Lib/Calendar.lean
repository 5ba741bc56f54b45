import Mathlib.Tactic.IntervalCases

namespace Calendar

/-! The proleptic Gregorian calendar. Days are counted from the first of January 1970, and months
from January of the year nought: the month `m` is the month `m % 12` of the year `m / 12`. -/

def leapDays (year : Int) : Int := if year % 4 = 0 ∧ (year % 100 ≠ 0 ∨ year % 400 = 0) then 1 else 0

def monthLength (m : Int) : Int :=
  match (m % 12).toNat with
  | 1 => 28 + leapDays (m / 12)
  | 3 => 30
  | 5 => 30
  | 8 => 30
  | 10 => 30
  | _ => 31

def yearStart (year : Int) : Int := 365 * (year - 1) + (year - 1) / 4 - (year - 1) / 100 + (year - 1) / 400 - 719162

/-- The days of a year before its month. -/
def daysBefore (leap : Int) : Nat → Int
  | 0 => 0
  | 1 => 31
  | 2 => 59 + leap
  | 3 => 90 + leap
  | 4 => 120 + leap
  | 5 => 151 + leap
  | 6 => 181 + leap
  | 7 => 212 + leap
  | 8 => 243 + leap
  | 9 => 273 + leap
  | 10 => 304 + leap
  | _ => 334 + leap

/-- The first day of a month. -/
def monthStart (m : Int) : Int := yearStart (m / 12) + daysBefore (leapDays (m / 12)) (m % 12).toNat

theorem leapDays_bounds (year : Int) : 0 ≤ leapDays year ∧ leapDays year ≤ 1 := by
  unfold leapDays
  split <;> simp

theorem monthLength_bounds (m : Int) : 28 ≤ monthLength m ∧ monthLength m ≤ 31 := by
  have leap := leapDays_bounds (m / 12)
  unfold monthLength
  split <;> omega

theorem yearStart_succ (year : Int) : yearStart (year + 1) = yearStart year + 365 + leapDays year := by
  simp only [yearStart, leapDays]
  split <;> omega

theorem monthStart_succ (m : Int) : monthStart (m + 1) = monthStart m + monthLength m := by
  by_cases december : m % 12 = 11
  · have year : (m + 1) / 12 = m / 12 + 1 := by omega
    have january : (m + 1) % 12 = 0 := by omega
    simp only [monthStart, monthLength, year, january, december, yearStart_succ, daysBefore, Int.toNat_zero,
      show (11 : Int).toNat = 11 from rfl]
    omega
  · have year : (m + 1) / 12 = m / 12 := by omega
    obtain ⟨k, month, before⟩ : ∃ k : Nat, m % 12 = k ∧ k < 11 := ⟨(m % 12).toNat, by omega, by omega⟩
    have next : (m + 1) % 12 = (k + 1 : Nat) := by omega
    simp only [monthStart, monthLength, year, month, next, Int.toNat_natCast]
    interval_cases k <;> simp only [daysBefore] <;> omega

theorem monthStart_year (year : Int) : monthStart (12 * year) = yearStart year := by
  have january : 12 * year / 12 = year ∧ 12 * year % 12 = 0 := by omega
  simp only [monthStart, january, Int.toNat_zero, daysBefore, Int.add_zero]

theorem monthLength_december {m : Int} (december : m % 12 = 11) : monthLength m = 31 := by
  simp only [monthLength, december, show (11 : Int).toNat = 11 from rfl]

theorem monthStart_lt_iff {m n : Int} : monthStart m < monthStart n ↔ m < n := by
  have later : StrictMono monthStart := by
    refine strictMono_int_of_lt_succ fun m => ?_
    have length := (monthLength_bounds m).1
    rw [monthStart_succ]
    omega
  exact later.lt_iff_lt

theorem monthStart_le_iff {m n : Int} : monthStart m ≤ monthStart n ↔ m ≤ n := by
  rw [← Int.not_lt, ← Int.not_lt, monthStart_lt_iff]

/-- Months are nearly all of one length: 400 years have 146097 days. -/
theorem monthStart_nearly (m : Int) :
    146097 * m - 36000 ≤ 4800 * (monthStart m + 719528) ∧ 4800 * (monthStart m + 719528) ≤ 146097 * m + 36000 := by
  have leap := leapDays_bounds (m / 12)
  obtain ⟨k, month, before⟩ : ∃ k : Nat, m % 12 = k ∧ k < 12 := ⟨(m % 12).toNat, by omega, by omega⟩
  simp only [monthStart, yearStart, month, Int.toNat_natCast]
  generalize leapDays (m / 12) = leap at *
  interval_cases k <;> simp only [daysBefore] <;> omega

/-- The month a day falls in. -/
@[irreducible] def monthOf (day : Int) : Int :=
  let guess := 4800 * (day + 719528) / 146097
  if day < monthStart guess then guess - 1 else if day < monthStart (guess + 1) then guess else guess + 1

theorem monthOf_spec (day : Int) : monthStart (monthOf day) ≤ day ∧ day < monthStart (monthOf day + 1) := by
  unfold monthOf
  simp only
  generalize guessed : 4800 * (day + 719528) / 146097 = guess
  have before := (monthStart_nearly (guess - 1)).2
  have after := (monthStart_nearly (guess + 2)).1
  split
  · rw [Int.sub_add_cancel]
    omega
  · split
    · omega
    · rw [show guess + 1 + 1 = guess + 2 by omega]
      omega

theorem monthOf_eq {m day : Int} (start : monthStart m ≤ day) (inside : day < monthStart (m + 1)) :
    monthOf day = m := by
  obtain ⟨start', inside'⟩ := monthOf_spec day
  have below := monthStart_lt_iff.mp (Int.lt_of_le_of_lt start inside')
  have above := monthStart_lt_iff.mp (Int.lt_of_le_of_lt start' inside)
  omega

/-- The day of its month, the first being nought. -/
def dayOfMonth (day : Int) : Int := day - monthStart (monthOf day)

theorem dayOfMonth_bounds (day : Int) : 0 ≤ dayOfMonth day ∧ dayOfMonth day < monthLength (monthOf day) := by
  have spec := monthOf_spec day
  rw [monthStart_succ] at spec
  unfold dayOfMonth
  omega

theorem monthOf_monthStart_add {m d : Int} (least : 0 ≤ d) (most : d < monthLength m) :
    monthOf (monthStart m + d) = m ∧ dayOfMonth (monthStart m + d) = d := by
  have month : monthOf (monthStart m + d) = m := by
    refine monthOf_eq (by omega) ?_
    rw [monthStart_succ]
    omega
  refine ⟨month, ?_⟩
  unfold dayOfMonth
  rw [month]
  omega

/-- Some months on, at the same day of the month, or the last where the month is too short. -/
def addMonths (months day : Int) : Int :=
  let m := monthOf day + months
  monthStart m + min (dayOfMonth day) (monthLength m - 1)

/-- Some months on, at the same day of the month, or the first of the month after it. -/
def anniversary (months day : Int) : Int :=
  let m := monthOf day + months
  if dayOfMonth day < monthLength m then monthStart m + dayOfMonth day else monthStart (m + 1)

theorem addMonths_of_fits {months day : Int} (fits : dayOfMonth day < monthLength (monthOf day + months)) :
    addMonths months day = anniversary months day ∧ dayOfMonth (addMonths months day) = dayOfMonth day := by
  have least := (dayOfMonth_bounds day).1
  have clamped : addMonths months day = monthStart (monthOf day + months) + dayOfMonth day := by
    simp only [addMonths]
    omega
  rw [clamped]
  exact ⟨by simp [anniversary, fits], (monthOf_monthStart_add least fits).2⟩

theorem addMonths_of_short {months day : Int} (short : monthLength (monthOf day + months) ≤ dayOfMonth day) :
    addMonths months day + 1 = anniversary months day ∧ dayOfMonth (addMonths months day) ≠ dayOfMonth day := by
  have length := (monthLength_bounds (monthOf day + months)).1
  have clamped : addMonths months day = monthStart (monthOf day + months) +
      (monthLength (monthOf day + months) - 1) := by
    simp only [addMonths]
    omega
  rw [clamped]
  constructor
  · simp only [anniversary, if_neg (Int.not_lt.mpr short), monthStart_succ]
    omega
  · rw [(monthOf_monthStart_add (by omega) (by omega)).2]
    omega

/-- An anniversary is never sooner than four weeks on. -/
theorem anniversary_later {months : Int} (forward : 0 < months) (day : Int) : day + 28 ≤ anniversary months day := by
  have inside := (monthOf_spec day).2
  have length := (monthLength_bounds (monthOf day)).1
  have length' := (monthLength_bounds (monthOf day + 1)).1
  have next := monthStart_succ (monthOf day)
  have second := monthStart_succ (monthOf day + 1)
  have there : monthStart (monthOf day + 1) ≤ monthStart (monthOf day + months) :=
    monthStart_le_iff.mpr (by omega)
  have after : monthStart (monthOf day + 1 + 1) ≤ monthStart (monthOf day + months + 1) :=
    monthStart_le_iff.mpr (by omega)
  simp only [anniversary]
  split
  · unfold dayOfMonth
    omega
  · omega

/-- It falls on the day the month has, and where there is none on the first of the month after. -/
theorem anniversary_spec (months day : Int) :
    monthOf (anniversary months day) = monthOf day + months ∧ dayOfMonth (anniversary months day) = dayOfMonth day ∨
      monthLength (monthOf day + months) ≤ dayOfMonth day ∧
        monthOf (anniversary months day) = monthOf day + months + 1 ∧ dayOfMonth (anniversary months day) = 0 := by
  by_cases fits : dayOfMonth day < monthLength (monthOf day + months)
  · left
    simp only [anniversary, if_pos fits]
    exact monthOf_monthStart_add (dayOfMonth_bounds day).1 fits
  · right
    have length := (monthLength_bounds (monthOf day + months + 1)).1
    obtain ⟨month, first⟩ := monthOf_monthStart_add (m := monthOf day + months + 1) (Int.le_refl 0) (by omega)
    simp only [anniversary, if_neg fits]
    rw [Int.add_zero] at month first
    exact ⟨by omega, month, first⟩

end Calendar
