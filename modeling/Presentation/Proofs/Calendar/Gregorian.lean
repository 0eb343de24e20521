import Mathlib.Tactic.IntervalCases
import Presentation.Calendar.Civil

/-!
# The Gregorian calendar

Leap years, the lengths of months and the number of a day are said here without
the cycles by which a date is found. Every day has a date of the calendar, whose
number is the day that it was found for; and of two dates the one that comes
first by year, month and day has the smaller number.
-/

set_option autoImplicit false

namespace Presentation.Calendar

def Leap (year : Int) : Prop := year % 4 = 0 ∧ (year % 100 ≠ 0 ∨ year % 400 = 0)

instance (year : Int) : Decidable (Leap year) := inferInstanceAs (Decidable (_ ∧ _))

def yearLength (year : Int) : Nat := if Leap year then 366 else 365

def monthLength (year : Int) : Nat → Nat
  | 2 => if Leap year then 29 else 28
  | 4 | 6 | 9 | 11 => 30
  | _ => 31

/-- Days from the beginning of year 0 to that of a year, of which every fourth is a leap year, but
of those with a new century only every fourth. -/
def yearStart (year : Int) : Int :=
  365 * year + (year + 3) / 4 - (year + 99) / 100 + (year + 399) / 400

/-- Days of a year before a month. -/
def monthStart (year : Int) (month : Nat) : Nat :=
  ((List.range' 1 (month - 1)).map (monthLength year)).sum

namespace Date

structure Valid (d : Date) : Prop where
  month_pos : 1 ≤ d.month
  month_le : d.month ≤ 12
  day_pos : 1 ≤ d.day
  day_le : d.day ≤ monthLength d.year d.month

/-- Days from 1 January 1970 to a date. -/
def number (d : Date) : Int :=
  yearStart d.year + monthStart d.year d.month + (d.day - 1) - yearStart 1970

end Date

theorem yearStart_succ (year : Int) : yearStart (year + 1) = yearStart year + yearLength year := by
  by_cases h : Leap year
  · rw [yearLength, if_pos h]
    unfold Leap at h
    unfold yearStart
    omega
  · rw [yearLength, if_neg h]
    unfold Leap at h
    unfold yearStart
    omega

theorem monthStart_succ (year : Int) {month : Nat} (h : 1 ≤ month) :
    monthStart year (month + 1) = monthStart year month + monthLength year month := by
  obtain ⟨before, rfl⟩ := Nat.exists_eq_add_of_le' h
  simp [monthStart, List.range'_1_concat, Nat.add_comm 1 before]

/-- A year ends with its twelfth month. -/
theorem monthStart_yearEnd (year : Int) : monthStart year 13 = yearLength year := by
  unfold yearLength
  simp [monthStart, List.range', monthLength]
  split <;> rfl

theorem monthLength_le (year : Int) (month : Nat) : monthLength year month ≤ 31 := by
  unfold monthLength
  split
  · split <;> decide
  all_goals decide

theorem yearStart_shift (year cycles : Int) :
    yearStart (year + 400 * cycles) = yearStart year + 146097 * cycles := by
  unfold yearStart
  omega

theorem leap_shift (year cycles : Int) : Leap (year + 400 * cycles) ↔ Leap year := by
  unfold Leap
  omega

/-- The year after a year of a cycle, by its century, its span of four years and its place there. -/
theorem yearStart_parts {century span year : Nat} (hcentury : century ≤ 3) (hspan : span ≤ 24)
    (hyear : year ≤ 3) : yearStart (100 * century + 4 * span + year + 1) =
      36524 * century + 1461 * span + 365 * year + 366 := by
  have hfour : (100 * century + 4 * span + year + 1 + 3 : Int) / 4 = 25 * century + span + 1 := by
    omega
  have hhundred : (100 * century + 4 * span + year + 1 + 99 : Int) / 100 = century + 1 := by omega
  have hcycle : (100 * century + 4 * span + year + 1 + 399 : Int) / 400 = 1 := by omega
  rw [yearStart, hfour, hhundred, hcycle]
  omega

theorem leap_parts {century span : Nat} (hspan : span ≤ 24) (h : span = 24 → century = 3) :
    Leap (100 * century + 4 * span + (3 : Nat) + 1) := by
  unfold Leap
  omega

/-- The date of a day of a year that begins on 1 March. -/
def dateFromMarch (year : Int) (day : Nat) : Date :=
  ⟨year + (if (monthDay day).1 ≤ 2 then 1 else 0), (monthDay day).1, (monthDay day).2⟩

/-- A day that a year from 1 March has: the last one is there if the next year is a leap year. -/
def Falls (year : Int) (day : Nat) : Prop := day ≤ 364 ∨ day = 365 ∧ Leap (year + 1)

/-- Months from March on, as far as the year goes, begin every 30.6 days. -/
theorem monthStart_fromMarch (year : Int) {m : Nat} (h : m < 10) :
    (monthStart year (m + 3) : Int) = (153 * m + 2) / 5 + yearLength year - 306 := by
  unfold yearLength
  by_cases hleap : Leap year
  · interval_cases m <;> simp [monthStart, List.range', monthLength, hleap]
  · interval_cases m <;> simp [monthStart, List.range', monthLength, hleap]

theorem monthLength_fromMarch (year : Int) {m : Nat} (h : m < 10) :
    monthLength year (m + 3) = (153 * (m + 1) + 2) / 5 - (153 * m + 2) / 5 := by
  interval_cases m <;> rfl

/-- A day from March on is one of the ten months that are left of the year, or of January or
February of the next. -/
theorem dateFromMarch_cases {year : Int} {day : Nat} (h : Falls year day) :
    (∃ m offset, m < 10 ∧ offset < monthLength year (m + 3) ∧ day = (153 * m + 2) / 5 + offset ∧
      dateFromMarch year day = ⟨year, m + 3, offset + 1⟩) ∨
    (∃ offset, offset < monthLength (year + 1) 1 ∧ day = 306 + offset ∧
      dateFromMarch year day = ⟨year + 1, 1, offset + 1⟩) ∨
    ∃ offset, offset < monthLength (year + 1) 2 ∧ day = 337 + offset ∧
      dateFromMarch year day = ⟨year + 1, 2, offset + 1⟩ := by
  have hday : day ≤ 365 := by
    rcases h with h | ⟨h, -⟩ <;> omega
  unfold dateFromMarch monthDay
  generalize hm : (5 * day + 2) / 153 = m
  by_cases hten : m < 10
  · refine Or.inl ⟨m, day - (153 * m + 2) / 5, hten, ?_, by omega, ?_⟩
    · rw [monthLength_fromMarch year hten]
      omega
    · simp [hten]
  · rcases (by omega : m = 10 ∨ m = 11) with rfl | rfl
    · exact Or.inr (Or.inl ⟨day - 306, by simp only [monthLength]; omega, by omega, by simp⟩)
    · refine Or.inr (Or.inr ⟨day - 337, ?_, by omega, by simp⟩)
      rcases h with h | ⟨h, hleap⟩
      · simp only [monthLength]
        split <;> omega
      · rw [monthLength, if_pos hleap]
        omega

theorem dateFromMarch_valid {year : Int} {day : Nat} (h : Falls year day) :
    (dateFromMarch year day).Valid := by
  rcases dateFromMarch_cases h with ⟨m, offset, hm, hlt, -, hdate⟩ | ⟨offset, hlt, -, hdate⟩ |
    ⟨offset, hlt, -, hdate⟩
  · rw [hdate]
    exact ⟨Nat.le_add_left .., (by omega : m + 3 ≤ 12), Nat.le_add_left .., hlt⟩
  · rw [hdate]
    exact ⟨Nat.le_refl 1, (by decide : 1 ≤ 12), Nat.le_add_left .., hlt⟩
  · rw [hdate]
    exact ⟨(by decide : 1 ≤ 2), (by decide : 2 ≤ 12), Nat.le_add_left .., hlt⟩

theorem number_dateFromMarch {year : Int} {day : Nat} (h : Falls year day) :
    (dateFromMarch year day).number = yearStart (year + 1) - 306 + day - yearStart 1970 := by
  rcases dateFromMarch_cases h with ⟨m, offset, hm, -, hday, hdate⟩ | ⟨offset, -, hday, hdate⟩ |
    ⟨offset, -, hday, hdate⟩
  · have hstart := yearStart_succ year
    have hmonth := monthStart_fromMarch year hm
    simp only [hdate, Date.number]
    omega
  · have hmonth : monthStart (year + 1) 1 = 0 := rfl
    simp only [hdate, Date.number, hmonth]
    omega
  · have hmonth : monthStart (year + 1) 2 = 31 := rfl
    simp only [hdate, Date.number, hmonth]
    omega

/-- In a cycle that begins on 1 March of year 0, each day is one of a year that begins on
1 March. -/
theorem exists_dateInCycle {n : Nat} (h : n < 146097) : ∃ year day : Nat,
    Falls year day ∧ dateInCycle n = dateFromMarch year day ∧
      n + 366 = yearStart (year + 1) + day := by
  let century := min (n / 36524) 3
  let span := (n - 36524 * century) / 1461
  let year := min ((n - 36524 * century - 1461 * span) / 365) 3
  have hcentury : century = min (n / 36524) 3 := rfl
  have hspan : span = (n - 36524 * century) / 1461 := rfl
  have hyear : year = min ((n - 36524 * century - 1461 * span) / 365) 3 := rfl
  have hspan' : span ≤ 24 := by omega
  refine ⟨100 * century + 4 * span + year,
    n - 36524 * century - 1461 * span - 365 * year, ?_, ?_, ?_⟩
  · by_cases hlast : n - 36524 * century - 1461 * span - 365 * year ≤ 364
    · exact Or.inl hlast
    · have hthree : year = 3 := by omega
      refine Or.inr ⟨by omega, ?_⟩
      rw [hthree]
      push_cast
      exact leap_parts hspan' (by omega)
  · simp [dateInCycle, dateFromMarch, century, span, year]
  · push_cast
    rw [yearStart_parts (by omega) hspan' (by omega)]
    omega

theorem monthLength_shift (year cycles : Int) :
    monthLength (year + 400 * cycles) = monthLength year := by
  funext month
  unfold monthLength
  split <;> simp only [leap_shift]

namespace Date

theorem valid_ofDays (days : Int) : (ofDays days).Valid := by
  obtain ⟨year, day, hfalls, hdate, -⟩ :=
    exists_dateInCycle (n := ((days + epochOffset) % 146097).toNat) (by omega)
  have hvalid := dateFromMarch_valid hfalls
  rw [← hdate] at hvalid
  refine ⟨hvalid.month_pos, hvalid.month_le, hvalid.day_pos, ?_⟩
  simp only [ofDays, monthLength_shift]
  exact hvalid.day_le

/-- The date of a day is the one that has its number. -/
theorem number_ofDays (days : Int) : (ofDays days).number = days := by
  obtain ⟨year, day, hfalls, hdate, hday⟩ :=
    exists_dateInCycle (n := ((days + epochOffset) % 146097).toNat) (by omega)
  have hnumber := number_dateFromMarch hfalls
  have hepoch : yearStart 1970 = 719528 := by decide
  have hoffset : epochOffset = 719468 := rfl
  rw [← hdate, number] at hnumber
  simp only [ofDays, number, yearStart_shift, monthStart, monthLength_shift] at hnumber ⊢
  omega

/-- A date that comes before another by year, month and day. -/
def Before (d d' : Date) : Prop :=
  d.year < d'.year ∨ d.year = d'.year ∧
    (d.month < d'.month ∨ d.month = d'.month ∧ d.day < d'.day)

end Date

theorem yearStart_add_le {year year' : Int} (h : year < year') :
    yearStart year + yearLength year ≤ yearStart year' := by
  rw [← yearStart_succ]
  unfold yearStart
  omega

theorem monthStart_add_le (year : Int) {month month' : Nat} (hpos : 1 ≤ month)
    (h : month < month') :
    monthStart year month + monthLength year month ≤ monthStart year month' := by
  rw [← monthStart_succ year hpos]
  induction month', h using Nat.le_induction with
  | base => exact Nat.le_refl _
  | succ last hlast ih =>
    rw [monthStart_succ year (Nat.le_trans (Nat.le_add_left 1 month) hlast)]
    omega

namespace Date

variable {d d' : Date}

/-- A year has ended before the next begins, whatever the date in it. -/
theorem Valid.in_year (h : d.Valid) : monthStart d.year d.month + d.day ≤ yearLength d.year := by
  have hmonth := monthStart_add_le d.year h.month_pos (Nat.lt_succ_of_le h.month_le)
  rw [monthStart_yearEnd] at hmonth
  have hday := h.day_le
  omega

theorem Before.number_lt (h : d.Before d') (hd : d.Valid) (hd' : d'.Valid) :
    d.number < d'.number := by
  have hday := hd.day_le
  have hday' := hd'.day_pos
  unfold number
  rcases h with hyear | ⟨hyear, hmonth | ⟨hmonth, hlt⟩⟩
  · have hstart := yearStart_add_le hyear
    have hin := hd.in_year
    omega
  · have hstart := monthStart_add_le d.year hd.month_pos hmonth
    rw [← hyear]
    omega
  · rw [← hyear, ← hmonth]
    omega

end Date

end Presentation.Calendar
