-- The calendar. The day of a date is counted by years and months, with the rule of
-- leap years, and the date of a day is the one from which that count leads back. The
-- proof goes through years that start in March, at the end of which a leap day stands.
import MarkerInjection.Diagnostic.Instant
import Mathlib.Tactic.IntervalCases

namespace MarkerInjection

/-! ## Years and months -/

/-- Every fourth year has a leap day, but of the years that end a century only every fourth. -/
def IsLeapYear (year : Int) : Prop := year % 4 = 0 ∧ (year % 100 ≠ 0 ∨ year % 400 = 0)

instance (year : Int) : Decidable (IsLeapYear year) := inferInstanceAs (Decidable (_ ∧ _))

def daysInYear (year : Int) : Nat := if IsLeapYear year then 366 else 365

/-- The days of a month by its number; other numbers are no months. -/
def daysInMonth (year : Int) (month : Nat) : Nat :=
  if month = 2 then if IsLeapYear year then 29 else 28
  else if month ∈ [4, 6, 9, 11] then 30
  else if 1 ≤ month ∧ month ≤ 12 then 31
  else 0

/-- The days from the start of year 1 to the start of a year. -/
def daysBefore (year : Int) : Int :=
  365 * (year - 1) + (year - 1) / 4 - (year - 1) / 100 + (year - 1) / 400

/-- The days of the months before a month. -/
def daysBeforeMonth (year : Int) (month : Nat) : Nat :=
  ((List.range month).map (daysInMonth year)).sum

/-- Years follow each other by their days. -/
theorem daysBefore_succ (year : Int) :
    daysBefore (year + 1) = daysBefore year + daysInYear year := by
  unfold daysBefore daysInYear
  by_cases hleap : IsLeapYear year
  · rw [if_pos hleap]
    unfold IsLeapYear at hleap
    omega
  · rw [if_neg hleap]
    unfold IsLeapYear at hleap
    omega

theorem daysInYear_le (year : Int) : daysInYear year ≤ 366 := by
  unfold daysInYear
  split
  · omega
  · omega

namespace Date

/-- The date is one of the calendar. -/
def Valid (d : Date) : Prop := 1 ≤ d.day ∧ d.day ≤ daysInMonth d.year d.month

instance (d : Date) : Decidable d.Valid := inferInstanceAs (Decidable (_ ∧ _))

/-- Months and days have two digits. -/
theorem Valid.bounds {d : Date} (hd : d.Valid) : d.month ≤ 12 ∧ d.day ≤ 31 := by
  obtain ⟨hfirst, hlast⟩ := hd
  unfold daysInMonth at hlast
  grind

/-- The days since the first of January 1970. -/
def dayNumber (d : Date) : Int :=
  daysBefore d.year + daysBeforeMonth d.year d.month + (d.day - 1) - daysBefore 1970

/-! ## Years from March -/

/-- The days before a month that is counted from March. -/
def marchDays (month : Nat) : Nat := (153 * month + 2) / 5

/-- The date so many days after the first of March of a year. -/
def ofMarch (year : Int) (dayOfYear : Nat) : Date :=
  let marchMonth := (5 * dayOfYear + 2) / 153
  let month := if marchMonth < 10 then marchMonth + 3 else marchMonth - 9
  ⟨year + (if month ≤ 2 then 1 else 0), month, dayOfYear - marchDays marchMonth + 1⟩

/-- From March to December of a year. -/
theorem daysBeforeMonth_march (year : Int) {month : Nat} (hmonth : month < 10) :
    daysBeforeMonth year (month + 3) + 306 = daysInYear year + marchDays month ∧
      daysInMonth year (month + 3) + marchDays month = marchDays (month + 1) := by
  unfold daysInYear
  by_cases hleap : IsLeapYear year
  all_goals
    interval_cases month <;>
      simp [daysBeforeMonth, List.range_succ, daysInMonth, marchDays, hleap]

/-- The day lies in the month that it is given. -/
theorem marchDays_le {dayOfYear : Nat} (hday : dayOfYear ≤ 365) :
    (5 * dayOfYear + 2) / 153 ≤ 11 ∧
      marchDays ((5 * dayOfYear + 2) / 153) ≤ dayOfYear ∧
      dayOfYear < marchDays ((5 * dayOfYear + 2) / 153 + 1) := by
  unfold marchDays
  omega

theorem dayNumber_ofMarch (year : Int) {dayOfYear : Nat} (hday : dayOfYear ≤ 365) :
    (ofMarch year dayOfYear).dayNumber =
      daysBefore (year + 1) + dayOfYear - (daysBefore 1970 + 306) := by
  obtain ⟨hmonth, hfirst, -⟩ := marchDays_le hday
  unfold dayNumber ofMarch
  generalize (5 * dayOfYear + 2) / 153 = month at hmonth hfirst
  by_cases hlate : month < 10
  · have hdays := (daysBeforeMonth_march year hlate).1
    have hyear := daysBefore_succ year
    simp only [if_pos hlate, if_neg (show ¬ month + 3 ≤ 2 by omega), Int.add_zero]
    omega
  · have hnew : month = 10 ∨ month = 11 := by omega
    rcases hnew with rfl | rfl
    · have hbefore : daysBeforeMonth (year + 1) 1 = 0 := by simp [daysBeforeMonth, daysInMonth]
      have hmarch : marchDays 10 = 306 := rfl
      simp only [if_neg hlate, Nat.reduceSub, Nat.reduceLeDiff, if_true, hbefore, hmarch]
        at hfirst ⊢
      omega
    · have hbefore : daysBeforeMonth (year + 1) 2 = 31 := by
        simp [daysBeforeMonth, List.range_succ, daysInMonth]
      have hmarch : marchDays 11 = 337 := rfl
      simp only [if_neg hlate, Nat.reduceSub, Nat.reduceLeDiff, if_true, hbefore, hmarch]
        at hfirst ⊢
      omega

theorem valid_ofMarch (year : Int) {dayOfYear : Nat} (hday : dayOfYear < daysInYear (year + 1)) :
    (ofMarch year dayOfYear).Valid := by
  have hall := daysInYear_le (year + 1)
  obtain ⟨hmonth, hfirst, hlast⟩ := marchDays_le (show dayOfYear ≤ 365 by omega)
  unfold Valid ofMarch
  generalize (5 * dayOfYear + 2) / 153 = month at hmonth hfirst hlast
  refine ⟨by simp, ?_⟩
  by_cases hlate : month < 10
  · have hdays := (daysBeforeMonth_march year hlate).2
    simp only [if_pos hlate, if_neg (show ¬ month + 3 ≤ 2 by omega), Int.add_zero]
    omega
  · have hnew : month = 10 ∨ month = 11 := by omega
    rcases hnew with rfl | rfl
    · simp [daysInMonth, marchDays] at hfirst hlast ⊢
      omega
    · -- The last month from March has as many days as the year leaves for it.
      unfold daysInYear at hday
      by_cases hleap : IsLeapYear (year + 1)
      · simp [daysInMonth, marchDays, hleap] at hfirst hday ⊢
        omega
      · simp [daysInMonth, marchDays, hleap] at hfirst hday ⊢
        omega

/-! ## Cycles of 400 years -/

/-- The days before a year of a cycle. -/
def cycleDays (year : Nat) : Nat := 365 * year + year / 4 - year / 100 + year / 400

/-- The days of a cycle, less the leap days among them. -/
def withoutLeapDays (day : Nat) : Nat := day - day / 1460 + day / 36524 - day / 146096

/-- The year of a day of a cycle. -/
def yearOfCycle (day : Nat) : Nat := withoutLeapDays day / 365

theorem withoutLeapDays_succ (day : Nat) : withoutLeapDays day ≤ withoutLeapDays (day + 1) := by
  unfold withoutLeapDays
  omega

theorem yearOfCycle_mono {day day' : Nat} (hday : day ≤ day') :
    yearOfCycle day ≤ yearOfCycle day' :=
  Nat.div_le_div_right (monotone_nat_of_le_succ withoutLeapDays_succ hday)

/-- The first and the last day of each year have this year. -/
theorem yearOfCycle_ends :
    ∀ year < 400, yearOfCycle (cycleDays year) = year ∧
      yearOfCycle (cycleDays (year + 1) - 1) = year := by
  decide +kernel

/-- Since later days have no earlier years, the days between them have this year, too. -/
theorem cycleDays_yearOfCycle {day : Nat} (hday : day < 146097) :
    yearOfCycle day < 400 ∧ cycleDays (yearOfCycle day) ≤ day ∧
      day < cycleDays (yearOfCycle day + 1) := by
  have hyear : yearOfCycle day < 400 := by
    have hlast := yearOfCycle_mono (Nat.le_pred_of_lt hday)
    have hends : yearOfCycle 146096 = 399 := by decide
    rw [show Nat.pred 146097 = 146096 from rfl, hends] at hlast
    omega
  refine ⟨hyear, ?_, ?_⟩
  · by_contra hbefore
    rcases hzero : yearOfCycle day with _ | year
    · rw [hzero] at hbefore
      simp [cycleDays] at hbefore
    · rw [hzero] at hbefore hyear
      have hearlier := yearOfCycle_mono (show day ≤ cycleDays (year + 1) - 1 by omega)
      rw [(yearOfCycle_ends year (by omega)).2, hzero] at hearlier
      omega
  · by_contra hafter
    rcases Nat.lt_or_ge (yearOfCycle day + 1) 400 with hnext | hlast
    · have hlater := yearOfCycle_mono (Nat.le_of_not_lt hafter)
      rw [(yearOfCycle_ends _ hnext).1] at hlater
      omega
    · have hall : yearOfCycle day + 1 = 400 := by omega
      have hcycle : cycleDays 400 = 146097 := by decide
      rw [hall, hcycle] at hafter
      omega

/-- Cycles follow each other by their days. -/
theorem daysBefore_cycle (year : Nat) (cycle : Int) :
    daysBefore (year + cycle * 400 + 1) = cycleDays year + cycle * 146097 := by
  have hfourth : ((year : Int) + cycle * 400) / 4 = year / 4 + cycle * 100 := by omega
  have hcentury : ((year : Int) + cycle * 400) / 100 = year / 100 + cycle * 4 := by omega
  have hcycle : ((year : Int) + cycle * 400) / 400 = year / 400 + cycle := by omega
  unfold daysBefore cycleDays
  rw [Int.add_sub_cancel, hfourth, hcentury, hcycle]
  omega

/-! ## Days and dates -/

/-- The date of a day is one of a year from March. -/
theorem ofDayNumber_eq (days : Int) :
    ∃ (year : Int) (dayOfYear : Nat), dayOfYear < daysInYear (year + 1) ∧
      days + (daysBefore 1970 + 306) = daysBefore (year + 1) + dayOfYear ∧
      ofDayNumber days = ofMarch year dayOfYear := by
  have hepoch : daysBefore 1970 + 306 = 719468 := by decide
  have hday : ((days + 719468) % 146097).toNat < 146097 := by omega
  obtain ⟨hyear, hfirst, hlast⟩ := cycleDays_yearOfCycle hday
  rw [hepoch]
  unfold ofDayNumber ofMarch marchDays
  generalize hcycle : (days + 719468) / 146097 = cycle
  generalize hdayOfCycle : ((days + 719468) % 146097).toNat = day at hday hyear hfirst hlast
  generalize hyearOfCycle : yearOfCycle day = y at hyear hfirst hlast
  have hstart := daysBefore_cycle y cycle
  have hnext := daysBefore_cycle (y + 1) cycle
  have hlength := daysBefore_succ (y + cycle * 400 + 1)
  rw [show ((y + 1 : Nat) : Int) + cycle * 400 + 1 = y + cycle * 400 + 1 + 1 by omega] at hnext
  refine ⟨y + cycle * 400, day - cycleDays y, by omega, by omega, ?_⟩
  have hsame : cycleDays y = 365 * y + y / 4 - y / 100 := by
    unfold cycleDays
    omega
  unfold yearOfCycle withoutLeapDays at hyearOfCycle
  simp only [hcycle, hdayOfCycle, hyearOfCycle, hsame]

/-- The date of a day is one of the calendar, and the count of its days leads back. -/
theorem dayNumber_ofDayNumber (days : Int) :
    (ofDayNumber days).Valid ∧ (ofDayNumber days).dayNumber = days := by
  obtain ⟨year, dayOfYear, hlength, hdays, hdate⟩ := ofDayNumber_eq days
  have hall := daysInYear_le (year + 1)
  rw [hdate, dayNumber_ofMarch year (show dayOfYear ≤ 365 by omega)]
  exact ⟨valid_ofMarch year hlength, by omega⟩

end Date

end MarkerInjection
