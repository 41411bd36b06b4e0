import HealthLedger.Time.Instant

/-!
# Days of the calendar

A day has its place in a cycle of 400 years, each of which begins in March: a century, four years
of the century, a year of the four and a day of the year (`Date.Place`). Only the last year of four
has a day more than 365, and the last four years of a century have it only at the end of the cycle.
Both directions of the calendar are read off the place of a day, so the date of a day counts that
day (`Date.toDays_ofDays`), and within the calendar it is valid (`Date.isValid_ofDays`).
-/

namespace HealthLedger.Time.Date

/-- The place of a day in years that begin in March, all counted from zero. -/
structure Place where
  /-- The cycle of 400 years. -/
  cycle : Int
  /-- The century of the cycle. -/
  century : Int
  /-- The four years of the century. -/
  leap : Int
  /-- The year of the four. -/
  year : Int
  /-- The day of the year. -/
  day : Int

namespace Place

/-- The parts of a place are within their bounds. -/
structure Within (place : Place) : Prop where
  /-- A cycle has four centuries. -/
  century : 0 ≤ place.century ∧ place.century ≤ 3
  /-- A century has four years at most 25 times. -/
  leap : 0 ≤ place.leap ∧ place.leap ≤ 24
  /-- There are four years. -/
  year : 0 ≤ place.year ∧ place.year ≤ 3
  /-- A year has 366 days at most. -/
  day : 0 ≤ place.day ∧ place.day ≤ 365
  /-- Only the last year of four has as many, and not the last one of a century unless it ends the
  cycle. -/
  last : place.day = 365 → place.year = 3 ∧ (place.leap = 24 → place.century = 3)

/-- The day of the cycle. -/
def dayOfCycle (place : Place) : Int :=
  36524 * place.century + 1461 * place.leap + 365 * place.year + place.day

/-- The year of the cycle. -/
def yearOfCycle (place : Place) : Int := 100 * place.century + 4 * place.leap + place.year

/-- The year, counted from March. -/
def yearFromMarch (place : Place) : Int := 400 * place.cycle + place.yearOfCycle

/-- The month, counted from March. -/
def monthFromMarch (place : Place) : Int := (5 * place.day + 2) / 153

/-- The date of a place. -/
def date (place : Place) : Date :=
  let month := if place.monthFromMarch < 10 then place.monthFromMarch + 3
    else place.monthFromMarch - 9
  ⟨if month ≤ 2 then place.yearFromMarch + 1 else place.yearFromMarch, month.toNat,
    (place.day - (153 * place.monthFromMarch + 2) / 5 + 1).toNat⟩

variable {place : Place}

/-- Every day has a place. -/
theorem exists_place (days : Int) : ∃ place : Place, place.Within ∧
    days + 719468 = 146097 * place.cycle + place.dayOfCycle := by
  let cycle := (days + 719468) / 146097
  let inCycle := (days + 719468) % 146097
  let century := min 3 (inCycle / 36524)
  let inCentury := inCycle - 36524 * century
  let leap := inCentury / 1461
  let inLeap := inCentury % 1461
  let year := min 3 (inLeap / 365)
  refine ⟨⟨cycle, century, leap, year, inLeap - 365 * year⟩, ?_, ?_⟩
  · constructor <;> simp only <;> omega
  · simp only [dayOfCycle]
    omega

/-- The year of a cycle is computed from the day by taking out the leap days. -/
theorem yearOfCycle_eq (within : place.Within) :
    (place.dayOfCycle - place.dayOfCycle / 1460 + place.dayOfCycle / 36524 -
      place.dayOfCycle / 146096) / 365 = place.yearOfCycle := by
  obtain ⟨inCycle, inCentury, inLeap, inYear, last⟩ := within
  rw [dayOfCycle, yearOfCycle]
  generalize counted : 36524 * place.century + 1461 * place.leap + 365 * place.year + place.day = day
  by_cases closing : day = 146096
  · obtain rfl := closing
    omega
  · have cycles : day / 146096 = 0 := by omega
    have centuries : day / 36524 = place.century := by omega
    have leaps : day / 1460 = 25 * place.century + place.leap ∨
        (day / 1460 = 25 * place.century + place.leap + 1 ∧
          1460 ≤ 24 * place.century + place.leap + 365 * place.year + place.day) := by
      omega
    rw [cycles, centuries]
    omega

/-- The date of a day is that of its place. -/
theorem ofDays_eq (within : place.Within) {days : Int}
    (counted : days + 719468 = 146097 * place.cycle + place.dayOfCycle) :
    ofDays days = place.date := by
  have year := yearOfCycle_eq within
  obtain ⟨inCycle, inCentury, inLeap, inYear, last⟩ := within
  have bounds : 0 ≤ place.dayOfCycle ∧ place.dayOfCycle < 146097 := by
    rw [dayOfCycle]
    omega
  have cycle : (days + 719468) / 146097 = place.cycle := by omega
  have rest : (days + 719468) % 146097 = place.dayOfCycle := by omega
  have day : place.dayOfCycle - (365 * place.yearOfCycle + place.yearOfCycle / 4 -
      place.yearOfCycle / 100) = place.day := by
    rw [dayOfCycle, yearOfCycle]
    omega
  have years : place.yearOfCycle + place.cycle * 400 = place.yearFromMarch := by
    rw [yearFromMarch]
    omega
  simp only [ofDays, cycle, rest, year, day, years]
  rfl

/-- The date of a place counts the day of the place. -/
theorem toDays_date (within : place.Within) :
    place.date.toDays = 146097 * place.cycle + place.dayOfCycle - 719468 := by
  obtain ⟨inCycle, inCentury, inLeap, inYear, last⟩ := within
  have month : 0 ≤ place.monthFromMarch ∧ place.monthFromMarch ≤ 11 := by
    rw [monthFromMarch]
    omega
  have day : (153 * place.monthFromMarch + 2) / 5 ≤ place.day := by
    rw [monthFromMarch]
    omega
  have years : place.yearFromMarch / 400 = place.cycle ∧
      place.yearFromMarch % 400 = place.yearOfCycle := by
    rw [yearFromMarch, yearOfCycle]
    omega
  have total : place.yearOfCycle * 365 + place.yearOfCycle / 4 - place.yearOfCycle / 100 + place.day =
      place.dayOfCycle := by
    rw [dayOfCycle, yearOfCycle]
    omega
  by_cases early : place.monthFromMarch < 10
  · have after : ¬ place.monthFromMarch + 3 ≤ 2 := by omega
    have number : ¬ (place.monthFromMarch + 3).toNat ≤ 2 := by omega
    have back : (((place.monthFromMarch + 3).toNat : Int) + 9) % 12 = place.monthFromMarch := by omega
    simp only [toDays, date, if_pos early, if_neg after, if_neg number, back, years]
    omega
  · have after : place.monthFromMarch - 9 ≤ 2 := by omega
    have number : (place.monthFromMarch - 9).toNat ≤ 2 := by omega
    have back : (((place.monthFromMarch - 9).toNat : Int) + 9) % 12 = place.monthFromMarch := by omega
    simp only [toDays, date, if_neg early, if_pos after, if_pos number, back, years, Int.add_sub_cancel]
    omega

/-- A year with a day more ends with a 29th of February. -/
theorem isLeapYear_of_last (within : place.Within) (leap : place.day = 365) :
    isLeapYear (place.yearFromMarch + 1) = true := by
  obtain ⟨inCycle, inCentury, inLeap, inYear, last⟩ := within
  obtain ⟨third, closing⟩ := last leap
  have fourth : (place.yearFromMarch + 1) % 4 = 0 := by
    rw [yearFromMarch, yearOfCycle]
    omega
  have secular : (place.yearFromMarch + 1) % 100 ≠ 0 ∨ (place.yearFromMarch + 1) % 400 = 0 := by
    rw [yearFromMarch, yearOfCycle]
    omega
  simp only [isLeapYear, Bool.and_eq_true, Bool.or_eq_true, decide_eq_true_eq]
  exact ⟨fourth, secular⟩

/-- A date lies in its month. -/
theorem day_date (within : place.Within) :
    1 ≤ place.date.day ∧ place.date.day ≤ daysInMonth place.date.year place.date.month := by
  have leap := isLeapYear_of_last within
  obtain ⟨inCycle, inCentury, inLeap, ⟨low, high⟩, last⟩ := within
  have month : 153 * place.monthFromMarch ≤ 5 * place.day + 2 ∧
      5 * place.day + 2 < 153 * place.monthFromMarch + 153 := by
    rw [monthFromMarch]
    omega
  by_cases february : place.monthFromMarch = 11
  · rw [february] at month
    simp only [date, february, daysInMonth]
    by_cases longest : place.day = 365
    · simp [longest, leap longest]
    · have least : 28 ≤ daysInMonth (place.yearFromMarch + 1) 2 := by
        simp only [daysInMonth]
        split <;> split <;> omega
      simp [daysInMonth] at least ⊢
      omega
  · have number : place.monthFromMarch = 0 ∨ place.monthFromMarch = 1 ∨
        place.monthFromMarch = 2 ∨ place.monthFromMarch = 3 ∨ place.monthFromMarch = 4 ∨
        place.monthFromMarch = 5 ∨ place.monthFromMarch = 6 ∨ place.monthFromMarch = 7 ∨
        place.monthFromMarch = 8 ∨ place.monthFromMarch = 9 ∨ place.monthFromMarch = 10 := by
      omega
    rcases number with m | m | m | m | m | m | m | m | m | m | m <;>
      simp only [m] at month <;> simp [date, m, daysInMonth] <;> omega

/-- The month of a date has a number. -/
theorem month_date (within : place.Within) :
    1 ≤ place.date.month ∧ place.date.month ≤ 12 := by
  obtain ⟨inCycle, inCentury, inLeap, inYear, last⟩ := within
  have month : 0 ≤ place.monthFromMarch ∧ place.monthFromMarch ≤ 11 := by
    rw [monthFromMarch]
    omega
  simp only [date]
  split <;> omega

/-- The year of a place between the first day and the last one is one of the calendar. -/
theorem year_date (within : place.Within)
    (first : firstDay ≤ 146097 * place.cycle + place.dayOfCycle - 719468)
    (last : 146097 * place.cycle + place.dayOfCycle - 719468 ≤ lastDay) :
    firstYear ≤ place.date.year ∧ place.date.year ≤ lastYear := by
  have ends : firstDay = -96465292 ∧ lastDay = 95026236 := by decide
  obtain ⟨inCycle, inCentury, inLeap, inYear, -⟩ := within
  have year : place.date.year =
      if place.day < 306 then place.yearFromMarch else place.yearFromMarch + 1 := by
    by_cases early : place.day < 306
    · have month : place.monthFromMarch < 10 := by
        rw [monthFromMarch]
        omega
      have after : ¬ place.monthFromMarch + 3 ≤ 2 := by
        rw [monthFromMarch]
        omega
      simp only [date, if_pos month, if_neg after, if_pos early]
    · have month : ¬ place.monthFromMarch < 10 := by
        rw [monthFromMarch]
        omega
      have after : place.monthFromMarch - 9 ≤ 2 := by
        rw [monthFromMarch]
        omega
      simp only [date, if_neg month, if_pos after, if_neg early]
  rw [ends.1, dayOfCycle] at first
  rw [ends.2, dayOfCycle] at last
  rw [year, firstYear, lastYear, yearFromMarch, yearOfCycle]
  have cycle : place.cycle ≤ 655 := by omega
  split
  · omega
  · have century : place.cycle = 655 → place.century ≤ 1 := by omega
    omega

end Place

/-- The date of a day counts that day. -/
theorem toDays_ofDays (days : Int) : (ofDays days).toDays = days := by
  obtain ⟨place, within, counted⟩ := Place.exists_place days
  rw [Place.ofDays_eq within counted, Place.toDays_date within]
  omega

/-- The calendar has the dates of the days between its first and its last one. -/
theorem isValid_ofDays {days : Int} (first : firstDay ≤ days) (last : days ≤ lastDay) :
    (ofDays days).isValid = true := by
  obtain ⟨place, within, counted⟩ := Place.exists_place days
  have same : 146097 * place.cycle + place.dayOfCycle - 719468 = days := by omega
  have year := Place.year_date within (same ▸ first) (same ▸ last)
  have month := Place.month_date within
  have day := Place.day_date within
  rw [Place.ofDays_eq within counted]
  simp [isValid, year, month, day]

end HealthLedger.Time.Date
