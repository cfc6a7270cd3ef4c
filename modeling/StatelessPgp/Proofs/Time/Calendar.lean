import Mathlib.Tactic.IntervalCases
import StatelessPgp.Time.Calendar

/-!
# Days of the calendar

Every day number names a date of the calendar, and the number of that date is the number
that it came from; no two dates share a number.  The years within a cycle of 400 are found by
dividing, where the last day of a century, and of a leap year, must not start another.
-/

namespace StatelessPgp

namespace Date

/-- A day within a cycle of 400 years is a number of centuries, of groups of four years, of
years and of days.  A full fourth year, or a full fourth century, has one day more. -/
theorem exists_yearOfCycle {dayOfCycle : Nat} (inside : dayOfCycle < 146097) :
    ∃ century quadrennium year day,
      yearOfCycle dayOfCycle = (century * 100 + quadrennium * 4 + year, day) ∧
      dayOfCycle = century * 36524 + quadrennium * 1461 + year * 365 + day ∧
      century ≤ 3 ∧ quadrennium ≤ 24 ∧ year ≤ 3 ∧ day ≤ 365 ∧
      (day = 365 → year = 3 ∧ (quadrennium = 24 → century = 3)) := by
  obtain ⟨century, atCentury⟩ : ∃ century, century = min 3 (dayOfCycle / 36524) := ⟨_, rfl⟩
  obtain ⟨rest, left⟩ : ∃ rest, rest = dayOfCycle - century * 36524 := ⟨_, rfl⟩
  have centuries : dayOfCycle = century * 36524 + rest ∧ century ≤ 3 ∧ rest ≤ 36524 ∧
      (rest = 36524 → century = 3) := by omega
  obtain ⟨quadrennium, atQuadrennium⟩ : ∃ quadrennium, quadrennium = rest / 1461 := ⟨_, rfl⟩
  obtain ⟨days, remaining⟩ : ∃ days, days = rest - quadrennium * 1461 := ⟨_, rfl⟩
  have quadrennia : rest = quadrennium * 1461 + days ∧ quadrennium ≤ 24 ∧ days ≤ 1460 ∧
      (days = 1460 → quadrennium = 24 → century = 3) := by omega
  obtain ⟨year, atYear⟩ : ∃ year, year = min 3 (days / 365) := ⟨_, rfl⟩
  have years : days = year * 365 + (days - year * 365) ∧ year ≤ 3 ∧
      days - year * 365 ≤ 365 ∧ (days - year * 365 = 365 → year = 3 ∧ days = 1460) := by omega
  refine ⟨century, quadrennium, year, days - year * 365, ?_, by omega, centuries.2.1,
    quadrennia.2.1, years.2.1, years.2.2.1, ?_⟩
  · subst atYear remaining atQuadrennium left atCentury
    rfl
  · intro full
    obtain ⟨last, all⟩ := years.2.2.2 full
    exact ⟨last, quadrennia.2.2.2 all⟩

/-- What the date of a day number is made of. -/
theorem exists_ofDayNumber (number : Int) :
    ∃ (cycle : Int) (century quadrennium year month day : Nat),
      number + 719468 =
        cycle * 146097 + (century * 36524 + quadrennium * 1461 + year * 365 + day : Nat) ∧
      (century ≤ 3 ∧ quadrennium ≤ 24 ∧ year ≤ 3 ∧ day ≤ 365 ∧
        (day = 365 → year = 3 ∧ (quadrennium = 24 → century = 3))) ∧
      (month ≤ 11 ∧ (153 * month + 2) / 5 ≤ day ∧ day < (153 * (month + 1) + 2) / 5) ∧
      ofDayNumber number =
        ⟨cycle * 400 + (century * 100 + quadrennium * 4 + year : Nat) +
            (if month < 10 then 0 else 1),
          if month < 10 then month + 3 else month - 9,
          day - (153 * month + 2) / 5 + 1⟩ := by
  have inside : ((number + 719468) % 146097).toNat < 146097 := by omega
  obtain ⟨century, quadrennium, year, day, found, split, bounds⟩ := exists_yearOfCycle inside
  obtain ⟨month, atMonth⟩ : ∃ month, month = (5 * day + 2) / 153 := ⟨_, rfl⟩
  refine ⟨(number + 719468) / 146097, century, quadrennium, year, month, day, by omega, bounds,
    by omega, ?_⟩
  rw [ofDayNumber, found]
  dsimp only
  rw [← atMonth]
  split <;> simp

theorem dayNumber_ofDayNumber (number : Int) : (ofDayNumber number).dayNumber = number := by
  obtain ⟨cycle, century, quadrennium, year, month, day, split, bounds, months, date⟩ :=
    exists_ofDayNumber number
  have fromMarch : (ofDayNumber number).monthFromMarch = month := by
    rw [date, monthFromMarch]
    dsimp only
    split <;> omega
  have began : (ofDayNumber number).yearFromMarch =
      cycle * 400 + (century * 100 + quadrennium * 4 + year : Nat) := by
    rw [date, yearFromMarch]
    dsimp only
    split <;> split at * <;> omega
  rw [dayNumber, dayFromMarch, fromMarch, began, date, daysBeforeYear]
  dsimp only
  omega

theorem isValid_ofDayNumber (number : Int) : (ofDayNumber number).isValid = true := by
  obtain ⟨cycle, century, quadrennium, year, month, day, split, bounds, months, date⟩ :=
    exists_ofDayNumber number
  rw [date, isValid, Bool.and_eq_true, decide_eq_true_eq, decide_eq_true_eq]
  refine ⟨Nat.le_add_left 1 _, ?_⟩
  by_cases february : month = 11
  · subst february
    have length : daysInMonth (cycle * 400 + (century * 100 + quadrennium * 4 + year : Nat) + 1)
        2 = if isLeapYear (cycle * 400 + (century * 100 + quadrennium * 4 + year : Nat) + 1)
          then 29 else 28 := rfl
    change day - 337 + 1 ≤ daysInMonth _ 2
    rw [if_neg (by decide), length]
    by_cases full : day = 365
    · have leap : isLeapYear
          (cycle * 400 + (century * 100 + quadrennium * 4 + year : Nat) + 1) = true := by
        simp only [isLeapYear, Bool.and_eq_true, Bool.or_eq_true, beq_iff_eq, bne_iff_ne]
        omega
      rw [leap, full]
      decide
    · split <;> omega
  · obtain ⟨last, late, early⟩ := months
    interval_cases month
    all_goals simp [daysInMonth]
    all_goals omega

variable {date : Date}

theorem day_bounds (valid : date.isValid = true) :
    1 ≤ date.day ∧ date.day ≤ daysInMonth date.year date.month := by
  rwa [isValid, Bool.and_eq_true, decide_eq_true_eq, decide_eq_true_eq] at valid

/-- A date of the calendar has one of twelve months, and lies in it. -/
theorem month_bounds (valid : date.isValid = true) : 1 ≤ date.month ∧ date.month ≤ 12 := by
  obtain ⟨least, most⟩ := day_bounds valid
  by_contra outside
  have none : daysInMonth date.year date.month = 0 := by
    unfold daysInMonth
    split <;> first | rfl | omega
  omega

theorem day_le (valid : date.isValid = true) : date.day ≤ 31 := by
  have most : daysInMonth date.year date.month ≤ 31 := by
    unfold daysInMonth
    split <;> first | omega | skip
    split <;> omega
  exact (day_bounds valid).2.trans most

/-- The day of the year from March says in which of its months it lies.  Months but the last
have a fixed length there. -/
theorem dayFromMarch_bounds (valid : date.isValid = true) :
    (153 * date.monthFromMarch + 2) / 5 ≤ date.dayFromMarch ∧
      date.dayFromMarch < (153 * (date.monthFromMarch + 1) + 2) / 5 := by
  obtain ⟨least, most⟩ := day_bounds valid
  obtain ⟨first, last⟩ := month_bounds valid
  obtain ⟨year, month, day⟩ := date
  rw [dayFromMarch, monthFromMarch]
  dsimp only at *
  interval_cases month <;> simp only [daysInMonth] at most
  all_goals first | omega | (split at most <;> omega)

/-- A year from March ends with February, which is longer in a leap year. -/
theorem dayNumber_lt (valid : date.isValid = true) :
    date.dayNumber < daysBeforeYear (date.yearFromMarch + 1) := by
  obtain ⟨least, most⟩ := day_bounds valid
  obtain ⟨first, last⟩ := month_bounds valid
  obtain ⟨early, late⟩ := dayFromMarch_bounds valid
  rw [dayNumber, daysBeforeYear, daysBeforeYear]
  by_cases february : date.month = 2
  · have position : date.dayFromMarch = 336 + date.day := by
      rw [dayFromMarch, monthFromMarch, february]
      omega
    have began : date.yearFromMarch = date.year - 1 := by
      rw [yearFromMarch, if_pos (by omega)]
    rw [february] at most
    simp only [daysInMonth, isLeapYear, Bool.and_eq_true, Bool.or_eq_true, beq_iff_eq,
      bne_iff_ne] at most
    split at most <;> omega
  · have early : date.monthFromMarch ≤ 10 := by
      rw [monthFromMarch]
      omega
    omega

theorem daysBeforeYear_mono {year later : Int} (order : year ≤ later) :
    daysBeforeYear year ≤ daysBeforeYear later := by
  rw [daysBeforeYear, daysBeforeYear]
  omega

/-- Two dates of the calendar with one number lie in one year from March, on one day of it, and
so in one month. -/
theorem dayNumber_inj {other : Date} (valid : date.isValid = true)
    (otherValid : other.isValid = true) (same : date.dayNumber = other.dayNumber) :
    date = other := by
  have before := dayNumber_lt valid
  have otherBefore := dayNumber_lt otherValid
  obtain ⟨early, late⟩ := dayFromMarch_bounds valid
  obtain ⟨otherEarly, otherLate⟩ := dayFromMarch_bounds otherValid
  have began : date.yearFromMarch = other.yearFromMarch := by
    rcases lt_trichotomy date.yearFromMarch other.yearFromMarch with sooner | equal | later
    · have apart := daysBeforeYear_mono (Int.add_one_le_of_lt sooner)
      rw [same, dayNumber] at before
      omega
    · exact equal
    · have apart := daysBeforeYear_mono (Int.add_one_le_of_lt later)
      rw [← same, dayNumber] at otherBefore
      omega
  have position : date.dayFromMarch = other.dayFromMarch := by
    rw [dayNumber, dayNumber, began] at same
    omega
  have passed : date.monthFromMarch = other.monthFromMarch := by omega
  obtain ⟨first, last⟩ := month_bounds valid
  obtain ⟨otherFirst, otherLast⟩ := month_bounds otherValid
  obtain ⟨least, -⟩ := day_bounds valid
  obtain ⟨otherLeast, -⟩ := day_bounds otherValid
  obtain ⟨year, month, day⟩ := date
  obtain ⟨otherYear, otherMonth, otherDay⟩ := other
  have months : month = otherMonth := by
    simp only [monthFromMarch] at passed first last otherFirst otherLast
    omega
  subst months
  simp only [yearFromMarch, dayFromMarch, monthFromMarch] at began position least otherLeast
  have years : year = otherYear := by split at began <;> omega
  have days : day = otherDay := by omega
  rw [years, days]

/-- A date of the calendar is the date of its number. -/
theorem ofDayNumber_dayNumber (valid : date.isValid = true) : ofDayNumber date.dayNumber = date :=
  dayNumber_inj (isValid_ofDayNumber _) valid (dayNumber_ofDayNumber _)

end Date
end StatelessPgp
