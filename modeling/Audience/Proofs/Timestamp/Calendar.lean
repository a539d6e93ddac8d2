import Audience.Timestamp

/-!
# Days of the calendar

A cycle of the calendar has 400 years and 146097 days.  Years begin in March here,
so that the day that only leap years have is the last one of its year.  A number
of days since 1970 is thereby a day that the calendar has, as long as its year has
four digits.
-/

namespace Audience
namespace Timestamp

/-! ## Where a day is in its cycle -/

/-- Where a day is in its cycle: in one of four centuries, in a span of four years
of it, in one of these years.  The 366th day of a year is the last one of its span,
and of no century but the fourth. -/
structure Placed (dayOfCycle century span year day : Nat) : Prop where
  sum : dayOfCycle = 36524 * century + 1461 * span + 365 * year + day
  century_le : century ≤ 3
  span_le : span ≤ 24
  year_le : year ≤ 3
  day_le : day ≤ 365
  extra : day = 365 → year = 3 ∧ (span = 24 → century = 3)

variable {dayOfCycle century span year day : Nat}

/-- The last day of a cycle is the one that makes its last century longer. -/
theorem exists_century (within : dayOfCycle < 146097) :
    ∃ century rest, dayOfCycle = 36524 * century + rest ∧ century ≤ 3 ∧
      rest ≤ 36524 ∧ (rest = 36524 → century = 3) := by
  by_cases last : dayOfCycle = 146096
  · exact ⟨3, 36524, by omega, by omega, by omega, by omega⟩
  · exact ⟨dayOfCycle / 36524, dayOfCycle % 36524, by omega, by omega, by omega,
      by omega⟩

/-- So is the last day of a span for its last year. -/
theorem exists_year {dayOfSpan : Nat} (within : dayOfSpan < 1461) :
    ∃ year day, dayOfSpan = 365 * year + day ∧ year ≤ 3 ∧ day ≤ 365 ∧
      (day = 365 → year = 3) := by
  by_cases last : dayOfSpan = 1460
  · exact ⟨3, 365, by omega, by omega, by omega, by omega⟩
  · exact ⟨dayOfSpan / 365, dayOfSpan % 365, by omega, by omega, by omega,
      by omega⟩

/-- Every day of the cycle has its place. -/
theorem exists_placed (within : dayOfCycle < 146097) :
    ∃ century span year day, Placed dayOfCycle century span year day := by
  obtain ⟨century, rest, rfl, century_le, rest_le, longer⟩ :=
    exists_century within
  obtain ⟨year, day, sum, year_le, day_le, extra⟩ :=
    exists_year (Nat.mod_lt rest (show 0 < 1461 by decide))
  exact ⟨century, rest / 1461, year, day, by omega, century_le, by omega, year_le,
    day_le, by omega⟩

namespace Placed

/-- One day is taken off for each span before, and perhaps one more. -/
theorem div_spans (placed : Placed dayOfCycle century span year day) :
    dayOfCycle / 1460 = 25 * century + span +
      if 1460 ≤ 24 * century + span + 365 * year + day then 1 else 0 := by
  obtain ⟨sum, century_le, span_le, year_le, day_le, -⟩ := placed
  subst sum
  split <;> omega

/-- One day is given back for each century before. -/
theorem div_centuries (placed : Placed dayOfCycle century span year day) :
    dayOfCycle / 36524 = century + dayOfCycle / 146096 := by
  obtain ⟨sum, century_le, span_le, year_le, day_le, extra⟩ := placed
  by_cases last : dayOfCycle = 146096 <;> omega

/-- What is left of the days after that counts less than a year more than the years
before. -/
theorem yearOfCycle (placed : Placed dayOfCycle century span year day) :
    (dayOfCycle - dayOfCycle / 1460 + dayOfCycle / 36524 -
      dayOfCycle / 146096) / 365 = 100 * century + 4 * span + year := by
  have spans := placed.div_spans
  rw [placed.div_centuries, spans]
  obtain ⟨sum, century_le, span_le, year_le, day_le, extra⟩ := placed
  generalize dayOfCycle / 146096 = given
  clear spans
  split <;> omega

/-- The days of the year before a day of the cycle. -/
theorem dayOfYear (placed : Placed dayOfCycle century span year day) :
    dayOfCycle - (365 * (100 * century + 4 * span + year) +
      (100 * century + 4 * span + year) / 4 -
      (100 * century + 4 * span + year) / 100) = day := by
  have year_le := placed.year_le
  have span_le := placed.span_le
  have spans : (100 * century + 4 * span + year) / 4 = 25 * century + span := by
    omega
  have centuries : (100 * century + 4 * span + year) / 100 = century := by
    omega
  rw [spans, centuries, placed.sum]
  omega

/-- The year that ends with the 366th day is a leap year. -/
theorem isLeap (placed : Placed dayOfCycle century span year day) (cycle : Nat)
    (last : day = 365) :
    Timestamp.isLeap (100 * century + 4 * span + year + 400 * cycle + 1) =
      true := by
  obtain ⟨rfl, longer⟩ := placed.extra last
  have span_le := placed.span_le
  have fourth : (100 * century + 4 * span + 3 + 400 * cycle + 1) % 4 = 0 := by
    omega
  by_cases ends : span = 24
  · have whole : (100 * century + 4 * span + 3 + 400 * cycle + 1) % 400 = 0 := by
      have century_eq := longer ends
      omega
    simp [Timestamp.isLeap, whole]
  · have inside : (100 * century + 4 * span + 3 + 400 * cycle + 1) % 100 ≠ 0 := by
      omega
    simp [Timestamp.isLeap, fourth, inside]

end Placed

/-! ## Months -/

/-- The month of a day of the year, counted from March. -/
def monthOfYear (day : Nat) : Nat := (5 * day + 2) / 153

/-- A month has the day that is left of a day of the year, the 366th in a leap year
only. -/
theorem day_le_daysInMonth {calendarYear : Nat} (day_le : day ≤ 365)
    (leap : day = 365 → isLeap calendarYear = true) :
    day - (153 * monthOfYear day + 2) / 5 + 1 ≤
      daysInMonth calendarYear
        (if monthOfYear day < 10 then monthOfYear day + 3
          else monthOfYear day - 9) := by
  generalize same : monthOfYear day = month
  unfold monthOfYear at same
  have month_le : month ≤ 11 := by omega
  match month, month_le with
  | 11, _ =>
      show _ ≤ if isLeap calendarYear then 29 else 28
      split
      · omega
      · have short : day ≠ 365 := fun last => absurd (leap last) (by assumption)
        omega
  | 0, _ | 1, _ | 2, _ | 3, _ | 4, _ | 5, _ | 6, _ | 7, _ | 8, _ | 9, _ | 10, _ =>
      simp only [daysInMonth, reduceIte, Nat.reduceLT, Nat.reduceAdd,
        Nat.reduceSub]
      omega

/-! ## Days since 1970 -/

/-- The cycle of a day and the place in it decide on its date. -/
theorem dayOfEpoch_eq {days : Int} {cycle : Nat}
    (placed : Placed dayOfCycle century span year day)
    (sum : days + 719468 = 146097 * cycle + dayOfCycle)
    (within : dayOfCycle < 146097) :
    dayOfEpoch days =
      let month := if monthOfYear day < 10 then monthOfYear day + 3
        else monthOfYear day - 9
      (100 * century + 4 * span + year + 400 * cycle +
          (if month ≤ 2 then 1 else 0), month,
        day - (153 * monthOfYear day + 2) / 5 + 1) := by
  have cycles : (days + 719468).fdiv 146097 = cycle := by
    rw [Int.fdiv_eq_ediv_of_nonneg _ (by decide)]
    omega
  have rest : (days + 719468 - cycle * 146097).toNat = dayOfCycle := by omega
  have years : ((100 * century + 4 * span + year : Nat) + (cycle : Int) *
      400).toNat = 100 * century + 4 * span + year + 400 * cycle := by omega
  unfold dayOfEpoch
  simp only [cycles, rest, placed.yearOfCycle, placed.dayOfYear, years]
  rfl

/-- From the first day of the year 1 to the last one of the year 9999, days since
1970 are days of the calendar. -/
theorem isDay_dayOfEpoch {days : Int} (early : -719162 ≤ days)
    (late : days ≤ 2932896) :
    isDay (dayOfEpoch days).1 (dayOfEpoch days).2.1 (dayOfEpoch days).2.2 =
      true := by
  obtain ⟨cycle, dayOfCycle, sum, within⟩ : ∃ cycle dayOfCycle : Nat,
      days + 719468 = 146097 * cycle + dayOfCycle ∧ dayOfCycle < 146097 :=
    ⟨((days + 719468) / 146097).toNat, ((days + 719468) % 146097).toNat,
      by omega, by omega⟩
  obtain ⟨century, span, year, day, placed⟩ := exists_placed within
  rw [dayOfEpoch_eq placed sum within]
  have day_le := placed.day_le
  have months : monthOfYear day ≤ 11 := by
    unfold monthOfYear
    omega
  -- January and February belong to the next year of the calendar.
  have next : (if monthOfYear day < 10 then monthOfYear day + 3
      else monthOfYear day - 9) ≤ 2 ↔ 306 ≤ day := by
    unfold monthOfYear
    split <;> omega
  have fits := @day_le_daysInMonth day
    (100 * century + 4 * span + year + 400 * cycle +
      (if 306 ≤ day then 1 else 0)) day_le
  simp only [isDay, next, Bool.and_eq_true, decide_eq_true_eq]
  have place := placed.sum
  have century_le := placed.century_le
  have span_le := placed.span_le
  have year_le := placed.year_le
  refine ⟨⟨⟨⟨⟨?_, ?_⟩, ?_⟩, ?_⟩, Nat.le_add_left 1 _⟩, fits ?_⟩
  · split <;> omega
  · split <;> omega
  · split <;> omega
  · split <;> omega
  · rintro rfl
    exact placed.isLeap cycle rfl

end Timestamp
end Audience
