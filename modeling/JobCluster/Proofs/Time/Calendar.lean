import JobCluster.Time.Instant
import Mathlib.Tactic.IntervalCases
import Mathlib.Tactic.Lemma
import Mathlib.Tactic.SplitIfs

/-!
# The calendar in both directions

The date of a day is a date (`civilFromDays_valid`), and it is the date of that day only
(`daysFromCivil_civilFromDays`). Both come from how a day is cut into an era of 400 years, a year, a
month and a day of the month, with years from March on (`civilFromDays_eq`).
-/

namespace JobCluster.Time

/-! ## Years of an era -/

/-- The days of an era before one of its years. -/
def daysBefore (y : Nat) : Nat := 365 * y + y / 4 - y / 100

/-- The days of an era up to one of them, less the leap days. -/
def plainDays (day : Nat) : Nat := day - day / 1460 + day / 36524 - day / 146096

/-- Whether the year from March on ends with a leap day. -/
def endsLeap (y : Nat) : Prop := (y + 1) % 4 = 0 ∧ ((y + 1) % 100 ≠ 0 ∨ y + 1 = 400)

instance (y : Nat) : Decidable (endsLeap y) := inferInstanceAs (Decidable (_ ∧ _))

/-- Later years begin later. -/
lemma plainDays_mono : Monotone plainDays := by
  refine monotone_nat_of_le_succ fun n => ?_
  simp only [plainDays]
  omega

/-- How many plain days lie before the first day of a year, and before the day before that. -/
lemma plainDays_daysBefore : ∀ y < 400,
    365 * y ≤ plainDays (daysBefore y) ∧ (0 < y → plainDays (daysBefore y - 1) < 365 * y) := by
  decide +kernel

/-- A year has 365 days, or 366 if it ends leap. -/
lemma daysBefore_succ : ∀ y < 399,
    daysBefore (y + 1) = daysBefore y + (if endsLeap y then 366 else 365) := by
  decide +kernel

/-- The year of a day of an era, and the days before it in that year. -/
lemma year_of_day {day : Nat} (lt : day < 146097) :
    plainDays day / 365 < 400 ∧ daysBefore (plainDays day / 365) ≤ day ∧
      day - daysBefore (plainDays day / 365) <
        if endsLeap (plainDays day / 365) then 366 else 365 := by
  have last : plainDays day ≤ plainDays 146096 := plainDays_mono (Nat.le_of_lt_succ lt)
  have full : plainDays 146096 = 145999 := rfl
  generalize e : plainDays day / 365 = y
  have below : y < 400 := by omega
  have low : 365 * y ≤ plainDays day := by omega
  have high : plainDays day < 365 * (y + 1) := by omega
  have from_start : daysBefore y ≤ day := by
    by_contra before
    have small := plainDays_mono (show day ≤ daysBefore y - 1 by omega)
    rcases Nat.eq_zero_or_pos y with rfl | pos
    · exact before (Nat.zero_le _)
    · have := (plainDays_daysBefore y below).2 pos
      omega
  refine ⟨below, from_start, ?_⟩
  -- the last year of an era has no next one to end before
  rcases Nat.lt_or_ge y 399 with inner | final
  · have next := daysBefore_succ y inner
    have ends : day < daysBefore (y + 1) := by
      by_contra after
      have large := plainDays_mono (Nat.le_of_not_lt after)
      have := (plainDays_daysBefore (y + 1) (by omega)).1
      omega
    omega
  · obtain rfl : y = 399 := by omega
    have first : daysBefore 399 = 145731 := rfl
    rw [if_pos (by decide)]
    omega

/-! ## Dates -/

/-- The date of a day of a year of an era. -/
def dateOf (era : Int) (y day : Nat) : Int × Nat × Nat :=
  let m := (5 * day + 2) / 153
  let month := if m < 10 then m + 3 else m - 9
  let year : Int := y + era * 400
  (if month ≤ 2 then year + 1 else year, month, day - (153 * m + 2) / 5 + 1)

/-- How a day is cut to find its date. -/
lemma civilFromDays_eq (days : Int) : ∃ (era : Int) (y day : Nat), y < 400 ∧
    day < (if endsLeap y then 366 else 365) ∧
    days + 719468 = era * 146097 + (daysBefore y + day : Nat) ∧
    civilFromDays days = dateOf era y day := by
  have cut := Int.fdiv_eq_ediv_of_nonneg (days + 719468) (show (0 : Int) ≤ 146097 by decide)
  have lt : ((days + 719468) - (days + 719468).fdiv 146097 * 146097).toNat < 146097 := by omega
  obtain ⟨below, before, inside⟩ := year_of_day lt
  refine ⟨(days + 719468).fdiv 146097, _, _, below, inside, ?_, rfl⟩
  omega

/-- The month of a day begins no later than the day. -/
lemma month_of_day {day : Nat} (lt : day < 366) :
    (5 * day + 2) / 153 < 12 ∧ (153 * ((5 * day + 2) / 153) + 2) / 5 ≤ day := by
  omega

/-- The date of a day is a date of that day. -/
theorem daysFromCivil_civilFromDays (days : Int) :
    daysFromCivil (civilFromDays days).1 (civilFromDays days).2.1 (civilFromDays days).2.2 =
      days := by
  obtain ⟨era, y, day, below, inside, cut, date⟩ := civilFromDays_eq days
  have short : day < 366 := by split_ifs at inside <;> omega
  obtain ⟨late, first⟩ := month_of_day short
  have backYear : ((y : Int) + era * 400).fdiv 400 = era := by
    rw [Int.fdiv_eq_ediv_of_nonneg _ (by decide)]
    omega
  rw [date, dateOf, daysFromCivil]
  generalize (5 * day + 2) / 153 = m at late first
  dsimp only
  have backMonth : ((if m < 10 then m + 3 else m - 9) + 9) % 12 = m := by split_ifs <;> omega
  have sameYear : (if (if m < 10 then m + 3 else m - 9) ≤ 2 then
      (if (if m < 10 then m + 3 else m - 9) ≤ 2 then (y : Int) + era * 400 + 1
        else (y : Int) + era * 400) - 1
      else if (if m < 10 then m + 3 else m - 9) ≤ 2 then (y : Int) + era * 400 + 1
        else (y : Int) + era * 400) = y + era * 400 := by
    split_ifs <;> omega
  rw [sameYear, backYear, backMonth]
  rw [daysBefore] at cut
  omega

/-- A year of the shifted calendar that ends leap does so in a leap year. -/
lemma isLeapYear_of_endsLeap {y : Nat} (leap : endsLeap y) (era : Int) :
    isLeapYear (y + era * 400 + 1) = true := by
  have fourth : ((y : Int) + era * 400 + 1) % 4 = 0 := by
    have := leap.1
    omega
  have century : ((y : Int) + era * 400 + 1) % 100 ≠ 0 ∨ ((y : Int) + era * 400 + 1) % 400 = 0 := by
    have := leap.2
    omega
  rw [isLeapYear, fourth]
  rcases century with other | full
  · rw [bne_iff_ne.2 other]
    rfl
  · rw [full, beq_self_eq_true, Bool.or_true]
    rfl

/-- The date of a day is a date. -/
theorem civilFromDays_valid (days : Int) :
    1 ≤ (civilFromDays days).2.1 ∧ (civilFromDays days).2.1 ≤ 12 ∧
      1 ≤ (civilFromDays days).2.2 ∧
      (civilFromDays days).2.2 ≤ daysInMonth (civilFromDays days).1 (civilFromDays days).2.1 := by
  obtain ⟨era, y, day, -, inside, -, date⟩ := civilFromDays_eq days
  have short : day < 366 := by split_ifs at inside <;> omega
  have leapDay : day = 365 → endsLeap y := by
    intro last
    by_contra plain
    rw [if_neg plain] at inside
    omega
  rw [date, dateOf]
  dsimp only
  have low : 153 * ((5 * day + 2) / 153) ≤ 5 * day + 2 := by omega
  have high : 5 * day + 2 < 153 * ((5 * day + 2) / 153) + 153 := by omega
  have late : (5 * day + 2) / 153 < 12 := (month_of_day short).1
  generalize (5 * day + 2) / 153 = m at low high late
  -- only February has a length that depends on the year
  by_cases february : m = 11
  · subst february
    change 1 ≤ 2 ∧ 2 ≤ 12 ∧ 1 ≤ day - 337 + 1 ∧
      day - 337 + 1 ≤ daysInMonth ((y : Int) + era * 400 + 1) 2
    rw [daysInMonth, if_pos rfl]
    by_cases last : day = 365
    · rw [isLeapYear_of_endsLeap (leapDay last), if_pos rfl]
      omega
    · split_ifs <;> omega
  · interval_cases m <;> simp [daysInMonth] at february ⊢ <;> omega

end JobCluster.Time
