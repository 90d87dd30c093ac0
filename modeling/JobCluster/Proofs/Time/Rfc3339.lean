import JobCluster.Time.Rfc3339
import JobCluster.Proofs.Text.Decimal
import JobCluster.Proofs.Time.Calendar

/-!
# Dates and times, written and read

An instant of the calendar (`Instant.Proper`) is read from what it is written as
(`readInstant_rfc3339`). Each part of the text is read up to the mark after it.
-/

namespace JobCluster.Time

open JobCluster.Text

/-! ## Numbers and marks -/

/-- No digit comes next. -/
def EndsDigits (r : List Char) : Prop := ∀ c ∈ r.head?, c.isDigit = false

/-- No digit is blank. -/
lemma isBlank_of_isDigit {c : Char} (digit : c.isDigit) : isBlank c = false := by
  have bounds := isDigit_iff.1 digit
  simp only [isBlank, Bool.or_eq_false_iff, Bool.and_eq_false_iff, decide_eq_false_iff_not,
    beq_eq_false_iff_ne]
  omega

/-- Nothing is trimmed before what is not blank. -/
lemma trimStart_cons {c : Char} (noBlank : isBlank c = false) (r : List Char) :
    trimStart (c :: r) = c :: r := by
  rw [trimStart, List.dropWhile_cons_of_neg (by rw [noBlank]; decide)]

/-- Digits are taken up to what is no digit. -/
lemma takeWhile_digits {ds r : List Char} (digits : ∀ c ∈ ds, c.isDigit) (ends : EndsDigits r) :
    (ds ++ r).takeWhile Char.isDigit = ds := by
  rw [List.takeWhile_append_of_pos digits]
  cases r with
  | nil => rw [List.takeWhile_nil, List.append_nil]
  | cons c r => rw [List.takeWhile_cons_of_neg (by rw [ends c rfl]; decide), List.append_nil]

/-- Digits are taken up to where they end, or to the most that may be taken. -/
lemma takeWhile_take_digits {ds r : List Char} {most : Nat} (digits : ∀ c ∈ ds, c.isDigit)
    (short : ds.length ≤ most) (ends : ds.length = most ∨ EndsDigits r) :
    ((ds ++ r).take most).takeWhile Char.isDigit = ds := by
  rw [List.take_append, List.take_of_length_le short]
  refine takeWhile_digits digits ?_
  rcases ends with full | ends
  · rw [full, Nat.sub_self, List.take_zero]
    exact fun _ mem => by cases mem
  · intro c mem
    refine ends c ?_
    cases r with
    | nil => rw [List.take_nil] at mem; exact mem
    | cons d r =>
      cases le : most - ds.length with
      | zero => rw [le] at mem; cases mem
      | succ k => rw [le, List.take_succ_cons] at mem; exact mem

/-- A number is taken up to its most digits, or up to what is no digit. -/
lemma takeNumber_digits {ds r : List Char} {most n : Nat} (read : readDigits ds = some n)
    (short : ds.length ≤ most) (ends : ds.length = most ∨ EndsDigits r) :
    takeNumber most (ds ++ r) = some (n, r) := by
  have digits := (readDigits_eq_some.1 read).2.1
  rw [takeNumber, takeWhile_take_digits digits short ends, read, List.drop_left]
  rfl

/-- A field of two digits is read as it was written. -/
lemma takeField_padded {n : Nat} (lt : n < 100) (r : List Char) :
    takeField 2 ((padded 2 n).toList ++ r) = some (n, r) := by
  have length := length_padded (by decide : 0 < 2) lt
  have front : trimStart ((padded 2 n).toList ++ r) = (padded 2 n).toList ++ r := by
    obtain ⟨c, cs, e⟩ := List.exists_cons_of_ne_nil (padded_ne_nil 2 n)
    have digit : c.isDigit := isDigit_of_mem_padded (e ▸ List.mem_cons_self)
    rw [e, List.cons_append, trimStart_cons (isBlank_of_isDigit digit)]
  rw [takeField, front, takeNumber_digits (readDigits_padded 2 n) length.le (.inl length)]

/-- A mark is taken where it stands. -/
lemma takeMark_self {mark : Char} (noBlank : isBlank mark = false) (r : List Char) :
    takeMark mark (mark :: r) = some r := by
  rw [takeMark, trimStart_cons noBlank]
  exact if_pos rfl

/-! ## Years and decimals -/

/-- A year is read as it was written, with its sign if it has one. -/
lemma takeYear_yearText (y : Int) (r : List Char) :
    takeYear ((yearText y).toList ++ '-' :: r) = some (y, '-' :: r) := by
  have ends : EndsDigits ('-' :: r) := by
    rintro c ⟨⟩
    rfl
  have all (n : Nat) : takeNumber ((padded 4 n).toList ++ '-' :: r).length
      ((padded 4 n).toList ++ '-' :: r) = some (n, '-' :: r) :=
    takeNumber_digits (readDigits_padded 4 n)
      (by rw [List.length_append]; exact Nat.le_add_right _ _) (.inr ends)
  rw [yearText]
  -- four digits are read alone, more of them and those before the era with a sign
  split_ifs with four past
  · have length := length_padded (by decide : 0 < 4) (show y.toNat < 10 ^ 4 by omega)
    have taken := takeNumber_digits (readDigits_padded 4 y.toNat) length.le (.inr ends)
    obtain ⟨c, cs, e⟩ := List.exists_cons_of_ne_nil (padded_ne_nil 4 y.toNat)
    have digit : c.isDigit := isDigit_of_mem_padded (e ▸ List.mem_cons_self)
    rw [e, List.cons_append] at taken ⊢
    rw [takeYear, trimStart_cons (isBlank_of_isDigit digit)]
    split
    next e => cases e; exact absurd digit (by decide)
    next e => cases e; exact absurd digit (by decide)
    next =>
      rw [taken]
      exact congrArg (fun n : Int => some (n, '-' :: r)) (Int.toNat_of_nonneg four.1)
  · rw [String.toList_append]
    change takeYear ('-' :: ((padded 4 y.natAbs).toList ++ '-' :: r)) = _
    rw [takeYear, trimStart_cons (by decide)]
    split
    next e =>
      rw [← (List.cons.inj e).2, all]
      exact congrArg (fun n : Int => some (n, '-' :: r)) (by omega)
    next e => exact absurd (List.cons.inj e).1 (by decide)
    next minus _ => exact absurd rfl (minus _)
  · rw [String.toList_append]
    change takeYear ('+' :: ((padded 4 y.natAbs).toList ++ '-' :: r)) = _
    rw [takeYear, trimStart_cons (by decide)]
    split
    next e => exact absurd (List.cons.inj e).1 (by decide)
    next e =>
      rw [← (List.cons.inj e).2, all]
      exact congrArg (fun n : Int => some (n, '-' :: r)) (by omega)
    next _ plus => exact absurd rfl (plus _)

/-- Decimals are read as nanoseconds, however many there are. -/
lemma takeDecimals_point {width n : Nat} (pos : 0 < width) (short : width ≤ 9)
    (lt : n < 10 ^ width) (r : List Char) :
    takeDecimals (("." ++ padded width n).toList ++ 'Z' :: r) =
      some (n * 10 ^ (9 - width), 'Z' :: r) := by
  have ends : EndsDigits ('Z' :: r) := by
    rintro c ⟨⟩
    rfl
  have length := length_padded pos lt
  rw [String.toList_append]
  change takeDecimals ('.' :: ((padded width n).toList ++ 'Z' :: r)) = _
  rw [takeDecimals, takeWhile_take_digits (fun _ => isDigit_of_mem_padded) (by omega) (.inr ends),
    readDigits_padded, List.drop_left, length]
  rfl

/-- The decimals that are written for nanoseconds are read as those. -/
lemma takeDecimals_decimals {nanos : Nat} (lt : nanos < nanosPerSecond) (r : List Char) :
    takeDecimals ((decimals nanos).toList ++ 'Z' :: r) = some (nanos, 'Z' :: r) := by
  rw [nanosPerSecond] at lt
  rw [decimals]
  split_ifs with none milli micro
  · rw [none]
    rfl
  · rw [takeDecimals_point (by decide) (by decide) (by omega)]
    exact congrArg (fun n => some (n, 'Z' :: r)) (by omega)
  · rw [takeDecimals_point (by decide) (by decide) (by omega)]
    exact congrArg (fun n => some (n, 'Z' :: r)) (by omega)
  · rw [takeDecimals_point (by decide) (by decide) (by omega)]
    exact congrArg (fun n => some (n, 'Z' :: r)) (by omega)

/-! ## Instants -/

/-- The year of an instant. -/
def Instant.year (i : Instant) : Int := (civilFromDays (i.seconds.fdiv secondsPerDay)).1

/-- An instant as calendars have it: a year in their range, and more than the nanoseconds of a
second only in the last second of a minute. -/
structure Instant.Proper (i : Instant) : Prop where
  notBefore : -yearLimit - 1 ≤ i.year
  notAfter : i.year ≤ yearLimit
  nanos : i.nanos < 2 * nanosPerSecond
  leap : nanosPerSecond ≤ i.nanos → i.seconds % 60 = 59

instance (i : Instant) : Decidable i.Proper :=
  decidable_of_iff (-yearLimit - 1 ≤ i.year ∧ i.year ≤ yearLimit ∧ i.nanos < 2 * nanosPerSecond ∧
      (nanosPerSecond ≤ i.nanos → i.seconds % 60 = 59))
    ⟨fun ⟨a, b, c, d⟩ => ⟨a, b, c, d⟩, fun h => ⟨h.1, h.2, h.3, h.4⟩⟩

/-- The second of a minute is written as 60 in a leap second only, which stands for 59. -/
lemma Instant.Proper.second {i : Instant} (proper : i.Proper) {s t : Nat}
    (clock : (s : Int) = i.seconds.fmod secondsPerDay)
    (second : t = s % 60 + if nanosPerSecond ≤ i.nanos then 1 else 0) :
    t ≤ 60 ∧ (t = 60 ↔ nanosPerSecond ≤ i.nanos) ∧ (if t = 60 then 59 else t) = s % 60 := by
  have leap := proper.leap
  rw [Int.fmod_eq_emod_of_nonneg _ (by decide), secondsPerDay] at clock
  by_cases le : nanosPerSecond ≤ i.nanos
  · have last := leap le
    rw [if_pos le] at second
    have full : t = 60 := by omega
    rw [if_pos full]
    exact ⟨full.le, iff_of_true full le, by omega⟩
  · rw [if_neg le] at second
    have short : t ≠ 60 := by omega
    rw [if_neg short]
    exact ⟨by omega, iff_of_false short le, second⟩

/-- One step of a reader that succeeds is followed by the next. -/
lemma bind_of_eq_some {α β : Type} {o : Option α} {a : α} {f : α → Option β} {r : Option β}
    (some : o = some a) (next : f a = r) : o >>= f = r := by
  rw [some]
  exact next

/-- The parts of a text are read, and what they are is left to check. -/
lemma readInstant_parts {month day hour minute second nanos : Nat} (year : Int)
    (month_lt : month < 100) (day_lt : day < 100) (hour_le : hour ≤ 23) (minute_le : minute ≤ 59)
    (second_le : second ≤ 60) (nanos_lt : nanos < nanosPerSecond)
    (date : isDate year month day) :
    readInstant (yearText year ++ "-" ++ padded 2 month ++ "-" ++ padded 2 day ++ "T" ++
        (padded 2 hour ++ ":" ++ padded 2 minute ++ ":" ++ padded 2 second ++ decimals nanos) ++
        "Z") =
      (let seconds := daysFromCivil year month day * secondsPerDay +
        (hour * 3600 + minute * 60 + (if second = 60 then 59 else second : Nat))
      let utcYear := (civilFromDays (seconds.fdiv secondsPerDay)).1
      if utcYear < -yearLimit - 1 ∨ yearLimit < utcYear then none
      else some ⟨seconds, nanos + if second = 60 then nanosPerSecond else 0⟩) := by
  have text : (yearText year ++ "-" ++ padded 2 month ++ "-" ++ padded 2 day ++ "T" ++
      (padded 2 hour ++ ":" ++ padded 2 minute ++ ":" ++ padded 2 second ++ decimals nanos) ++
      "Z").toList =
      (yearText year).toList ++ '-' :: ((padded 2 month).toList ++ '-' :: ((padded 2 day).toList ++
        'T' :: ((padded 2 hour).toList ++ ':' :: ((padded 2 minute).toList ++ ':' ::
          ((padded 2 second).toList ++ ((decimals nanos).toList ++ 'Z' :: [])))))) := by
    simp
  have zone : takeZone (trimStart ['Z']) = some (0, []) := by decide
  have checks : (!isDate year month day || decide (23 < hour) || decide (59 < minute) ||
      decide (60 < second)) = false := by
    simp only [date, Bool.not_true, Bool.or_eq_false_iff, decide_eq_false_iff_not]
    exact ⟨⟨⟨trivial, by omega⟩, by omega⟩, by omega⟩
  -- one step of the reader for each part of the text
  rw [readInstant, text]
  refine bind_of_eq_some (takeYear_yearText _ _) ?_
  refine bind_of_eq_some (takeMark_self (by decide) _) ?_
  refine bind_of_eq_some (takeField_padded month_lt _) ?_
  refine bind_of_eq_some (takeMark_self (by decide) _) ?_
  refine bind_of_eq_some (takeField_padded day_lt _) ?_
  refine (if_pos (.inl rfl)).trans (bind_of_eq_some rfl ?_)
  refine bind_of_eq_some (takeField_padded (by omega) _) ?_
  refine bind_of_eq_some (takeMark_self (by decide) _) ?_
  refine bind_of_eq_some (takeField_padded (by omega) _) ?_
  refine bind_of_eq_some (takeMark_self (by decide) _) ?_
  refine bind_of_eq_some (takeField_padded (by omega) _) ?_
  refine bind_of_eq_some (takeDecimals_decimals nanos_lt _) ?_
  refine bind_of_eq_some zone ?_
  refine (if_neg (by decide)).trans ?_
  refine (if_neg (by rw [checks]; decide)).trans ?_
  refine (if_neg (by decide)).trans ?_
  dsimp only
  rw [sub_zero]
  rfl

/-- An instant is read from its text. -/
theorem readInstant_rfc3339 {i : Instant} (proper : i.Proper) :
    readInstant (rfc3339 i) = some i := by
  have day := daysFromCivil_civilFromDays (i.seconds.fdiv secondsPerDay)
  obtain ⟨monthPos, monthLe, dayPos, dayLe⟩ :=
    civilFromDays_valid (i.seconds.fdiv secondsPerDay)
  have notBefore := proper.notBefore
  have notAfter := proper.notAfter
  rw [Instant.year] at notBefore notAfter
  -- the seconds of the day, counted from its start also before the epoch
  obtain ⟨s, clock⟩ : ∃ s : Nat, (s : Int) = i.seconds.fmod secondsPerDay :=
    ⟨_, Int.toNat_of_nonneg (Int.fmod_nonneg_of_pos _ (by decide))⟩
  have whole : i.seconds.fdiv secondsPerDay * secondsPerDay + s = i.seconds := by
    rw [clock]
    exact Int.fdiv_mul_add_fmod _ _
  have lt : s < 86400 := by
    have := Int.fmod_lt_of_pos i.seconds (show (0 : Int) < secondsPerDay by decide)
    rw [secondsPerDay] at clock this
    omega
  rw [rfc3339, dateText, clockText, ← clock, Int.toNat_natCast]
  obtain ⟨secondLe, secondLeap, second⟩ := proper.second clock rfl
  rcases date : civilFromDays (i.seconds.fdiv secondsPerDay) with ⟨y, m, d⟩
  rw [date] at day monthPos monthLe dayPos dayLe notBefore notAfter
  dsimp only at day monthPos monthLe dayPos dayLe notBefore notAfter ⊢
  have dayLt : d < 100 := dayLe.trans_lt (by rw [daysInMonth]; split_ifs <;> decide)
  have isDate : isDate y m d := by
    simp only [isDate, Bool.and_eq_true, decide_eq_true_eq]
    exact ⟨⟨⟨notBefore, notAfter⟩, monthPos, monthLe⟩, dayPos, dayLe⟩
  rw [readInstant_parts y (by omega) dayLt (by omega) (by omega) secondLe
    (Nat.mod_lt _ (by decide)) isDate, day, second]
  have seconds : i.seconds.fdiv secondsPerDay * secondsPerDay +
      (((s / 3600 : Nat) : Int) * 3600 + ((s / 60 % 60 : Nat) : Int) * 60 + (s % 60 : Nat)) =
        i.seconds := by
    omega
  dsimp only
  rw [seconds, date, if_neg (by dsimp only; omega), Option.some_inj]
  simp only [secondLeap]
  have nanos := proper.nanos
  rw [nanosPerSecond] at nanos ⊢
  congr 1
  split_ifs <;> omega

end JobCluster.Time
