import Mathlib.Data.Nat.Digits.Defs
import Mathlib.Data.String.Basic
import Mathlib.Tactic.Ring

/-!
# Instants as ISO texts

An instant is a number of milliseconds since the first of January 1970.  Its
text names the date in the Gregorian calendar and the time in UTC; the text
determines the instant.  Years count from March here, so that a leap day is
the last day of its year.
-/

namespace IsoDates

/-! ## Days and dates -/

/-- A date of the calendar. -/
structure Date where
  year : Int
  month : Nat
  day : Nat
  deriving Repr, DecidableEq

/-- The days of an era of 400 years before one of its years. -/
def yearStart (year : Nat) : Nat :=
  365 * year + year / 4 - year / 100 + year / 400

/-- The year of an era that a day of the era is in. -/
def yearOfEra (dayOfEra : Nat) : Nat :=
  if yearStart (dayOfEra / 365) ≤ dayOfEra then dayOfEra / 365
  else dayOfEra / 365 - 1

/-- The days of a year before one of its months, counted from March. -/
def monthStart (month : Nat) : Nat :=
  (153 * month + 2) / 5

/-- The month, counted from March, of a day of the year. -/
def monthOfYear (dayOfYear : Nat) : Nat :=
  (5 * dayOfYear + 2) / 153

/-- The date of a day of a year of an era. -/
def dateOfYear (era : Int) (year dayOfYear : Nat) : Date :=
  let month := monthOfYear dayOfYear
  { year := 400 * era + year + if month < 10 then 0 else 1
    month := if month < 10 then month + 3 else month - 9
    day := dayOfYear - monthStart month + 1 }

/-- The date of a day, counted from the first of March of the year 0. -/
def dateOfDay (days : Int) : Date :=
  let dayOfEra := (days % 146097).toNat
  let year := yearOfEra dayOfEra
  dateOfYear (days / 146097) year (dayOfEra - yearStart year)

/-- The day of a date, counted from the first of March of the year 0. -/
def dayOfDate (date : Date) : Int :=
  let year := if date.month < 3 then date.year - 1 else date.year
  let month := if date.month < 3 then date.month + 9 else date.month - 3
  146097 * (year / 400) + yearStart (year % 400).toNat +
    monthStart month + (date.day - 1)

section Days

variable {year dayOfEra dayOfYear : Nat} {era days : Int}

/-- A year has at most 366 days. -/
theorem yearStart_succ : yearStart (year + 1) ≤ yearStart year + 366 := by
  have centuries : year / 100 = year / 4 / 25 := by omega
  have eras : year / 400 = year / 4 / 25 / 4 := by omega
  have nextCenturies : (year + 1) / 100 = (year + 1) / 4 / 25 := by omega
  have nextEras : (year + 1) / 400 = (year + 1) / 4 / 25 / 4 := by omega
  have nextLeap :
      (year + 1) / 4 = year / 4 ∨ (year + 1) / 4 = year / 4 + 1 := by
    omega
  unfold yearStart
  rw [centuries, eras, nextCenturies, nextEras]
  rcases nextLeap with same | more
  · rw [same]
    omega
  · have nextCentury :
        (year / 4 + 1) / 25 = year / 4 / 25 ∨
          (year / 4 + 1) / 25 = year / 4 / 25 + 1 := by
      omega
    rw [more]
    rcases nextCentury with sameCentury | moreCentury
    · rw [sameCentury]
      omega
    · rw [moreCentury]
      omega

/-- The year of an era is the one that the day is in. -/
theorem yearOfEra_bounds (small : dayOfEra < 146097) :
    yearOfEra dayOfEra < 400 ∧
      yearStart (yearOfEra dayOfEra) ≤ dayOfEra ∧
      dayOfEra - yearStart (yearOfEra dayOfEra) < 366 := by
  unfold yearOfEra
  by_cases starts : yearStart (dayOfEra / 365) ≤ dayOfEra
  · rw [if_pos starts]
    unfold yearStart at starts ⊢
    omega
  · rw [if_neg starts]
    have some : 1 ≤ dayOfEra / 365 := by
      by_contra none
      have isZero : dayOfEra / 365 = 0 := by omega
      rw [isZero] at starts
      exact starts (Nat.zero_le _)
    have next := @yearStart_succ (dayOfEra / 365 - 1)
    rw [Nat.sub_add_cancel some] at next
    refine ⟨by omega, ?_, by omega⟩
    unfold yearStart
    omega

/-- The month of a year is the one that the day is in. -/
theorem monthOfYear_bounds (small : dayOfYear < 366) :
    monthOfYear dayOfYear < 12 ∧
      monthStart (monthOfYear dayOfYear) ≤ dayOfYear ∧
      dayOfYear - monthStart (monthOfYear dayOfYear) < 31 := by
  unfold monthOfYear monthStart
  omega

/-- A date has a month and a day of the month. -/
theorem dateOfDay_bounds :
    (dateOfDay days).month ≤ 12 ∧ (dateOfDay days).day ≤ 31 := by
  have small : (days % 146097).toNat < 146097 := by omega
  obtain ⟨_, _, fewDays⟩ := yearOfEra_bounds small
  obtain ⟨fewMonths, _, short⟩ := monthOfYear_bounds fewDays
  simp only [dateOfDay, dateOfYear]
  refine ⟨?_, by omega⟩
  split <;> omega

/-- A date in a year of an era determines its day. -/
theorem dayOfDate_dateOfYear
    (fewYears : year < 400)
    (fewDays : dayOfYear < 366) :
    dayOfDate (dateOfYear era year dayOfYear) =
      146097 * era + yearStart year + dayOfYear := by
  obtain ⟨fewMonths, monthStarts, _⟩ := monthOfYear_bounds fewDays
  have isEra : (400 * era + (year : Int)) / 400 = era := by omega
  have isYear : ((400 * era + (year : Int)) % 400).toNat = year := by
    omega
  unfold dayOfDate dateOfYear
  by_cases early : monthOfYear dayOfYear < 10
  · have notBefore : ¬ monthOfYear dayOfYear + 3 < 3 := by omega
    simp only [if_pos early, if_neg notBefore, add_zero, isEra, isYear,
      Nat.add_sub_cancel]
    omega
  · have isBefore : monthOfYear dayOfYear - 9 < 3 := by omega
    have isMonth :
        monthOfYear dayOfYear - 9 + 9 = monthOfYear dayOfYear := by
      omega
    simp only [if_neg early, if_pos isBefore, add_sub_cancel_right, isEra,
      isYear, isMonth]
    omega

/-- A date determines its day. -/
theorem dayOfDate_dateOfDay : dayOfDate (dateOfDay days) = days := by
  have small : (days % 146097).toNat < 146097 := by omega
  obtain ⟨fewYears, yearStarts, fewDays⟩ := yearOfEra_bounds small
  rw [dateOfDay, dayOfDate_dateOfYear fewYears fewDays]
  omega

end Days

/-! ## Padded numbers -/

/-- A number with zeros in front of it. -/
def padded (width count : Nat) : List Char :=
  List.replicate (width - (Nat.toDigits 10 count).length) '0' ++
    Nat.toDigits 10 count

section Padding

variable {width count other : Nat} {rest others : List Char}

/-- Zeros in front do not change a number. -/
theorem ofDigitChars_padded :
    Nat.ofDigitChars 10 (padded width count) 0 = count := by
  rw [padded, Nat.ofDigitChars_append, Nat.ofDigitChars_replicate_zero,
    Nat.mul_zero, Nat.ofDigitChars_ten_toDigits]

theorem padded_injective (same : padded width count = padded width other) :
    count = other := by
  rw [← @ofDigitChars_padded width count, same, ofDigitChars_padded]

theorem length_padded (small : count < 10 ^ width) (some : 0 < width) :
    (padded width count).length = width := by
  have short : (Nat.toDigits 10 count).length ≤ width :=
    (Nat.length_toDigits_le_iff (by decide) some).mpr small
  rw [padded, List.length_append, List.length_replicate]
  omega

/-- A padded number begins with a digit. -/
theorem padded_head :
    ∃ first later, padded width count = first :: later ∧
      first.isDigit = true := by
  have areDigits :
      ∀ character ∈ padded width count, character.isDigit = true := by
    intro character member
    rcases List.mem_append.mp member with isZero | isDigit
    · rw [(List.mem_replicate.mp isZero).2]
      rfl
    · exact Nat.isDigit_of_mem_toDigits (by decide) (by decide) isDigit
  rcases shape : padded width count with _ | ⟨first, later⟩
  · rw [padded, List.append_eq_nil_iff] at shape
    exact absurd shape.2 Nat.toDigits_ne_nil
  · refine ⟨first, later, rfl, areDigits first ?_⟩
    rw [shape]
    exact List.mem_cons_self

/-- Numbers of one width are read off one after the other. -/
theorem padded_cancel
    (some : 0 < width)
    (small : count < 10 ^ width)
    (otherSmall : other < 10 ^ width)
    (same : padded width count ++ rest = padded width other ++ others) :
    count = other ∧ rest = others := by
  obtain ⟨sameNumber, sameRest⟩ :=
    List.append_inj same
      ((length_padded small some).trans
        (length_padded otherSmall some).symm)
  exact ⟨padded_injective sameNumber, sameRest⟩

end Padding

/-! ## Texts -/

/-- A year, with a sign when it does not have four digits. -/
def yearText (year : Int) : List Char :=
  if 0 ≤ year ∧ year ≤ 9999 then padded 4 year.toNat
  else (if year < 0 then '-' else '+') :: padded 6 year.natAbs

/-- A month and a day, and the milliseconds of the day. -/
def restText (month day milliseconds : Nat) : List Char :=
  '-' :: padded 2 month ++ '-' :: padded 2 day ++
    'T' :: padded 2 (milliseconds / 3600000) ++
    ':' :: padded 2 (milliseconds / 60000 % 60) ++
    ':' :: padded 2 (milliseconds / 1000 % 60) ++
    '.' :: padded 3 (milliseconds % 1000) ++ ['Z']

/-- `new Date(instant).toISOString()`. -/
def toISOString (instant : Int) : String :=
  let date := dateOfDay (instant / 86400000 + 719468)
  String.ofList
    (yearText date.year ++
      restText date.month date.day (instant % 86400000).toNat)

example : toISOString 951782400000 = "2000-02-29T00:00:00.000Z" := by
  decide +kernel

section Texts

variable {year otherYear : Int}
  {month day milliseconds otherMonth otherDay otherMilliseconds : Nat}

/-- A year is determined by its text. -/
theorem yearText_injective (same : yearText year = yearText otherYear) :
    year = otherYear := by
  unfold yearText at same
  obtain ⟨first, later, isFirst, isDigit⟩ := @padded_head 4 year.toNat
  obtain ⟨otherFirst, otherLater, isOtherFirst, isOtherDigit⟩ :=
    @padded_head 4 otherYear.toNat
  by_cases plain : 0 ≤ year ∧ year ≤ 9999
  · by_cases otherPlain : 0 ≤ otherYear ∧ otherYear ≤ 9999
    · rw [if_pos plain, if_pos otherPlain] at same
      have sameYear := padded_injective same
      omega
    · rw [if_pos plain, if_neg otherPlain, isFirst] at same
      rw [(List.cons.inj same).1] at isDigit
      split at isDigit <;> simp at isDigit
  · by_cases otherPlain : 0 ≤ otherYear ∧ otherYear ≤ 9999
    · rw [if_neg plain, if_pos otherPlain, isOtherFirst] at same
      rw [← (List.cons.inj same).1] at isOtherDigit
      split at isOtherDigit <;> simp at isOtherDigit
    · rw [if_neg plain, if_neg otherPlain] at same
      obtain ⟨sameSign, sameDigits⟩ := List.cons.inj same
      have sameSize := padded_injective sameDigits
      by_cases negative : year < 0
      · by_cases otherNegative : otherYear < 0
        · omega
        · simp [negative, otherNegative] at sameSign
      · by_cases otherNegative : otherYear < 0
        · simp [negative, otherNegative] at sameSign
        · omega

theorem length_restText
    (fewMonths : month ≤ 12)
    (fewDays : day ≤ 31)
    (inDay : milliseconds < 86400000) :
    (restText month day milliseconds).length = 20 := by
  simp only [restText, List.cons_append, List.append_assoc,
    List.length_cons, List.length_append, List.length_nil]
  rw [length_padded (by omega) (by decide),
    length_padded (by omega) (by decide),
    length_padded (by omega) (by decide),
    length_padded (by omega) (by decide),
    length_padded (by omega) (by decide),
    length_padded (by omega) (by decide)]

/-- A month, a day and a time of day are determined by their text. -/
theorem restText_injective
    (fewMonths : month ≤ 12)
    (fewDays : day ≤ 31)
    (inDay : milliseconds < 86400000)
    (otherFewMonths : otherMonth ≤ 12)
    (otherFewDays : otherDay ≤ 31)
    (otherInDay : otherMilliseconds < 86400000)
    (same :
      restText month day milliseconds =
        restText otherMonth otherDay otherMilliseconds) :
    month = otherMonth ∧ day = otherDay ∧
      milliseconds = otherMilliseconds := by
  simp only [restText, List.cons_append, List.append_assoc,
    List.cons.injEq, true_and] at same
  obtain ⟨sameMonth, afterMonth⟩ :=
    padded_cancel (by decide) (by omega) (by omega) same
  obtain ⟨sameDay, afterDay⟩ :=
    padded_cancel (by decide) (by omega) (by omega)
      (List.cons.inj afterMonth).2
  obtain ⟨sameHour, afterHour⟩ :=
    padded_cancel (by decide) (by omega) (by omega)
      (List.cons.inj afterDay).2
  obtain ⟨sameMinute, afterMinute⟩ :=
    padded_cancel (by decide) (by omega) (by omega)
      (List.cons.inj afterHour).2
  obtain ⟨sameSecond, afterSecond⟩ :=
    padded_cancel (by decide) (by omega) (by omega)
      (List.cons.inj afterMinute).2
  obtain ⟨sameMillisecond, _⟩ :=
    padded_cancel (by decide) (by omega) (by omega)
      (List.cons.inj afterSecond).2
  refine ⟨sameMonth, sameDay, ?_⟩
  omega

/-- An instant is determined by its text. -/
theorem toISOString_injective : Function.Injective toISOString := by
  intro instant other same
  have sameText := String.ofList_injective same
  obtain ⟨fewMonths, fewDays⟩ :=
    @dateOfDay_bounds (instant / 86400000 + 719468)
  obtain ⟨otherFewMonths, otherFewDays⟩ :=
    @dateOfDay_bounds (other / 86400000 + 719468)
  have inDay : (instant % 86400000).toNat < 86400000 := by omega
  have otherInDay : (other % 86400000).toNat < 86400000 := by omega
  obtain ⟨sameYear, sameRest⟩ :=
    List.append_inj' sameText
      ((length_restText fewMonths fewDays inDay).trans
        (length_restText otherFewMonths otherFewDays otherInDay).symm)
  obtain ⟨sameMonth, sameDay, sameTime⟩ :=
    restText_injective fewMonths fewDays inDay otherFewMonths otherFewDays
      otherInDay sameRest
  have sameDate :
      dateOfDay (instant / 86400000 + 719468) =
        dateOfDay (other / 86400000 + 719468) := by
    have isYear := yearText_injective sameYear
    generalize dateOfDay (instant / 86400000 + 719468) = date at *
    generalize dateOfDay (other / 86400000 + 719468) = otherDate at *
    cases date
    cases otherDate
    cases isYear
    cases sameMonth
    cases sameDay
    rfl
  have sameDays := congrArg dayOfDate sameDate
  rw [dayOfDate_dateOfDay, dayOfDate_dateOfDay] at sameDays
  omega

end Texts

end IsoDates
