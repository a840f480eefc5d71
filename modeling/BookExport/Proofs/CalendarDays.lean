import BookExport.Timestamp
import Mathlib.Order.Monotone.Basic
import Mathlib.Order.Nat
import Mathlib.Tactic.IntervalCases

/-! Days and dates. Every day has a date that exists, and the date's day is that day. -/

namespace BookExport.Proofs.CalendarDays

/-- The year of an era in which a day is. -/
def yearOf (day : Nat) : Nat := (day - day / 1460 + day / 36524 - day / 146096) / 365

/-- The days of an era before a year. -/
def daysBefore (year : Nat) : Nat := 365 * year + year / 4 - year / 100 + year / 400

private theorem yearOf_mono : Monotone yearOf := by
  apply monotone_nat_of_le_succ
  intro day
  have olympiads : (day + 1) / 1460 ≤ day / 1460 + 1 := by omega
  have centuries : day / 36524 ≤ (day + 1) / 36524 := by omega
  have eras : (day + 1) / 146096 ≤ day / 146096 + ((day + 1) / 36524 - day / 36524) := by
    rw [show 146096 = 36524 * 4 from rfl, ← Nat.div_div_eq_div_mul, ← Nat.div_div_eq_div_mul]
    omega
  have small : day / 146096 ≤ day / 36524 := by omega
  exact Nat.div_le_div_right (by omega)

theorem yearOf_daysBefore :
    ∀ year < 400, yearOf (daysBefore year) = year ∧ yearOf (daysBefore (year + 1) - 1) = year := by
  decide +kernel

private theorem daysBefore_yearOf {day : Nat} (inside : day < 146097) :
    yearOf day < 400 ∧ daysBefore (yearOf day) ≤ day ∧ day < daysBefore (yearOf day + 1) := by
  have bound : yearOf day < 400 := by unfold yearOf; omega
  refine ⟨bound, ?_, ?_⟩
  · by_contra early
    obtain ⟨year, next⟩ : ∃ year, yearOf day = year + 1 := Nat.exists_eq_succ_of_ne_zero fun first => by
      simp [first, daysBefore] at early
    rw [next] at early bound
    have behind := yearOf_mono (show day ≤ daysBefore (year + 1) - 1 by omega)
    rw [(yearOf_daysBefore year (by omega)).2] at behind
    omega
  · by_contra late
    by_cases last : yearOf day + 1 = 400
    · rw [last] at late
      exact late inside
    · have ahead := yearOf_mono (Nat.not_lt.mp late)
      rw [(yearOf_daysBefore (yearOf day + 1) (by omega)).1] at ahead
      omega

/-- A year from March on ends with the leap day of the next one. -/
private theorem daysBefore_succ :
    ∀ year < 400, daysBefore (year + 1) = daysBefore year + if Date.isLeapYear (year + 1 : Nat) then 366 else 365 := by
  decide +kernel

/-- The day of a year from March on, as a date of that year. -/
def dateOf (year : Int) (inYear : Nat) : Date :=
  let fromMarch := (5 * inYear + 2) / 153
  let month := if fromMarch < 10 then fromMarch + 3 else fromMarch - 9
  ⟨year + (if month ≤ 2 then 1 else 0), month, inYear - (153 * fromMarch + 2) / 5 + 1⟩

/-- The date of a day, by its era, its year in the era and its day in the year. -/
theorem ofDays_eq (days : Int) : ∃ (era : Int) (year inYear : Nat), year < 400 ∧
    days + 719468 = era * 146097 + (daysBefore year + inYear : Nat) ∧
    inYear < (if Date.isLeapYear (year + 1 : Nat) then 366 else 365) ∧
    Date.ofDays days = dateOf (year + era * 400) inYear := by
  obtain ⟨day, same⟩ : ∃ day : Nat, (days + 719468) % 146097 = day :=
    ⟨((days + 719468) % 146097).toNat, by omega⟩
  have inside : day < 146097 := by omega
  obtain ⟨bound, starts, ends⟩ := daysBefore_yearOf inside
  have length := daysBefore_succ (yearOf day) bound
  refine ⟨(days + 719468) / 146097, yearOf day, day - daysBefore (yearOf day), bound, by omega, by omega, ?_⟩
  have year : ((day : Int) - day / 1460 + day / 36524 - day / 146096) / 365 = yearOf day := by
    unfold yearOf
    omega
  have before : 365 * (yearOf day : Int) + yearOf day / 4 - yearOf day / 100 = daysBefore (yearOf day) := by
    unfold daysBefore
    omega
  have rest : (day : Int) - daysBefore (yearOf day) = (day - daysBefore (yearOf day) : Nat) := by omega
  have short : day - daysBefore (yearOf day) < 366 := by
    split at length <;> omega
  simp only [Date.ofDays, same, year, before, rest]
  generalize day - daysBefore (yearOf day) = inYear at short
  have march : (5 * (inYear : Int) + 2) / 153 = ((5 * inYear + 2) / 153 : Nat) := by omega
  have months : (5 * inYear + 2) / 153 ≤ 11 := by omega
  simp only [march, dateOf, Date.mk.injEq]
  generalize (5 * inYear + 2) / 153 = fromMarch at march months
  by_cases early : fromMarch < 10
  · have alsoEarly : (fromMarch : Int) < 10 := by omega
    simp only [early, alsoEarly, ↓reduceIte]
    refine ⟨?_, ?_, ?_⟩ <;> omega
  · have alsoLate : ¬(fromMarch : Int) < 10 := by omega
    simp only [early, alsoLate, ↓reduceIte]
    refine ⟨?_, ?_, ?_⟩ <;> omega

private theorem isLeapYear_era (year era : Int) : Date.isLeapYear (year + era * 400) = Date.isLeapYear year := by
  have four : (year + era * 400) % 4 = year % 4 := by omega
  have hundred : (year + era * 400) % 100 = year % 100 := by omega
  have fourHundred : (year + era * 400) % 400 = year % 400 := by omega
  simp only [Date.isLeapYear, four, hundred, fourHundred]

theorem exists_dateOf {year : Int} {inYear : Nat}
    (inside : inYear < if Date.isLeapYear (year + 1) then 366 else 365) : (dateOf year inYear).exists? = true := by
  have months : (5 * inYear + 2) / 153 ≤ 11 := by split at inside <;> omega
  unfold dateOf Date.exists? Date.monthLength
  generalize march : (5 * inYear + 2) / 153 = fromMarch at months
  cases leap : Date.isLeapYear (year + 1) with
  | false =>
    simp only [leap, Bool.false_eq_true, ↓reduceIte] at inside
    interval_cases fromMarch <;> simp [leap] <;> omega
  | true =>
    simp only [leap, ↓reduceIte] at inside
    interval_cases fromMarch <;> simp [leap] <;> omega

theorem exists_ofDays (days : Int) : (Date.ofDays days).exists? = true := by
  obtain ⟨era, year, inYear, -, -, inside, date⟩ := ofDays_eq days
  rw [date]
  apply exists_dateOf
  have next : (year : Int) + era * 400 + 1 = (year + 1 : Nat) + era * 400 := by omega
  rwa [next, isLeapYear_era]

private theorem toDays_dateOf {year era : Int} {inEra inYear : Nat} (split : year = inEra + era * 400) (bound : inEra < 400)
    (short : inYear < 366) : (dateOf year inYear).toDays = era * 146097 + (daysBefore inEra + inYear : Nat) - 719468 := by
  have months : (5 * inYear + 2) / 153 ≤ 11 := by omega
  have eraOf : year / 400 = era ∧ year % 400 = inEra := by omega
  have before : (daysBefore inEra : Int) = inEra * 365 + inEra / 4 - inEra / 100 := by
    unfold daysBefore
    omega
  unfold dateOf Date.toDays
  generalize march : (5 * inYear + 2) / 153 = fromMarch at months
  by_cases early : fromMarch < 10
  · have month : ¬fromMarch + 3 ≤ 2 := by omega
    simp only [early, month, ↓reduceIte, Int.add_zero, eraOf]
    omega
  · have month : fromMarch - 9 ≤ 2 := by omega
    simp only [early, month, ↓reduceIte, Int.add_sub_cancel, eraOf]
    omega

theorem toDays_ofDays (days : Int) : (Date.ofDays days).toDays = days := by
  obtain ⟨era, year, inYear, bound, total, inside, date⟩ := ofDays_eq days
  rw [date, toDays_dateOf rfl bound (by split at inside <;> omega)]
  omega

end BookExport.Proofs.CalendarDays
