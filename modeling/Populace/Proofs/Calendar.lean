import Mathlib.Logic.Function.Iterate
import Populace.Calendar
import Populace.Proofs.Text.Grouped

/-!
# Day after day

The number of a day counts the days of the Gregorian calendar: one more is the next day as
people write it, with the lengths of the months and the leap days where the calendar has
them, in all years before and behind its introduction (`civilOf_add_one`).

Years that begin in March carry the proof. `daysBefore` says how many days lie before such
a year, and a day belongs to the one year that its number lies in.

A date is written with its year, month and day in digits, so its text says which day it is
(`Date.text_spells`).
-/

namespace Populace.Calendar

/-! ## The calendar as people know it -/

/-- Whether a year has a 29th of February. -/
def leap (year : Int) : Bool :=
  year % 4 = 0 && (year % 100 ≠ 0 || year % 400 = 0)

/-- How many days a month has. -/
def monthDays (leap : Bool) (month : Nat) : Nat :=
  match month with
  | 2 => if leap then 29 else 28
  | 4 | 6 | 9 | 11 => 30
  | _ => 31

/-- The day behind this one, in a leap year or in another one. -/
def Civil.nextIn (leap : Bool) (c : Civil) : Civil :=
  if c.day < monthDays leap c.month then ⟨c.year, c.month, c.day + 1⟩
  else if c.month < 12 then ⟨c.year, c.month + 1, 1⟩
  else ⟨c.year + 1, 1, 1⟩

/-- The day behind this one. -/
def Civil.next (c : Civil) : Civil :=
  c.nextIn (leap c.year)

/-! ## Years that begin in March -/

/-- The days before a year, counted from the first of March of the year zero. The leap day
of a year is the last one of it. -/
def daysBefore (year : Int) : Int :=
  year * 365 + year / 4 - year / 100 + year / 400

theorem daysBefore_succ (year : Int) :
    daysBefore (year + 1) = daysBefore year + if leap (year + 1) then 366 else 365 := by
  simp only [daysBefore, leap, Bool.and_eq_true, Bool.or_eq_true, decide_eq_true_eq]
  split <;> omega

theorem daysBefore_mono {year later : Int} (h : year ≤ later) :
    daysBefore year ≤ daysBefore later := by
  rw [daysBefore, daysBefore]
  omega

theorem daysBefore_era (year era : Int) :
    daysBefore (year + era * 400) = daysBefore year + era * daysPerEra := by
  rw [daysBefore, daysBefore, daysPerEra]
  omega

/-- The year of a day within four centuries. -/
def yearOfEra (day : Int) : Int :=
  (day - day / 1460 + day / 36524 - day / 146096) / 365

theorem yearOfEra_mono {day later : Int} (h : day ≤ later) (hfrom : 0 ≤ day)
    (hto : later < daysPerEra) : yearOfEra day ≤ yearOfEra later := by
  rw [daysPerEra] at hto
  have hfour : later / 1460 - day / 1460 ≤ later - day := by omega
  have hcenturies : day / 36524 - day / 146096 ≤ later / 36524 - later / 146096 := by omega
  rw [yearOfEra, yearOfEra]
  omega

theorem yearOfEra_range {day : Int} (hfrom : 0 ≤ day) (hto : day < daysPerEra) :
    0 ≤ yearOfEra day ∧ yearOfEra day < 400 := by
  rw [daysPerEra] at hto
  rw [yearOfEra]
  omega

theorem yearOfEra_first {n : Nat} (h : n < 400) : yearOfEra (daysBefore n) = n := by
  have hall : ∀ n : Fin 400, yearOfEra (daysBefore n) = n := by decide +kernel
  exact hall ⟨n, h⟩

theorem yearOfEra_last {n : Nat} (h : n < 400) : yearOfEra (daysBefore (n + 1) - 1) = n := by
  have hall : ∀ n : Fin 400, yearOfEra (daysBefore (n + 1) - 1) = n := by decide +kernel
  exact hall ⟨n, h⟩

/-- A day that comes before a year does not belong to it. -/
theorem daysBefore_yearOfEra_le {day : Int} (hfrom : 0 ≤ day) (hto : day < daysPerEra) :
    daysBefore (yearOfEra day) ≤ day := by
  obtain ⟨hyear, hlast⟩ := yearOfEra_range hfrom hto
  obtain ⟨n, hn⟩ := Int.eq_ofNat_of_zero_le hyear
  rw [hn]
  cases n with
  | zero => exact hfrom
  | succ n =>
      refine Int.not_lt.1 fun hlt => ?_
      have hera : daysBefore ((n + 1 : Nat) : Int) ≤ daysBefore 400 := daysBefore_mono (by omega)
      have hle := yearOfEra_mono (show day ≤ daysBefore (n + 1) - 1 from Int.le_sub_one_of_lt hlt)
        hfrom (Int.lt_of_lt_of_le (Int.sub_one_lt_of_le (Int.le_refl _)) hera)
      rw [yearOfEra_last (by omega)] at hle
      omega

/-- A day that does not come before the next year does not belong to this one. -/
theorem lt_daysBefore_yearOfEra {day : Int} (hfrom : 0 ≤ day) (hto : day < daysPerEra) :
    day < daysBefore (yearOfEra day + 1) := by
  obtain ⟨hyear, hlast⟩ := yearOfEra_range hfrom hto
  obtain ⟨n, hn⟩ := Int.eq_ofNat_of_zero_le hyear
  rw [hn]
  refine Int.not_le.1 fun hle => ?_
  by_cases hnext : n + 1 < 400
  · have hfirst : daysBefore 0 ≤ daysBefore (n + 1) := daysBefore_mono (by omega)
    have hyears := yearOfEra_mono hle hfirst hto
    have hbegin : yearOfEra (daysBefore (n + 1)) = n + 1 := yearOfEra_first hnext
    omega
  · have hera : (n : Int) + 1 = 400 := by omega
    rw [hera] at hle
    exact absurd hto (Int.not_lt.2 hle)

/-- The year of the day with this number. -/
def marchYear (number : Int) : Int :=
  yearOfEra ((number + epochShift) % daysPerEra) + (number + epochShift) / daysPerEra * 400

/-- Which day of that year it is, the first of March being day zero. -/
def marchDay (number : Int) : Int :=
  number + epochShift - daysBefore (marchYear number)

theorem marchYear_bounds (number : Int) :
    daysBefore (marchYear number) ≤ number + epochShift
      ∧ number + epochShift < daysBefore (marchYear number + 1) := by
  have hpos : 0 < daysPerEra := by decide
  have hsplit := Int.emod_add_mul_ediv (number + epochShift) daysPerEra
  have hfrom := Int.emod_nonneg (number + epochShift) (show daysPerEra ≠ 0 by decide)
  have hto := Int.emod_lt_of_pos (number + epochShift) hpos
  have hlow := daysBefore_yearOfEra_le hfrom hto
  have hhigh := lt_daysBefore_yearOfEra hfrom hto
  rw [Int.mul_comm] at hsplit
  rw [marchYear, Int.add_right_comm, daysBefore_era, daysBefore_era]
  omega

/-- A day lies in one year only. -/
theorem marchYear_eq {number year : Int} (hlow : daysBefore year ≤ number + epochShift)
    (hhigh : number + epochShift < daysBefore (year + 1)) : marchYear number = year := by
  obtain ⟨hlow', hhigh'⟩ := marchYear_bounds number
  rcases Int.lt_trichotomy (marchYear number) year with hlt | heq | hlt
  · have := daysBefore_mono (Int.add_one_le_of_lt hlt)
    omega
  · exact heq
  · have := daysBefore_mono (Int.add_one_le_of_lt hlt)
    omega

/-- Stepping within a year that begins in March, or to the next one. -/
theorem march_add_one (number : Int) :
    (marchDay number + 1 < (if leap (marchYear number + 1) then 366 else 365)
      ∧ marchYear (number + 1) = marchYear number ∧ marchDay (number + 1) = marchDay number + 1)
    ∨ (marchDay number + 1 = (if leap (marchYear number + 1) then 366 else 365)
      ∧ marchYear (number + 1) = marchYear number + 1 ∧ marchDay (number + 1) = 0) := by
  obtain ⟨hlow, hhigh⟩ := marchYear_bounds number
  have hyear := daysBefore_succ (marchYear number)
  have hday : marchDay number = number + epochShift - daysBefore (marchYear number) := rfl
  by_cases hwithin : number + 1 + epochShift < daysBefore (marchYear number + 1)
  · have hsame := marchYear_eq (show daysBefore (marchYear number) ≤ number + 1 + epochShift by omega)
      hwithin
    refine .inl ⟨by omega, hsame, ?_⟩
    rw [marchDay, hsame]
    omega
  · have hlater := daysBefore_succ (marchYear number + 1)
    have hnext := marchYear_eq (show daysBefore (marchYear number + 1) ≤ number + 1 + epochShift by
      omega) (by split at hlater <;> omega)
    refine .inr ⟨by omega, hnext, ?_⟩
    rw [marchDay, hnext]
    omega

/-! ## From day to day -/

/-- The day that comes so many days behind the first of March of a year. -/
def civilAt (year day : Int) : Civil :=
  let month := (5 * day + 2) / 153
  { year := if month < 10 then year else year + 1
    month := (if month < 10 then month + 3 else month - 9).toNat
    day := (day - (153 * month + 2) / 5 + 1).toNat }

theorem civilOf_eq (number : Int) : civilOf number = civilAt (marchYear number) (marchDay number) := by
  have hfrom := Int.emod_nonneg (number + epochShift) (show daysPerEra ≠ 0 by decide)
  have hto := Int.emod_lt_of_pos (number + epochShift) (show 0 < daysPerEra by decide)
  have hyear := yearOfEra_range hfrom hto
  have hsplit := Int.emod_add_mul_ediv (number + epochShift) daysPerEra
  have hday : marchDay number = (number + epochShift) % daysPerEra
      - (365 * yearOfEra ((number + epochShift) % daysPerEra)
        + yearOfEra ((number + epochShift) % daysPerEra) / 4
        - yearOfEra ((number + epochShift) % daysPerEra) / 100) := by
    rw [marchDay, marchYear, daysBefore_era, daysBefore]
    rw [Int.mul_comm] at hsplit
    omega
  rw [hday]
  rfl

/-- The same day so many years later. -/
def Civil.later (years : Int) (c : Civil) : Civil :=
  ⟨c.year + years, c.month, c.day⟩

theorem civilAt_later (year day : Int) : civilAt year day = (civilAt 0 day).later year := by
  simp only [civilAt, Civil.later, Civil.mk.injEq, and_true]
  split <;> omega

theorem nextIn_later (leap : Bool) (years : Int) (c : Civil) :
    (c.later years).nextIn leap = (c.nextIn leap).later years := by
  rw [Civil.nextIn, Civil.nextIn]
  by_cases hday : c.day < monthDays leap c.month
  · rw [if_pos hday, if_pos (show (c.later years).day < monthDays leap (c.later years).month from hday)]
    rfl
  · rw [if_neg hday,
      if_neg (show ¬ (c.later years).day < monthDays leap (c.later years).month from hday)]
    by_cases hmonth : c.month < 12
    · rw [if_pos hmonth, if_pos (show (c.later years).month < 12 from hmonth)]
      rfl
    · rw [if_neg hmonth, if_neg (show ¬ (c.later years).month < 12 from hmonth)]
      show (⟨c.year + years + 1, 1, 1⟩ : Civil) = ⟨c.year + 1 + years, 1, 1⟩
      rw [Int.add_right_comm]

/-- From one day of a year to the next one; before New Year it is of no matter whether the
year is a leap year. -/
theorem nextIn_civilAt {leap : Bool} {day : Int} (hfrom : 0 ≤ day) (hto : day < 365)
    (hleap : 306 ≤ day → day + 1 < if leap then 366 else 365) :
    (civilAt 0 day).nextIn leap = civilAt 0 (day + 1) := by
  have hall : ∀ leap : Bool, ∀ day : Fin 365,
      (306 ≤ (day : Nat) → (day : Nat) + 1 < if leap then 366 else 365) →
        (civilAt 0 day).nextIn leap = civilAt 0 (day + 1) := by
    decide +kernel
  obtain ⟨n, rfl⟩ := Int.eq_ofNat_of_zero_le hfrom
  refine hall leap ⟨n, by omega⟩ fun hlate => ?_
  have hlate : 306 ≤ n := hlate
  have hwithin := hleap (by omega)
  cases leap with
  | false =>
      have hwithin : (n : Int) + 1 < 365 := hwithin
      show n + 1 < 365
      omega
  | true =>
      have hwithin : (n : Int) + 1 < 366 := hwithin
      show n + 1 < 366
      omega

theorem nextIn_lastDay (leap : Bool) :
    (civilAt 0 (if leap then 365 else 364)).nextIn leap = civilAt 1 0 := by
  revert leap
  decide

theorem year_civilAt_of_late {year day : Int} (h : 306 ≤ day) : (civilAt year day).year = year + 1 := by
  have hmonth : ¬ (5 * day + 2) / 153 < 10 := by omega
  simp only [civilAt, if_neg hmonth]

/-- The next number is the next day's. -/
theorem civilOf_add_one (number : Int) : civilOf (number + 1) = (civilOf number).next := by
  obtain ⟨hlow, hhigh⟩ := marchYear_bounds number
  have hday : 0 ≤ marchDay number := by
    rw [marchDay]
    omega
  rw [civilOf_eq, civilOf_eq, Civil.next]
  rcases march_add_one number with ⟨hwithin, hyear, hnext⟩ | ⟨hlast, hyear, hnext⟩
  · rw [hyear, hnext, civilAt_later _ (marchDay number), nextIn_later, nextIn_civilAt hday,
      ← civilAt_later]
    · split at hwithin <;> omega
    · -- from January on the year is the next one
      intro hlate
      rw [← civilAt_later, year_civilAt_of_late hlate]
      exact hwithin
  · have hend : marchDay number = if leap (marchYear number + 1) then 365 else 364 := by
      split at hlast <;> simp_all <;> omega
    have hlate : 306 ≤ marchDay number := by
      rw [hend]
      split <;> omega
    rw [year_civilAt_of_late hlate, hyear, hnext, civilAt_later _ (marchDay number), nextIn_later,
      hend, nextIn_lastDay]
    show (⟨marchYear number + 1, 3, 1⟩ : Civil) = ⟨1 + marchYear number, 3, 1⟩
    rw [Int.add_comm]

/-- So many numbers on are so many days on. -/
theorem civilOf_add (number : Int) (days : Nat) :
    civilOf (number + days) = Civil.next^[days] (civilOf number) := by
  induction days with
  | zero => rw [Function.iterate_zero_apply, Int.natCast_zero, Int.add_zero]
  | succ days ih =>
      rw [Function.iterate_succ_apply', ← ih, ← civilOf_add_one, Int.natCast_succ, Int.add_assoc]

example : civilOf 0 = ⟨1970, 1, 1⟩ := by decide

/-! ## Days as text -/

open Populace.Text (IsDecimal padded)

theorem civilOf_bounds (number : Int) :
    (1 ≤ (civilOf number).month ∧ (civilOf number).month ≤ 12)
      ∧ 1 ≤ (civilOf number).day ∧ (civilOf number).day ≤ 31 := by
  obtain ⟨hlow, hhigh⟩ := marchYear_bounds number
  have hyear := daysBefore_succ (marchYear number)
  have hfrom : 0 ≤ marchDay number := by
    rw [marchDay]
    omega
  have hto : marchDay number < 366 := by
    rw [marchDay]
    split at hyear <;> omega
  simp only [civilOf_eq, civilAt]
  split <;> omega

/-- The digits of a number, with zeros in front if they are fewer than `width`. -/
structure IsPadded (width : Nat) (cs : List Char) (n : Nat) : Prop where
  digits : ∀ c ∈ cs, c.isDigit = true
  value : Decimal.digitsValue cs = n
  width : cs.length = width ∨ width < cs.length ∧ IsDecimal cs n

theorem digitsValue_zeros (count : Nat) (cs : List Char) :
    Decimal.digitsValue (Text.zeros count ++ cs) = Decimal.digitsValue cs := by
  induction count with
  | zero => rfl
  | succ count ih =>
      rw [← ih]
      rfl

theorem isPadded_padded (width n : Nat) : IsPadded width (padded width n) n where
  digits := by
    intro c hc
    rcases List.mem_append.1 hc with hc | hc
    · rw [List.eq_of_mem_replicate hc]
      decide
    · exact (Text.isDecimal_digits n).digits c hc
  value := by
    rw [padded, digitsValue_zeros]
    exact (Text.isDecimal_digits n).value
  width := by
    by_cases hlong : width < (Text.digits n).length
    · have hnone : width - (Text.digits n).length = 0 := by omega
      refine .inr ?_
      rw [padded, hnone]
      exact ⟨hlong, Text.isDecimal_digits n⟩
    · refine .inl ?_
      rw [padded, List.length_append, Text.zeros, List.length_replicate]
      omega

theorem length_padded_two {n : Nat} (h : n < 100) : (padded 2 n).length = 2 := by
  have hlength : (Text.digits n).length ≤ 2 :=
    (Nat.length_toDigits_le_iff (by decide) (by decide)).2 h
  rw [padded, List.length_append, Text.zeros, List.length_replicate]
  omega

/-- What stands in front of a year: a sign when it is outside 0 to 9999. -/
def yearSign (year : Int) : List Char :=
  if year < 0 then ['-'] else if 9999 < year then ['+'] else []

/-- The text is year, month and day with dashes between them: the year behind its sign with
four digits or more, month and day with two. -/
def Civil.IsSpelt (c : Civil) (text : String) : Prop :=
  ∃ year month day, text.toList = yearSign c.year ++ year ++ '-' :: month ++ '-' :: day
    ∧ IsPadded 4 year c.year.natAbs
    ∧ IsPadded 2 month c.month ∧ month.length = 2
    ∧ IsPadded 2 day c.day ∧ day.length = 2

theorem Date.yearText_eq (year : Int) : yearText year = yearSign year ++ padded 4 year.natAbs := by
  unfold yearText yearSign
  split
  · rfl
  · split <;> rfl

/-- The text of a date spells the day that it is. -/
theorem Date.text_spells (d : Date) : (civilOf d.number).IsSpelt d.text := by
  obtain ⟨⟨-, hmonth⟩, -, hday⟩ := civilOf_bounds d.number
  refine ⟨_, _, _, ?_, isPadded_padded 4 _, isPadded_padded 2 _, length_padded_two (by omega),
    isPadded_padded 2 _, length_padded_two (by omega)⟩
  rw [Date.text, String.toList_ofList, yearText_eq]

example : (⟨19782, by decide⟩ : Date).text = "2024-02-29" := by decide +kernel

end Populace.Calendar
