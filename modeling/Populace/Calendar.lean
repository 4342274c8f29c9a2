import Populace.Text.Grouped

/-!
Days of the Gregorian calendar, extended to all years. A date is the number of its
day, counted from the first of January 1970; `civil` and `dayNumber` go between that
number and year, month and day.
-/

namespace Populace.Calendar

open Populace.Text (digits padded)

/-- A day as people write it. -/
structure Civil where
  year : Int
  month : Nat
  day : Nat
  deriving DecidableEq, Repr

/-- The days of four centuries. -/
def daysPerEra : Int := 146097

/-- The days from the first of March of the year zero to the first of January 1970. -/
def epochShift : Int := 719468

/-- The number of a day. Years are counted from March, so that a leap day ends one. -/
def Civil.dayNumber (c : Civil) : Int :=
  let year := if c.month ≤ 2 then c.year - 1 else c.year
  let month : Int := if c.month ≤ 2 then c.month + 9 else c.month - 3
  let era := year / 400
  let yearOfEra := year % 400
  let dayOfYear := (153 * month + 2) / 5 + c.day - 1
  let dayOfEra := yearOfEra * 365 + yearOfEra / 4 - yearOfEra / 100 + dayOfYear
  era * daysPerEra + dayOfEra - epochShift

/-- The day with this number. -/
def civilOf (number : Int) : Civil :=
  let shifted := number + epochShift
  let era := shifted / daysPerEra
  let dayOfEra := shifted % daysPerEra
  let yearOfEra :=
    (dayOfEra - dayOfEra / 1460 + dayOfEra / 36524 - dayOfEra / 146096) / 365
  let dayOfYear := dayOfEra - (365 * yearOfEra + yearOfEra / 4 - yearOfEra / 100)
  let month := (5 * dayOfYear + 2) / 153
  let year := yearOfEra + era * 400
  { year := if month < 10 then year else year + 1
    month := (if month < 10 then month + 3 else month - 9).toNat
    day := (dayOfYear - (153 * month + 2) / 5 + 1).toNat }

/-- The number of the earliest date there is, the first day of the year -262143. -/
def earliest : Int := (Civil.mk (-262143) 1 1).dayNumber

/-- The number of the latest date there is, the last day of the year 262142. -/
def latest : Int := (Civil.mk 262142 12 31).dayNumber

/-- A date in the range that can be represented. -/
structure Date where
  number : Int
  in_range : earliest ≤ number ∧ number ≤ latest
  deriving DecidableEq

namespace Date

/-- The date with this number. -/
def ofNumber? (number : Int) : Option Date :=
  if h : earliest ≤ number ∧ number ≤ latest then some ⟨number, h⟩ else none

/-- The date of this day. -/
def ofCivil? (c : Civil) : Option Date :=
  ofNumber? c.dayNumber

/-- The date so many days later, if it can be represented. -/
def addDays? (d : Date) (days : Int) : Option Date :=
  ofNumber? (d.number + days)

/-- A year: four digits at least, and a sign when it is outside 0 to 9999. -/
def yearText (year : Int) : List Char :=
  let ds := padded 4 year.natAbs
  if year < 0 then '-' :: ds else if 9999 < year then '+' :: ds else ds

/-- Year, month and day with dashes between them. -/
def text (d : Date) : String :=
  let c := civilOf d.number
  String.ofList (yearText c.year ++ '-' :: padded 2 c.month ++ '-' :: padded 2 c.day)

end Date

end Populace.Calendar
