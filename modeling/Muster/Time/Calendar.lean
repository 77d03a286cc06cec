/-! # Calendar

Days of the Gregorian calendar, extended to all years: lengths of months, the day before and after, and the
day that lies a number of days after the first of January 1970. -/

namespace Muster

/-- A day. -/
structure Date where
  year : Int
  month : Nat
  day : Nat
  deriving DecidableEq, Repr

namespace Date

/-- Years divisible by four are leap years, full centuries only where 400 divides them. -/
def isLeap (year : Int) : Bool :=
  year % 4 = 0 && (year % 100 ≠ 0 || year % 400 = 0)

/-- The number of days of a month. -/
def monthLength (year : Int) (month : Nat) : Nat :=
  if month = 2 then (if isLeap year then 29 else 28)
  else if month = 4 ∨ month = 6 ∨ month = 9 ∨ month = 11 then 30
  else 31

/-- The day exists. -/
def isValid (d : Date) : Bool :=
  1 ≤ d.month && d.month ≤ 12 && 1 ≤ d.day && d.day ≤ monthLength d.year d.month

/-- The day after. -/
def next (d : Date) : Date :=
  if d.day < monthLength d.year d.month then { d with day := d.day + 1 }
  else if d.month < 12 then ⟨d.year, d.month + 1, 1⟩
  else ⟨d.year + 1, 1, 1⟩

/-- The day before. -/
def previous (d : Date) : Date :=
  if 1 < d.day then { d with day := d.day - 1 }
  else if 1 < d.month then ⟨d.year, d.month - 1, monthLength d.year (d.month - 1)⟩
  else ⟨d.year - 1, 12, 31⟩

/-- Moves whole months on while `days` are left of them. -/
def advanceMonths : Nat → Int → Nat → Nat → Date
  | 0, year, month, days => ⟨year, month, days + 1⟩
  | fuel + 1, year, month, days =>
    let length := monthLength year month
    if days < length then ⟨year, month, days + 1⟩
    else if month < 12 then advanceMonths fuel year (month + 1) (days - length)
    else advanceMonths fuel (year + 1) 1 (days - length)

/-- The day `days` after the first of January 1970. A cycle of 400 years has 146097 days, so what remains of
the last one is less than 4800 months. -/
def ofDays (days : Nat) : Date :=
  advanceMonths 4800 (1970 + 400 * (days / 146097 : Nat)) 1 (days % 146097)

end Date

end Muster
