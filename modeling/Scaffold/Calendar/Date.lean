/-!
# Calendar.Date — dates of the proleptic Gregorian calendar

Days are counted from the first of January of year 0; earlier days are negative.  A day's year is estimated from the
mean length of a year and corrected by one; its month is found by walking along the month lengths.
-/
namespace Scaffold.Calendar

/-- A date by year, month and day of the month; months and days count from 1. -/
structure Date where
  year : Int
  month : Nat
  day : Nat
  deriving Repr, DecidableEq

def isLeap (year : Int) : Bool := year % 4 == 0 && (year % 100 != 0 || year % 400 == 0)

def monthLengths (year : Int) : List Nat :=
  [31, if isLeap year then 29 else 28, 31, 30, 31, 30, 31, 31, 30, 31, 30, 31]

def Date.isValid (d : Date) : Bool :=
  1 ≤ d.month && 1 ≤ d.day && (monthLengths d.year)[d.month - 1]?.any (d.day ≤ ·)

/-- The number of the year's first day. -/
def yearStart (year : Int) : Int :=
  365 * year + (year + 3) / 4 - (year + 99) / 100 + (year + 399) / 400

/-- The number of the date's day. -/
def Date.dayNumber (d : Date) : Int :=
  let before : Nat := ((monthLengths d.year).take (d.month - 1)).foldr (· + ·) 0
  yearStart d.year + before + (d.day - 1 : Nat)

def yearOf (dayNumber : Int) : Int :=
  let guess := dayNumber * 400 / 146097
  if dayNumber < yearStart guess then guess - 1
  else if yearStart (guess + 1) ≤ dayNumber then guess + 1
  else guess

/-- Month and day of the month, both from 1, of the day that lies `offset` days after the first day of month
`month`; `lengths` are the lengths of the months from there on. -/
def monthAndDay (month : Nat) : List Nat → Nat → Nat × Nat
  | [], offset => (month, offset + 1)
  | length :: lengths, offset =>
    if offset < length then (month, offset + 1) else monthAndDay (month + 1) lengths (offset - length)

def Date.ofDayNumber (dayNumber : Int) : Date :=
  let year := yearOf dayNumber
  let (month, day) := monthAndDay 1 (monthLengths year) (dayNumber - yearStart year).toNat
  ⟨year, month, day⟩

end Scaffold.Calendar
