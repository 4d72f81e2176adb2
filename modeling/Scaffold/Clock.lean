import Scaffold.Calendar.Date
/-!
# Clock — stamps that always move on

An instant is a number of seconds since the beginning of year 0.  The calendar in use ends: it runs from the year
-262143 to the year 262142, both included, and an instant beyond its ends is not handed out.

A stamp is the text of an instant that stands at the front of a migration's file name, as in `2024_05_01_093000`.
Years from 0 to 9999 take four digits; any other year is written with its sign.

A clock hands out the wall time in whole seconds, but never twice the same second and never an earlier one: if the
wall has not moved past the last instant handed out, the clock gives the second after that.  So two migrations of one
run never share a stamp, however fast they are written and however the wall clock jumps.
-/
namespace Scaffold.Calendar

/-- Seconds since the beginning of year 0. -/
abbrev Instant := Int

/-- What a wall clock shows: whole seconds and the nanoseconds past them.  In a leap second the nanoseconds go on
past a full second. -/
structure Reading where
  second : Instant
  nanosecond : Nat
  deriving Repr, DecidableEq

/-- The reading without its fraction; a leap second reads as the second before it. -/
def Reading.truncate (r : Reading) : Instant := r.second

def secondsPerDay : Int := 86400

def firstInstant : Instant := yearStart (-262143) * secondsPerDay

def lastInstant : Instant := yearStart 262143 * secondsPerDay - 1

/-- The reading of a date and a time of day.  There is none if the calendar has no such date or the day no such time;
nanoseconds past a full second are a leap second and need a fifty-ninth second. -/
def Reading.ofCivil? (date : Date) (hour minute second nanosecond : Nat) : Option Reading :=
  let at_ := date.dayNumber * secondsPerDay + (hour * 3600 + minute * 60 + second : Nat)
  if date.isValid && hour < 24 && minute < 60 && second < 60 &&
      (nanosecond < 1000000000 || (nanosecond < 2000000000 && second == 59)) &&
      firstInstant ≤ at_ && at_ ≤ lastInstant then
    some ⟨at_, nanosecond⟩
  else none

/-- The decimal digits of a number, filled up with zeros to a width. -/
def padded (width n : Nat) : List Char :=
  let digits := Nat.toDigits 10 n
  List.replicate (width - digits.length) '0' ++ digits

def yearDigits (year : Int) : List Char :=
  if 0 ≤ year && year ≤ 9999 then padded 4 year.toNat
  else (if year < 0 then '-' else '+') :: padded 4 year.natAbs

/-- The stamp of an instant: year, month and day, then the time of day in six digits. -/
def stampChars (at_ : Instant) : List Char :=
  let date := Date.ofDayNumber (at_ / secondsPerDay)
  let time := (at_ % secondsPerDay).toNat
  yearDigits date.year ++ '_' :: padded 2 date.month ++ '_' :: padded 2 date.day ++ '_' ::
    padded 2 (time / 3600) ++ padded 2 (time / 60 % 60) ++ padded 2 (time % 60)

def stamp (at_ : Instant) : String := String.ofList (stampChars at_)

end Scaffold.Calendar

namespace Scaffold

open Calendar (Instant Reading)

/-- A clock: what the wall shows each time it is asked, how often it has been asked, and the last instant handed
out. -/
structure Clock where
  wall : Nat → Reading
  asked : Nat := 0
  last : Option Instant := none

namespace Clock

def fixed (reading : Reading) : Clock := { wall := fun _ => reading }

/-- The instant that comes next: the wall's, or one second past the last if the wall is not later. -/
def upcoming (c : Clock) : Instant :=
  let now := (c.wall c.asked).truncate
  match c.last with
  | some last => if now ≤ last then last + 1 else now
  | none => now

/-- Hands out the next instant.  Nothing comes after the end of the calendar. -/
def next (c : Clock) : Option (Instant × Clock) :=
  if c.upcoming ≤ Calendar.lastInstant then
    some (c.upcoming, { c with asked := c.asked + 1, last := some c.upcoming })
  else none

end Clock

end Scaffold
