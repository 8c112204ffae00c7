/-!
Moments of the civil calendar.
-/

namespace Shopwalk

/-- A moment as a clock shows it, to the second. -/
structure Clock where
  year : Nat
  month : Nat
  day : Nat
  hour : Nat
  minute : Nat
  second : Nat
  deriving DecidableEq, Repr

namespace Clock

/-- A number with at least `width` digits. -/
def digits (width n : Nat) : String :=
  let s := Nat.repr n
  String.ofList (List.replicate (width - s.length) '0') ++ s

def date (c : Clock) : String :=
  digits 1 c.year ++ "-" ++ digits 2 c.month ++ "-" ++ digits 2 c.day

def time (c : Clock) : String :=
  digits 2 c.hour ++ "-" ++ digits 2 c.minute ++ "-" ++ digits 2 c.second

def isLeap (year : Nat) : Bool := year % 4 == 0 && (year % 100 != 0 || year % 400 == 0)

def daysIn (year : Nat) : Nat := if isLeap year then 366 else 365

/-- The day of the year, counted from one. -/
def dayOfYear (c : Clock) : Nat :=
  let before := [0, 31, 59, 90, 120, 151, 181, 212, 243, 273, 304, 334].getD (c.month - 1) 0
  before + c.day + if 2 < c.month && isLeap c.year then 1 else 0

/-- Days since the first of January of the year one. -/
def dayNumber (c : Clock) : Nat :=
  let y := c.year - 1
  365 * y + y / 4 - y / 100 + y / 400 + c.dayOfYear - 1

/-- The day of the week, counted from Monday. -/
def weekday (c : Clock) : Nat := c.dayNumber % 7

/-- Seconds since the beginning of 1970. -/
def seconds (c : Clock) : Int :=
  ((c.dayNumber : Int) - 719162) * 86400 + (c.hour * 3600 + c.minute * 60 + c.second : Nat)

/-- The year and the week that a day belongs to when weeks are not cut: a week that begins on Monday
belongs to the year in which its Thursday lies. -/
def wholeWeek (c : Clock) : Nat × Nat :=
  let thursday : Int := c.dayOfYear + 3 - c.weekday
  if thursday < 1 then (c.year - 1, (Int.toNat (thursday + daysIn (c.year - 1)) - 1) / 7 + 1)
  else if daysIn c.year < thursday then (c.year + 1, 1)
  else (c.year, (Int.toNat thursday - 1) / 7 + 1)

def hourOfHalf (c : Clock) : Nat := (c.hour + 11) % 12 + 1

def half (c : Clock) : String := if c.hour < 12 then "AM" else "PM"

def monthName (c : Clock) : String :=
  ["January", "February", "March", "April", "May", "June", "July", "August", "September",
    "October", "November", "December"].getD (c.month - 1) ""

def dayName (c : Clock) : String :=
  ["Monday", "Tuesday", "Wednesday", "Thursday", "Friday", "Saturday", "Sunday"].getD c.weekday ""

/-- The first three letters of a name. -/
def short (name : String) : String := String.ofList (name.toList.take 3)

end Clock

/-- A moment to the microsecond, in universal time or in a time that is not told. -/
structure Moment where
  clock : Clock
  micro : Nat := 0
  isUniversal : Bool := false
  deriving DecidableEq, Repr

namespace Moment

/-- The first moment that there is. -/
def first : Moment := { clock := ⟨1, 1, 1, 0, 0, 0⟩ }

/-- The last moment that there is. -/
def last : Moment := { clock := ⟨9999, 12, 31, 23, 59, 59⟩, micro := 999999 }

end Moment

end Shopwalk
