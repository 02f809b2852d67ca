import DevConsole.Error

/-!
# The calendar

`Moment.ofUnix` breaks a count of seconds since the start of 1970 into a date and a time of day, by
taking away the lengths of whole years and then of whole months. A year is kept in 16 bits, counting
past 65535 aborts.
-/

namespace DevConsole

/-- A date and a time of day. -/
structure Moment where
  year : Nat
  month : Nat
  day : Nat
  hour : Nat
  minute : Nat
  second : Nat
  deriving DecidableEq, Repr

namespace Calendar

def isLeap (year : Nat) : Bool :=
  (year % 4 == 0 && year % 100 != 0) || year % 400 == 0

def yearLength (year : Nat) : Nat := if isLeap year then 366 else 365

theorem yearLength_pos (year : Nat) : 0 < yearLength year := by
  unfold yearLength; split <;> decide

def monthLengths (year : Nat) : List Nat :=
  [31, if isLeap year then 29 else 28, 31, 30, 31, 30, 31, 31, 30, 31, 30, 31]

/-- The greatest year. -/
def lastYear : Nat := 65535

/-- The year that a day falls into, counted from the start of `year`, and the day in that year. -/
def yearOf (year days : Nat) : Except Abort (Nat × Nat) :=
  if days < yearLength year then .ok (year, days)
  else if lastYear ≤ year then .error .year
  else yearOf (year + 1) (days - yearLength year)
termination_by days
decreasing_by have := yearLength_pos year; omega

/-- The month that a day falls into, counted from month `month`, and the day in that month. Past the
last of the lengths there is none. -/
def monthOf (month days : Nat) : List Nat → Option (Nat × Nat)
  | [] => none
  | length :: rest =>
    if days < length then some (month, days) else monthOf (month + 1) (days - length) rest

/-- The year, month and day of a count of days since the start of 1970. -/
def dateOf (days : Nat) : Except Abort (Nat × Nat × Nat) :=
  (yearOf 1970 days).map fun (year, day) =>
    match monthOf 1 day (monthLengths year) with
    | some (month, day) => (year, month, day + 1)
    | none => (year, 12, day - yearLength year + 1)

end Calendar

namespace Moment

/-- The moment `secs` seconds after the start of 1970. -/
def ofUnix (secs : Nat) : Except Abort Moment :=
  (Calendar.dateOf (secs / 86400)).map fun (year, month, day) =>
    let time := secs % 86400
    ⟨year, month, day, time / 3600, time % 3600 / 60, time % 60⟩

/-- A number with zeros before it, at least `width` digits long. -/
def padded (width n : Nat) : String :=
  let ds := Nat.toDigits 10 n
  String.ofList (List.replicate (width - ds.length) '0' ++ ds)

/-- Year, month and day. -/
def date (m : Moment) : String :=
  padded 4 m.year ++ "-" ++ padded 2 m.month ++ "-" ++ padded 2 m.day

/-- Hours, minutes and seconds. -/
def time (m : Moment) : String :=
  padded 2 m.hour ++ ":" ++ padded 2 m.minute ++ ":" ++ padded 2 m.second

def text (m : Moment) : String := m.date ++ " " ++ m.time

end Moment

end DevConsole
