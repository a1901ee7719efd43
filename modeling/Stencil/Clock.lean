/-!
# Instants

A moment of universal time and its calendar text.
-/

set_option autoImplicit false

namespace Stencil

/-- A moment: seconds since the start of 1970 and nanoseconds within the second. -/
structure Instant where
  seconds : Nat
  nanoseconds : Nat

structure CalendarDay where
  year : Nat
  month : Nat
  day : Nat
deriving DecidableEq, Repr

namespace CalendarDay

/-! Years are counted from March, so that the leap day is the last of its year, in cycles of 400
years. -/

/-- The year of a cycle that a day of the cycle lies in. -/
def yearOfCycle (day : Nat) : Nat :=
  (day - day / 1460 + day / 36524 - day / 146096) / 365

/-- The days of a cycle before a year of it. -/
def daysBefore (year : Nat) : Nat :=
  365 * year + year / 4 - year / 100

/-- The day that lies a number of days after the first of March. -/
def ofMarchYear (year day : Nat) : CalendarDay :=
  let monthFromMarch := (5 * day + 2) / 153
  let dayOfMonth := day - (153 * monthFromMarch + 2) / 5 + 1
  let month := if monthFromMarch < 10 then monthFromMarch + 3 else monthFromMarch - 9
  ⟨year + (if month ≤ 2 then 1 else 0), month, dayOfMonth⟩

/-- The day that lies a number of days after the first of January 1970. -/
def ofDays (days : Nat) : CalendarDay :=
  let sinceMarch := days + 719468
  let dayOfCycle := sinceMarch % 146097
  let year := yearOfCycle dayOfCycle
  ofMarchYear (sinceMarch / 146097 * 400 + year) (dayOfCycle - daysBefore year)

end CalendarDay

namespace Instant

private def padded (width value : Nat) : String :=
  let digits := Nat.toDigits 10 value
  String.ofList (List.replicate (width - digits.length) '0' ++ digits)

def date (instant : Instant) : String :=
  let day := CalendarDay.ofDays (instant.seconds / 86400)
  padded 4 day.year ++ "-" ++ padded 2 day.month ++ "-" ++ padded 2 day.day

/-- The fraction of the second in thousandths, millionths or billionths, whichever is the first to
be exact, and nothing for a whole second. -/
private def fraction (nanoseconds : Nat) : String :=
  if nanoseconds = 0 then ""
  else if nanoseconds % 1000000 = 0 then "." ++ padded 3 (nanoseconds / 1000000)
  else if nanoseconds % 1000 = 0 then "." ++ padded 6 (nanoseconds / 1000)
  else "." ++ padded 9 nanoseconds

def timestamp (instant : Instant) : String :=
  let second := instant.seconds % 86400
  instant.date ++ "T" ++ padded 2 (second / 3600) ++ ":" ++ padded 2 (second / 60 % 60) ++ ":" ++
    padded 2 (second % 60) ++ fraction instant.nanoseconds ++ "+00:00"

end Instant

end Stencil
