/-!
# The calendar

Days are counted from the first of January 1970 in the calendar that has a leap year every fourth year, but for the
full centuries that four hundred does not divide. `Date.ofDay` inverts `Date.day`.
-/

namespace IntegrationFlow.Time

/-- A day of the calendar. -/
structure Date where
  year : Nat
  month : Nat
  day : Nat
deriving DecidableEq

/-- The year has a 29th of February. -/
def isLeapYear (y : Nat) : Bool :=
  y % 4 == 0 && (y % 100 != 0 || y % 400 == 0)

/-- The lengths of the months of a year. -/
def monthLengths (y : Nat) : List Nat :=
  [31, if isLeapYear y then 29 else 28, 31, 30, 31, 30, 31, 31, 30, 31, 30, 31]

/-- How many days lie before a year, counted from the beginning of the year one. -/
def daysBeforeYear (y : Nat) : Nat :=
  let n := y - 1
  365 * n + n / 4 - n / 100 + n / 400

/-- The day number of the first of January 1970, counted from the beginning of the year one. -/
def epochDay : Nat := daysBeforeYear 1970

namespace Date

/-- The date is in the calendar. -/
def isValid (d : Date) : Bool :=
  1 ≤ d.year && d.year ≤ 9999 && 1 ≤ d.month && d.month ≤ 12 && 1 ≤ d.day &&
    d.day ≤ (monthLengths d.year).getD (d.month - 1) 0

/-- The number of days from 1970 to a date. -/
def toDays (d : Date) : Int :=
  ((daysBeforeYear d.year + ((monthLengths d.year).take (d.month - 1)).foldl Nat.add 0 + (d.day - 1) : Nat) : Int) - epochDay

/-- The month and the day in it, for a day counted from the beginning of a year. -/
def monthAndDay : List Nat → Nat → Nat → Nat × Nat
  | [], month, rest => (month, rest + 1)
  | length :: lengths, month, rest =>
    if rest < length then (month, rest + 1) else monthAndDay lengths (month + 1) (rest - length)

/-- The year of a day counted from the beginning of the year one. -/
def yearOf (days : Nat) : Nat :=
  let guess := days * 400 / 146097 + 1
  if days < daysBeforeYear guess then guess - 1
  else if daysBeforeYear (guess + 1) ≤ days then guess + 1
  else guess

/-- The date that lies a number of days after 1970. -/
def ofDays (n : Int) : Date :=
  let days := (n + epochDay).toNat
  let year := yearOf days
  let (month, day) := monthAndDay (monthLengths year) 1 (days - daysBeforeYear year)
  ⟨year, month, day⟩

end Date

end IntegrationFlow.Time
