import IntegrationFlow.Time.Calendar
import IntegrationFlow.Decimal.Layout

/-!
# Timestamps

A timestamp is a reading of a clock on the wall, to the microsecond, and the offset of that clock from universal time
when it is known. Two timestamps with an offset are equal when they name one instant; a timestamp without an offset
never equals one with an offset.
-/

namespace IntegrationFlow.Time

/-- A reading of a clock on the wall. -/
structure Timestamp where
  /-- Microseconds on that clock since it showed the beginning of 1970. -/
  micros : Int
  /-- By how many minutes the clock is ahead of universal time. -/
  offset? : Option Int
deriving DecidableEq, Inhabited

/-- The microseconds of a second. -/
def second : Int := 1000000

/-- The microseconds of a minute. -/
def minute : Int := 60 * second

/-- The microseconds of a day. -/
def day : Int := 24 * 60 * minute

namespace Timestamp

/-- A time of universal time, given in seconds since 1970. -/
def ofSeconds (n : Int) : Timestamp :=
  ⟨n * second, some 0⟩

/-- Microseconds of universal time since 1970; for a clock of unknown offset, as that clock shows them. -/
def instant (t : Timestamp) : Int :=
  t.micros - t.offset?.getD 0 * minute

/-- The timestamps can be put in order: both offsets are known, or neither. -/
def comparable (a b : Timestamp) : Bool :=
  a.offset?.isSome == b.offset?.isSome

/-- The timestamps are equal. -/
def eq (a b : Timestamp) : Bool :=
  a.comparable b && a.instant == b.instant

/-- A number with leading zeros. -/
def padded (width n : Nat) : String :=
  String.ofList (Decimal.padZeros width (Decimal.digitsOf n))

/-- The sign, hours and minutes of an offset. -/
def offsetText (minutes : Int) : String :=
  let n := minutes.natAbs
  (if minutes < 0 then "-" else "+") ++ padded 2 (n / 60) ++ ":" ++ padded 2 (n % 60)

/-- The date on the clock. -/
def date (t : Timestamp) : Date :=
  Date.ofDays (t.micros.fdiv day)

/-- The microseconds since midnight on the clock. -/
def sinceMidnight (t : Timestamp) : Nat :=
  (t.micros.fmod day).toNat

/-- The date and the time on the clock; a fraction of a second has six digits and is left out when it is zero. -/
def clockText (t : Timestamp) : String :=
  let d := t.date
  let n := t.sinceMidnight
  let fraction := n % 1000000
  let s := n / 1000000
  padded 4 d.year ++ "-" ++ padded 2 d.month ++ "-" ++ padded 2 d.day ++ "T" ++ padded 2 (s / 3600) ++ ":" ++
    padded 2 (s / 60 % 60) ++ ":" ++ padded 2 (s % 60) ++ (if fraction == 0 then "" else "." ++ padded 6 fraction)

/-- The text of a timestamp in a document, with `Z` for universal time. -/
def render (t : Timestamp) : String :=
  t.clockText ++
    match t.offset? with
    | none => ""
    | some 0 => "Z"
    | some minutes => offsetText minutes

/-- The text of a timestamp that writes every known offset as a number. -/
def renderOffset (t : Timestamp) : String :=
  t.clockText ++ (t.offset?.map offsetText).getD ""

end Timestamp

end IntegrationFlow.Time
