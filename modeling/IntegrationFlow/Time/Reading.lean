import IntegrationFlow.Time.Timestamp
import IntegrationFlow.Schema.Scalar

/-!
# Reading timestamps

A timestamp is read from a date and a time of day, from a date alone, which stands for its midnight, or from a number
of seconds since 1970. A number beyond twenty thousand million counts milliseconds.
-/

namespace IntegrationFlow.Time

open Schema (Checked)

/-- A number of the stated count of ASCII digits at the front of a text, and the rest. -/
def takeNumber (count : Nat) (cs : List Char) : Option (Nat × List Char) :=
  let ds := cs.take count
  if ds.length == count && ds.all Char.isDigit then
    some (Decimal.ofAsciiDigits ds, cs.drop count)
  else none

/-- Drop one character. -/
def dropChar (c : Char) : List Char → Option (List Char)
  | d :: cs => if c == d then some cs else none
  | [] => none

/-- A date at the front of a text, and the rest. -/
def takeDate (cs : List Char) : Option (Date × List Char) := do
  let (year, cs) ← takeNumber 4 cs
  let (month, cs) ← takeNumber 2 (← dropChar '-' cs)
  let (day, cs) ← takeNumber 2 (← dropChar '-' cs)
  let date : Date := ⟨year, month, day⟩
  if date.isValid then some (date, cs) else none

/-- The microseconds that the digits behind a decimal point stand for; digits behind the sixth do not count. -/
def microsOfFraction (ds : List Char) : Nat :=
  Decimal.ofAsciiDigits (ds.take 6 ++ List.replicate (6 - ds.length) '0')

/-- The seconds of a time of day with their fraction, when they are given, in microseconds; and the rest. -/
def takeSeconds (cs : List Char) : Option (Nat × List Char) :=
  match cs with
  | ':' :: cs => do
    let (s, cs) ← takeNumber 2 cs
    if s ≥ 60 then none
    else
      match cs with
      | c :: rest =>
        if c == '.' || c == ',' then
          let ds := rest.takeWhile Char.isDigit
          if ds.isEmpty then none else some (s * 1000000 + microsOfFraction ds, rest.dropWhile Char.isDigit)
        else some (s * 1000000, cs)
      | [] => some (s * 1000000, [])
  | cs => some (0, cs)

/-- A time of day at the front of a text, in microseconds, and the rest. -/
def takeTimeOfDay (cs : List Char) : Option (Nat × List Char) := do
  let (hours, cs) ← takeNumber 2 cs
  let (minutes, cs) ← takeNumber 2 (← dropChar ':' cs)
  if hours ≥ 24 || minutes ≥ 60 then none
  else
    let (micros, cs) ← takeSeconds cs
    some ((hours * 3600 + minutes * 60) * 1000000 + micros, cs)

/-- The hours and minutes of an offset, with or without a colon between them. -/
def offsetMinutes? (cs : List Char) : Option Nat := do
  let (hours, cs) ← takeNumber 2 cs
  let (minutes, cs) ← takeNumber 2 ((dropChar ':' cs).getD cs)
  if cs.isEmpty && minutes < 60 && hours < 24 then some (hours * 60 + minutes) else none

/-- The offset that makes up the rest of a text; nothing stands for an unknown one. -/
def offset? : List Char → Option (Option Int)
  | [] => some none
  | c :: cs =>
    if c == 'Z' || c == 'z' then (if cs.isEmpty then some (some 0) else none)
    else if c == '+' then (offsetMinutes? cs).map fun n => some (n : Int)
    else if c == '-' || c == '−' then (offsetMinutes? cs).map fun n => some (-(n : Int))
    else none

/-- The characters that can stand between a date and a time of day. -/
def isSeparator (c : Char) : Bool :=
  c == 'T' || c == 't' || c == ' ' || c == '_'

/-- Read a date and a time of day. -/
def readClock (cs : List Char) : Option Timestamp := do
  let (date, cs) ← takeDate cs
  match cs with
  | c :: cs =>
    if isSeparator c then
      let (micros, cs) ← takeTimeOfDay cs
      let offset ← offset? cs
      some ⟨date.toDays * day + micros, offset⟩
    else none
  | [] => none

/-- Read a date alone. -/
def readDate (cs : List Char) : Option Timestamp := do
  let (date, cs) ← takeDate cs
  if cs.isEmpty then some ⟨date.toDays * day, none⟩ else none

/-- Numbers of a greater absolute value count milliseconds. -/
def watershed : Int := 20000000000

/-- The first and the last second that a number can stand for. -/
def firstSecond : Int := (Date.mk 1600 1 1).toDays * 86400

@[inherit_doc firstSecond]
def lastSecond : Int := (Date.mk 9999 12 31).toDays * 86400 + 86399

/-- The timestamp that lies a number of microseconds after 1970, in universal time. -/
def ofMicros? (n : Int) : Option Timestamp :=
  let s := n.fdiv second
  if firstSecond ≤ s ∧ s ≤ lastSecond then some ⟨n, some 0⟩ else none

/-- The timestamp that a whole number stands for. -/
def ofWhole? (n : Int) : Option Timestamp :=
  ofMicros? (if n.natAbs ≤ watershed.natAbs then n * second else n * 1000)

/-- The timestamp that a float stands for; its fraction is rounded to microseconds. -/
def ofFloat? (x : Float) : Option Timestamp :=
  match Decimal.Binary.ofFloat? x with
  | none => none
  | some b =>
    let floor := b.signedNumerator.fdiv b.denominator
    let fraction := b.numerator % b.denominator
    if b.numerator ≤ watershed.natAbs * b.denominator then
      ofMicros? (floor * second + Decimal.roundDiv (fraction * 1000000) b.denominator)
    else ofMicros? (floor * 1000 + Decimal.roundDiv (fraction * 1000) b.denominator)

/-- Read a number. -/
def readNumber (cs : List Char) : Option Timestamp :=
  let (negative, digits) := Decimal.takeSign cs
  let whole := digits.takeWhile Char.isDigit
  if whole.isEmpty then none
  else
    match digits.dropWhile Char.isDigit with
    | [] => ofWhole? (Decimal.signed negative (Decimal.ofDigits 10 (whole.filterMap Schema.asciiDigit?)))
    | '.' :: fraction =>
      if fraction.all Char.isDigit then (Decimal.readFloat? (String.ofList cs)).bind ofFloat? else none
    | _ => none

/-- Read a timestamp from a text. -/
def readText (s : String) : Option Timestamp :=
  let cs := s.toList
  (readClock cs).or ((readNumber cs).or (readDate cs))

/-- A timestamp. -/
def timestamp : Value → Checked Timestamp
  | .text s =>
    match readText s with
    | some t => .fits t
    | none => .fail .unreadableTime
  | .int n =>
    match ofWhole? n with
    | some t => .fits t
    | none => .fail .timeOutOfRange
  | .float x =>
    match ofFloat? x with
    | some t => .fits t
    | none => .fail .timeOutOfRange
  | _ => .fail .notTime

end IntegrationFlow.Time
