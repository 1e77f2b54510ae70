/-!
# Floats as exact numbers

A finite float is a whole number times a power of two. `Binary.ofFloat?` reads the two off its bits; `ofRatio` goes
back, from any quotient of naturals to the nearest float with ties to even. Operations that the float unit does not
offer (remainder, truncation, comparison with a whole number) are computed on the exact numbers.
-/

namespace IntegrationFlow.Decimal

/-- The number `± mantissa * 2 ^ exponent`. -/
structure Binary where
  negative : Bool
  mantissa : Nat
  exponent : Int
  /-- The gap to the float below is half as wide as the gap to the float above. -/
  narrowBelow : Bool

/-- The positive infinity. -/
def infinity : Float := Float.ofBits 0x7FF0000000000000

/-- The float that is no number. -/
def notANumber : Float := Float.ofBits 0x7FF8000000000000

/-- The sign bit is set; this holds of the negative zero too. -/
def isNegative (x : Float) : Bool :=
  x.toBits >>> 63 == 1

/-- The bit in front of the stored ones, with number 52. -/
def leadingBit : Nat := 0x10000000000000

/-- The exact number of a finite float. -/
def Binary.ofFloat? (x : Float) : Option Binary :=
  let bits := x.toBits
  let field := ((bits >>> 52) &&& 0x7FF).toNat
  let fraction := (bits &&& 0xFFFFFFFFFFFFF).toNat
  if field == 0x7FF then none
  else if field == 0 then some ⟨isNegative x, fraction, -1074, false⟩
  else some ⟨isNegative x, leadingBit + fraction, (field : Int) - 1075, fraction == 0 && field > 1⟩

/-- The numerator of the absolute value, over `denominator`. -/
def Binary.numerator (b : Binary) : Nat :=
  b.mantissa * Nat.pow 2 b.exponent.toNat

/-- The denominator, a power of two. -/
def Binary.denominator (b : Binary) : Nat :=
  Nat.pow 2 (-b.exponent).toNat

/-- The denominator is positive. -/
theorem Binary.denominator_pos (b : Binary) : 0 < b.denominator :=
  Nat.two_pow_pos _

/-- The numerator with its sign. -/
def Binary.signedNumerator (b : Binary) : Int :=
  if b.negative then -(b.numerator : Int) else b.numerator

/-- The whole part, rounded toward zero. -/
def Binary.truncate (b : Binary) : Int :=
  b.signedNumerator.tdiv b.denominator

/-- The number has no fractional part. -/
def Binary.isWhole (b : Binary) : Bool :=
  b.numerator % b.denominator == 0

/-- The quotient rounded to the nearest natural, a tie to the even one. -/
def roundDiv (num den : Nat) : Nat :=
  let q := num / den
  match compare (2 * (num % den)) den with
  | .lt => q
  | .gt => q + 1
  | .eq => if q % 2 == 0 then q else q + 1

/-- The nearest float to `num / den`, a tie to the even mantissa; infinity from the overflow threshold on. -/
def ofRatio (num den : Nat) : Float :=
  if num == 0 then 0.0
  else
    let estimate : Int := (num.log2 : Int) - den.log2
    let below := num * Nat.pow 2 (-estimate).toNat < den * Nat.pow 2 estimate.toNat
    let top := if below then estimate - 1 else estimate
    let exponent := max (top - 52) (-1074)
    let mantissa := roundDiv (num * Nat.pow 2 (-exponent).toNat) (den * Nat.pow 2 exponent.toNat)
    let bits := (exponent + 1074).toNat * leadingBit + mantissa
    if bits ≥ 0x7FF0000000000000 then infinity else Float.ofBits bits.toUInt64

/-- Give a float the stated sign. -/
def withSign (negative : Bool) (x : Float) : Float :=
  if negative == isNegative x then x else -x

/-- The nearest float to a whole number; infinity when it is out of range. -/
def ofInt (n : Int) : Float :=
  withSign (n < 0) (ofRatio n.natAbs 1)

/-- The remainder of two floats with the sign of the first one; exact. -/
def remainder (x y : Float) : Float :=
  match Binary.ofFloat? x, Binary.ofFloat? y with
  | some a, some b =>
    if b.mantissa == 0 then notANumber
    else
      let low := min a.exponent b.exponent
      let r := (a.mantissa * Nat.pow 2 (a.exponent - low).toNat) % (b.mantissa * Nat.pow 2 (b.exponent - low).toNat)
      withSign a.negative (ofRatio (r * Nat.pow 2 low.toNat) (Nat.pow 2 (-low).toNat))
  | some _, none => if y.isNaN then notANumber else x
  | none, _ => notANumber

/-- Compare a whole number with a float; nothing for a float that is no number. -/
def compareInt (n : Int) (x : Float) : Option Ordering :=
  match Binary.ofFloat? x with
  | some b => some (compare (n * b.denominator) b.signedNumerator)
  | none => if x.isNaN then none else if isNegative x then some .gt else some .lt

/-- The float halfway rounded to a whole number, a tie to the even one. -/
def Binary.nearestInt (b : Binary) : Int :=
  let n := roundDiv b.numerator b.denominator
  if b.negative then -(n : Int) else n

end IntegrationFlow.Decimal
