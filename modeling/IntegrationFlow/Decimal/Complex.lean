import IntegrationFlow.Decimal.Layout

/-!
# Complex numbers

Their arithmetic on pairs of floats, and their texts. A quotient is computed by way of the part of the divisor that is
greater, and a power by repeated squaring when the exponent is a small whole number, else through polar coordinates.
-/

namespace IntegrationFlow.Decimal

/-- The greatest number whose square is at most `n`, built from its highest bit down, starting from `r`. -/
def rootFrom (n : Nat) : Nat → Nat → Nat
  | 0, r => r
  | bit + 1, r =>
    let t := r + Nat.pow 2 bit
    rootFrom n bit (if t * t ≤ n then t else r)

/-- The whole part of a square root. -/
def root (n : Nat) : Nat :=
  rootFrom n (n.log2 / 2 + 1) 0

/-- How many times the root of a sum of squares is taken more precisely than to a whole number. -/
def rootScale : Nat := 0x10000000000000000

/-- The length of the hypotenuse: the float nearest to the root of the sum of the squares. -/
def hypotenuse (x y : Float) : Float :=
  match Binary.ofFloat? x, Binary.ofFloat? y with
  | some a, some b =>
    let den := max a.denominator b.denominator
    let m := a.numerator * (den / a.denominator)
    let n := b.numerator * (den / b.denominator)
    let square := (m * m + n * n) * (rootScale * rootScale)
    let r := root square
    -- A half is added to a root that was cut, so that it is rounded to the right side.
    ofRatio (if r * r == square then 2 * r else 2 * r + 1) (2 * rootScale * den)
  | _, _ => if x.abs == infinity || y.abs == infinity then infinity else notANumber

/-- A complex number: its real and its imaginary part. -/
structure Complex where
  re : Float
  im : Float
deriving Inhabited

namespace Complex

/-- The number one. -/
def one : Complex := ⟨1.0, 0.0⟩

/-- Both parts are zero. -/
def isZero (z : Complex) : Bool :=
  z.re == 0.0 && z.im == 0.0

/-- One part is infinite. -/
def isInfinite (z : Complex) : Bool :=
  z.re.abs == infinity || z.im.abs == infinity

/-- A product. -/
def mul (z w : Complex) : Complex :=
  ⟨z.re * w.re - z.im * w.im, z.re * w.im + z.im * w.re⟩

/-- A quotient; there is none by zero. -/
def div? (z w : Complex) : Option Complex :=
  if w.re.abs ≥ w.im.abs then
    if w.re.abs == 0.0 then none
    else
      let ratio := w.im / w.re
      let den := w.re + w.im * ratio
      some ⟨(z.re + z.im * ratio) / den, (z.im - z.re * ratio) / den⟩
  else if w.im.abs ≥ w.re.abs then
    let ratio := w.re / w.im
    let den := w.re * ratio + w.im
    some ⟨(z.re * ratio + z.im) / den, (z.im * ratio - z.re) / den⟩
  else some ⟨notANumber, notANumber⟩

/-- The product of the powers `p`, `p ^ 2`, `p ^ 4`, … that the bits of `n` select, and `r`; `fuel` bounds the bits. -/
def powBits : Nat → Nat → Complex → Complex → Complex
  | 0, _, r, _ => r
  | fuel + 1, n, r, p =>
    if n == 0 then r else powBits fuel (n / 2) (if n % 2 == 1 then r.mul p else r) (p.mul p)

/-- A power with a whole exponent. -/
def powWhole? (z : Complex) (n : Int) : Option Complex :=
  let power := powBits n.natAbs n.natAbs one z
  if n > 0 then some power else one.div? power

/-- A power through polar coordinates. Zero has only powers with a positive real exponent, and there is none whose angle
would be infinite. -/
def powPolar? (z w : Complex) : Option Complex :=
  if w.isZero then some one
  else if z.isZero then
    if w.im != 0.0 || w.re < 0.0 then none else some ⟨0.0, 0.0⟩
  else
    let length := hypotenuse z.re z.im
    let angle := z.im.atan2 z.re
    let turns := w.im != 0.0
    let scale := if turns then length.pow w.re / (angle * w.im).exp else length.pow w.re
    let phase := if turns then angle * w.re + w.im * length.log else angle * w.re
    if phase.abs == infinity then none else some ⟨scale * phase.cos, scale * phase.sin⟩

/-- A power. -/
def pow? (z w : Complex) : Option Complex :=
  if w.im == 0.0 && w.re == w.re.floor && w.re.abs ≤ 100.0 then
    match Binary.ofFloat? w.re with
    | some b => z.powWhole? b.truncate
    | none => z.powPolar? w
  else z.powPolar? w

/-! ### Texts -/

/-- A part with its shortest digits; a whole number has no fraction. -/
def part (x : Float) : List Char :=
  let cs := (render x).toList
  if ['.', '0'].isSuffixOf cs then cs.take (cs.length - 2) else cs

/-- A part with its sign. -/
def signedPart (x : Float) : List Char :=
  match part x with
  | '-' :: cs => '-' :: cs
  | cs => '+' :: cs

/-- The text of a complex number; a real part that is zero is left out. -/
def render (z : Complex) : String :=
  String.ofList <|
    if z.re == 0.0 && !isNegative z.re then part z.im ++ ['j'] else '(' :: part z.re ++ signedPart z.im ++ ['j', ')']

/-- A part with its shortest digits and no exponent. -/
def positional (x : Float) : List Char :=
  match Binary.ofFloat? x with
  | none => if x.isNaN then ['N', 'a', 'N'] else if isNegative x then ['-', 'i', 'n', 'f'] else ['i', 'n', 'f']
  | some b =>
    let digits : List Char :=
      if b.mantissa == 0 then ['0']
      else
        let s := b.shortest
        if s.exponent ≥ 0 then digitsOf s.digits ++ List.replicate s.exponent.toNat '0'
        else withPoint s.exponent.natAbs false (digitsOf s.digits)
    if b.negative then '-' :: digits else digits

/-- The text that stands for a complex number in JSON. -/
def plain (z : Complex) : String :=
  String.ofList <|
    if z.re == 0.0 then positional z.im ++ ['j']
    else positional z.re ++ (if z.im ≥ 0.0 then ['+'] else []) ++ positional z.im ++ ['j']

end Complex

end IntegrationFlow.Decimal
