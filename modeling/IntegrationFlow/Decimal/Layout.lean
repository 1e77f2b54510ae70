import IntegrationFlow.Decimal.Shortest

/-!
# Floats as text

`render` writes a float with its shortest digits: positionally when the leading digit has an exponent from -4 to 15,
else with an exponent of at least two digits. A number without a fraction keeps `.0`. `fixed`, `scientific` and
`general` write a stated number of digits, rounded from the exact value with ties to even.
-/

namespace IntegrationFlow.Decimal

/-- The most digits that a whole number may have to be written or read. -/
def maxDigits : Nat := 4300

/-- The digits of a number in base ten. -/
def digitsOf (n : Nat) : List Char :=
  Nat.toDigits 10 n

/-- Put zeros in front up to a least length. -/
def padZeros (width : Nat) (cs : List Char) : List Char :=
  List.replicate (width - cs.length) '0' ++ cs

/-- The mark, sign and digits of an exponent. -/
def exponentText (e : Int) : List Char :=
  'e' :: (if e < 0 then '-' else '+') :: padZeros 2 (digitsOf e.natAbs)

/-- The least and the greatest exponent of the leading digit that are written positionally. -/
def positionalFrom : Int := -4

@[inherit_doc positionalFrom]
def positionalTo : Int := 15

/-- The digits `ds` with the leading one at the exponent `e`. -/
def layout (ds : List Char) (e : Int) : List Char :=
  if positionalFrom ≤ e ∧ e ≤ positionalTo then
    if e < 0 then '0' :: '.' :: (List.replicate (-e - 1).toNat '0' ++ ds)
    else
      let whole := (e + 1).toNat
      let rest := ds.drop whole
      ds.take whole ++ List.replicate (whole - ds.length) '0' ++ '.' :: (if rest.isEmpty then ['0'] else rest)
  else
    match ds with
    | [] => []
    | d :: rest => (if rest.isEmpty then [d] else d :: '.' :: rest) ++ exponentText e

/-- The text of a positive number. -/
def Scientific.render (s : Scientific) : List Char :=
  let ds := digitsOf s.digits
  layout ds (s.exponent + ds.length - 1)

/-- The text of a float. -/
def render (x : Float) : String :=
  match Binary.ofFloat? x with
  | none => if x.isNaN then "nan" else if isNegative x then "-inf" else "inf"
  | some b =>
    let sign := if b.negative then ['-'] else []
    String.ofList (sign ++ if b.mantissa == 0 then ['0', '.', '0'] else b.shortest.render)

/-- Digits with the last `places` of them after a point; no point when there are none, unless it is asked for. -/
def withPoint (places : Nat) (keepPoint : Bool) (ds : List Char) : List Char :=
  let ds := padZeros (places + 1) ds
  let whole := ds.take (ds.length - places)
  let rest := ds.drop (ds.length - places)
  if rest.isEmpty then (if keepPoint then whole ++ ['.'] else whole) else whole ++ '.' :: rest

/-- The absolute value with a fixed number of places. -/
def Binary.fixed (b : Binary) (places : Nat) (keepPoint : Bool) : List Char :=
  withPoint places keepPoint (digitsOf (roundDiv (b.numerator * Nat.pow 10 places) b.denominator))

/-- The absolute value as `places + 1` digits and the exponent of the leading one. -/
def Binary.leadingDigits (b : Binary) (places : Nat) : Nat × Int :=
  if b.mantissa == 0 then (0, 0)
  else
    let k := decimalScale b.numerator b.denominator
    let e := k - 1 - places
    let n := roundDiv (b.numerator * Nat.pow 10 (-e).toNat) (b.denominator * Nat.pow 10 e.toNat)
    if n == Nat.pow 10 (places + 1) then (Nat.pow 10 places, k) else (n, k - 1)

/-- The absolute value in scientific form with a number of places. -/
def Binary.scientific (b : Binary) (places : Nat) (keepPoint : Bool) : List Char :=
  let (n, e) := b.leadingDigits places
  withPoint places keepPoint (digitsOf n) ++ exponentText e

/-- Drop the zeros at the end of a fraction, and the point when nothing is left after it. -/
def stripFraction (cs : List Char) : List Char :=
  if cs.contains '.' then
    let kept := (cs.reverse.dropWhile (· == '0'))
    (if kept.head? == some '.' then kept.drop 1 else kept).reverse
  else cs

/-- The absolute value with a number of significant digits, positionally unless the exponent is small or large. -/
def Binary.general (b : Binary) (significant : Nat) (keepZeros : Bool) : List Char :=
  let p := max significant 1
  let (n, e) := b.leadingDigits (p - 1)
  if -4 ≤ e ∧ e < p then
    let text := b.fixed (p - 1 - e).toNat keepZeros
    if keepZeros then text else stripFraction text
  else
    let text := withPoint (p - 1) keepZeros (digitsOf n)
    (if keepZeros then text else stripFraction text) ++ exponentText e

end IntegrationFlow.Decimal
