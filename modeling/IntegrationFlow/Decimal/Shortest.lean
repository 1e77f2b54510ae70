import IntegrationFlow.Decimal.Binary

/-!
# The shortest decimal of a float

Among the decimals that read back as a given float, `shortest` selects one with the fewest digits, and of those the
nearest to the float. The reals that read back form an interval around the float: half of the gap on each side, the
ends included when the mantissa is even.
-/

namespace IntegrationFlow.Decimal

/-- The number `digits * 10 ^ exponent`. -/
structure Scientific where
  digits : Nat
  exponent : Int
deriving DecidableEq

/-- Compare `a * 10 ^ e` with `n / d`. -/
def compareRatio (a : Nat) (e : Int) (n d : Nat) : Ordering :=
  compare (a * Nat.pow 10 e.toNat * d) (n * Nat.pow 10 (-e).toNat)

/-- The decimal lies in the interval of the reals that round to the float. -/
def Binary.readsBack (b : Binary) (s : Scientific) : Bool :=
  let scale := 4 * b.denominator
  let unit := Nat.pow 2 b.exponent.toNat
  let low := (4 * b.mantissa - if b.narrowBelow then 1 else 2) * unit
  let high := (4 * b.mantissa + 2) * unit
  let closed := b.mantissa % 2 == 0
  let atLow := compareRatio s.digits s.exponent low scale
  let atHigh := compareRatio s.digits s.exponent high scale
  (atLow == .gt || (closed && atLow == .eq)) && (atHigh == .lt || (closed && atHigh == .eq))

/-- How many digits a positive number has. -/
def digitCount (n : Nat) : Nat :=
  (Nat.toDigits 10 n).length

/-- The least `k` with `num / den < 10 ^ k`, for a positive quotient. -/
def decimalScale (num den : Nat) : Int :=
  if den ≤ num then digitCount (num / den)
  else
    let zeros := digitCount (den / num) - 1
    if den ≤ num * Nat.pow 10 zeros then 1 - (zeros : Int) else -(zeros : Int)

/-- The neighbours of the float on the grid of multiples of `10 ^ e`, the nearer one first; a tie prefers the even
one. -/
def Binary.neighbours (b : Binary) (e : Int) : List Scientific :=
  let num := b.numerator * Nat.pow 10 (-e).toNat
  let den := b.denominator * Nat.pow 10 e.toNat
  let low := num / den
  let near := roundDiv num den
  if near == low then [⟨low, e⟩, ⟨low + 1, e⟩] else [⟨low + 1, e⟩, ⟨low, e⟩]

/-- The first neighbour on the given grids that reads back. -/
def Binary.firstReadingBack (b : Binary) : List Int → Option Scientific
  | [] => none
  | e :: es =>
    match (b.neighbours e).find? b.readsBack with
    | some s => some s
    | none => b.firstReadingBack es

/-- What the search finds reads back. -/
theorem Binary.readsBack_of_firstReadingBack {b : Binary} {es : List Int} {s : Scientific}
    (h : b.firstReadingBack es = some s) : b.readsBack s = true := by
  induction es with
  | nil => simp [firstReadingBack] at h
  | cons e es ih =>
    unfold firstReadingBack at h
    cases hf : (b.neighbours e).find? b.readsBack with
    | some t => rw [hf] at h; simp only [Option.some.injEq] at h; subst h; exact List.find?_some hf
    | none => rw [hf] at h; exact ih h

/-- Move trailing zeros of the digits into the exponent. -/
def Scientific.strip (s : Scientific) : Scientific :=
  if h : s.digits ≠ 0 ∧ s.digits % 10 = 0 then Scientific.strip ⟨s.digits / 10, s.exponent + 1⟩ else s
termination_by s.digits
decreasing_by exact Nat.div_lt_self (Nat.pos_of_ne_zero h.1) (by decide)

/-- The exact decimal of a float. -/
def Binary.exact (b : Binary) : Scientific :=
  ⟨b.numerator * Nat.pow 5 (-b.exponent).toNat, min b.exponent 0⟩

/-- The shortest decimal that reads back as the absolute value of a float that is not zero. -/
def Binary.shortest (b : Binary) : Scientific :=
  let k := decimalScale b.numerator b.denominator
  ((b.firstReadingBack ((List.range 17).map fun (n : Nat) => k - 1 - (n : Int))).getD b.exact).strip

end IntegrationFlow.Decimal
