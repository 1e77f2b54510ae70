import IntegrationFlow.Proofs.Decimal.Bits
import IntegrationFlow.Proofs.Decimal.Rounding
import IntegrationFlow.Decimal.Reading

/-!
# Shortest decimals read back

The shortest decimal of a float lies in the interval of the rationals that are rounded to the float
(`Binary.roundsTo_shortest`). So reading it gives the float again (`ofScientific_eq`), in whatever way its value is
written.
-/

namespace IntegrationFlow.Decimal

/-- The number that is meant. -/
def Scientific.value (s : Scientific) : ℚ :=
  s.digits * 10 ^ s.exponent

/-- A power as a quotient of powers of naturals. -/
theorem zpow_mul_pow (base : Nat) (hbase : 0 < base) (e : Int) :
    (base : ℚ) ^ e * (base : ℚ) ^ (-e).toNat = (base : ℚ) ^ e.toNat := by
  have hne : (base : ℚ) ≠ 0 := by exact_mod_cast hbase.ne'
  obtain ⟨n, rfl | rfl⟩ := e.eq_nat_or_neg
  · simp
  · simp [hne]

/-! ### Comparing decimals with quotients -/

section

variable {a n d : Nat} (e : Int) (hd : 0 < d)

include hd

/-- Both sides of a comparison are those of the exact numbers, scaled by the same factor. -/
private theorem scale_compareRatio : ∃ k : ℚ, 0 < k ∧
    ((a * Nat.pow 10 e.toNat * d : Nat) : ℚ) = a * 10 ^ e * k ∧ ((n * Nat.pow 10 (-e).toNat : Nat) : ℚ) = n / d * k := by
  have hden : (0 : ℚ) < d := by exact_mod_cast hd
  have hten := zpow_mul_pow 10 (by decide) e
  push_cast at hten
  refine ⟨10 ^ (-e).toNat * d, by positivity, ?_, ?_⟩
  · simp only [Nat.pow_eq]
    push_cast
    rw [← hten]
    ring
  · simp only [Nat.pow_eq]
    push_cast
    field_simp

theorem compareRatio_eq_lt_iff : compareRatio a e n d = .lt ↔ (a * 10 ^ e : ℚ) < n / d := by
  obtain ⟨k, hk, hleft, hright⟩ := scale_compareRatio (a := a) (n := n) e hd
  unfold compareRatio
  rw [Nat.compare_eq_lt, ← Nat.cast_lt (α := ℚ), hleft, hright, mul_lt_mul_iff_left₀ hk]

theorem compareRatio_eq_gt_iff : compareRatio a e n d = .gt ↔ (n / d : ℚ) < a * 10 ^ e := by
  obtain ⟨k, hk, hleft, hright⟩ := scale_compareRatio (a := a) (n := n) e hd
  unfold compareRatio
  rw [Nat.compare_eq_gt, ← Nat.cast_lt (α := ℚ), hleft, hright, mul_lt_mul_iff_left₀ hk]

theorem compareRatio_eq_eq_iff : compareRatio a e n d = .eq ↔ (a * 10 ^ e : ℚ) = n / d := by
  obtain ⟨k, hk, hleft, hright⟩ := scale_compareRatio (a := a) (n := n) e hd
  unfold compareRatio
  rw [Nat.compare_eq_eq, ← Nat.cast_inj (R := ℚ), hleft, hright, mul_left_inj' hk.ne']

end

/-! ### The interval of a float -/

namespace Binary

variable {b : Binary} {m : Nat}

/-- A number of quarters of the last place, as `readsBack` writes it. -/
private theorem quarters_eq (b : Binary) (k : Nat) :
    ((k * Nat.pow 2 b.exponent.toNat : Nat) : ℚ) / (4 * b.denominator : Nat) = k / 4 * 2 ^ b.exponent := by
  have htwo := zpow_mul_pow 2 (by decide) b.exponent
  push_cast at htwo
  have hpow : (0 : ℚ) < 2 ^ (-b.exponent).toNat := by positivity
  unfold denominator
  simp only [Nat.pow_eq]
  push_cast
  rw [← htwo]
  field_simp

/-- The unit of the last place, by the biased exponent. -/
private theorem Writes.unit (h : b.Writes m) : (2 : ℚ) ^ (((b.exponent + 1074).toNat : ℤ) - 1074) = 2 ^ b.exponent := by
  have hbounded := h.bounded
  congr 1
  omega

/-- What reads back lies in the interval of the float. -/
theorem roundsTo_of_readsBack (hwrites : b.Writes m) (hpos : 0 < b.mantissa) {s : Scientific}
    (h : b.readsBack s = true) : RoundsTo s.value b.mantissa (b.exponent + 1074).toNat := by
  have hscale : 0 < 4 * b.denominator := Nat.mul_pos (by decide) b.denominator_pos
  have hnarrow : b.narrowBelow = true ↔ b.mantissa = 2 ^ 52 ∧ 0 < (b.exponent + 1074).toNat := by
    rw [hwrites.narrow]
    omega
  -- In quarters of a unit, the bounds are whole: one or two below the mantissa, and two above it.
  have hhalf : (((4 * b.mantissa - if b.narrowBelow then 1 else 2 : Nat) : ℚ)) / 4 =
      b.mantissa - halfBelow b.mantissa (b.exponent + 1074).toNat := by
    unfold halfBelow
    split
    · next h =>
      rw [if_pos (hnarrow.1 h), Nat.cast_sub (by omega)]
      push_cast
      ring
    · next h =>
      rw [if_neg (mt hnarrow.2 h), Nat.cast_sub (by omega)]
      push_cast
      ring
  have hlow := quarters_eq b (4 * b.mantissa - if b.narrowBelow then 1 else 2)
  have hhigh := quarters_eq b (4 * b.mantissa + 2)
  rw [hhalf] at hlow
  have hupper : ((4 * b.mantissa + 2 : Nat) : ℚ) / 4 = b.mantissa + 1 / 2 := by
    push_cast
    ring
  rw [hupper] at hhigh
  unfold readsBack at h
  simp only [Bool.and_eq_true, Bool.or_eq_true, beq_iff_eq, compareRatio_eq_lt_iff _ hscale,
    compareRatio_eq_gt_iff _ hscale, compareRatio_eq_eq_iff _ hscale, hlow, hhigh] at h
  obtain ⟨hleft, hright⟩ := h
  refine ⟨hwrites.small, ?_, ?_, ?_, ?_, ?_⟩
  · exact hwrites.normal.imp_left fun hmin => by omega
  · rw [← hwrites.magnitude]
    exact hwrites.finite
  · rw [hwrites.unit]
    exact hleft.elim le_of_lt fun htie => htie.2.ge
  · rw [hwrites.unit]
    exact hright.elim le_of_lt fun htie => htie.2.le
  · rw [hwrites.unit]
    rintro (htie | htie)
    · exact hleft.elim (fun hlt => absurd htie hlt.ne') fun h => h.1
    · exact hright.elim (fun hlt => absurd htie hlt.ne) fun h => h.1

/-- The exact decimal is the number itself. -/
theorem value_exact (b : Binary) : b.exact.value = b.mantissa * 2 ^ b.exponent := by
  unfold exact numerator Scientific.value
  obtain ⟨n, hn | hn⟩ := b.exponent.eq_nat_or_neg
  · simp [hn, Nat.pow_eq]
  · have hmin : min (-(n : ℤ)) 0 = -n := by omega
    have hpow : (10 : ℚ) ^ n = 2 ^ n * 5 ^ n := by
      rw [← mul_pow]
      norm_num
    simp only [hn, hmin, Nat.pow_eq, neg_neg, Int.toNat_natCast, Int.toNat_neg_natCast, zpow_neg, zpow_natCast, hpow]
    push_cast
    field_simp

private theorem roundsTo_exact (hwrites : b.Writes m) :
    RoundsTo b.exact.value b.mantissa (b.exponent + 1074).toNat := by
  have hunit : (0 : ℚ) < 2 ^ b.exponent := by positivity
  have hhalf : 0 < halfBelow b.mantissa (b.exponent + 1074).toNat := by
    unfold halfBelow
    split <;> norm_num
  have hlow : (b.mantissa - halfBelow b.mantissa (b.exponent + 1074).toNat) * 2 ^ b.exponent < b.exact.value := by
    rw [b.value_exact]
    exact mul_lt_mul_of_pos_right (by linarith) hunit
  have hhigh : b.exact.value < (b.mantissa + 1 / 2) * 2 ^ b.exponent := by
    rw [b.value_exact]
    exact mul_lt_mul_of_pos_right (by linarith) hunit
  refine ⟨hwrites.small, hwrites.normal.imp_left fun hmin => by omega, ?_, ?_, ?_, ?_⟩
  · rw [← hwrites.magnitude]
    exact hwrites.finite
  · rw [hwrites.unit]
    exact hlow.le
  · rw [hwrites.unit]
    exact hhigh.le
  · rw [hwrites.unit]
    rintro (htie | htie)
    · exact absurd htie hlow.ne'
    · exact absurd htie hhigh.ne

end Binary

/-- Moving zeros into the exponent does not change the number. -/
theorem Scientific.value_strip (s : Scientific) : s.strip.value = s.value := by
  fun_induction Scientific.strip s with
  | case1 s h ih =>
    have hdigits : s.digits = 10 * (s.digits / 10) := by omega
    rw [ih]
    unfold value
    rw [zpow_add_one₀ (by norm_num)]
    conv_rhs => rw [hdigits]
    push_cast
    ring
  | case2 s h => rfl

/-- The shortest decimal of a float lies in the interval of the float. -/
theorem Binary.roundsTo_shortest {b : Binary} {m : Nat} (hwrites : b.Writes m) (hpos : 0 < b.mantissa) :
    RoundsTo b.shortest.value b.mantissa (b.exponent + 1074).toNat := by
  unfold shortest
  dsimp only
  rw [Scientific.value_strip]
  cases hfirst : b.firstReadingBack _ with
  | none => exact roundsTo_exact hwrites
  | some s => exact roundsTo_of_readsBack hwrites hpos (readsBack_of_firstReadingBack hfirst)

/-! ### Reading decimals -/

theorem lt_pow_digitCount (n : Nat) : n < 10 ^ digitCount n :=
  (Nat.length_toDigits_le_iff (by decide) Nat.length_toDigits_pos).1 le_rfl

theorem pow_digitCount_le {n : Nat} (h : 0 < n) : 10 ^ (digitCount n - 1) ≤ n := by
  by_contra hlt
  have hpos : 0 < digitCount n := Nat.length_toDigits_pos
  rcases Nat.eq_zero_or_pos (digitCount n - 1) with hzero | hmore
  · rw [hzero] at hlt
    omega
  · have hle : digitCount n ≤ digitCount n - 1 := (Nat.length_toDigits_le_iff (by decide) hmore).2 (not_le.1 hlt)
    omega

/-- The bounds for exponents in base ten are wide enough for all exponents in base two. -/
private theorem two_pow_lt_ten_pow : (2 : ℚ) ^ 1075 < 10 ^ 400 := by
  calc (2 : ℚ) ^ 1075 = (2 ^ 215) ^ 5 := by rw [← pow_mul]
    _ < (10 ^ 80) ^ 5 := by gcongr; norm_num
    _ = 10 ^ 400 := by rw [← pow_mul]

theorem RoundsTo.lt_ten_pow {v : ℚ} {mantissa exponent : Nat} (h : RoundsTo v mantissa exponent) :
    v < 10 ^ (400 : ℤ) := by
  have hsmall : (mantissa : ℚ) + 1 ≤ 2 ^ 53 := by exact_mod_cast h.small
  have hfinite := h.finite
  calc v ≤ (mantissa + 1 / 2) * 2 ^ (exponent - 1074 : ℤ) := h.high
    _ ≤ 2 ^ 53 * 2 ^ (972 : ℤ) :=
      mul_le_mul (by linarith) (zpow_le_zpow_right₀ one_le_two (by omega)) (by positivity) (by positivity)
    _ = 2 ^ 1025 := by rw [zpow_ofNat, ← pow_add]
    _ < 10 ^ (400 : ℤ) := (pow_le_pow_right₀ one_le_two (by decide)).trans_lt two_pow_lt_ten_pow

theorem RoundsTo.ten_pow_lt {v : ℚ} {mantissa exponent : Nat} (h : RoundsTo v mantissa exponent)
    (hpos : 0 < mantissa) : 10 ^ (-400 : ℤ) < v := by
  have hmantissa : (1 : ℚ) ≤ mantissa := by exact_mod_cast hpos
  have hhalf := halfBelow_le mantissa exponent
  calc (10 : ℚ) ^ (-400 : ℤ) < 2 ^ (-1075 : ℤ) := by
        rw [zpow_neg, zpow_neg]
        exact inv_strictAnti₀ (by positivity) two_pow_lt_ten_pow
    _ = 1 / 2 * 2 ^ (-1074 : ℤ) := by
      rw [show (-1075 : ℤ) = -1 + -1074 by rfl, zpow_add₀ two_ne_zero, zpow_neg_one, one_div]
    _ ≤ (mantissa - halfBelow mantissa exponent) * 2 ^ (exponent - 1074 : ℤ) :=
      mul_le_mul (by linarith) (zpow_le_zpow_right₀ one_le_two (by omega)) (by positivity) (by linarith)
    _ ≤ v := h.low

/-- A decimal in the interval of a float is read as that float. -/
theorem ofScientific_eq {n : Nat} {e : Int} {mantissa exponent : Nat} (hpos : 0 < mantissa)
    (h : RoundsTo (n * 10 ^ e) mantissa exponent) :
    ofScientific n e = Float.ofBits (UInt64.ofNat (exponent * 2 ^ 52 + mantissa)) := by
  have hten : (0 : ℚ) < 10 ^ e := by positivity
  have hn : 0 < n := by
    have hvalue := h.pos hpos
    rcases Nat.eq_zero_or_pos n with rfl | hn
    · simp at hvalue
    · exact hn
  -- Neither bound for early answers is reached, as a number between them is what the digits round to.
  have hlarge : ¬ (digitCount n : Int) + e > 400 := by
    intro hgt
    have hcount : (10 : ℚ) ^ (digitCount n - 1) ≤ n := by exact_mod_cast pow_digitCount_le hn
    have hdigits : 0 < digitCount n := Nat.length_toDigits_pos
    refine h.lt_ten_pow.not_ge ?_
    calc (10 : ℚ) ^ (400 : ℤ) ≤ 10 ^ (((digitCount n - 1 : ℕ) : ℤ) + e) :=
          zpow_le_zpow_right₀ (by norm_num) (by omega)
      _ = 10 ^ (digitCount n - 1) * 10 ^ e := by rw [zpow_add₀ (by norm_num), zpow_natCast]
      _ ≤ n * 10 ^ e := mul_le_mul_of_nonneg_right hcount hten.le
  have hsmall : ¬ (digitCount n : Int) + e < -400 := by
    intro hlt
    have hcount : (n : ℚ) < 10 ^ digitCount n := by exact_mod_cast lt_pow_digitCount n
    refine (h.ten_pow_lt hpos).not_ge ?_
    calc (n * 10 ^ e : ℚ) ≤ 10 ^ digitCount n * 10 ^ e := mul_le_mul_of_nonneg_right hcount.le hten.le
      _ = 10 ^ ((digitCount n : ℤ) + e) := by rw [zpow_add₀ (by norm_num), zpow_natCast]
      _ ≤ 10 ^ (-400 : ℤ) := zpow_le_zpow_right₀ (by norm_num) (by omega)
  unfold ofScientific
  rw [if_neg (by simpa using hn.ne'), if_neg hlarge, if_neg hsmall]
  refine RoundsTo.ofRatio_eq (Nat.pow_pos (by decide)) ?_ (Nat.mul_pos hn (Nat.pow_pos (by decide)))
  have hratio : ((n * Nat.pow 10 e.toNat : Nat) : ℚ) / (Nat.pow 10 (-e).toNat : Nat) = n * 10 ^ e := by
    have hmul := zpow_mul_pow 10 (by decide) e
    push_cast at hmul
    simp only [Nat.pow_eq]
    push_cast
    rw [← hmul]
    field_simp
  rw [hratio]
  exact h

end IntegrationFlow.Decimal
