import Mathlib
import IntegrationFlow.Decimal.Binary

/-!
# Rounding to floats

`ofRatio` gives the float nearest to a quotient. `RoundsTo` describes the rationals that belong to a float, by its
mantissa and its exponent: half of the gap on each side, the ends only when the mantissa is even. All of them are rounded
to that float (`RoundsTo.ofRatio_eq`).
-/

namespace IntegrationFlow.Decimal

/-- A quotient that is at most half away from a natural, an even one in a tie, is rounded to it. -/
theorem roundDiv_eq {num den n : Nat} (hden : 0 < den) (hlow : 2 * n * den ≤ 2 * num + den)
    (hhigh : 2 * num ≤ (2 * n + 1) * den)
    (heven : 2 * n * den = 2 * num + den ∨ 2 * num = (2 * n + 1) * den → n % 2 = 0) : roundDiv num den = n := by
  have hsplit : num = num / den * den + num % den := (Nat.div_add_mod' num den).symm
  have hsmall : num % den < den := Nat.mod_lt _ hden
  generalize hq : num / den = q at hsplit
  generalize hr : num % den = r at hsplit hsmall
  have hle : q ≤ n := by
    have h : 2 * (q * den) < (2 * n + 2) * den := by nlinarith
    have : q * den < (n + 1) * den := by linarith
    exact Nat.lt_succ_iff.1 (lt_of_mul_lt_mul_right this (Nat.zero_le _))
  have hge : n ≤ q + 1 := by
    have h : 2 * (n * den) < (2 * q + 3) * den + den := by nlinarith
    have : n * den < (q + 2) * den := by linarith
    exact Nat.lt_succ_iff.1 (lt_of_mul_lt_mul_right this (Nat.zero_le _))
  unfold roundDiv
  simp only [hq, hr]
  rcases Nat.lt_or_ge q n with hlt | hnlt
  · obtain rfl : n = q + 1 := by omega
    -- The remainder is at least half.
    have hhalf : den ≤ 2 * r := by nlinarith
    rcases Nat.eq_or_lt_of_le hhalf with htie | hgt
    · have hodd : (q + 1) % 2 = 0 := heven (.inl (by nlinarith))
      rw [Nat.compare_eq_eq.2 htie.symm]
      simp; omega
    · rw [Nat.compare_eq_gt.2 hgt]
  · obtain rfl : n = q := by omega
    have hhalf : 2 * r ≤ den := by nlinarith
    rcases Nat.eq_or_lt_of_le hhalf with htie | hlt
    · have heven : n % 2 = 0 := heven (.inr (by nlinarith))
      rw [Nat.compare_eq_eq.2 htie]
      simp [heven]
    · rw [Nat.compare_eq_lt.2 hlt]

/-- The same in terms of the quotient. -/
theorem roundDiv_eq_of_div {num den n : Nat} (hden : 0 < den) (hlow : (n : ℚ) - 1 / 2 ≤ num / den)
    (hhigh : (num : ℚ) / den ≤ n + 1 / 2)
    (heven : (num : ℚ) / den = n - 1 / 2 ∨ (num : ℚ) / den = n + 1 / 2 → n % 2 = 0) : roundDiv num den = n := by
  have hpos : (0 : ℚ) < den := by exact_mod_cast hden
  rw [le_div_iff₀ hpos] at hlow
  rw [div_le_iff₀ hpos] at hhigh
  rw [div_eq_iff hpos.ne', div_eq_iff hpos.ne'] at heven
  refine roundDiv_eq hden ?_ ?_ fun h => heven ?_
  · have : (2 * n * den : ℚ) ≤ 2 * num + den := by linarith
    exact_mod_cast this
  · have : (2 * num : ℚ) ≤ (2 * n + 1) * den := by linarith
    exact_mod_cast this
  · rcases h with h | h
    · have : (2 * n * den : ℚ) = 2 * num + den := by exact_mod_cast h
      exact .inl (by linarith)
    · have : (2 * num : ℚ) = (2 * n + 1) * den := by exact_mod_cast h
      exact .inr (by linarith)

/-- A quotient on the grid of the multiples of a power of two. -/
theorem scaled_div (num den : Nat) (e : Int) :
    ((num * Nat.pow 2 (-e).toNat : Nat) : ℚ) / (den * Nat.pow 2 e.toNat : Nat) = (num / den : ℚ) / 2 ^ e := by
  obtain ⟨n, rfl | rfl⟩ := e.eq_nat_or_neg
  · simp [Nat.pow_eq, div_div]
  · simp [Nat.pow_eq, div_eq_mul_inv]
    ring

theorem log2_bounds {n : Nat} (h : 0 < n) : (2 : ℚ) ^ (n.log2 : ℤ) ≤ n ∧ (n : ℚ) < 2 ^ ((n.log2 : ℤ) + 1) := by
  constructor
  · rw [zpow_natCast]
    exact_mod_cast Nat.log2_self_le h.ne'
  · have : ((2 : ℚ) ^ ((n.log2 : ℤ) + 1)) = ((2 ^ (n.log2 + 1) : ℕ) : ℚ) := by
      push_cast
      exact_mod_cast zpow_natCast (2 : ℚ) (n.log2 + 1)
    rw [this]
    exact_mod_cast Nat.lt_log2_self

/-- The exponent of the leading bit of a quotient. -/
def topBit (num den : Nat) : Int :=
  let estimate : Int := (num.log2 : Int) - den.log2
  let below := num * Nat.pow 2 (-estimate).toNat < den * Nat.pow 2 estimate.toNat
  if below then estimate - 1 else estimate

theorem topBit_spec {num den : Nat} (hnum : 0 < num) (hden : 0 < den) :
    (2 : ℚ) ^ topBit num den ≤ num / den ∧ (num / den : ℚ) < 2 ^ (topBit num den + 1) := by
  have hpos : (0 : ℚ) < den := by exact_mod_cast hden
  obtain ⟨hn, hn'⟩ := log2_bounds hnum
  obtain ⟨hd, hd'⟩ := log2_bounds hden
  have hscale := scaled_div num den ((num.log2 : Int) - den.log2)
  unfold topBit
  dsimp only
  set estimate : Int := (num.log2 : Int) - den.log2 with hestimate
  have hscaled : (0 : ℚ) < (den * Nat.pow 2 estimate.toNat : Nat) := by
    exact_mod_cast Nat.mul_pos hden (Nat.two_pow_pos _)
  have hbelow : num * Nat.pow 2 (-estimate).toNat < den * Nat.pow 2 estimate.toNat ↔ (num / den : ℚ) < 2 ^ estimate := by
    have hpow : (0 : ℚ) < 2 ^ estimate := zpow_pos two_pos estimate
    rw [← (div_lt_one hpow), ← hscale, div_lt_one hscaled]
    exact Nat.cast_lt.symm
  have hlow : (2 : ℚ) ^ (estimate - 1) ≤ num / den := by
    rw [le_div_iff₀ hpos]
    calc (2 : ℚ) ^ (estimate - 1) * den ≤ 2 ^ (estimate - 1) * 2 ^ ((den.log2 : ℤ) + 1) := by gcongr
      _ = 2 ^ (num.log2 : ℤ) := by rw [← zpow_add₀ two_ne_zero]; congr 1; omega
      _ ≤ num := hn
  have hhigh : (num / den : ℚ) < 2 ^ (estimate + 1) := by
    rw [div_lt_iff₀ hpos]
    calc (num : ℚ) < 2 ^ ((num.log2 : ℤ) + 1) := hn'
      _ = 2 ^ (estimate + 1) * 2 ^ (den.log2 : ℤ) := by rw [← zpow_add₀ two_ne_zero]; congr 1; omega
      _ ≤ 2 ^ (estimate + 1) * den := by gcongr
  split
  · next h => exact ⟨hlow, by simpa using hbelow.1 h⟩
  · next h => exact ⟨not_lt.1 fun hlt => h (hbelow.2 hlt), hhigh⟩

theorem ofRatio_eq_topBit {num den : Nat} (hnum : 0 < num) : ofRatio num den =
    let exponent := max (topBit num den - 52) (-1074)
    let mantissa := roundDiv (num * Nat.pow 2 (-exponent).toNat) (den * Nat.pow 2 exponent.toNat)
    let bits := (exponent + 1074).toNat * leadingBit + mantissa
    if bits ≥ 0x7FF0000000000000 then infinity else Float.ofBits bits.toUInt64 := by
  unfold ofRatio
  rw [if_neg (by simpa using hnum.ne')]
  rfl

/-- Half of the gap below a float, in units of its last place; it is narrower below a power of two. -/
def halfBelow (mantissa exponent : Nat) : ℚ :=
  if mantissa = 2 ^ 52 ∧ 0 < exponent then 1 / 4 else 1 / 2

/-- The rationals that are rounded to the float with the mantissa and the exponent. -/
structure RoundsTo (v : ℚ) (mantissa exponent : Nat) : Prop where
  small : mantissa < 2 ^ 53
  normal : exponent = 0 ∨ 2 ^ 52 ≤ mantissa
  finite : exponent * 2 ^ 52 + mantissa < 0x7FF0000000000000
  low : (mantissa - halfBelow mantissa exponent) * 2 ^ (exponent - 1074 : ℤ) ≤ v
  high : v ≤ (mantissa + 1 / 2) * 2 ^ (exponent - 1074 : ℤ)
  even : v = (mantissa - halfBelow mantissa exponent) * 2 ^ (exponent - 1074 : ℤ) ∨
    v = (mantissa + 1 / 2) * 2 ^ (exponent - 1074 : ℤ) → mantissa % 2 = 0

theorem halfBelow_le (mantissa exponent : Nat) : halfBelow mantissa exponent ≤ 1 / 2 := by
  unfold halfBelow
  split <;> norm_num

theorem RoundsTo.pos {v : ℚ} {mantissa exponent : Nat} (h : RoundsTo v mantissa exponent) (hpos : 0 < mantissa) :
    0 < v := by
  have hhalf := halfBelow_le mantissa exponent
  have hone : (1 : ℚ) ≤ mantissa := by exact_mod_cast hpos
  exact (mul_pos (by linarith) (zpow_pos two_pos _)).trans_le h.low

section

variable {num den mantissa exponent : Nat} (hden : 0 < den) (h : RoundsTo (num / den) mantissa exponent)
include hden h

/-- The grid of the quotient is never coarser than that of the float. -/
private theorem RoundsTo.topBit_le (hnum : 0 < num) : max (topBit num den - 52) (-1074) ≤ exponent - 1074 := by
  have htop := (topBit_spec hnum hden).1
  by_contra hlt
  have hlarge : (2 : ℚ) ^ (exponent - 1074 + 53 : ℤ) ≤ num / den :=
    (zpow_le_zpow_right₀ one_le_two (by omega)).trans htop
  have hbound : (mantissa : ℚ) + 1 / 2 < 2 ^ 53 := by
    have : (mantissa : ℚ) + 1 ≤ 2 ^ 53 := by exact_mod_cast h.small
    linarith
  have hsmall : (num / den : ℚ) < 2 ^ (exponent - 1074 + 53 : ℤ) := by
    rw [zpow_add₀ two_ne_zero, mul_comm]
    exact h.high.trans_lt (mul_lt_mul_of_pos_right hbound (zpow_pos two_pos _))
  linarith

/-- On the grid of the float, the quotient is rounded to the mantissa. -/
private theorem RoundsTo.roundDiv_eq_mantissa {e : ℤ} (he : e = exponent - 1074) :
    roundDiv (num * Nat.pow 2 (-e).toNat) (den * Nat.pow 2 e.toNat) = mantissa := by
  have hupos : (0 : ℚ) < 2 ^ e := zpow_pos two_pos _
  have hhalf := halfBelow_le mantissa exponent
  obtain ⟨-, -, -, hlow, hhigh, heven⟩ := h
  rw [← he] at hlow hhigh heven
  refine roundDiv_eq_of_div (Nat.mul_pos hden (Nat.two_pow_pos _)) ?_ ?_ fun htie => heven ?_
  · rw [scaled_div, le_div_iff₀ hupos]
    exact (mul_le_mul_of_nonneg_right (by linarith) hupos.le).trans hlow
  · rw [scaled_div, div_le_iff₀ hupos]
    exact hhigh
  · rw [scaled_div, div_eq_iff hupos.ne', div_eq_iff hupos.ne'] at htie
    refine htie.imp_left fun htie => le_antisymm ?_ hlow
    rw [htie]
    exact mul_le_mul_of_nonneg_right (by linarith) hupos.le

/-- A quotient on a finer grid lies in the binade below the float, which is a power of two. -/
private theorem RoundsTo.roundDiv_below (hnum : 0 < num) {e : ℤ} (he : e = max (topBit num den - 52) (-1074))
    (hlt : e < exponent - 1074) :
    mantissa = 2 ^ 52 ∧ e = exponent - 1075 ∧
      roundDiv (num * Nat.pow 2 (-e).toNat) (den * Nat.pow 2 e.toNat) = 2 ^ 53 := by
  obtain ⟨htop, htop'⟩ := topBit_spec hnum hden
  have hpos : 0 < exponent := by omega
  set u : ℚ := 2 ^ (exponent - 1074 : ℤ) with hu
  have hupos : 0 < u := zpow_pos two_pos _
  have hbelow : (num / den : ℚ) < 2 ^ 52 * u := by
    have : (2 : ℚ) ^ 52 * u = 2 ^ (exponent - 1074 + 52 : ℤ) := by
      rw [zpow_add₀ two_ne_zero, mul_comm]; rfl
    rw [this]
    exact htop'.trans_le (zpow_le_zpow_right₀ one_le_two (by omega))
  -- Only below the least mantissa the half of a unit is shorter, and so the ratio may lie below the binade.
  have hmantissa : mantissa = 2 ^ 52 := by
    refine le_antisymm ?_ (h.normal.resolve_left hpos.ne')
    by_contra hgt
    have hgt : (2 : ℚ) ^ 52 + 1 ≤ mantissa := by exact_mod_cast not_le.1 hgt
    have hhalf := halfBelow_le mantissa exponent
    have : 2 ^ 52 * u < num / den := (mul_lt_mul_of_pos_right (by linarith) hupos).trans_le h.low
    linarith
  have hlow : ((2 : ℚ) ^ 52 - 1 / 4) * u ≤ num / den := by
    have hlow := h.low
    rw [halfBelow, if_pos ⟨hmantissa, hpos⟩, hmantissa] at hlow
    exact_mod_cast hlow
  -- The ratio lies at most a quarter of a unit below the power, hence in the binade right below it.
  have he1 : e = exponent - 1075 := by
    have : (2 : ℚ) ^ (exponent - 1074 + 51 : ℤ) < 2 ^ (topBit num den + 1) := by
      refine lt_of_le_of_lt ?_ (hlow.trans_lt htop')
      rw [zpow_add₀ two_ne_zero, mul_comm]
      exact mul_le_mul_of_nonneg_right (by norm_num) hupos.le
    have := (zpow_lt_zpow_iff_right₀ one_lt_two).1 this
    omega
  have hunit : u = 2 ^ e * 2 := by
    rw [hu, he1, ← zpow_add_one₀ two_ne_zero]; congr 1; omega
  have hepos : (0 : ℚ) < 2 ^ e := zpow_pos two_pos _
  rw [hunit] at hlow hbelow
  refine ⟨hmantissa, he1, roundDiv_eq_of_div (Nat.mul_pos hden (Nat.two_pow_pos _)) ?_ ?_ fun _ => by norm_num⟩
  · rw [scaled_div, le_div_iff₀ hepos]
    push_cast
    linarith
  · rw [scaled_div, div_le_iff₀ hepos]
    push_cast
    linarith

theorem RoundsTo.ofRatio_eq (hnum : 0 < num) :
    ofRatio num den = Float.ofBits (UInt64.ofNat (exponent * 2 ^ 52 + mantissa)) := by
  have hle := h.topBit_le hden hnum
  have hfinite := h.finite
  rw [ofRatio_eq_topBit hnum]
  dsimp only
  set e : ℤ := max (topBit num den - 52) (-1074) with he
  suffices hround : (e + 1074).toNat * leadingBit +
      roundDiv (num * Nat.pow 2 (-e).toNat) (den * Nat.pow 2 e.toNat) = exponent * 2 ^ 52 + mantissa by
    rw [hround, if_neg (by omega)]
  rcases hle.eq_or_lt with heq | hlt
  · rw [h.roundDiv_eq_mantissa hden heq, heq]
    simp [leadingBit]
  · obtain ⟨hmantissa, he1, hround⟩ := h.roundDiv_below hden hnum he hlt
    rw [hround, he1, hmantissa]
    simp only [leadingBit]
    omega

end

end IntegrationFlow.Decimal
