import Mathlib
import IntegrationFlow.Decimal.Binary

/-!
# The bits of floats

A float is its bits. Without the sign bit they are a number, its `magnitude`, from which the mantissa and the exponent
are read (`writes_of_ofFloat?`); the sign bit is what a negation changes (`eq_neg`).
-/

namespace IntegrationFlow.Decimal

open Float.Model Float.Model.UnpackedFloat

/-! ### The parts of the bits -/

private theorem unpackExponent_toNat (bits : BitVec 64) :
    (@unpackExponent Format.binary64 bits).toNat = bits.toNat / 2 ^ 52 % 2 ^ 11 := by
  rw [unpackExponent_def]
  simp [BitVec.extractLsb'_toNat, Nat.shiftRight_eq_div_pow]

private theorem unpackMantissa_toNat (bits : BitVec 64) :
    (@unpackMantissa Format.binary64 bits).toNat = bits.toNat % 2 ^ 52 := by
  rw [unpackMantissa_def]
  simp [BitVec.extractLsb'_toNat, Nat.shiftRight_eq_div_pow]

private theorem unpackSign_toNat (bits : BitVec 64) :
    (@unpackSign Format.binary64 bits).toNat = bits.toNat / 2 ^ 63 := by
  rw [unpackSign_def]
  have hlt := bits.isLt
  simp [BitVec.extractLsb'_toNat, Nat.shiftRight_eq_div_pow]
  omega

/-! ### The sign -/

private theorem unpack_eq_neg {b b' : BitVec 64}
    (hexponent : @unpackExponent Format.binary64 b' = @unpackExponent Format.binary64 b)
    (hmantissa : @unpackMantissa Format.binary64 b' = @unpackMantissa Format.binary64 b)
    (hsign : Sign.ofBitVec (@unpackSign Format.binary64 b') =
      -Sign.ofBitVec (@unpackSign Format.binary64 b)) :
    UnpackedFloat.unpack Format.binary64 b' = (UnpackedFloat.unpack Format.binary64 b).neg := by
  unfold UnpackedFloat.unpack
  simp only [hexponent, hmantissa, hsign]
  split
  · split <;> rfl
  · split
    · split <;> rfl
    · rfl

private theorem unpack_add_sign {b b' : BitVec 64} (h : b'.toNat = b.toNat + 2 ^ 63) :
    UnpackedFloat.unpack Format.binary64 b' = (UnpackedFloat.unpack Format.binary64 b).neg := by
  have hlt := b'.isLt
  refine unpack_eq_neg ?_ ?_ ?_
  · rw [← BitVec.toNat_inj, unpackExponent_toNat, unpackExponent_toNat, h]
    omega
  · rw [← BitVec.toNat_inj, unpackMantissa_toNat, unpackMantissa_toNat, h]
    omega
  · have hplus : @unpackSign Format.binary64 b = 0#1 := by
      rw [← BitVec.toNat_inj, unpackSign_toNat, BitVec.toNat_ofNat]
      omega
    have hminus : @unpackSign Format.binary64 b' = 1#1 := by
      rw [← BitVec.toNat_inj, unpackSign_toNat, h, BitVec.toNat_ofNat]
      omega
    rw [hplus, hminus]
    rfl

/-- Floats with the same bits are the same. -/
theorem eq_of_toBits {x y : Float} (h : x.toBits = y.toBits) : x = y := by
  rw [← Float.ofBits_toBits x, h, Float.ofBits_toBits]

/-- A negation sets a sign bit that is not set. -/
theorem eq_neg {x y : Float} (h : y.toBits.toNat = x.toBits.toNat + 2 ^ 63) : y = -x := by
  refine eq_of_toBits (UInt64.toBitVec_inj.1 ?_)
  have hpack : (-x).toBits.toBitVec =
      UnpackedFloat.pack Format.binary64 (UnpackedFloat.unpack Format.binary64 x.toBits.toBitVec).neg := rfl
  rw [hpack, ← @unpack_add_sign _ y.toBits.toBitVec h]
  exact (pack_unpack_of_valid y.toModel.valid (by decide)).symm

/-! ### The magnitude -/

/-- The bits of a float as a number, without its sign. -/
def magnitude (x : Float) : Nat :=
  x.toBits.toNat % 2 ^ 63

theorem isNegative_iff (x : Float) : isNegative x = true ↔ 2 ^ 63 ≤ x.toBits.toNat := by
  have hlt := x.toBits.toNat_lt
  unfold isNegative
  rw [beq_iff_eq, ← UInt64.toNat_inj, UInt64.toNat_shiftRight]
  simp [Nat.shiftRight_eq_div_pow]
  omega

theorem toNat_toBits (x : Float) : x.toBits.toNat = magnitude x + if isNegative x then 2 ^ 63 else 0 := by
  have hlt := x.toBits.toNat_lt
  have hsign := isNegative_iff x
  unfold magnitude
  split
  · next h =>
    have hlarge := hsign.1 h
    omega
  · next h =>
    have hsmall := mt hsign.2 h
    omega

theorem magnitude_lt (x : Float) : magnitude x < 2 ^ 63 :=
  Nat.mod_lt _ (Nat.two_pow_pos 63)

/-- The fields of a float in terms of its magnitude. -/
theorem ofFloat?_eq (x : Float) : Binary.ofFloat? x =
    if magnitude x / 2 ^ 52 = 0x7FF then none
    else if magnitude x / 2 ^ 52 = 0 then some ⟨isNegative x, magnitude x % 2 ^ 52, -1074, false⟩
    else some ⟨isNegative x, leadingBit + magnitude x % 2 ^ 52, (magnitude x / 2 ^ 52 : Nat) - 1075,
      magnitude x % 2 ^ 52 == 0 && magnitude x / 2 ^ 52 > 1⟩ := by
  have hlt := x.toBits.toNat_lt
  have hfield : ((x.toBits >>> 52) &&& 0x7FF).toNat = magnitude x / 2 ^ 52 := by
    have hmask : (0x7FF : UInt64).toNat = 2 ^ 11 - 1 := rfl
    rw [UInt64.toNat_and, UInt64.toNat_shiftRight, hmask, Nat.and_two_pow_sub_one_eq_mod, Nat.shiftRight_eq_div_pow]
    unfold magnitude
    simp
    omega
  have hfraction : (x.toBits &&& 0xFFFFFFFFFFFFF).toNat = magnitude x % 2 ^ 52 := by
    have hmask : (0xFFFFFFFFFFFFF : UInt64).toNat = 2 ^ 52 - 1 := rfl
    rw [UInt64.toNat_and, hmask, Nat.and_two_pow_sub_one_eq_mod]
    unfold magnitude
    omega
  unfold Binary.ofFloat?
  simp only [hfield, hfraction, beq_iff_eq]

/-- The mantissa and the exponent of a finite float make up its magnitude. -/
structure Binary.Writes (b : Binary) (m : Nat) : Prop where
  small : b.mantissa < 2 ^ 53
  bounded : -1074 ≤ b.exponent
  normal : b.exponent = -1074 ∨ 2 ^ 52 ≤ b.mantissa
  narrow : b.narrowBelow = true ↔ b.mantissa = 2 ^ 52 ∧ -1074 < b.exponent
  magnitude : m = (b.exponent + 1074).toNat * 2 ^ 52 + b.mantissa
  finite : m < 0x7FF0000000000000

/-- The exact number of a finite float has its sign and its magnitude. -/
theorem writes_of_ofFloat? {x : Float} {b : Binary} (h : Binary.ofFloat? x = some b) :
    b.negative = isNegative x ∧ b.Writes (magnitude x) := by
  have hlt := magnitude_lt x
  rw [ofFloat?_eq] at h
  split at h
  · cases h
  · next hfinite =>
    split at h
    · next hfield =>
      cases h
      refine ⟨rfl, ?_, le_refl _, .inl rfl, by simp, ?_, ?_⟩
      · simp only; omega
      · simp only; omega
      · omega
    · next hfield =>
      cases h
      unfold leadingBit
      refine ⟨rfl, ?_, ?_, .inr ?_, ?_, ?_, ?_⟩
      · simp only; omega
      · simp only; omega
      · simp only; omega
      · simp only [Bool.and_eq_true, beq_iff_eq, decide_eq_true_eq]
        omega
      · simp only; omega
      · omega

/-- A float is finite exactly when it is an exact number. -/
theorem isFinite_iff (x : Float) : x.isFinite = true ↔ Binary.ofFloat? x ≠ none := by
  have hlt := x.toBits.toNat_lt
  have hfull : @unpackExponent Format.binary64 x.toBits.toBitVec = -1#11 ↔ magnitude x / 2 ^ 52 = 0x7FF := by
    rw [← BitVec.toNat_inj, unpackExponent_toNat]
    have hbits : x.toBits.toBitVec.toNat = x.toBits.toNat := rfl
    have hones : (-1#11).toNat = 0x7FF := rfl
    rw [hbits, hones]
    unfold magnitude
    omega
  have hmodel : x.isFinite = (UnpackedFloat.unpack Format.binary64 x.toBits.toBitVec).isFinite := rfl
  rw [hmodel, ofFloat?_eq]
  have hleft : (UnpackedFloat.unpack Format.binary64 x.toBits.toBitVec).isFinite = true ↔
      @unpackExponent Format.binary64 x.toBits.toBitVec ≠ -1#11 := by
    unfold UnpackedFloat.unpack
    dsimp only
    split
    · next hones =>
      have hcontra : @unpackExponent Format.binary64 x.toBits.toBitVec = -1#11 := hones
      split <;> exact iff_of_false Bool.false_ne_true fun hne => hne hcontra
    · next hones =>
      have hne : @unpackExponent Format.binary64 x.toBits.toBitVec ≠ -1#11 := hones
      split
      · split <;> exact iff_of_true rfl hne
      · exact iff_of_true rfl hne
  rw [hleft, ne_eq, hfull]
  split
  · next h => exact iff_of_false (fun hne => hne h) fun hne => hne rfl
  · next h => split <;> exact iff_of_true h nofun

/-- The bits of a number that is below those of infinity are kept. -/
theorem toNat_toBits_ofBits {m : Nat} (h : m < 0x7FF0000000000000) :
    (Float.ofBits (UInt64.ofNat m)).toBits.toNat = m := by
  have hm : (UInt64.ofNat m).toNat = m := UInt64.toNat_ofNat_of_lt' (by unfold UInt64.size; omega)
  have hnan : @isNaNBits Format.binary64 (UInt64.ofNat m).toBitVec = false := by
    refine decide_eq_false fun hboth => ?_
    have hones : @unpackExponent Format.binary64 (UInt64.ofNat m).toBitVec = -1#11 := hboth.1
    have hbits : (UInt64.ofNat m).toBitVec.toNat = m := hm
    rw [← BitVec.toNat_inj, unpackExponent_toNat, hbits] at hones
    have hfull : (-1#11).toNat = 0x7FF := rfl
    rw [hfull] at hones
    omega
  have hpack := @pack_unpack Format.binary64 (UInt64.ofNat m).toBitVec (by decide)
  rw [if_neg (by rw [hnan]; exact Bool.false_ne_true)] at hpack
  have hkept : (Float.ofBits (UInt64.ofNat m)).toBits = UInt64.ofNat m := UInt64.toBitVec_inj.1 hpack
  rw [hkept, hm]

/-- A finite float is made from its magnitude and its sign. -/
theorem signed_ofBits_magnitude {x : Float} {b : Binary} (h : Binary.ofFloat? x = some b) :
    (if b.negative then -Float.ofBits (UInt64.ofNat (magnitude x))
      else Float.ofBits (UInt64.ofNat (magnitude x))) = x := by
  obtain ⟨hsign, hwrites⟩ := writes_of_ofFloat? h
  have hkept := toNat_toBits_ofBits hwrites.finite
  have hbits := toNat_toBits x
  rw [hsign]
  split
  · next hneg =>
    rw [if_pos hneg] at hbits
    exact (eq_neg (by rw [hbits, hkept])).symm
  · next hpos =>
    rw [if_neg hpos] at hbits
    exact eq_of_toBits (UInt64.toNat_inj.1 (by rw [hbits, hkept]; rfl))

end IntegrationFlow.Decimal
