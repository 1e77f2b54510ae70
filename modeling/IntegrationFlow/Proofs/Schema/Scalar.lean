import IntegrationFlow.Proofs.Json.Parsed
import IntegrationFlow.Schema.Scalar

/-!
# Whole numbers that are read

Where the schema wants a whole number, what it reads from a value of a JSON text is no longer than the numbers of such
texts are (`Schema.length_digitsOf_of_whole`).
-/

namespace IntegrationFlow

namespace Decimal

/-- The digits in front of a text are below the base, and no more than its characters. -/
theorem takeDigits_spec (base : Nat) (value? : Char → Option Nat) (cs : List Char) :
    (∀ d ∈ (takeDigits base value? cs).1, d < base) ∧ (takeDigits base value? cs).1.length ≤ cs.length := by
  fun_induction takeDigits base value? cs with
  | case2 c d hd hlt c' rest hnext ds rest' heq ih =>
    rw [heq] at ih
    refine ⟨List.forall_mem_cons.2 ⟨hlt, ih.1⟩, ?_⟩
    have hle := ih.2
    simp only [List.length_cons] at hle ⊢
    omega
  | case3 c d hd hlt c' rest hnext => simpa using hlt
  | case4 c d hd hlt cs hnext ds rest' heq ih =>
    rw [heq] at ih
    exact ⟨List.forall_mem_cons.2 ⟨hlt, ih.1⟩, Nat.succ_le_succ ih.2⟩
  | _ => simp

end Decimal

namespace Schema

open Decimal

private theorem length_digitsOf_of_natAbs_le {n : Int} (h : n.natAbs ≤ 9223372036854775808) :
    (digitsOf n.natAbs).length ≤ Decimal.maxDigits := by
  refine length_digitsOf_le (by decide) (h.trans_lt ?_)
  calc 9223372036854775808 < 10 ^ 20 := by norm_num
    _ ≤ 10 ^ Decimal.maxDigits := Nat.pow_le_pow_right (by decide) (by decide)

theorem length_digitsOf_of_readWhole {s : String} {n : Int} (h : readWhole s = .fits n) :
    (digitsOf n.natAbs).length ≤ Decimal.maxDigits := by
  unfold readWhole at h
  dsimp only at h
  split at h
  · cases h
  next hlength =>
  split at h
  · next d ds rest hdigits =>
    split at h
    · cases h
      generalize (takeSign (trimNumber s.toList)).2 = cs at *
      obtain ⟨hbase, hle⟩ := takeDigits_spec 10 asciiDigit? cs
      rw [hdigits] at hbase hle
      have habs (negative : Bool) (m : Nat) : (signed negative m).natAbs = m := by
        unfold signed
        split <;> omega
      rw [habs]
      refine length_digitsOf_le (by decide) ((ofDigits_lt hbase).trans_le (Nat.pow_le_pow_right (by decide) ?_))
      exact hle.trans (not_lt.1 hlength)
    · cases h
  · cases h

/-- A whole number that is read from what JSON can hold is not too long. -/
theorem length_digitsOf_of_whole {v : Value} {n : Int} (hv : v.IsJson) (h : whole v = .fits n) :
    (digitsOf n.natAbs).length ≤ Decimal.maxDigits := by
  unfold whole at h
  split at h
  · cases h
    split <;> decide
  · cases h
    cases hv with
    | int _ hn => exact hn
  · unfold wholeOfFloat at h
    split at h
    · cases h
    split at h
    · cases h
    split at h
    · next hlt =>
      cases h
      exact length_digitsOf_of_natAbs_le hlt.le
    · cases h
  · exact length_digitsOf_of_readWhole h
  · cases h

theorem isJson_of_natural {v : Value} {n : Nat} (hv : v.IsJson) (h : natural v = .fits n) : (Value.int n).IsJson := by
  unfold natural wholeFrom at h
  cases hwhole : whole v with
  | refused ps =>
    rw [hwhole] at h
    cases h
  | fits m =>
    rw [hwhole] at h
    unfold Checked.andThen at h
    dsimp only at h
    split at h
    · cases h
    · next hm =>
      cases h
      have hlength := length_digitsOf_of_whole hv hwhole
      have habs : ((m.toNat : Int)).natAbs = m.natAbs := by omega
      exact .int _ (by rwa [habs])

end Schema

end IntegrationFlow
