import Mathlib
import IntegrationFlow.Time.Calendar

/-!
# Days of the calendar

A day has one date and a date one day: the date of a day of the years from 1 to 9999 is in the calendar, and its day is
the one it was found for (`Date.ofDays_spec`).
-/

namespace IntegrationFlow.Time

/-! ### Years -/

/-- A year has 365 days, and one more if it has a 29th of February. -/
theorem daysBeforeYear_succ {y : Nat} (h : 1 ≤ y) :
    daysBeforeYear (y + 1) = daysBeforeYear y + 365 + if isLeapYear y then 1 else 0 := by
  obtain ⟨n, rfl⟩ : ∃ n, y = n + 1 := ⟨y - 1, by omega⟩
  have hleap : isLeapYear (n + 1) = true ↔ 4 ∣ n + 1 ∧ (¬ 100 ∣ n + 1 ∨ 400 ∣ n + 1) := by
    simp [isLeapYear, Nat.dvd_iff_mod_eq_zero]
  have h100 : 100 ∣ n + 1 → 4 ∣ n + 1 := (by decide : 4 ∣ 100).trans
  have h400 : 400 ∣ n + 1 → 100 ∣ n + 1 := (by decide : 100 ∣ 400).trans
  have hle : n / 100 ≤ n / 4 := Nat.div_le_div_left (by decide) (by decide)
  unfold daysBeforeYear
  simp only [Nat.add_sub_cancel, Nat.succ_div, hleap]
  split_ifs <;> omega

theorem daysBeforeYear_mono {y z : Nat} (h : y ≤ z) : daysBeforeYear y ≤ daysBeforeYear z := by
  induction h with
  | refl => exact le_rfl
  | @step z h ih =>
    refine ih.trans ?_
    rcases Nat.eq_zero_or_pos z with rfl | hpos
    · exact le_rfl
    · rw [Nat.succ_eq_add_one, daysBeforeYear_succ hpos]
      omega

theorem sum_monthLengths (y : Nat) : (monthLengths y).sum = 365 + if isLeapYear y then 1 else 0 := by
  unfold monthLengths
  split <;> rfl

namespace Date

theorem yearOf_spec (days : Nat) :
    1 ≤ yearOf days ∧ daysBeforeYear (yearOf days) ≤ days ∧ days < daysBeforeYear (yearOf days + 1) := by
  unfold yearOf daysBeforeYear
  dsimp only
  split
  · omega
  · split <;> omega

/-! ### Months -/

private theorem toDays_eq (d : Date) :
    d.toDays = ((daysBeforeYear d.year + ((monthLengths d.year).take (d.month - 1)).sum + (d.day - 1) : Nat) : Int) -
      epochDay := by
  rw [List.sum_eq_foldl]
  rfl

/-- The month and the day in it make up the day of the year. -/
theorem monthAndDay_spec {lengths : List Nat} (first : Nat) {rest : Nat} (h : rest < lengths.sum) :
    ∃ i day, monthAndDay lengths first rest = (first + i, day + 1) ∧ rest = (lengths.take i).sum + day ∧
      i < lengths.length ∧ day < lengths.getD i 0 := by
  induction lengths generalizing first rest with
  | nil => cases h
  | cons length lengths ih =>
    rw [monthAndDay]
    split
    · next hlt => exact ⟨0, rest, rfl, by simp, by simp, hlt⟩
    · next hge =>
      rw [List.sum_cons] at h
      have hlater : rest - length < lengths.sum := by omega
      obtain ⟨i, day, heq, hrest, hi, hday⟩ := ih (first + 1) hlater
      refine ⟨i + 1, day, ?_, ?_, Nat.succ_lt_succ hi, hday⟩
      · rw [heq, Nat.add_right_comm, Nat.add_assoc]
      · rw [List.take_succ_cons, List.sum_cons]
        omega

/-- The date of a day of the years from 1 to 9999 is in the calendar, and its day is that one. -/
theorem ofDays_spec {n : Int} (h : 0 ≤ n + epochDay) (h' : n + epochDay < daysBeforeYear 10000) :
    (ofDays n).isValid = true ∧ (ofDays n).toDays = n := by
  obtain ⟨hyear, hlow, hhigh⟩ := yearOf_spec (n + epochDay).toNat
  have hsum := sum_monthLengths (yearOf (n + epochDay).toNat)
  rw [daysBeforeYear_succ hyear, Nat.add_assoc, ← hsum] at hhigh
  unfold ofDays
  dsimp only
  generalize hy : yearOf (n + epochDay).toNat = y at *
  have hrange : (n + epochDay).toNat - daysBeforeYear y < (monthLengths y).sum := by omega
  obtain ⟨i, day, heq, hrest, hi, hday⟩ := monthAndDay_spec 1 hrange
  have hsmall : y < 10000 := by
    by_contra hlarge
    have hmono := daysBeforeYear_mono (not_lt.1 hlarge)
    omega
  have htwelve : (monthLengths y).length = 12 := rfl
  rw [heq]
  constructor
  · unfold isValid
    simp only [Bool.and_eq_true, decide_eq_true_eq, Nat.add_sub_cancel_left]
    omega
  · rw [toDays_eq]
    dsimp only
    rw [Nat.add_sub_cancel_left, Nat.add_sub_cancel]
    omega

/-- No month has more than 31 days. -/
theorem day_le_of_isValid {d : Date} (h : d.isValid = true) : d.day ≤ 31 := by
  have hmonth : ∀ l ∈ monthLengths d.year, l ≤ 31 := by
    unfold monthLengths
    split <;> simp
  unfold isValid at h
  simp only [Bool.and_eq_true, decide_eq_true_eq, List.getD_eq_getElem?_getD] at h
  refine h.2.trans ?_
  cases hl : (monthLengths d.year)[d.month - 1]? with
  | none => exact Nat.zero_le _
  | some l => exact hmonth l (List.mem_of_getElem? hl)

/-- A date of the calendar is a day of the years from 1 to 9999. -/
theorem toDays_bounds {d : Date} (h : d.isValid = true) :
    0 ≤ d.toDays + epochDay ∧ d.toDays + epochDay < daysBeforeYear 10000 := by
  have hvalid := h
  unfold isValid at h
  simp only [Bool.and_eq_true, decide_eq_true_eq] at h
  have hyear : ((monthLengths d.year).take (d.month - 1)).sum + (d.day - 1) < (monthLengths d.year).sum := by
    have hlt : d.month - 1 < (monthLengths d.year).length := by
      have htwelve : (monthLengths d.year).length = 12 := rfl
      omega
    have hsplit := congrArg List.sum (List.take_append_drop (d.month - 1) (monthLengths d.year))
    rw [List.sum_append, List.drop_eq_getElem_cons hlt, List.sum_cons] at hsplit
    rw [List.getD_eq_getElem _ _ hlt] at h
    omega
  rw [sum_monthLengths] at hyear
  have hsucc := daysBeforeYear_succ (y := d.year) (by omega)
  have hmono := daysBeforeYear_mono (y := d.year + 1) (z := 10000) (by omega)
  rw [toDays_eq]
  omega

end Date

end IntegrationFlow.Time
