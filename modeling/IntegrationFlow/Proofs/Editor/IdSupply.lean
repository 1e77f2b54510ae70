import IntegrationFlow.Editor.IdSupply
import Mathlib.Data.List.Basic
import Mathlib.Data.List.Nodup
import Mathlib.Data.List.Perm.Subperm

/-!
# New ids are new

A supply that never repeats an id hands out one that is free (`fresh_not_mem`), and goes on without repetitions. The
counted ids are such a supply (`neverRepeats_counted`): the number of an id tells apart the ids of one stem, and the last
underscore separates it from the stem.
-/

namespace IntegrationFlow.Editor.IdSupply

/-- The ids that are drawn for some stems, one after another. -/
def drawAll : IdSupply → List String → List String
  | _, [] => []
  | s, stem :: stems => (s.draw stem).1 :: (s.draw stem).2.drawAll stems

/-- Whatever the stems are, no id is drawn twice. -/
def NeverRepeats (s : IdSupply) : Prop :=
  ∀ stems, (s.drawAll stems).Nodup

/-- A supply goes on without repetitions. -/
theorem NeverRepeats.draw {s : IdSupply} (h : s.NeverRepeats) (stem : String) : (s.draw stem).2.NeverRepeats :=
  fun stems => (List.nodup_cons.1 (h (stem :: stems))).2

/-! ### Free ids -/

private theorem NeverRepeats.freshWithin {s : IdSupply} (h : s.NeverRepeats) (n : Nat) (stem : String)
    (taken : List String) : (s.freshWithin n stem taken).2.NeverRepeats := by
  induction n generalizing s with
  | zero => exact h.draw stem
  | succ n ih =>
    unfold IdSupply.freshWithin
    dsimp only
    split
    · exact ih (h.draw stem)
    · exact h.draw stem

/-- A supply goes on without repetitions after a free id was handed out. -/
theorem NeverRepeats.fresh {s : IdSupply} (h : s.NeverRepeats) (stem : String) (taken : List String) :
    (s.fresh stem taken).2.NeverRepeats :=
  h.freshWithin _ stem taken

/-- A taken id is handed out only when all ids were taken that were drawn for it. -/
private theorem drawAll_subset_of_freshWithin_mem {s : IdSupply} {n : Nat} {stem : String} {taken : List String}
    (h : (s.freshWithin n stem taken).1 ∈ taken) : s.drawAll (List.replicate (n + 1) stem) ⊆ taken := by
  induction n generalizing s with
  | zero => simpa [IdSupply.freshWithin, drawAll] using h
  | succ n ih =>
    unfold IdSupply.freshWithin at h
    dsimp only at h
    rw [List.replicate_succ, drawAll, List.cons_subset]
    split at h
    · next htaken => exact ⟨by simpa using htaken, ih h⟩
    · next hfree => exact absurd h (by simpa using hfree)

private theorem length_drawAll (s : IdSupply) (stems : List String) : (s.drawAll stems).length = stems.length := by
  induction stems generalizing s with
  | nil => rfl
  | cons stem stems ih => simp [drawAll, ih]

/-- An id that is handed out is free. -/
theorem NeverRepeats.fresh_not_mem {s : IdSupply} (h : s.NeverRepeats) (stem : String) (taken : List String) :
    (s.fresh stem taken).1 ∉ taken := by
  intro hmem
  -- There are more draws than taken ids.
  have hsubset := drawAll_subset_of_freshWithin_mem hmem
  have hlength := ((h _).subperm hsubset).length_le
  rw [length_drawAll, List.length_replicate] at hlength
  omega

/-! ### Counted ids -/

/-- The id that is made for a stem and a number. -/
def numbered (stem : String) (n : Nat) : String :=
  stem ++ "_" ++ toString n

/-- An id tells its stem and its number. -/
theorem numbered_inj {stem stem' : String} {m n : Nat} :
    numbered stem m = numbered stem' n ↔ stem = stem' ∧ m = n := by
  refine ⟨fun h => ?_, fun h => by rw [h.1, h.2]⟩
  have hlist (stem : String) (n : Nat) :
      (numbered stem n).toList.reverse = (Nat.toDigits 10 n).reverse ++ '_' :: stem.toList.reverse := by
    simp [numbered]
  have hno (n : Nat) : '_' ∉ (Nat.toDigits 10 n).reverse := by
    rw [List.mem_reverse]
    exact Nat.underscore_not_in_toDigits
  have hsplit := congrArg (fun s : String => s.toList.reverse) h
  simp only [hlist] at hsplit
  -- The underscore in question is the last one, for digits are no underscores.
  have hdigits : (Nat.toDigits 10 m).reverse = (Nat.toDigits 10 n).reverse ∧ stem.toList.reverse = stem'.toList.reverse := by
    rcases List.append_eq_append_iff.1 hsplit with ⟨as, hn, hs⟩ | ⟨as, hm, hs⟩
    · cases as with
      | nil => simp_all
      | cons a as =>
        obtain rfl : '_' = a := (List.cons.inj hs).1
        exact absurd (by rw [hn]; simp : '_' ∈ (Nat.toDigits 10 n).reverse) (hno n)
    · cases as with
      | nil => simp_all
      | cons a as =>
        obtain rfl : '_' = a := (List.cons.inj hs).1
        exact absurd (by rw [hm]; simp : '_' ∈ (Nat.toDigits 10 m).reverse) (hno m)
  refine ⟨String.ext (List.reverse_inj.1 hdigits.2), ?_⟩
  have hnumber := congrArg (Nat.ofDigitChars 10 · 0) (List.reverse_inj.1 hdigits.1)
  simpa only [Nat.ofDigitChars_ten_toDigits] using hnumber

private theorem exists_of_mem_drawAll_counted {made stems : List String} {id : String}
    (h : id ∈ drawAll ⟨[], .counted, made⟩ stems) : ∃ stem n, id = numbered stem n ∧ made.count stem < n := by
  induction stems generalizing made with
  | nil => simp [drawAll] at h
  | cons stem stems ih =>
    rcases List.mem_cons.1 h with rfl | h
    · exact ⟨stem, made.count stem + 1, rfl, Nat.lt_succ_self _⟩
    · obtain ⟨stem', n, hid, hlt⟩ := ih h
      exact ⟨stem', n, hid, Nat.lt_of_le_of_lt List.count_le_count_cons hlt⟩

/-- Counted ids do not repeat. -/
theorem neverRepeats_counted (made : List String) : NeverRepeats ⟨[], .counted, made⟩ := by
  intro stems
  induction stems generalizing made with
  | nil => exact List.nodup_nil
  | cons stem stems ih =>
    refine List.nodup_cons.2 ⟨fun hmem => ?_, ih (stem :: made)⟩
    obtain ⟨stem', n, hid, hlt⟩ := exists_of_mem_drawAll_counted hmem
    obtain ⟨rfl, rfl⟩ := numbered_inj.1 hid
    rw [List.count_cons_self] at hlt
    exact Nat.lt_irrefl _ hlt

end IntegrationFlow.Editor.IdSupply
