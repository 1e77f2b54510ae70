import Mathlib.Data.List.TakeWhile
import Mathlib.Data.List.DropRight
import IntegrationFlow.Text.Blank

/-!
# Blanks around a text

A text is what is left when the blanks around it are dropped, between blanks (`exists_blanks_trim`).
-/

namespace IntegrationFlow.Text

/-- A text is what is left of it when the blanks around it are dropped, between blanks. -/
theorem exists_blanks_trim (cs : List Char) :
    ∃ before after, (∀ c ∈ before, isBlank c = true) ∧ (∀ c ∈ after, isBlank c = true) ∧
      trimLeft cs = trim cs ++ after ∧ cs = before ++ trimLeft cs := by
  refine ⟨cs.takeWhile isBlank, (cs.dropWhile isBlank).rtakeWhile isBlank, fun _ => List.mem_takeWhile_imp,
    fun _ => List.mem_rtakeWhile_imp, ?_, List.takeWhile_append_dropWhile.symm⟩
  exact (List.rdropWhile_append_rtakeWhile).symm

/-- Something that is not blank is left of a text that is not blank. -/
theorem trim_ne_nil {cs : List Char} (h : isAllBlank cs = false) : trim cs ≠ [] := by
  obtain ⟨before, after, hbefore, hafter, hleft, heq⟩ := exists_blanks_trim cs
  intro hnil
  rw [hleft, hnil, List.nil_append] at heq
  have : isAllBlank cs = true := by
    simpa [heq, isAllBlank] using And.intro hbefore hafter
  simp [this] at h

/-- Nothing is left of a text of blanks. -/
theorem trim_eq_nil {cs : List Char} (h : isAllBlank cs = true) : trim cs = [] := by
  have hleft : trimLeft cs = [] := List.dropWhile_eq_nil_iff.2 (List.all_eq_true.1 h)
  rw [trim, hleft]
  rfl

/-- What is left ends with a character that is not blank. -/
theorem isBlank_getLast_trim {cs : List Char} (h : trim cs ≠ []) : isBlank ((trim cs).getLast h) = false := by
  have := List.rdropWhile_last_not isBlank (trimLeft cs) h
  exact Bool.eq_false_iff.2 this

/-- What is left begins with a character that is not blank. -/
theorem trimLeft_trim (cs : List Char) : trimLeft (trim cs) = trim cs := by
  have hbegin' : trim cs <+: trimLeft cs := List.rdropWhile_prefix isBlank _
  cases hcs : trim cs with
  | nil => rfl
  | cons c rest =>
    obtain ⟨after, hafter⟩ := hcs ▸ hbegin'
    have hfirst : isBlank c = false := by
      have := List.head?_dropWhile_not isBlank cs
      rw [show cs.dropWhile isBlank = c :: rest ++ after from hafter.symm] at this
      simpa using this
    simp [trimLeft, hfirst]

theorem trim_trim (cs : List Char) : trim (trim cs) = trim cs := by
  unfold trim
  rw [show trimLeft (trimRight (trimLeft cs)) = trimRight (trimLeft cs) from trimLeft_trim cs]
  exact List.rdropWhile_idempotent isBlank (trimLeft cs)

/-- A text is left as it is when no blank stands at either end of it. -/
theorem trim_eq_self_iff {cs : List Char} :
    trim cs = cs ↔ (∀ c ∈ cs.head?, isBlank c = false) ∧ ∀ c ∈ cs.getLast?, isBlank c = false := by
  constructor
  · intro h
    refine ⟨fun c hc => ?_, fun c hc => ?_⟩
    · have hleft : cs.dropWhile isBlank = cs := by
        rw [← h]
        exact trimLeft_trim cs
      have hhead := List.head?_dropWhile_not isBlank cs
      rw [hleft, show cs.head? = some c from hc] at hhead
      simpa using hhead
    · obtain ⟨hne, rfl⟩ := List.mem_getLast?_eq_getLast hc
      have hlast := isBlank_getLast_trim (h.symm ▸ hne)
      simpa only [h] using hlast
  · rintro ⟨hhead, hlast⟩
    have hleft : trimLeft cs = cs := by
      cases cs with
      | nil => rfl
      | cons c cs => exact List.dropWhile_cons_of_neg (Bool.eq_false_iff.1 (hhead c rfl))
    have hright : cs.rdropWhile isBlank = cs :=
      List.rdropWhile_eq_self_iff.2 fun hne => Bool.eq_false_iff.1 (hlast _ (List.getLast?_eq_some_getLast hne))
    rw [trim, hleft]
    exact hright

/-- A character that is not blank stays in front. -/
theorem exists_trim_cons {c : Char} (h : isBlank c = false) (cs : List Char) : ∃ rest, trim (c :: cs) = c :: rest := by
  obtain ⟨-, after, -, hafter, hleft, -⟩ := exists_blanks_trim (c :: cs)
  rw [trimLeft, List.dropWhile_cons_of_neg (Bool.eq_false_iff.1 h)] at hleft
  cases htrim : trim (c :: cs) with
  | nil =>
    rw [htrim, List.nil_append] at hleft
    exact (Bool.eq_false_iff.1 h (hafter c (hleft ▸ List.mem_cons_self))).elim
  | cons d rest =>
    rw [htrim, List.cons_append, List.cons.injEq] at hleft
    exact ⟨rest, by rw [hleft.1]⟩

/-- Nothing is added to what is left. -/
theorem trim_sublist (cs : List Char) : (trim cs).Sublist cs := by
  have hright : (trim cs).Sublist (trimLeft cs) := (List.rdropWhile_prefix isBlank (trimLeft cs)).sublist
  exact hright.trans (List.dropWhile_sublist isBlank)

theorem mem_of_mem_trim {cs : List Char} {c : Char} (h : c ∈ trim cs) : c ∈ cs :=
  (trim_sublist cs).subset h

/-- What is not blank is left. -/
theorem mem_trim {cs : List Char} {c : Char} (h : c ∈ cs) (hc : isBlank c = false) : c ∈ trim cs := by
  obtain ⟨before, after, hbefore, hafter, hleft, heq⟩ := exists_blanks_trim cs
  rw [heq, hleft, List.mem_append, List.mem_append] at h
  rcases h with h | h | h
  · exact (Bool.false_ne_true (hc.symm.trans (hbefore c h))).elim
  · exact h
  · exact (Bool.false_ne_true (hc.symm.trans (hafter c h))).elim

theorem length_trim_le (cs : List Char) : (trim cs).length ≤ cs.length :=
  (trim_sublist cs).length_le

end IntegrationFlow.Text
