import IntegrationFlow.Value.Equality

/-!
# Entries of objects

An entry is found under its text, where it stands in the object (`Entries.mem_of_field?_eq_some`). Entries that are stored
one after another replace each other under equal keys (`Entries.field?_merge`), so that no key stands twice
(`Entries.Distinct.put`).
-/

namespace IntegrationFlow

namespace Key

/-- Only the text itself is equal to a text. -/
theorem eq_text_iff {k : Key} {s : String} : k.eq (.text s) = true ↔ k = .text s := by
  cases k <;> simp [eq, number?]

/-- Only the text itself is equal to a text, on the other side. -/
theorem text_eq_iff {k : Key} {s : String} : (Key.text s).eq k = true ↔ k = .text s := by
  cases k with
  | text t => rw [eq_text, beq_iff_eq, Key.text.injEq, eq_comm]
  | _ => simp [eq, number?]

end Key

namespace Entries

/-- An object holds no key twice. -/
def Distinct (es : Entries) : Prop :=
  es.Pairwise fun a b => a.1.eq b.1 = false

/-- A field that is found stands in the object under its name. -/
theorem mem_of_field?_eq_some {name : String} {v : Value} {es : Entries} (h : field? name es = some v) :
    (.text name, v) ∈ es := by
  induction es with
  | nil => cases h
  | cons e es ih =>
    by_cases hk : e.1.eq (.text name) = true
    · have hv : e.2 = v := by simpa [field?, find?, hk] using h
      rw [← hv, ← Key.eq_text_iff.1 hk]
      exact List.mem_cons_self
    · have hlater : field? name es = some v := by simpa [field?, find?, hk] using h
      exact List.mem_cons_of_mem _ (ih hlater)

/-- A value that is stored is found; storing it changes no other field. -/
theorem field?_put (name : String) (k : Key) (v : Value) (es : Entries) :
    field? name (put k v es) = if k.eq (.text name) then some v else field? name es := by
  split
  · next h => rw [Key.eq_text_iff.1 h, field?_put_self]
  · next h =>
    induction es with
    | nil => simp [put, field?, find?, h]
    | cons e es ih =>
      unfold put
      split
      · next hk =>
        have he : e.1.eq (.text name) = false := by
          rw [← Bool.not_eq_true, Key.eq_text_iff]
          intro htext
          rw [htext, Key.text_eq_iff] at hk
          exact h (Key.eq_text_iff.2 hk)
        simp [field?, find?, he]
      · simp only [field?, find?] at ih ⊢
        rw [ih]

/-- In an object without repetitions a key is found where it stands. -/
private theorem Distinct.field?_eq_none {e : Key × Value} {es : Entries} {name : String} (h : Distinct (e :: es))
    (hk : e.1 = .text name) : field? name es = none := by
  have hall := (List.pairwise_cons.1 h).1
  rw [hk] at hall
  clear h hk
  induction es with
  | nil => rfl
  | cons d ds ih =>
    have hne : d.1.eq (.text name) = false := by
      rw [← Bool.not_eq_true, Key.eq_text_iff]
      intro htext
      have hd := hall d List.mem_cons_self
      rw [htext, Key.eq_text] at hd
      simp at hd
    rw [field?, find?, hne]
    exact ih fun x hx => hall x (List.mem_cons_of_mem _ hx)

/-- A field of an object that takes in another one is that of the other one, if it has the field. -/
theorem field?_merge {new : Entries} (h : Distinct new) (name : String) (es : Entries) :
    field? name (merge es new) = (field? name new).or (field? name es) := by
  induction new generalizing es with
  | nil => rfl
  | cons e new ih =>
    have hmerge : merge es (e :: new) = merge (put e.1 e.2 es) new := rfl
    rw [hmerge, ih (List.pairwise_cons.1 h).2, field?_put]
    by_cases hk : e.1.eq (.text name) = true
    · have hfirst : field? name (e :: new) = some e.2 := by simp [field?, find?, hk]
      rw [if_pos hk, h.field?_eq_none (Key.eq_text_iff.1 hk), hfirst]
      rfl
    · have hlater : field? name (e :: new) = field? name new := by simp [field?, find?, hk]
      rw [if_neg hk, hlater]

/-- A key after a value was stored is that value's, or was there before. -/
theorem exists_of_mem_put {k : Key} {v : Value} {es : Entries} {e : Key × Value} (h : e ∈ put k v es) :
    e.1 = k ∨ ∃ d ∈ es, d.1 = e.1 := by
  induction es with
  | nil => exact .inl (by rw [List.mem_singleton.1 h])
  | cons d es ih =>
    unfold put at h
    split at h
    · rcases List.mem_cons.1 h with rfl | h
      · exact .inr ⟨d, List.mem_cons_self, rfl⟩
      · exact .inr ⟨e, List.mem_cons_of_mem _ h, rfl⟩
    · rcases List.mem_cons.1 h with rfl | h
      · exact .inr ⟨_, List.mem_cons_self, rfl⟩
      · rcases ih h with hkey | ⟨x, hx, hkey⟩
        · exact .inl hkey
        · exact .inr ⟨x, List.mem_cons_of_mem _ hx, hkey⟩

/-- An entry after a value was stored is that value's, or was there before. -/
theorem eq_or_mem_of_mem_put {k : Key} {v : Value} {es : Entries} {e : Key × Value} (h : e ∈ put k v es) :
    e.2 = v ∨ e ∈ es := by
  induction es with
  | nil => exact .inl (by rw [List.mem_singleton.1 h])
  | cons d es ih =>
    unfold put at h
    split at h
    · rcases List.mem_cons.1 h with rfl | h
      · exact .inl rfl
      · exact .inr (List.mem_cons_of_mem _ h)
    · rcases List.mem_cons.1 h with rfl | h
      · exact .inr List.mem_cons_self
      · exact (ih h).imp_right (List.mem_cons_of_mem _)

/-- Storing a value keeps the keys apart. -/
theorem Distinct.put {es : Entries} (h : es.Distinct) (k : Key) (v : Value) : (put k v es).Distinct := by
  induction es with
  | nil => exact List.pairwise_singleton _ _
  | cons e es ih =>
    obtain ⟨hne, hes⟩ := List.pairwise_cons.1 h
    unfold Entries.put
    split
    · exact List.pairwise_cons.2 ⟨hne, hes⟩
    · next hk =>
      refine List.pairwise_cons.2 ⟨fun d hd => ?_, ih hes⟩
      rcases exists_of_mem_put hd with hkey | ⟨c, hc, hkey⟩
      · rw [hkey]
        exact eq_false_of_ne_true hk
      · rw [← hkey]
        exact hne c hc

/-- All keys of an object that takes in another one come from the two. -/
theorem exists_of_mem_merge {es new : Entries} {e : Key × Value} (h : e ∈ merge es new) :
    ∃ d, (d ∈ es ∨ d ∈ new) ∧ d.1 = e.1 := by
  induction new generalizing es with
  | nil => exact ⟨e, .inl h, rfl⟩
  | cons x new ih =>
    obtain ⟨d, hd, hkey⟩ := @ih (put x.1 x.2 es) h
    rcases hd with hd | hd
    · rcases exists_of_mem_put hd with hx | ⟨y, hy, hsame⟩
      · exact ⟨x, .inr List.mem_cons_self, hx.symm.trans hkey⟩
      · exact ⟨y, .inl hy, hsame.trans hkey⟩
    · exact ⟨d, .inr (List.mem_cons_of_mem _ hd), hkey⟩

end Entries

namespace Value

theorem depthOfItems_le_iff {vs : List Value} {n : Nat} : depthOfItems vs ≤ n ↔ ∀ v ∈ vs, v.depth ≤ n := by
  induction vs with
  | nil => simp [depthOfItems]
  | cons v vs ih => rw [depthOfItems, Nat.max_le, ih, List.forall_mem_cons]

theorem depthOfEntries_le_iff {es : Entries} {n : Nat} : depthOfEntries es ≤ n ↔ ∀ e ∈ es, e.2.depth ≤ n := by
  induction es with
  | nil => simp [depthOfEntries]
  | cons e es ih => rw [depthOfEntries, Nat.max_le, ih, List.forall_mem_cons]

end Value

end IntegrationFlow
