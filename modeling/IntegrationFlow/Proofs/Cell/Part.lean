import IntegrationFlow.Cell.Part
import Mathlib.Data.List.Basic

/-!
# What writes and copies have in common with a cell

A write changes nothing but the cells that hold the written object (`Cell.store_of_not_holds`). The objects of a copy
are new (`Cell.age_of_holds_copy`), so a copy has no object in common with what was there before, and what is reached
inside of a cell has no objects but those of the cell (`Cell.holds_of_step?`).
-/

namespace IntegrationFlow

namespace Cell

/-! ### Writes -/

mutual

/-- A write into an object that is no part of a cell leaves the cell as it is. -/
theorem store_of_not_holds {l : Label} {name : String} {new : Cell} (around : List Label) :
    ∀ c : Cell, c.holds l = false → store l name new around c = c
  | .atom _ _, _ => rfl
  | .list m items, h => by rw [store, storeItems_of_not_holds (m :: around) items h]
  | .tuple m items, h => by rw [store, storeItems_of_not_holds (m :: around) items h]
  | .object m entries, h => by
    obtain ⟨hne, hentries⟩ := Bool.or_eq_false_iff.1 h
    rw [store, if_neg (by simpa using hne), storeEntries_of_not_holds (m :: around) entries hentries]
  | .back _ _, _ => rfl

/-- A write into an object that is no part of some cells leaves them as they are. -/
theorem storeItems_of_not_holds {l : Label} {name : String} {new : Cell} (around : List Label) :
    ∀ cs : List Cell, holdsItem l cs = false → storeItems l name new around cs = cs
  | [], _ => rfl
  | c :: cs, h => by
    obtain ⟨hc, hcs⟩ := Bool.or_eq_false_iff.1 h
    rw [storeItems, store_of_not_holds around c hc, storeItems_of_not_holds around cs hcs]

/-- A write into an object that is no part of the values of some entries leaves them as they are. -/
theorem storeEntries_of_not_holds {l : Label} {name : String} {new : Cell} (around : List Label) :
    ∀ es : CellEntries, holdsEntry l es = false → storeEntries l name new around es = es
  | [], _ => rfl
  | e :: es, h => by
    obtain ⟨he, hes⟩ := Bool.or_eq_false_iff.1 h
    rw [storeEntries, store_of_not_holds around e.2 he, storeEntries_of_not_holds around es hes]

end

mutual

theorem holds_of_holds_inside {l : Label} (around : List Label) :
    ∀ c : Cell, (c.inside around).holds l = true → c.holds l = true
  | .atom _ _, h => h
  | .list m items, h => by
    rw [inside] at h
    split at h
    · cases h
    · exact holdsItem_of_inside around items h
  | .tuple m items, h => by
    rw [inside] at h
    split at h
    · cases h
    · exact holdsItem_of_inside around items h
  | .object m entries, h => by
    rw [inside] at h
    split at h
    · cases h
    · rw [holds, Bool.or_eq_true] at h ⊢
      exact h.imp_right (holdsEntry_of_inside around entries)
  | .back _ _, h => h

theorem holdsItem_of_inside {l : Label} (around : List Label) :
    ∀ cs : List Cell, holdsItem l (insideItems around cs) = true → holdsItem l cs = true
  | [], h => h
  | c :: cs, h => by
    rw [insideItems, holdsItem, Bool.or_eq_true] at h
    rw [holdsItem, Bool.or_eq_true]
    exact h.imp (holds_of_holds_inside around c) (holdsItem_of_inside around cs)

theorem holdsEntry_of_inside {l : Label} (around : List Label) :
    ∀ es : CellEntries, holdsEntry l (insideEntries around es) = true → holdsEntry l es = true
  | [], h => h
  | e :: es, h => by
    rw [insideEntries, holdsEntry, Bool.or_eq_true] at h
    rw [holdsEntry, Bool.or_eq_true]
    exact h.imp (holds_of_holds_inside around e.2) (holdsEntry_of_inside around es)

end

theorem holdsEntry_of_put {l : Label} {k : CellKey} {c : Cell} {es : CellEntries}
    (h : holdsEntry l (es.put k c) = true) : holdsEntry l es = true ∨ c.holds l = true := by
  induction es with
  | nil => exact .inr (by simpa [CellEntries.put, holdsEntry] using h)
  | cons e es ih =>
    rw [CellEntries.put] at h
    rw [holdsEntry, Bool.or_eq_true]
    split at h
    · rw [holdsEntry, Bool.or_eq_true] at h
      tauto
    · rw [holdsEntry, Bool.or_eq_true] at h
      rcases h with h | h
      · exact .inl (.inl h)
      · exact (ih h).imp_left .inr

mutual

/-- After a write a cell holds no objects but its own and those of the value that was written. -/
theorem holds_of_holds_store {l m : Label} {name : String} {new : Cell} (around : List Label) :
    ∀ c : Cell, (store m name new around c).holds l = true → c.holds l = true ∨ new.holds l = true
  | .atom _ _, h => .inl h
  | .list k items, h => holdsItem_of_store (k :: around) items h
  | .tuple k items, h => holdsItem_of_store (k :: around) items h
  | .object k entries, h => by
    rw [store, holds, Bool.or_eq_true] at h
    rw [holds, Bool.or_eq_true]
    rcases h with h | h
    · exact .inl (.inl h)
    · split at h
      · rcases holdsEntry_of_put h with h | h
        · exact (holdsEntry_of_store (k :: around) entries h).imp_left .inr
        · exact .inr (holds_of_holds_inside _ new h)
      · exact (holdsEntry_of_store (k :: around) entries h).imp_left .inr
  | .back _ _, h => .inl h

theorem holdsItem_of_store {l m : Label} {name : String} {new : Cell} (around : List Label) :
    ∀ cs : List Cell, holdsItem l (storeItems m name new around cs) = true →
      holdsItem l cs = true ∨ new.holds l = true
  | [], h => .inl h
  | c :: cs, h => by
    rw [storeItems, holdsItem, Bool.or_eq_true] at h
    rw [holdsItem, Bool.or_eq_true]
    rcases h with h | h
    · exact (holds_of_holds_store around c h).imp_left .inl
    · exact (holdsItem_of_store around cs h).imp_left .inr

theorem holdsEntry_of_store {l m : Label} {name : String} {new : Cell} (around : List Label) :
    ∀ es : CellEntries, holdsEntry l (storeEntries m name new around es) = true →
      holdsEntry l es = true ∨ new.holds l = true
  | [], h => .inl h
  | e :: es, h => by
    rw [storeEntries, holdsEntry, Bool.or_eq_true] at h
    rw [holdsEntry, Bool.or_eq_true]
    rcases h with h | h
    · exact (holds_of_holds_store around e.2 h).imp_left .inl
    · exact (holdsEntry_of_store around es h).imp_left .inr

end

/-! ### Copies -/

mutual

/-- An object of a cell is no younger than the cell. -/
theorem age_le_of_holds {l : Label} : ∀ c : Cell, c.holds l = true → l.age ≤ c.age
  | .list _ items, h => Nat.le_trans (age_le_of_holdsItem items h) (Nat.le_max_right _ _)
  | .tuple _ items, h => Nat.le_trans (age_le_of_holdsItem items h) (Nat.le_max_right _ _)
  | .object m entries, h => by
    rcases Bool.or_eq_true_iff.1 h with h | h
    · rw [← eq_of_beq h]
      exact Nat.le_max_left _ _
    · exact Nat.le_trans (age_le_of_holdsEntry entries h) (Nat.le_max_right _ _)

theorem age_le_of_holdsItem {l : Label} : ∀ cs : List Cell, holdsItem l cs = true → l.age ≤ ageOfItems cs
  | c :: cs, h => by
    rcases Bool.or_eq_true_iff.1 h with h | h
    · exact Nat.le_trans (age_le_of_holds c h) (Nat.le_max_left _ _)
    · exact Nat.le_trans (age_le_of_holdsItem cs h) (Nat.le_max_right _ _)

theorem age_le_of_holdsEntry {l : Label} : ∀ es : CellEntries, holdsEntry l es = true → l.age ≤ ageOfEntries es
  | e :: es, h => by
    rcases Bool.or_eq_true_iff.1 h with h | h
    · exact Nat.le_trans (age_le_of_holds e.2 h) (Nat.le_trans (Nat.le_max_right _ _) (Nat.le_max_left _ _))
    · exact Nat.le_trans (age_le_of_holdsEntry es h) (Nat.le_max_right _ _)

end

mutual

theorem holds_of_isFixed {l : Label} : ∀ c : Cell, c.isFixed = true → c.holds l = false
  | .atom _ _, _ => rfl
  | .tuple _ items, h => holdsItem_of_areFixed items h

theorem holdsItem_of_areFixed {l : Label} : ∀ cs : List Cell, areFixed cs = true → holdsItem l cs = false
  | [], _ => rfl
  | c :: cs, h => by
    obtain ⟨hc, hcs⟩ := (Bool.and_eq_true _ _).mp h
    rw [holdsItem, holds_of_isFixed c hc, holdsItem_of_areFixed cs hcs, Bool.or_false]

end

mutual

/-- The objects of a copy are as young as the copy. -/
theorem age_of_holds_copy {l : Label} {b : Birth} : ∀ c : Cell, (c.copy b).holds l = true → l.age = b.age
  | .list _ items, h => age_of_holdsItem_copy items h
  | .tuple _ items, h => by
    rw [copy] at h
    split at h
    · next hfixed =>
      rw [holds, holdsItem_of_areFixed items hfixed] at h
      cases h
    · exact age_of_holdsItem_copy items h
  | .object m entries, h => by
    rcases Bool.or_eq_true_iff.1 h with h | h
    · rw [← eq_of_beq h]
      rfl
    · exact age_of_holdsEntry_copy entries h

theorem age_of_holdsItem_copy {l : Label} {b : Birth} :
    ∀ cs : List Cell, holdsItem l (copyItems b cs) = true → l.age = b.age
  | c :: cs, h => by
    rcases Bool.or_eq_true_iff.1 h with h | h
    · exact age_of_holds_copy c h
    · exact age_of_holdsItem_copy cs h

theorem age_of_holdsEntry_copy {l : Label} {b : Birth} :
    ∀ es : CellEntries, holdsEntry l (copyEntries b es) = true → l.age = b.age
  | e :: es, h => by
    rcases Bool.or_eq_true_iff.1 h with h | h
    · exact age_of_holds_copy e.2 h
    · exact age_of_holdsEntry_copy es h

end

/-! ### What is reached -/

mutual

theorem holds_of_holds_outOf {l : Label} {whole : Cell} (around : List Label) :
    ∀ c : Cell, (outOf whole around c).holds l = true → c.holds l = true ∨ whole.holds l = true
  | .atom _ _, h => .inl h
  | .list k items, h => holdsItem_of_outOf (k :: around) items h
  | .tuple k items, h => holdsItem_of_outOf (k :: around) items h
  | .object k entries, h => by
    rw [outOf, holds, Bool.or_eq_true] at h
    rw [holds, Bool.or_eq_true]
    rcases h with h | h
    · exact .inl (.inl h)
    · exact (holdsEntry_of_outOf (k :: around) entries h).imp_left .inr
  | .back _ _, h => by
    rw [outOf] at h
    split at h
    · exact .inr (holds_of_holds_inside around whole h)
    · cases h

theorem holdsItem_of_outOf {l : Label} {whole : Cell} (around : List Label) :
    ∀ cs : List Cell, holdsItem l (outOfItems whole around cs) = true → holdsItem l cs = true ∨ whole.holds l = true
  | [], h => .inl h
  | c :: cs, h => by
    rw [outOfItems, holdsItem, Bool.or_eq_true] at h
    rw [holdsItem, Bool.or_eq_true]
    rcases h with h | h
    · exact (holds_of_holds_outOf around c h).imp_left .inl
    · exact (holdsItem_of_outOf around cs h).imp_left .inr

theorem holdsEntry_of_outOf {l : Label} {whole : Cell} (around : List Label) :
    ∀ es : CellEntries, holdsEntry l (outOfEntries whole around es) = true →
      holdsEntry l es = true ∨ whole.holds l = true
  | [], h => .inl h
  | e :: es, h => by
    rw [outOfEntries, holdsEntry, Bool.or_eq_true] at h
    rw [holdsEntry, Bool.or_eq_true]
    rcases h with h | h
    · exact (holds_of_holds_outOf around e.2 h).imp_left .inl
    · exact (holdsEntry_of_outOf around es h).imp_left .inr

end

/-- The values of an object hold no objects but its own. -/
theorem holds_of_entries? {c : Cell} {es : CellEntries} {l : Label} (hentries : c.entries? = some es)
    (h : holdsEntry l es = true) : c.holds l = true := by
  cases c with
  | object m entries =>
    cases hentries
    rcases holdsEntry_of_outOf [] entries h with h | h
    · rw [holds, h, Bool.or_true]
    · exact h
  | _ => cases hentries

theorem holdsEntry_of_find? {k : CellKey} {c : Cell} {l : Label} {es : CellEntries} (hfind : es.find? k = some c)
    (h : c.holds l = true) : holdsEntry l es = true := by
  induction es with
  | nil => cases hfind
  | cons e es ih =>
    rw [holdsEntry, Bool.or_eq_true]
    rw [CellEntries.find?] at hfind
    split at hfind
    · cases hfind
      exact .inl h
    · exact .inr (ih hfind)

/-- What a name leads to holds no objects but those of the cell. -/
theorem holds_of_field {c d : Cell} {name : String} {l : Label} (hstep : c.step? (.field name) = some d)
    (h : d.holds l = true) : c.holds l = true := by
  obtain ⟨es, hentries, hfind⟩ := Option.bind_eq_some_iff.1 hstep
  exact holds_of_entries? hentries (holdsEntry_of_find? hfind h)

end Cell

end IntegrationFlow
