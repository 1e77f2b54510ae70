import IntegrationFlow.Proofs.Json.Parsed
import IntegrationFlow.Schema.Record

/-!
# Records that are read

What a reading that gives a result found: the results of its parts (`Checked.seq_eq_fits_iff`), the fields of a record and
the items of a list. Where the parts of a record come from what JSON can hold, the record can be held by JSON again
(`Value.IsJsonWithin`).
-/

namespace IntegrationFlow

namespace Schema

variable {α β : Type}

namespace Checked

@[simp] theorem map_eq_fits_iff {f : α → β} {a : Checked α} {b : β} :
    f <$> a = .fits b ↔ ∃ x, a = .fits x ∧ f x = b := by
  cases a with
  | fits x => exact ⟨fun h => ⟨x, rfl, by cases h; rfl⟩, fun ⟨y, hy, hb⟩ => by cases hy; rw [← hb]; rfl⟩
  | refused ps => exact ⟨nofun, fun ⟨_, hx, _⟩ => nomatch hx⟩

/-- Joined readings give a result when both do. -/
@[simp] theorem seq_eq_fits_iff {f : Checked (α → β)} {a : Checked α} {b : β} :
    f <*> a = .fits b ↔ ∃ g, f = .fits g ∧ ∃ x, a = .fits x ∧ g x = b := by
  cases f with
  | fits g =>
    have hseq : (.fits g : Checked (α → β)) <*> a = g <$> a := by cases a <;> rfl
    rw [hseq, map_eq_fits_iff]
    exact ⟨fun h => ⟨g, rfl, h⟩, fun ⟨_, hg, h⟩ => by cases hg; exact h⟩
  | refused ps =>
    constructor
    · intro h
      cases a <;> cases h
    · rintro ⟨_, h, _⟩
      cases h

@[simp] theorem under_eq_fits_iff {step : String} {c : Checked α} {a : α} : c.under step = .fits a ↔ c = .fits a := by
  cases c <;> simp [under]

end Checked

/-! ### Fields -/

section

variable {fields : Entries} {name : String} {read : Value → Checked α} {default a : α} {v : Value}

theorem find?_camel (h : Entries.field? name fields = some v) : (Spelling.camel name).find? fields = some (name, v) := by
  unfold Spelling.find? Spelling.camel
  rw [h]

@[simp] theorem requiredField_eq (h : Entries.field? name fields = some v) :
    requiredField fields name read = (read v).under name := by
  unfold requiredField
  rw [find?_camel h]

@[simp] theorem optionalField_eq (h : Entries.field? name fields = some v) :
    optionalField fields name default read = (read v).under name := by
  unfold optionalField spelledField
  rw [find?_camel h]

theorem mem_of_find? {s : Spelling} {used : String} (h : s.find? fields = some (used, v)) : ∃ e ∈ fields, e.2 = v := by
  unfold Spelling.find? at h
  split at h
  · next w hw =>
    cases h
    exact ⟨_, Entries.mem_of_field?_eq_some hw, rfl⟩
  · obtain ⟨w, hw, heq⟩ := Option.map_eq_some_iff.1 h
    cases heq
    exact ⟨_, Entries.mem_of_field?_eq_some hw, rfl⟩

/-- A field that may be left out is read from one of the values of the record, or has its default. -/
theorem eq_or_exists_of_optionalField (h : optionalField fields name default read = .fits a) :
    a = default ∨ ∃ e ∈ fields, read e.2 = .fits a := by
  unfold optionalField spelledField at h
  split at h
  · next hfind =>
    obtain ⟨e, he, rfl⟩ := mem_of_find? hfind
    exact .inr ⟨e, he, Checked.under_eq_fits_iff.1 h⟩
  · cases h
    exact .inl rfl

theorem exists_of_record {read : Entries → Checked α} (h : record read v = .fits a) :
    ∃ es, v = .object es ∧ read es = .fits a := by
  unfold record at h
  split at h
  · next es => exact ⟨es, rfl, h⟩
  · cases h

end

/-! ### Lists -/

section

variable {read : Value → Checked α}

theorem itemsFrom_cons_eq_fits_iff {position : Nat} {v : Value} {vs : List Value} {as : List α} :
    itemsFrom read position (v :: vs) = .fits as ↔
      ∃ a as', read v = .fits a ∧ itemsFrom read (position + 1) vs = .fits as' ∧ as = a :: as' := by
  rw [itemsFrom]
  cases hv : read v with
  | refused ps => cases itemsFrom read (position + 1) vs <;> simp [Checked.under, Checked.map, Checked.apply]
  | fits a =>
    cases itemsFrom read (position + 1) vs <;> simp [Checked.under, Checked.map, Checked.apply, eq_comm]

/-- A list is read item by item. -/
theorem listOf_map_eq_fits_iff {f : α → Value} {as : List α} :
    listOf read (.list (as.map f)) = .fits as ↔ ∀ a ∈ as, read (f a) = .fits a := by
  have hitems (position : Nat) : itemsFrom read position (as.map f) = .fits as ↔ ∀ a ∈ as, read (f a) = .fits a := by
    induction as generalizing position with
    | nil => simp [itemsFrom]
    | cons a as ih =>
      rw [List.map_cons, itemsFrom_cons_eq_fits_iff, List.forall_mem_cons, ← ih (position + 1)]
      constructor
      · rintro ⟨b, bs, hb, hbs, heq⟩
        cases heq
        exact ⟨hb, hbs⟩
      · rintro ⟨ha, has⟩
        exact ⟨a, as, ha, has, rfl⟩
  exact hitems 0

private theorem exists_of_itemsFrom {position : Nat} {vs : List Value} {as : List α}
    (h : itemsFrom read position vs = .fits as) : ∀ a ∈ as, ∃ v ∈ vs, read v = .fits a := by
  induction vs generalizing position as with
  | nil =>
    cases h
    simp
  | cons v vs ih =>
    obtain ⟨a, as', ha, has, rfl⟩ := itemsFrom_cons_eq_fits_iff.1 h
    rw [List.forall_mem_cons]
    refine ⟨⟨v, List.mem_cons_self, ha⟩, fun b hb => ?_⟩
    obtain ⟨w, hw, hread⟩ := ih has b hb
    exact ⟨w, List.mem_cons_of_mem v hw, hread⟩

/-- All items that are read come from items of the list. -/
theorem exists_of_listOf {v : Value} {as : List α} (h : listOf read v = .fits as) :
    ∃ items, (v = .list items ∨ v = .tuple items) ∧ ∀ a ∈ as, ∃ w ∈ items, read w = .fits a := by
  unfold listOf at h
  split at h
  · next items => exact ⟨items, .inl rfl, exists_of_itemsFrom h⟩
  · next items => exact ⟨items, .inr rfl, exists_of_itemsFrom h⟩
  · cases h

end

end Schema

namespace Value

/-- JSON can hold the value, which is nested no more deeply than stated. -/
structure IsJsonWithin (limit : Nat) (v : Value) : Prop where
  isJson : v.IsJson
  depth_le : v.depth ≤ limit

namespace IsJsonWithin

variable {limit : Nat} {v : Value}

theorem text (s : String) : (Value.text s).IsJsonWithin limit :=
  ⟨.text s, Nat.zero_le _⟩

theorem bool (b : Bool) : (Value.bool b).IsJsonWithin limit :=
  ⟨.bool b, Nat.zero_le _⟩

theorem float (x : Float) : (Value.float x).IsJsonWithin limit :=
  ⟨.float x, Nat.zero_le _⟩

theorem null : Value.null.IsJsonWithin limit :=
  ⟨.null, Nat.zero_le _⟩

theorem list {items : List Value} (h : ∀ v ∈ items, v.IsJsonWithin limit) : (Value.list items).IsJsonWithin (limit + 1) :=
  ⟨.list fun v hv => (h v hv).isJson, Nat.succ_le_succ (depthOfItems_le_iff.2 fun v hv => (h v hv).depth_le)⟩

/-- A record with distinct field names. -/
theorem ofFields (fields : List (String × Value)) (hnames : (fields.map (·.1)).Nodup)
    (h : ∀ f ∈ fields, f.2.IsJsonWithin limit) : (Value.ofFields fields).IsJsonWithin (limit + 1) := by
  refine ⟨.object ?_ ?_ ?_, Nat.succ_le_succ (depthOfEntries_le_iff.2 ?_)⟩
  · exact List.forall_mem_map.2 fun f _ => ⟨f.1, rfl⟩
  · refine List.pairwise_map.2 ((List.pairwise_map.1 hnames).imp fun hne => ?_)
    rw [Key.eq_text, beq_eq_false_iff_ne]
    exact hne
  · exact List.forall_mem_map.2 fun f hf => (h f hf).isJson
  · exact List.forall_mem_map.2 fun f hf => (h f hf).depth_le

/-- The values of an object are nested less deeply. -/
theorem of_mem {es : Entries} (h : (Value.object es).IsJsonWithin (limit + 1)) {e : Key × Value} (he : e ∈ es) :
    e.2.IsJsonWithin limit :=
  ⟨(isJson_object_iff.1 h.isJson).2.2 e he, depthOfEntries_le_iff.1 (Nat.le_of_succ_le_succ h.depth_le) e he⟩

/-- A field that is read has its default, or comes from a value that is nested less deeply. -/
theorem exists_of_optionalField {α : Type} {es : Entries} {name : String} {default : α}
    {read : Value → Schema.Checked α} {a : α} (h : (Value.object es).IsJsonWithin (limit + 1))
    (hread : Schema.optionalField es name default read = .fits a) :
    a = default ∨ ∃ w, w.IsJsonWithin limit ∧ read w = .fits a :=
  (Schema.eq_or_exists_of_optionalField hread).imp_right fun ⟨e, he, ha⟩ => ⟨e.2, h.of_mem he, ha⟩

/-- Items that are read come from values that are nested less deeply. -/
theorem exists_of_listOf {α : Type} {read : Value → Schema.Checked α} {as : List α} (h : v.IsJsonWithin (limit + 1))
    (hread : Schema.listOf read v = .fits as) : ∀ a ∈ as, ∃ w, w.IsJsonWithin limit ∧ read w = .fits a := by
  obtain ⟨items, rfl | rfl, hitems⟩ := Schema.exists_of_listOf hread
  · intro a ha
    obtain ⟨w, hw, hread⟩ := hitems a ha
    exact ⟨w, ⟨isJson_list_iff.1 h.isJson w hw, depthOfItems_le_iff.1 (Nat.le_of_succ_le_succ h.depth_le) w hw⟩, hread⟩
  · cases h.isJson

end IsJsonWithin

end Value

end IntegrationFlow
