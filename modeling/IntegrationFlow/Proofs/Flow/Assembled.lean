import IntegrationFlow.Proofs.Cell.Tree
import IntegrationFlow.Proofs.Flow.Mapping
import IntegrationFlow.Proofs.Path.Assign

/-!
# What mappings make of values

In a tree no object is in two places, so a field that is stored in one changes the value in one place, as a path that is
assigned does (`Cell.store_writeFor`). What an edge without transformations makes of a tree is therefore made of its
value alone, by paths that are read and assigned (`Edge.value_mapInputs`).
-/

namespace IntegrationFlow

namespace Cell

variable {l : Label} {name : String} {c d new : Cell} {es : CellEntries} {around : List Label}

theorem exists_of_value_object {entries : Entries} (h : c.value = .object entries) : ∃ l es, c = .object l es := by
  cases c with
  | object l es => exact ⟨l, es, rfl⟩
  | atom l a =>
    cases a with
    | text ps =>
      rw [value, Atom.value, Value.ofPoints] at h
      split at h <;> cases h
    | _ => cases h
  | _ => cases h

/-! ### A field of a tree -/

theorem mem_labelsOfEntries_put {m : Label} (h : m ∈ labelsOfEntries (es.put (.ofString name) c)) :
    m ∈ labelsOfEntries es ∨ m ∈ c.labels := by
  induction es with
  | nil => exact .inr (by simpa [CellEntries.put, labelsOfEntries] using h)
  | cons e es ih =>
    rw [labelsOfEntries, List.mem_append]
    rw [CellEntries.put] at h
    split at h
    · rw [labelsOfEntries, List.mem_append] at h
      tauto
    · rw [labelsOfEntries, List.mem_append] at h
      rcases h with h | h
      · exact .inl (.inl h)
      · exact (ih h).imp_left .inr

theorem mem_labels_of_field? {m : Label} (hd : CellEntries.field? name es = some d) (h : m ∈ d.labels) :
    m ∈ labelsOfEntries es := by
  unfold CellEntries.field? at hd
  induction es with
  | nil => cases hd
  | cons e es ih =>
    rw [labelsOfEntries, List.mem_append]
    rw [CellEntries.find?] at hd
    split at hd
    · exact .inl (Option.some.inj hd ▸ h)
    · exact .inr (ih hd)

/-- A tree keeps being one when a tree is put into it that has nothing in common with the rest of it. -/
theorem holdDocuments_put (name : String) (hes : holdDocuments es = true) (hnodup : (labelsOfEntries es).Nodup)
    (hc : c.IsTree)
    (hapart : ∀ m ∈ c.labels, m ∈ labelsOfEntries es → ∃ d, CellEntries.field? name es = some d ∧ m ∈ d.labels) :
    holdDocuments (es.put (.ofString name) c) = true ∧ (labelsOfEntries (es.put (.ofString name) c)).Nodup := by
  induction es with
  | nil => simpa [CellEntries.put, holdDocuments, labelsOfEntries] using ⟨hc.document, hc.nodup⟩
  | cons e es ih =>
    obtain ⟨he, hes⟩ := Bool.and_eq_true_iff.1 hes
    obtain ⟨hfirst, hothers, hdisjoint⟩ := List.nodup_append.1 hnodup
    rw [CellEntries.put]
    split
    · next hnames =>
      refine ⟨Bool.and_eq_true_iff.2 ⟨hc.document, hes⟩, List.nodup_append.2 ⟨hc.nodup, hothers, ?_⟩⟩
      rintro m hm _ hmem rfl
      obtain ⟨d, hd, hdm⟩ := hapart m hm (List.mem_append_right _ hmem)
      rw [CellEntries.field?, CellEntries.find?, if_pos hnames] at hd
      exact hdisjoint m (Option.some.inj hd ▸ hdm) m hmem rfl
    · next hnames =>
      have hfield : CellEntries.field? name (e :: es) = CellEntries.field? name es := by
        rw [CellEntries.field?, CellEntries.find?, if_neg hnames]
        rfl
      rw [hfield] at hapart
      obtain ⟨hdocuments, hnodup⟩ := ih hes hothers fun m hm hmem => hapart m hm (List.mem_append_right _ hmem)
      refine ⟨Bool.and_eq_true_iff.2 ⟨he, hdocuments⟩, List.nodup_append.2 ⟨hfirst, hnodup, ?_⟩⟩
      rintro m hm _ hmem rfl
      rcases mem_labelsOfEntries_put hmem with hmem | hmem
      · exact hdisjoint m hm m hmem rfl
      · obtain ⟨d, hd, hdm⟩ := hapart m hmem (List.mem_append_left _ hm)
        exact hdisjoint m hm m (mem_labels_of_field? hd hdm) rfl

/-- What is stored in an object of one field is stored there only. -/
theorem storeEntries_of_field? {other : String} (hd : CellEntries.field? name es = some d) (hheld : d.holds l = true)
    (hnodup : (labelsOfEntries es).Nodup) :
    storeEntries l other new around es = es.put (.ofString name) (store l other new around d) := by
  unfold CellEntries.field? at hd
  induction es with
  | nil => cases hd
  | cons e es ih =>
    obtain ⟨-, hothers, hdisjoint⟩ := List.nodup_append.1 hnodup
    rw [CellEntries.find?] at hd
    rw [storeEntries, CellEntries.put]
    split at hd
    · next hnames =>
      cases hd
      have hrest : holdsEntry l es = false := by
        by_contra hmem
        exact hdisjoint l (mem_labels_of_holds _ hheld) l
          (mem_labelsOfEntries_of_holdsEntry es (by simpa using hmem)) rfl
      rw [if_pos hnames, storeEntries_of_not_holds around es hrest]
    · next hnames =>
      have hfirst : e.2.holds l = false := by
        by_contra hmem
        exact hdisjoint l (mem_labels_of_holds e.2 (by simpa using hmem)) l
          (mem_labels_of_field? hd (mem_labels_of_holds d hheld)) rfl
      rw [if_neg hnames, store_of_not_holds around e.2 hfirst, ih hd hothers]

/-- A new tree is stored in an object of which it has no part. -/
theorem store_self (name : String) (around : List Label) (htree : (Cell.object l es).IsTree) (hnew : new.IsTree)
    (hapart : ∀ m ∈ new.labels, m ∉ around ∧ m ∉ (Cell.object l es).labels) :
    store l name new around (.object l es) = .object l (es.put (.ofString name) new) ∧
      (Cell.object l (es.put (.ofString name) new)).IsTree := by
  obtain ⟨hdocuments, hnodup⟩ := htree
  obtain ⟨hl, hnodup⟩ := List.nodup_cons.1 hnodup
  have hentries : holdsEntry l es = false := by
    by_contra hmem
    exact hl (mem_labelsOfEntries_of_holdsEntry es (by simpa using hmem))
  have hinside : new.inside (l :: around) = new := by
    refine inside_of_apart new fun m hm hmem => ?_
    rcases List.mem_cons.1 hmem with rfl | hmem
    · exact (hapart m hm).2 List.mem_cons_self
    · exact (hapart m hm).1 hmem
  obtain ⟨hdocuments, hnodup⟩ := holdDocuments_put name hdocuments hnodup hnew
    fun m hm hmem => absurd (List.mem_cons_of_mem l hmem) (hapart m hm).2
  refine ⟨?_, hdocuments, List.nodup_cons.2 ⟨fun hmem => ?_, hnodup⟩⟩
  · rw [store, storeEntries_of_not_holds (l :: around) es hentries]
    simp only [if_pos, hinside]
  · rcases mem_labelsOfEntries_put hmem with hmem | hmem
    · exact hl hmem
    · exact (hapart l hmem).2 List.mem_cons_self

/-- What is stored in an object of one field leaves a tree when the field still has nothing in common with the rest. -/
theorem store_field {k : Label} {other : String} (around : List Label) (htree : (Cell.object l es).IsTree)
    (hd : CellEntries.field? name es = some d) (hheld : d.holds k = true)
    (hfield : (store k other new (l :: around) d).IsTree)
    (hapart : ∀ m ∈ (store k other new (l :: around) d).labels, m ∈ d.labels ∨ m ∉ (Cell.object l es).labels) :
    store k other new around (.object l es) =
        .object l (es.put (.ofString name) (store k other new (l :: around) d)) ∧
      (Cell.object l (es.put (.ofString name) (store k other new (l :: around) d))).IsTree := by
  obtain ⟨hdocuments, hnodup⟩ := htree
  obtain ⟨hl, hnodup⟩ := List.nodup_cons.1 hnodup
  have hlabel : l ≠ k := by
    rintro rfl
    exact hl (mem_labels_of_field? hd (mem_labels_of_holds d hheld))
  have hput := holdDocuments_put name hdocuments hnodup hfield fun m hm hmem => by
    rcases hapart m hm with hdm | hnot
    · exact ⟨d, hd, hdm⟩
    · exact absurd (List.mem_cons_of_mem l hmem) hnot
  refine ⟨?_, hput.1, List.nodup_cons.2 ⟨fun hmem => ?_, hput.2⟩⟩
  · rw [store, storeEntries_of_field? hd hheld hnodup]
    simp only [if_neg hlabel]
  · rcases mem_labelsOfEntries_put hmem with hmem | hmem
    · exact hl hmem
    · rcases hapart l hmem with hdm | hnot
      · exact hl (mem_labels_of_field? hd hdm)
      · exact hnot List.mem_cons_self

end Cell

open Cell

variable {b : Birth} {value : Cell}

/-- New objects around a tree make a tree. -/
theorem isTree_nested (hvalue : value.IsTree) (hapart : ∀ l ∈ value.labels, ¬ b.Bears l) (names : List String) :
    (nested b value names).IsTree ∧ (∀ l ∈ (nested b value names).labels, l ∈ value.labels ∨ b.Bears l) ∧
      (nested b value names).value = Path.below [] value.value names := by
  induction names generalizing b with
  | nil => exact ⟨hvalue, fun l hl => .inl hl, rfl⟩
  | cons name names ih =>
    obtain ⟨⟨hdocument, hnodup⟩, hlabels, hinner⟩ :=
      ih fun l hl hbears => hapart l hl (Birth.Bears.of_part (i := 0) hbears)
    have hcell : nested b value (name :: names) =
        .object b.label [(.ofString name, nested (b.part 0) value names)] := rfl
    have hentries : labelsOfEntries [(.ofString name, nested (b.part 0) value names)] =
        (nested (b.part 0) value names).labels := by
      rw [labelsOfEntries, labelsOfEntries, List.append_nil]
    rw [hcell]
    refine ⟨⟨by simpa [isDocument, holdDocuments] using hdocument, ?_⟩, ?_, ?_⟩
    · rw [labels, hentries]
      refine List.nodup_cons.2 ⟨fun hmem => ?_, hnodup⟩
      rcases hlabels _ hmem with hmem | hbears
      · exact hapart _ hmem b.bears_label
      · exact Birth.not_bears_part hbears
    · rw [labels, hentries]
      exact List.forall_mem_cons.2 ⟨.inr b.bears_label, fun l hl => (hlabels l hl).imp_right .of_part⟩
    · rw [Cell.value, valuesOfEntries, valuesOfEntries, CellKey.key_ofString, hinner, Path.below,
        Path.assignNames_cons]
      rfl

/-! ### What is written -/

namespace Cell

/-- A value was stored at the end of some names in the object of a tree. -/
structure IsStored (b : Birth) (value : Cell) (names : List String) (l : Label) (es es' : CellEntries) : Prop where
  tree : (Cell.object l es').IsTree
  values : valuesOfEntries es' = Path.assignNames (valuesOfEntries es) value.value names
  born : ∀ m ∈ (Cell.object l es').labels, m ∈ (Cell.object l es).labels ∨ m ∈ value.labels ∨ b.Bears m

variable {l : Label} {es : CellEntries} {name : String} {names : List String} {around : List Label}

/-- It is stored when what has to lie under the first name is put there. -/
theorem exists_isStored_of_put {new : Cell} (htree : (Cell.object l es).IsTree)
    (hnew : ∀ m, m ∈ value.labels ∨ b.Bears m → m ∉ around ∧ m ∉ (Cell.object l es).labels) (hput : new.IsTree)
    (hborn : ∀ m ∈ new.labels, m ∈ value.labels ∨ b.Bears m)
    (hbelow : new.value = Path.below (Path.objectAt name (valuesOfEntries es)) value.value names) :
    ∃ es', store l name new around (.object l es) = .object l es' ∧ IsStored b value (name :: names) l es es' := by
  obtain ⟨hstore, hstored⟩ := store_self name around htree hput fun m hm => hnew m (hborn m hm)
  refine ⟨_, hstore, hstored, ?_, List.forall_mem_cons.2 ⟨.inl List.mem_cons_self, fun m hm => ?_⟩⟩
  · rw [CellEntries.valuesOfEntries_put, Path.assignNames_cons, hbelow]
  · exact (mem_labelsOfEntries_put hm).imp (List.mem_cons_of_mem _) (hborn m)

/-- It is stored when it is stored in the object under the first name. -/
theorem exists_isStored_of_field {w : Write} {m : Label} {inner inner' : CellEntries}
    (htree : (Cell.object l es).IsTree)
    (hnew : ∀ k, k ∈ value.labels ∨ b.Bears k → k ∉ around ∧ k ∉ (Cell.object l es).labels) (hnames : names ≠ [])
    (hinner : CellEntries.field? name es = some (.object m inner)) (hheld : (Cell.object m inner).holds w.object = true)
    (hstore : store w.object w.name w.value (l :: around) (.object m inner) = .object m inner')
    (h : IsStored b value names m inner inner') :
    ∃ es', store w.object w.name w.value around (.object l es) = .object l es' ∧
      IsStored b value (name :: names) l es es' := by
  obtain ⟨hput, htree⟩ := store_field around htree hinner hheld (hstore ▸ h.tree) fun k hk =>
    (h.born k (hstore ▸ hk)).imp_right fun hk => (hnew k hk).2
  rw [hstore] at hput htree
  refine ⟨_, hput, htree, ?_, List.forall_mem_cons.2 ⟨.inl List.mem_cons_self, fun k hk => ?_⟩⟩
  · have hobject : Path.objectAt name (valuesOfEntries es) = valuesOfEntries inner := by
      rw [Path.objectAt, ← CellEntries.value_field?, hinner]
      rfl
    rw [CellEntries.valuesOfEntries_put, Path.assignNames_cons, Path.below_eq _ _ hnames, Cell.value, h.values, hobject]
  · rcases mem_labelsOfEntries_put hk with hk | hk
    · exact .inl (List.mem_cons_of_mem l hk)
    · exact (h.born k hk).imp_left fun hk => List.mem_cons_of_mem l (mem_labels_of_field? hinner hk)

/-- What is written at the end of some names of a tree is assigned to its value. -/
theorem store_writeFor (around : List Label) {w : Write} (htree : (Cell.object l es).IsTree) (hvalue : value.IsTree)
    (hapart : ∀ m ∈ value.labels, ¬ b.Bears m)
    (hnew : ∀ m, m ∈ value.labels ∨ b.Bears m → m ∉ around ∧ m ∉ (Cell.object l es).labels)
    (hwrite : writeFor b value (.object l es) names = some w) :
    ∃ es', store w.object w.name w.value around (.object l es) = .object l es' ∧ IsStored b value names l es es' := by
  induction names generalizing l es around with
  | nil => cases hwrite
  | cons name names ih =>
    cases names with
    | nil =>
      cases hwrite
      exact exists_isStored_of_put htree hnew hvalue (fun m hm => .inl hm) rfl
    | cons other names =>
      have hstep : (Cell.object l es).step? (.field name) = CellEntries.field? name es := by
        rw [step?, entries?_object htree.document, Option.bind_some]
      rw [writeFor, hstep] at hwrite
      · split at hwrite
        · next m inner hinner =>
          -- The write is one into the object under the first name.
          have hinside (k : Label) (hk : k ∈ value.labels ∨ b.Bears k) :
              k ∉ l :: around ∧ k ∉ (Cell.object m inner).labels := by
            obtain ⟨haround, hentries⟩ := hnew k hk
            refine ⟨?_, fun hmem => hentries (List.mem_cons_of_mem l (mem_labels_of_field? hinner hmem))⟩
            rintro (_ | ⟨_, hmem⟩)
            · exact hentries List.mem_cons_self
            · exact haround hmem
          obtain ⟨inner', hstore, hstored⟩ := ih (l :: around) (htree.of_step? (by rw [hstep, hinner])) hinside hwrite
          have hheld := (holds_of_writeFor (by simp [holds, label]) hwrite).1
          exact exists_isStored_of_field htree hnew (List.cons_ne_nil other names) hinner hheld hstore hstored
        · next hnone =>
          -- Nothing is there yet, or no object: new objects are put there, around the value.
          cases hwrite
          obtain ⟨hnested, hborn, hbelow⟩ := isTree_nested hvalue hapart (other :: names)
          refine exists_isStored_of_put htree hnew hnested hborn ?_
          rw [hbelow, Path.objectAt, ← CellEntries.value_field?]
          split
          · next inner hinner =>
            obtain ⟨d, hd, hobject⟩ := Option.map_eq_some_iff.1 hinner
            obtain ⟨m, inner', rfl⟩ := exists_of_value_object hobject
            exact absurd hd (hnone m inner')
          · rfl
      · simp

end Cell

/-! ### Mappings -/

/-- The value that a mapping takes from the value of a source when it transforms nothing. -/
def FieldMapping.taken (m : FieldMapping) (source : Value) : Outcome Value :=
  match m.kind with
  | .static => .ok m.staticValue
  | _ =>
    match Path.resolve source m.sourceField with
    | .error .tooLong => .error (.crashed .badValue)
    | .error .missing => .error (.failed (.unmappedField m.sourceField))
    | .ok v => .ok v

/-- Assign what a mapping takes at its target. -/
def FieldMapping.assignFrom (m : FieldMapping) (source : Value) (entries : Entries) : Outcome Entries :=
  match m.taken source with
  | .error halt => .error halt
  | .ok v => (Path.assign entries m.targetField v).mapError .ofTarget

/-- The fields that the mappings of an edge make of the value of a source when they transform nothing, from the first
mapping to the last one. -/
def Edge.assigned (e : Edge) (source : Value) : Outcome Entries :=
  e.data.mapping.foldlM (fun entries m => m.assignFrom source entries) []

/-- What a mapping makes of a tree without a transformation is a new tree, made of its value. -/
theorem FieldMapping.resolve_eq_taken {m : FieldMapping} (hkind : m.kind ≠ .transform) (hstatic : m.staticValue.IsJson)
    (b : Birth) {source : Cell} (hsource : source.IsTree) :
    (m.resolve b source).map Cell.value = m.taken source.value ∧
      ∀ value, m.resolve b source = .ok value → value.IsTree ∧ ∀ l ∈ value.labels, b.Bears l := by
  have hcopy {c : Cell} (hc : c.IsTree) : (c.copy b).IsTree ∧ ∀ l ∈ (c.copy b).labels, b.Bears l := by
    refine ⟨hc.copy b, fun l hl => ?_⟩
    rw [(labels_copy b c hc.document).2] at hl
    obtain ⟨original, -, rfl⟩ := List.mem_map.1 hl
    exact b.bears_copyOf original
  unfold resolve taken
  cases hm : m.kind with
  | transform => exact absurd hm hkind
  | static =>
    have hread := isReadAt_ofValue hstatic b.site
    refine ⟨congrArg Except.ok ?_, fun value hvalue => Except.ok.inj hvalue ▸ hcopy hread.tree⟩
    rw [value_copy, hread.value]
  | direct =>
    dsimp only
    rw [← (value_resolve hsource.document m.sourceField).1]
    cases hresolve : source.resolve m.sourceField with
    | error problem => cases problem <;> exact ⟨rfl, nofun⟩
    | ok c =>
      refine ⟨congrArg Except.ok (value_copy b c), fun value hvalue => Except.ok.inj hvalue ▸ hcopy ?_⟩
      exact hsource.of_resolve hresolve

theorem exists_writeFor (b : Birth) (value c : Cell) {names : List String} (h : names ≠ []) :
    ∃ w, writeFor b value c names = some w := by
  induction names generalizing c with
  | nil => exact absurd rfl h
  | cons name names ih =>
    cases names with
    | nil => exact ⟨_, rfl⟩
    | cons other names =>
      rw [writeFor]
      · split
        · next l es _ => exact ih (.object l es) (List.cons_ne_nil other names)
        · exact ⟨_, rfl⟩
      · simp

namespace Edge

/-- The object that the mappings before a position have built is a tree of what arose at these mappings. -/
structure IsBuilt (b : Birth) (position : Nat) (c : Cell) : Prop where
  tree : c.IsTree
  born : ∀ l ∈ c.labels, l = b.label ∨ ∃ i < position, (b.part i).Bears l

/-- What a mapping makes is stored where nothing else was made. -/
theorem IsBuilt.assign {position : Nat} {l : Label} {es : CellEntries} (h : IsBuilt b position (.object l es))
    (hvalue : value.IsTree) (hborn : ∀ l ∈ value.labels, ((b.part position).part 0).Bears l) {names : List String}
    (hnames : names ≠ []) :
    ∃ es', (Cell.object l es).assign ((b.part position).part 1) names value = .object l es' ∧
      IsBuilt b (position + 1) (.object l es') ∧
        valuesOfEntries es' = Path.assignNames (valuesOfEntries es) value.value names := by
  obtain ⟨w, hw⟩ := exists_writeFor ((b.part position).part 1) value (.object l es) hnames
  have hplace {m : Label} (hm : m ∈ value.labels ∨ ((b.part position).part 1).Bears m) : (b.part position).Bears m :=
    hm.elim (fun hm => (hborn m hm).of_part) .of_part
  have hnew {m : Label} (hm : m ∈ value.labels ∨ ((b.part position).part 1).Bears m) :
      m ∉ (Cell.object l es).labels := by
    intro hmem
    rcases h.born m hmem with rfl | ⟨i, hi, hbears⟩
    · exact Birth.not_bears_part (hplace hm)
    · exact absurd (Birth.part_inj hbears (hplace hm)) (Nat.ne_of_lt hi)
  obtain ⟨es', hstore, hstored⟩ := Cell.store_writeFor [] h.tree hvalue
    (fun m hm hbears => absurd (Birth.part_inj (hborn m hm) hbears) (by decide))
    (fun m hm => ⟨List.not_mem_nil, hnew hm⟩) hw
  refine ⟨es', ?_, ⟨hstored.tree, fun m hm => ?_⟩, hstored.values⟩
  · rw [Cell.assign, hw]
    exact hstore
  · rcases hstored.born m hm with hm | hm
    · exact (h.born m hm).imp_right fun ⟨i, hi, hbears⟩ => ⟨i, Nat.lt_succ_of_lt hi, hbears⟩
    · exact .inr ⟨position, Nat.lt_succ_self _, hplace hm⟩

theorem foldlM_storeFrom {source : Cell} (hsource : source.IsTree) {ms : List FieldMapping}
    (hkind : ∀ m ∈ ms, m.kind ≠ .transform) (hstatic : ∀ m ∈ ms, m.staticValue.IsJson) {position : Nat} {l : Label}
    {es : CellEntries} (h : IsBuilt b position (.object l es)) :
    ((ms.zipIdx position).foldlM (fun c m => m.1.storeFrom (b.part m.2) source c) (Cell.object l es) :
        Outcome Cell).map Cell.value =
      (ms.foldlM (fun entries m => m.assignFrom source.value entries) (valuesOfEntries es) :
        Outcome Entries).map Value.object := by
  induction ms generalizing position es with
  | nil => rfl
  | cons m ms ih =>
    obtain ⟨htaken, hmade⟩ := FieldMapping.resolve_eq_taken (hkind m List.mem_cons_self) (hstatic m List.mem_cons_self)
      ((b.part position).part 0) hsource
    rw [List.zipIdx_cons, List.foldlM_cons, List.foldlM_cons, FieldMapping.assignFrom, ← htaken]
    cases hresolve : m.resolve ((b.part position).part 0) source with
    | error halt =>
      rw [FieldMapping.storeFrom_of_error hresolve]
      rfl
    | ok value =>
      rw [FieldMapping.storeFrom_of_ok hresolve]
      unfold Path.assign
      cases htarget : Path.targetNames m.targetField with
      | error problem => rfl
      | ok names =>
        obtain ⟨htree, hborn⟩ := hmade value hresolve
        obtain ⟨es', hassign, hbuilt, hvalues⟩ := h.assign htree hborn (Path.targetNames_eq_ok_iff.1 htarget).2
        have hrest := ih (fun m hm => hkind m (List.mem_cons_of_mem _ hm))
          (fun m hm => hstatic m (List.mem_cons_of_mem _ hm)) hbuilt
        rw [hvalues] at hrest
        dsimp only [Except.map, Except.mapError, bind, Except.bind]
        rw [hassign]
        exact hrest

/-- What an edge without transformations hands over from a tree is made of the value of the tree alone: its paths are
read in the value, and what is found is assigned at the targets, one after another. -/
theorem value_mapInputs {e : Edge} (hmapping : e.data.mapping ≠ []) (hkind : ∀ m ∈ e.data.mapping, m.kind ≠ .transform)
    (hstatic : ∀ m ∈ e.data.mapping, m.staticValue.IsJson) {source : Cell} (hsource : source.IsTree) :
    (e.mapInputs source).result.map Cell.value = (e.assigned source.value).map Value.object := by
  obtain ⟨hassembled, -⟩ := (mapInputs_eq_assembled hmapping source).1 (sparesSource_of_no_transform hkind source)
  rw [hassembled]
  exact foldlM_storeFrom (b := source.after e.site) hsource hkind hstatic
    ⟨⟨rfl, List.nodup_singleton _⟩, fun l hl => .inl (List.mem_singleton.1 hl)⟩

end Edge

end IntegrationFlow
