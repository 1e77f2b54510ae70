import IntegrationFlow.Proofs.Cell.Part
import IntegrationFlow.Proofs.Json.Plain
import Mathlib.Data.List.Nodup

/-!
# Cells and their values

A cell without tuples that never comes back to itself is read as its value is: the same steps lead to parts of the same
value (`Cell.value_resolve`). When no two parts of it are one object either, it is a tree, as a document that was read
(`Cell.isReadAt_ofValue`) and a copy of a tree (`Cell.IsTree.copy`).
-/

namespace IntegrationFlow

open Text (Point points)

/-! ### Places -/

/-- The label is that of something that arises at the place, or further inside. -/
def Birth.Bears (b : Birth) (l : Label) : Prop :=
  ∃ inner, l = .made b.age (inner ++ b.site) ∨ ∃ original, l = .copied b.age (inner ++ b.site) original

namespace Birth

variable {b : Birth} {i j : Nat} {l : Label}

theorem bears_label (b : Birth) : b.Bears b.label :=
  ⟨[], .inl rfl⟩

theorem bears_copyOf (b : Birth) (original : Label) : b.Bears (b.copyOf original) :=
  ⟨[], .inr ⟨original, rfl⟩⟩

theorem Bears.of_part (h : (b.part i).Bears l) : b.Bears l := by
  obtain ⟨inner, h⟩ := h
  exact ⟨inner ++ [.number i], by simpa [part] using h⟩

/-- Nothing arises at two parts of a place. -/
theorem part_inj (hi : (b.part i).Bears l) (hj : (b.part j).Bears l) : i = j := by
  have hsites {inner other : Site} (heq : inner ++ .number i :: b.site = other ++ .number j :: b.site) : i = j :=
    Mark.number.inj (List.cons.inj (List.append_inj' heq rfl).2).1
  obtain ⟨inner, rfl | ⟨original, rfl⟩⟩ := hi
  · obtain ⟨other, heq | ⟨_, heq⟩⟩ := hj
    · exact hsites (Label.made.inj heq).2
    · cases heq
  · obtain ⟨other, heq | ⟨_, heq⟩⟩ := hj
    · cases heq
    · exact hsites (Label.copied.inj heq).2.1

/-- What is made at a place is not what arises further inside. -/
theorem not_bears_part : ¬ (b.part i).Bears b.label := by
  rintro ⟨inner, heq | ⟨_, heq⟩⟩
  · have hlength := congrArg List.length (Label.made.inj heq).2
    simp [part] at hlength
    omega
  · cases heq

end Birth

/-! ### Keys that are texts -/

/-- A key names the entry of a text exactly when it is that text. -/
theorem CellKey.names_ofString (k : CellKey) (name : String) : k.names (.ofString name) = k.key.eq (.text name) := by
  have hlabel (l : Label) : (l != .only && l == .only) = false := by
    cases l <;> rfl
  cases k with
  | tuple l items =>
    rw [names, key]
    simp [same, eq, Key.eq, Key.number?, ofString, label, hlabel]
  | atom l a =>
    have hsame : (CellKey.atom l a).same (.ofString name) = true → a.eq (.ofString name) = true := by
      cases l with
      | only => cases a <;> simp [same, ofString, Atom.alike, Atom.eq, Atom.ofString]
      | made age site => simp [same, ofString, label]
      | copied age site original => simp [same, ofString, label]
    have hnames : (CellKey.atom l a).names (.ofString name) = a.eq (.ofString name) := by
      unfold names
      rw [show (CellKey.atom l a).eq (.ofString name) = a.eq (.ofString name) from rfl]
      cases heq : a.eq (.ofString name) with
      | true => simp
      | false =>
        rw [Bool.or_false, Bool.eq_false_iff]
        intro h
        rw [hsame h] at heq
        cases heq
    rw [hnames, key]
    cases a with
    | text ps =>
      rw [Atom.key, Key.ofPoints]
      split
      · next cs hcs =>
        obtain rfl := Text.points_of_chars? hcs
        rw [Key.eq_text, ← Bool.coe_iff_coe]
        simp only [Atom.eq, Atom.ofString, beq_iff_eq]
        refine ⟨fun h => ?_, fun h => ?_⟩
        · have hchars := congrArg Text.chars? h
          rw [Text.chars?_points, Text.chars?_points] at hchars
          rw [Option.some.inj hchars, String.ofList_toList]
        · rw [← h, String.toList_ofList]
      · next hnone =>
        rw [show (Key.broken ⟨ps, hnone⟩).eq (.text name) = false from rfl]
        simp only [Atom.eq, Atom.ofString, beq_eq_false_iff_ne]
        rintro rfl
        rw [Text.chars?_points] at hnone
        cases hnone
    | _ => simp [Atom.eq, Atom.key, Atom.ofString, Atom.number?, Key.eq, Key.number?]

theorem CellKey.key_ofString (name : String) : (ofString name).key = .text name := by
  rw [ofString, key, Atom.ofString, Atom.key, Key.ofPoints]
  split
  · next cs hcs =>
    rw [Text.chars?_points] at hcs
    rw [← Option.some.inj hcs, String.ofList_toList]
  · next hnone =>
    rw [Text.chars?_points] at hnone
    cases hnone

namespace CellEntries

open Cell (valuesOfEntries)

/-- The value of a field is the field of the values. -/
theorem value_field? (name : String) (es : CellEntries) :
    (field? name es).map Cell.value = Entries.field? name (valuesOfEntries es) := by
  unfold field? Entries.field?
  induction es with
  | nil => rfl
  | cons e es ih =>
    rw [find?, valuesOfEntries, Entries.find?, CellKey.names_ofString]
    split
    · rfl
    · exact ih

/-- Storing a field stores its value. -/
theorem valuesOfEntries_put (name : String) (c : Cell) (es : CellEntries) :
    valuesOfEntries (put (.ofString name) c es) = Entries.put (.text name) c.value (valuesOfEntries es) := by
  induction es with
  | nil =>
    simp [put, valuesOfEntries, Entries.put, CellKey.key_ofString]
  | cons e es ih =>
    rw [put, valuesOfEntries, Entries.put, CellKey.names_ofString]
    split
    · rfl
    · rw [valuesOfEntries, ih]

end CellEntries

namespace Cell

theorem values_eq_map (cs : List Cell) : values cs = cs.map value := by
  induction cs with
  | nil => rfl
  | cons c cs ih => rw [values, ih, List.map_cons]

/-! ### Documents -/

mutual

/-- The cell is made of atoms, lists and objects, and never comes back to itself. -/
def isDocument : Cell → Bool
  | .atom _ _ => true
  | .list _ items => areDocuments items
  | .tuple _ _ => false
  | .object _ entries => holdDocuments entries
  | .back _ _ => false

/-- So are the cells. -/
def areDocuments : List Cell → Bool
  | [] => true
  | c :: cs => c.isDocument && areDocuments cs

/-- So are the values of the entries. -/
def holdDocuments : CellEntries → Bool
  | [] => true
  | e :: es => e.2.isDocument && holdDocuments es

end

theorem areDocuments_iff {cs : List Cell} : areDocuments cs = true ↔ ∀ c ∈ cs, c.isDocument = true := by
  induction cs with
  | nil => simp [areDocuments]
  | cons c cs ih => simp [areDocuments, ih]

theorem holdDocuments_iff {es : CellEntries} : holdDocuments es = true ↔ ∀ e ∈ es, e.2.isDocument = true := by
  induction es with
  | nil => simp [holdDocuments]
  | cons e es ih => simp [holdDocuments, ih]

mutual

/-- Nothing in a document leads back into what it is taken out of. -/
theorem outOf_of_isDocument {whole : Cell} (around : List Label) :
    ∀ c : Cell, c.isDocument = true → outOf whole around c = c
  | .atom _ _, _ => rfl
  | .list l items, h => by rw [outOf, outOfItems_of_areDocuments (l :: around) items h]
  | .tuple _ _, h => nomatch h
  | .object l entries, h => by rw [outOf, outOfEntries_of_holdDocuments (l :: around) entries h]
  | .back _ _, h => nomatch h

theorem outOfItems_of_areDocuments {whole : Cell} (around : List Label) :
    ∀ cs : List Cell, areDocuments cs = true → outOfItems whole around cs = cs
  | [], _ => rfl
  | c :: cs, h => by
    obtain ⟨hc, hcs⟩ := Bool.and_eq_true_iff.1 h
    rw [outOfItems, outOf_of_isDocument around c hc, outOfItems_of_areDocuments around cs hcs]

theorem outOfEntries_of_holdDocuments {whole : Cell} (around : List Label) :
    ∀ es : CellEntries, holdDocuments es = true → outOfEntries whole around es = es
  | [], _ => rfl
  | e :: es, h => by
    obtain ⟨he, hes⟩ := Bool.and_eq_true_iff.1 h
    rw [outOfEntries, outOf_of_isDocument around e.2 he, outOfEntries_of_holdDocuments around es hes]

end

theorem entries?_object {l : Label} {es : CellEntries} (h : holdDocuments es = true) :
    (Cell.object l es).entries? = some es := by
  rw [entries?, outOfEntries_of_holdDocuments [] es h]

theorem parts?_list {l : Label} {cs : List Cell} (h : areDocuments cs = true) : (Cell.list l cs).parts? = some cs := by
  rw [parts?, outOfItems_of_areDocuments [] cs h]

theorem mem_of_field? {name : String} {es : CellEntries} {d : Cell} (h : CellEntries.field? name es = some d) :
    ∃ e ∈ es, e.2 = d := by
  unfold CellEntries.field? at h
  induction es with
  | nil => cases h
  | cons e es ih =>
    rw [CellEntries.find?] at h
    split at h
    · exact ⟨e, List.mem_cons_self, Option.some.inj h⟩
    · obtain ⟨e', he', hd⟩ := ih h
      exact ⟨e', List.mem_cons_of_mem e he', hd⟩

theorem step?_ofPoints (ps : List Point) (s : Path.Segment) : Path.step? (.ofPoints ps) s = none := by
  unfold Value.ofPoints
  split
  · cases s <;> rfl
  · cases s <;> rfl

/-- One step into a document leads to a document again, and to the value to which it leads in the value. -/
theorem value_step? {c : Cell} (h : c.isDocument = true) (s : Path.Segment) :
    (c.step? s).map value = Path.step? c.value s ∧ ∀ d, c.step? s = some d → d.isDocument = true := by
  cases c with
  | atom l a =>
    have hstep : (Cell.atom l a).step? s = none := by
      cases s <;> rfl
    have hvalue : Path.step? (Cell.atom l a).value s = none := by
      cases a with
      | text ps => exact step?_ofPoints ps s
      | _ => cases s <;> rfl
    rw [hstep, hvalue]
    exact ⟨rfl, nofun⟩
  | tuple l items => cases h
  | back l kind => cases h
  | list l items =>
    cases s with
    | field name =>
      have hstep : (Cell.list l items).step? (.field name) = none := rfl
      rw [hstep]
      exact ⟨rfl, nofun⟩
    | index i =>
      rw [step?, parts?_list h, value, Path.step?, values_eq_map, List.getElem?_map]
      exact ⟨rfl, fun d hd => areDocuments_iff.1 h d (List.mem_of_getElem? hd)⟩
  | object l entries =>
    cases s with
    | field name =>
      rw [step?, entries?_object h, value, Path.step?, Option.bind_some, CellEntries.value_field?]
      refine ⟨rfl, fun d hd => ?_⟩
      obtain ⟨e, he, rfl⟩ := mem_of_field? hd
      exact holdDocuments_iff.1 h e he
    | index i =>
      have hstep : (Cell.object l entries).step? (.index i) = none := rfl
      rw [hstep]
      exact ⟨rfl, nofun⟩

theorem value_resolveSegments {c : Cell} (h : c.isDocument = true) (ss : List Path.Segment) :
    (c.resolveSegments ss).map value = Path.resolveSegments c.value ss ∧
      ∀ d, c.resolveSegments ss = some d → d.isDocument = true := by
  induction ss generalizing c with
  | nil => exact ⟨rfl, fun d hd => Option.some.inj hd ▸ h⟩
  | cons s ss ih =>
    obtain ⟨hvalue, hdocument⟩ := value_step? h s
    rw [resolveSegments, Path.resolveSegments, ← hvalue]
    cases hstep : c.step? s with
    | none => exact ⟨rfl, nofun⟩
    | some d => exact ih (hdocument d hstep)

/-- A path leads to a document in a document, and to the value to which it leads in the value. -/
theorem value_resolve {c : Cell} (h : c.isDocument = true) (path : String) :
    (c.resolve path).map value = Path.resolve c.value path ∧ ∀ d, c.resolve path = .ok d → d.isDocument = true := by
  unfold resolve Path.resolve
  cases Path.split? path with
  | none => exact ⟨rfl, nofun⟩
  | some segments =>
    obtain ⟨hvalue, hdocument⟩ := value_resolveSegments h segments
    dsimp only
    rw [← hvalue]
    cases hsegments : c.resolveSegments segments with
    | none => exact ⟨rfl, nofun⟩
    | some d => exact ⟨rfl, fun d' hd => Except.ok.inj hd ▸ hdocument d hsegments⟩

/-! ### Labels -/

mutual

/-- The labels of the lists, tuples and objects in a cell. -/
def labels : Cell → List Label
  | .atom _ _ => []
  | .list l items => l :: labelsOfItems items
  | .tuple l items => l :: labelsOfItems items
  | .object l entries => l :: labelsOfEntries entries
  | .back l _ => [l]

/-- The labels in some cells. -/
def labelsOfItems : List Cell → List Label
  | [] => []
  | c :: cs => c.labels ++ labelsOfItems cs

/-- The labels in the values of some entries. -/
def labelsOfEntries : CellEntries → List Label
  | [] => []
  | e :: es => e.2.labels ++ labelsOfEntries es

end

mutual

theorem mem_labels_of_holds {l : Label} : ∀ c : Cell, c.holds l = true → l ∈ c.labels
  | .atom _ _, h => nomatch h
  | .list _ items, h => List.mem_cons_of_mem _ (mem_labelsOfItems_of_holdsItem items h)
  | .tuple _ items, h => List.mem_cons_of_mem _ (mem_labelsOfItems_of_holdsItem items h)
  | .object m entries, h => by
    rcases Bool.or_eq_true_iff.1 h with h | h
    · rw [labels, eq_of_beq h]
      exact List.mem_cons_self
    · exact List.mem_cons_of_mem m (mem_labelsOfEntries_of_holdsEntry entries h)
  | .back _ _, h => nomatch h

theorem mem_labelsOfItems_of_holdsItem {l : Label} : ∀ cs : List Cell, holdsItem l cs = true → l ∈ labelsOfItems cs
  | [], h => nomatch h
  | c :: cs, h => by
    rcases Bool.or_eq_true_iff.1 h with h | h
    · exact List.mem_append_left _ (mem_labels_of_holds c h)
    · exact List.mem_append_right _ (mem_labelsOfItems_of_holdsItem cs h)

theorem mem_labelsOfEntries_of_holdsEntry {l : Label} :
    ∀ es : CellEntries, holdsEntry l es = true → l ∈ labelsOfEntries es
  | [], h => nomatch h
  | e :: es, h => by
    rcases Bool.or_eq_true_iff.1 h with h | h
    · exact List.mem_append_left _ (mem_labels_of_holds e.2 h)
    · exact List.mem_append_right _ (mem_labelsOfEntries_of_holdsEntry es h)

end

mutual

/-- A cell that has nothing in common with what is around it stays as it is when it is put there. -/
theorem inside_of_apart {around : List Label} : ∀ c : Cell, (∀ l ∈ c.labels, l ∉ around) → c.inside around = c
  | .atom _ _, _ => rfl
  | .list l items, h => by
    obtain ⟨hl, hitems⟩ := List.forall_mem_cons.1 h
    rw [inside, if_neg (by simpa using hl), insideItems_of_apart items hitems]
  | .tuple l items, h => by
    obtain ⟨hl, hitems⟩ := List.forall_mem_cons.1 h
    rw [inside, if_neg (by simpa using hl), insideItems_of_apart items hitems]
  | .object l entries, h => by
    obtain ⟨hl, hentries⟩ := List.forall_mem_cons.1 h
    rw [inside, if_neg (by simpa using hl), insideEntries_of_apart entries hentries]
  | .back _ _, _ => rfl

theorem insideItems_of_apart {around : List Label} :
    ∀ cs : List Cell, (∀ l ∈ labelsOfItems cs, l ∉ around) → insideItems around cs = cs
  | [], _ => rfl
  | c :: cs, h => by
    obtain ⟨hc, hcs⟩ := List.forall_mem_append.1 h
    rw [insideItems, inside_of_apart c hc, insideItems_of_apart cs hcs]

theorem insideEntries_of_apart {around : List Label} :
    ∀ es : CellEntries, (∀ l ∈ labelsOfEntries es, l ∉ around) → insideEntries around es = es
  | [], _ => rfl
  | e :: es, h => by
    obtain ⟨he, hes⟩ := List.forall_mem_append.1 h
    rw [insideEntries, inside_of_apart e.2 he, insideEntries_of_apart es hes]

end

/-! ### Copies -/

mutual

/-- A copy has the same value. -/
theorem value_copy (b : Birth) : ∀ c : Cell, (c.copy b).value = c.value
  | .atom _ _ => rfl
  | .list _ items => by rw [copy, value, value, values_copyItems b items]
  | .tuple _ items => by
    rw [copy]
    split
    · rfl
    · rw [value, value, values_copyItems b items]
  | .object _ entries => by rw [copy, value, value, valuesOfEntries_copyEntries b entries]
  | .back _ _ => rfl

theorem values_copyItems (b : Birth) : ∀ cs : List Cell, values (copyItems b cs) = values cs
  | [] => rfl
  | c :: cs => by rw [copyItems, values, values, value_copy b c, values_copyItems b cs]

theorem valuesOfEntries_copyEntries (b : Birth) :
    ∀ es : CellEntries, valuesOfEntries (copyEntries b es) = valuesOfEntries es
  | [] => rfl
  | e :: es => by
    rw [copyEntries, valuesOfEntries, valuesOfEntries, value_copy b e.2, valuesOfEntries_copyEntries b es]

end

mutual

/-- A copy of a document is a document, and each of its labels is that of a copy. -/
theorem labels_copy (b : Birth) :
    ∀ c : Cell, c.isDocument = true → (c.copy b).isDocument = true ∧ (c.copy b).labels = c.labels.map b.copyOf
  | .atom _ _, _ => ⟨rfl, rfl⟩
  | .list l items, h => by
    obtain ⟨hdocuments, hlabels⟩ := labelsOfItems_copyItems b items h
    exact ⟨hdocuments, by rw [copy, labels, labels, hlabels, List.map_cons]⟩
  | .tuple _ _, h => nomatch h
  | .object l entries, h => by
    obtain ⟨hdocuments, hlabels⟩ := labelsOfEntries_copyEntries b entries h
    exact ⟨hdocuments, by rw [copy, labels, labels, hlabels, List.map_cons]⟩
  | .back _ _, h => nomatch h

theorem labelsOfItems_copyItems (b : Birth) : ∀ cs : List Cell, areDocuments cs = true →
    areDocuments (copyItems b cs) = true ∧ labelsOfItems (copyItems b cs) = (labelsOfItems cs).map b.copyOf
  | [], _ => ⟨rfl, rfl⟩
  | c :: cs, h => by
    obtain ⟨hc, hcs⟩ := Bool.and_eq_true_iff.1 h
    obtain ⟨hdocument, hlabels⟩ := labels_copy b c hc
    obtain ⟨hdocuments, hothers⟩ := labelsOfItems_copyItems b cs hcs
    rw [copyItems, areDocuments, labelsOfItems, labelsOfItems, List.map_append, hlabels, hothers, hdocument, hdocuments]
    exact ⟨rfl, rfl⟩

theorem labelsOfEntries_copyEntries (b : Birth) : ∀ es : CellEntries, holdDocuments es = true →
    holdDocuments (copyEntries b es) = true ∧ labelsOfEntries (copyEntries b es) = (labelsOfEntries es).map b.copyOf
  | [], _ => ⟨rfl, rfl⟩
  | e :: es, h => by
    obtain ⟨he, hes⟩ := Bool.and_eq_true_iff.1 h
    obtain ⟨hdocument, hlabels⟩ := labels_copy b e.2 he
    obtain ⟨hdocuments, hothers⟩ := labelsOfEntries_copyEntries b es hes
    rw [copyEntries, holdDocuments, labelsOfEntries, labelsOfEntries, List.map_append, hlabels, hothers, hdocument,
      hdocuments]
    exact ⟨rfl, rfl⟩

end

/-! ### Trees -/

/-- No list or object is a part of the document twice. -/
structure IsTree (c : Cell) : Prop where
  document : c.isDocument = true
  nodup : c.labels.Nodup

/-- A copy of a tree is a tree of copies. -/
theorem IsTree.copy {c : Cell} (h : c.IsTree) (b : Birth) : (c.copy b).IsTree := by
  obtain ⟨hdocument, hlabels⟩ := labels_copy b c h.document
  refine ⟨hdocument, ?_⟩
  rw [hlabels]
  exact List.Nodup.map (fun l m heq => (Label.copied.inj heq).2.2) h.nodup

theorem isTree_of_mem_items {c : Cell} {cs : List Cell} (hc : c ∈ cs) (h : areDocuments cs = true)
    (hnodup : (labelsOfItems cs).Nodup) : c.IsTree := by
  induction cs with
  | nil => cases hc
  | cons d ds ih =>
    obtain ⟨hd, hds⟩ := Bool.and_eq_true_iff.1 h
    obtain ⟨hfirst, hothers, -⟩ := List.nodup_append.1 hnodup
    rcases List.mem_cons.1 hc with rfl | hc
    · exact ⟨hd, hfirst⟩
    · exact ih hc hds hothers

theorem isTree_of_mem_entries {e : CellKey × Cell} {es : CellEntries} (he : e ∈ es) (h : holdDocuments es = true)
    (hnodup : (labelsOfEntries es).Nodup) : e.2.IsTree := by
  induction es with
  | nil => cases he
  | cons d ds ih =>
    obtain ⟨hd, hds⟩ := Bool.and_eq_true_iff.1 h
    obtain ⟨hfirst, hothers, -⟩ := List.nodup_append.1 hnodup
    rcases List.mem_cons.1 he with rfl | he
    · exact ⟨hd, hfirst⟩
    · exact ih he hds hothers

namespace IsTree

variable {c d : Cell}

/-- What is reached in a tree is a tree. -/
theorem of_step? (h : c.IsTree) {s : Path.Segment} (hstep : c.step? s = some d) : d.IsTree := by
  obtain ⟨hdocument, hnodup⟩ := h
  cases c with
  | atom l a => cases s <;> cases hstep
  | tuple l items => cases hdocument
  | back l kind => cases hdocument
  | list l items =>
    cases s with
    | field name => cases hstep
    | index i =>
      rw [step?, parts?_list hdocument] at hstep
      exact isTree_of_mem_items (List.mem_of_getElem? hstep) hdocument (List.nodup_cons.1 hnodup).2
  | object l entries =>
    cases s with
    | field name =>
      rw [step?, entries?_object hdocument] at hstep
      obtain ⟨e, he, rfl⟩ := mem_of_field? hstep
      exact isTree_of_mem_entries he hdocument (List.nodup_cons.1 hnodup).2
    | index i => cases hstep

theorem of_resolveSegments (h : c.IsTree) {ss : List Path.Segment} (hresolve : c.resolveSegments ss = some d) :
    d.IsTree := by
  induction ss generalizing c with
  | nil => exact Option.some.inj hresolve ▸ h
  | cons s ss ih =>
    obtain ⟨c', hstep, hrest⟩ := Option.bind_eq_some_iff.1 hresolve
    exact ih (h.of_step? hstep) hrest

theorem of_resolve (h : c.IsTree) {path : String} (hresolve : c.resolve path = .ok d) : d.IsTree := by
  unfold resolve at hresolve
  split at hresolve
  · cases hresolve
  · split at hresolve
    · next hsegments =>
      cases hresolve
      exact h.of_resolveSegments hsegments
    · cases hresolve

end IsTree

/-! ### Documents that were read -/

theorem value_ofString (name : String) : (Atom.ofString name).value = .text name := by
  rw [Atom.ofString, Atom.value, Value.ofPoints]
  split
  · next cs hcs =>
    rw [Text.chars?_points] at hcs
    rw [← Option.some.inj hcs, String.ofList_toList]
  · next hnone =>
    rw [Text.chars?_points] at hnone
    cases hnone

/-- A document that was made of a value at a place: a tree with labels of that place. -/
structure IsReadAt (b : Birth) (v : Value) (c : Cell) : Prop where
  tree : c.IsTree
  born : ∀ l ∈ c.labels, b.Bears l
  value : c.value = v

theorem forest_ofValues {site : Site} {vs : List Value}
    (h : ∀ v ∈ vs, ∀ site, IsReadAt ⟨0, site⟩ v (ofValue site v)) (position : Nat) :
    areDocuments (ofValues site position vs) = true ∧ (labelsOfItems (ofValues site position vs)).Nodup ∧
      (∀ l ∈ labelsOfItems (ofValues site position vs), ∃ i ≥ position, (Birth.part ⟨0, site⟩ i).Bears l) ∧
        values (ofValues site position vs) = vs := by
  induction vs generalizing position with
  | nil => exact ⟨rfl, List.nodup_nil, nofun, rfl⟩
  | cons v vs ih =>
    obtain ⟨⟨hdocument, hnodup⟩, hborn, hvalue⟩ := h v List.mem_cons_self (.number position :: site)
    obtain ⟨hdocuments, hothers, hplaces, hvalues⟩ := ih (fun v hv => h v (List.mem_cons_of_mem _ hv)) (position + 1)
    refine ⟨Bool.and_eq_true_iff.2 ⟨hdocument, hdocuments⟩, List.nodup_append.2 ⟨hnodup, hothers, ?_⟩, ?_,
      congrArg₂ List.cons hvalue hvalues⟩
    · rintro l hl m hm rfl
      obtain ⟨i, hi, hbears⟩ := hplaces l hm
      have := Birth.part_inj (b := ⟨0, site⟩) (hborn l hl) hbears
      omega
    · intro l hl
      rcases List.mem_append.1 hl with hl | hl
      · exact ⟨position, Nat.le_refl _, hborn l hl⟩
      · obtain ⟨i, hi, hbears⟩ := hplaces l hl
        exact ⟨i, by omega, hbears⟩

theorem forest_ofEntries {site : Site} {es : Entries} (hkeys : ∀ e ∈ es, ∃ name, e.1 = .text name)
    (h : ∀ e ∈ es, ∀ site, IsReadAt ⟨0, site⟩ e.2 (ofValue site e.2)) (position : Nat) :
    holdDocuments (ofEntries site position es) = true ∧ (labelsOfEntries (ofEntries site position es)).Nodup ∧
      (∀ l ∈ labelsOfEntries (ofEntries site position es), ∃ i ≥ position, (Birth.part ⟨0, site⟩ i).Bears l) ∧
        valuesOfEntries (ofEntries site position es) = es := by
  induction es generalizing position with
  | nil => exact ⟨rfl, List.nodup_nil, nofun, rfl⟩
  | cons e es ih =>
    obtain ⟨key, v⟩ := e
    obtain ⟨name, rfl⟩ := hkeys _ List.mem_cons_self
    obtain ⟨⟨hdocument, hnodup⟩, hborn, hvalue⟩ := h _ List.mem_cons_self (.number position :: site)
    obtain ⟨hdocuments, hothers, hplaces, hvalues⟩ := ih (fun e he => hkeys e (List.mem_cons_of_mem _ he))
      (fun e he => h e (List.mem_cons_of_mem _ he)) (position + 1)
    refine ⟨Bool.and_eq_true_iff.2 ⟨hdocument, hdocuments⟩, List.nodup_append.2 ⟨hnodup, hothers, ?_⟩, ?_,
      congrArg₂ List.cons (Prod.ext (CellKey.key_ofString name) hvalue) hvalues⟩
    · rintro l hl m hm rfl
      obtain ⟨i, hi, hbears⟩ := hplaces l hm
      have := Birth.part_inj (b := ⟨0, site⟩) (hborn l hl) hbears
      omega
    · intro l hl
      rcases List.mem_append.1 hl with hl | hl
      · exact ⟨position, Nat.le_refl _, hborn l hl⟩
      · obtain ⟨i, hi, hbears⟩ := hplaces l hl
        exact ⟨i, by omega, hbears⟩

/-- A document that was read is a tree with the value that was read. -/
theorem isReadAt_ofValue {v : Value} (h : v.IsJson) (site : Site) : IsReadAt ⟨0, site⟩ v (ofValue site v) := by
  induction h generalizing site with
  | null => exact ⟨⟨rfl, List.nodup_nil⟩, nofun, rfl⟩
  | bool b => exact ⟨⟨rfl, List.nodup_nil⟩, nofun, rfl⟩
  | int n => exact ⟨⟨rfl, List.nodup_nil⟩, nofun, rfl⟩
  | float x => exact ⟨⟨rfl, List.nodup_nil⟩, nofun, rfl⟩
  | text s => exact ⟨⟨rfl, List.nodup_nil⟩, nofun, value_ofString s⟩
  | list h ih =>
    obtain ⟨hdocuments, hnodup, hplaces, hvalues⟩ := forest_ofValues ih 0
    refine ⟨⟨hdocuments, List.nodup_cons.2 ⟨fun hmem => ?_, hnodup⟩⟩, List.forall_mem_cons.2 ⟨Birth.bears_label _,
      fun l hl => ?_⟩, congrArg Value.list hvalues⟩
    · obtain ⟨i, -, hbears⟩ := hplaces _ hmem
      exact Birth.not_bears_part hbears
    · obtain ⟨i, -, hbears⟩ := hplaces l hl
      exact hbears.of_part
  | object hkeys hdistinct h ih =>
    obtain ⟨hdocuments, hnodup, hplaces, hvalues⟩ := forest_ofEntries hkeys ih 0
    refine ⟨⟨hdocuments, List.nodup_cons.2 ⟨fun hmem => ?_, hnodup⟩⟩, List.forall_mem_cons.2 ⟨Birth.bears_label _,
      fun l hl => ?_⟩, congrArg Value.object hvalues⟩
    · obtain ⟨i, -, hbears⟩ := hplaces _ hmem
      exact Birth.not_bears_part hbears
    · obtain ⟨i, -, hbears⟩ := hplaces l hl
      exact hbears.of_part

end Cell

end IntegrationFlow
