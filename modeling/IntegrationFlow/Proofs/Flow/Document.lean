import IntegrationFlow.Flow.Document
import IntegrationFlow.Proofs.Schema.Record
import IntegrationFlow.Proofs.Schema.Scalar
import IntegrationFlow.Proofs.Time.Reading

/-!
# Flow documents read back

What is written of a flow with null in the place of each float that is not finite is read as that flow exactly when all of
its floats are finite (`Flow.read_damped_iff`). JSON can hold what is written of a flow that was read from what JSON can
hold (`Flow.isJsonWithin_toValue`).
-/

namespace IntegrationFlow

open Schema Time

namespace Value

theorem damped_ofFields (fields : List (String × Value)) :
    (ofFields fields).damped = ofFields (fields.map fun f => (f.1, f.2.damped)) := by
  unfold ofFields
  rw [damped, dampedEntries_eq_map, List.map_map, List.map_map]
  rfl

theorem isFinite_ofFields {fields : List (String × Value)} :
    (ofFields fields).isFinite = true ↔ ∀ f ∈ fields, f.2.isFinite = true := by
  unfold ofFields
  rw [isFinite, holdFinite_iff, List.forall_mem_map]

theorem IsJson.of_mem_ofFields {fields : List (String × Value)} (h : (ofFields fields).IsJson) {f : String × Value}
    (hf : f ∈ fields) : f.2.IsJson :=
  (isJson_object_iff.1 h).2.2 _ (List.mem_map_of_mem (f := fun f : String × Value => (Key.text f.1, f.2)) hf)

end Value

/-- The first entry with a text is found under it. -/
@[simp] theorem Entries.field?_text_cons (name other : String) (v : Value) (es : Entries) :
    field? name ((.text other, v) :: es) = if other = name then some v else field? name es := by
  simp [field?, find?, Key.eq_text]

/-! ### Parts -/

/-- What is read in the place of the value, with null for each float that is not finite, is the stated result exactly when
all floats of the value are finite. -/
abbrev ReadsIfFinite {α : Type} (read : Value → Checked α) (v : Value) (a : α) : Prop :=
  read v.damped = .fits a ↔ v.isFinite = true

namespace ReadsIfFinite

/-- A value without floats. -/
theorem of_read {α : Type} {read : Value → Checked α} {v : Value} {a : α} (hdamped : v.damped = v)
    (hfinite : v.isFinite = true) (h : read v = .fits a) : ReadsIfFinite read v a :=
  iff_of_true (hdamped.symm ▸ h) hfinite

theorem text (s : String) : ReadsIfFinite Schema.text (.text s) s :=
  .of_read rfl rfl rfl

theorem optionalText (s? : Option String) : ReadsIfFinite (nullable Schema.text) (optionalText s?) s? := by
  cases s? <;> exact .of_read rfl rfl rfl

theorem flag (b : Bool) : ReadsIfFinite Schema.flag (.bool b) b :=
  .of_read rfl rfl rfl

theorem natural (n : Nat) : ReadsIfFinite Schema.natural (.int n) n := by
  refine .of_read rfl rfl ?_
  have hpos : ¬ (n : Int) < 0 := not_lt.2 (Int.natCast_nonneg n)
  simp [Schema.natural, wholeFrom, whole, Checked.andThen, Checked.map, hpos]

theorem number (x : Float) : ReadsIfFinite Schema.number (.float x) x := by
  unfold ReadsIfFinite Value.damped Json.plainFloat
  split
  · next hx => exact iff_of_true rfl hx
  · next hx =>
    refine iff_of_false (fun hread => ?_) hx
    cases hread

theorem oneOf {α : Type} {options : List (String × α)} {name : String} {a : α} (h : options.lookup name = some a) :
    ReadsIfFinite (Schema.oneOf options) (.text name) a := by
  refine .of_read rfl rfl ?_
  simp only [Schema.oneOf, h]

theorem timestamp {t : Timestamp} (h : t.IsShown) : ReadsIfFinite Time.timestamp (.text t.render) t := by
  refine .of_read rfl rfl ?_
  simp only [Time.timestamp, readText_render h]

theorem anything {v : Value} (h : v.IsJson) : ReadsIfFinite Schema.anything v v := by
  unfold ReadsIfFinite
  rw [← h.damped_eq_iff, Schema.anything, Checked.fits.injEq]

theorem object {es : Entries} (h : (Value.object es).IsJson) : ReadsIfFinite Schema.object (.object es) es := by
  unfold ReadsIfFinite
  rw [← h.damped_eq_iff, Value.damped, Schema.object, Checked.fits.injEq, Value.object.injEq]

theorem listOf {α : Type} {read : Value → Checked α} {f : α → Value} {as : List α}
    (h : ∀ a ∈ as, ReadsIfFinite read (f a) a) : ReadsIfFinite (Schema.listOf read) (.list (as.map f)) as := by
  unfold ReadsIfFinite
  rw [Value.damped, Value.dampedItems_eq_map, List.map_map, listOf_map_eq_fits_iff, Value.isFinite, Value.areFinite_iff,
    List.forall_mem_map]
  exact forall₂_congr h

end ReadsIfFinite

/-! ### Records -/

/-- A record that is written out has its fields under their names. -/
theorem record_ofFields {α : Type} (read : Entries → Checked α) (fields : List (String × Value)) :
    record read (.ofFields fields) = read (fields.map fun f => (.text f.1, f.2)) := rfl

theorem Port.readsIfFinite (p : Port) : ReadsIfFinite read p.toValue p := by
  obtain ⟨id, name, type, required⟩ := p
  unfold ReadsIfFinite toValue
  rw [Value.damped_ofFields, Value.isFinite_ofFields, read, record_ofFields]
  simp [ReadsIfFinite.text id, ReadsIfFinite.text name, ReadsIfFinite.text type, ReadsIfFinite.flag required, and_assoc,
    -Bool.exists_bool]

theorem Position.readsIfFinite (p : Position) : ReadsIfFinite read p.toValue p := by
  obtain ⟨x, y⟩ := p
  unfold ReadsIfFinite toValue
  rw [Value.damped_ofFields, Value.isFinite_ofFields, read, record_ofFields]
  simp [ReadsIfFinite.number x, ReadsIfFinite.number y]

theorem NodeData.readsIfFinite {d : NodeData} (h : d.toValue.IsJson) : ReadsIfFinite read d.toValue d := by
  have hconfig := ReadsIfFinite.object (h.of_mem_ofFields (f := ("config", .object d.config)) (by simp))
  obtain ⟨label, config, inputs, outputs⟩ := d
  have hports (ports : List Port) := ReadsIfFinite.listOf fun (p : Port) (_ : p ∈ ports) => p.readsIfFinite
  unfold ReadsIfFinite toValue
  rw [Value.damped_ofFields, Value.isFinite_ofFields, read, record_ofFields]
  simp [ReadsIfFinite.text label, hconfig, hports inputs, hports outputs, and_assoc]

theorem Node.readsIfFinite {n : Node} (h : n.toValue.IsJson) : ReadsIfFinite read n.toValue n := by
  have hdata := NodeData.readsIfFinite (h.of_mem_ofFields (f := ("data", n.data.toValue)) (by simp))
  obtain ⟨id, type, position, data⟩ := n
  unfold ReadsIfFinite toValue
  rw [Value.damped_ofFields, Value.isFinite_ofFields, read, record_ofFields]
  simp [ReadsIfFinite.text id, ReadsIfFinite.text type, position.readsIfFinite, hdata, and_assoc]

theorem FieldMapping.readsIfFinite {m : FieldMapping} (h : m.toValue.IsJson) : ReadsIfFinite read m.toValue m := by
  have hstatic := ReadsIfFinite.anything (h.of_mem_ofFields (f := ("staticValue", m.staticValue)) (by simp))
  obtain ⟨id, sourceField, targetField, kind, transform?, staticValue⟩ := m
  unfold ReadsIfFinite toValue
  rw [Value.damped_ofFields, Value.isFinite_ofFields, read, record_ofFields]
  simp [ReadsIfFinite.text id, ReadsIfFinite.text sourceField, ReadsIfFinite.text targetField,
    ReadsIfFinite.oneOf kind.lookup_name, ReadsIfFinite.optionalText transform?, hstatic, and_assoc]

theorem EdgeData.readsIfFinite {d : EdgeData} (h : d.toValue.IsJson) : ReadsIfFinite read d.toValue d := by
  have hmapping := ReadsIfFinite.listOf fun (m : FieldMapping) (hm : m ∈ d.mapping) =>
    FieldMapping.readsIfFinite (Value.isJson_list_iff.1
      (h.of_mem_ofFields (f := ("mapping", .list (d.mapping.map FieldMapping.toValue))) (by simp)) _
      (List.mem_map_of_mem hm))
  obtain ⟨condition?, mapping⟩ := d
  unfold ReadsIfFinite toValue
  rw [Value.damped_ofFields, Value.isFinite_ofFields, read, record_ofFields]
  simp [ReadsIfFinite.optionalText condition?, hmapping]

theorem Edge.readsIfFinite {e : Edge} (h : e.toValue.IsJson) : ReadsIfFinite read e.toValue e := by
  have hdata := EdgeData.readsIfFinite (h.of_mem_ofFields (f := ("data", e.data.toValue)) (by simp))
  obtain ⟨id, source, target, sourcePort?, targetPort?, data⟩ := e
  unfold ReadsIfFinite toValue
  rw [Value.damped_ofFields, Value.isFinite_ofFields, read, record_ofFields]
  simp [ReadsIfFinite.text id, ReadsIfFinite.text source, ReadsIfFinite.text target,
    ReadsIfFinite.optionalText sourcePort?, ReadsIfFinite.optionalText targetPort?, hdata, and_assoc]

theorem FlowConfig.readsIfFinite (c : FlowConfig) : ReadsIfFinite read c.toValue c := by
  obtain ⟨timeout, retries, errorHandling⟩ := c
  unfold ReadsIfFinite toValue
  rw [Value.damped_ofFields, Value.isFinite_ofFields, read, record_ofFields]
  simp [ReadsIfFinite.natural timeout, ReadsIfFinite.natural retries, ReadsIfFinite.oneOf errorHandling.lookup_name]

/-- What is written of a flow with null for each float that is not finite is read as that flow exactly when all of its
floats are finite. -/
theorem Flow.readsIfFinite (now : Timestamp) {f : Flow} (h : f.toValue.IsJson) (hcreated : f.createdAt.IsShown)
    (hupdated : f.updatedAt.IsShown) : ReadsIfFinite (read now) f.toValue f := by
  have hnodes := ReadsIfFinite.listOf fun (n : Node) (hn : n ∈ f.nodes) =>
    Node.readsIfFinite (Value.isJson_list_iff.1
      (h.of_mem_ofFields (f := ("nodes", .list (f.nodes.map Node.toValue))) (by simp)) _ (List.mem_map_of_mem hn))
  have hedges := ReadsIfFinite.listOf fun (e : Edge) (he : e ∈ f.edges) =>
    Edge.readsIfFinite (Value.isJson_list_iff.1
      (h.of_mem_ofFields (f := ("edges", .list (f.edges.map Edge.toValue))) (by simp)) _ (List.mem_map_of_mem he))
  obtain ⟨id, name, description, version, nodes, edges, config, createdAt, updatedAt⟩ := f
  unfold ReadsIfFinite toValue
  rw [Value.damped_ofFields, Value.isFinite_ofFields, read, record_ofFields]
  simp [ReadsIfFinite.text id, ReadsIfFinite.text name, ReadsIfFinite.text description, ReadsIfFinite.text version, hnodes,
    hedges, config.readsIfFinite, ReadsIfFinite.timestamp hcreated, ReadsIfFinite.timestamp hupdated, and_assoc]

/-! ### What is read can be held by JSON -/

open Value

section

variable {limit : Nat} {v : Value}

theorem isJsonWithin_optionalText (s? : Option String) : (optionalText s?).IsJsonWithin limit := by
  cases s? with
  | none => exact .null
  | some s => exact .text s

theorem Port.isJsonWithin_toValue (p : Port) : p.toValue.IsJsonWithin (limit + 1) := by
  refine .ofFields _ (by simp) ?_
  simp [IsJsonWithin.text, IsJsonWithin.bool]

theorem Position.isJsonWithin_toValue (p : Position) : p.toValue.IsJsonWithin (limit + 1) := by
  refine .ofFields _ (by simp) ?_
  simp [IsJsonWithin.float]

theorem NodeData.isJsonWithin_toValue {d : NodeData} (hv : v.IsJsonWithin (limit + 3)) (h : read v = .fits d) :
    d.toValue.IsJsonWithin (limit + 3) := by
  obtain ⟨fields, rfl, hfields⟩ := exists_of_record h
  simp only [Checked.seq_eq_fits_iff, Checked.map_eq_fits_iff] at hfields
  obtain ⟨_, ⟨_, ⟨_, ⟨label, -, rfl⟩, config, hconfig, rfl⟩, inputs, -, rfl⟩, outputs, -, rfl⟩ := hfields
  have hports (ports : List Port) : (Value.list (ports.map Port.toValue)).IsJsonWithin (limit + 2) :=
    .list (List.forall_mem_map.2 fun p _ => p.isJsonWithin_toValue)
  have hobject : (Value.object config).IsJsonWithin (limit + 2) := by
    rcases hv.exists_of_optionalField hconfig with rfl | ⟨w, hw, hread⟩
    · exact .ofFields [] (by simp) (by simp)
    · unfold Schema.object at hread
      split at hread <;> cases hread
      exact hw
  refine .ofFields _ (by simp) ?_
  simp [IsJsonWithin.text, hports, hobject]

theorem NodeData.isJsonWithin_toValue_empty : ({} : NodeData).toValue.IsJsonWithin (limit + 3) :=
  isJsonWithin_toValue (v := .ofFields []) (.ofFields [] (by simp) (by simp)) rfl

theorem Node.isJsonWithin_toValue {n : Node} (hv : v.IsJsonWithin (limit + 4)) (h : read v = .fits n) :
    n.toValue.IsJsonWithin (limit + 4) := by
  obtain ⟨fields, rfl, hfields⟩ := exists_of_record h
  simp only [Checked.seq_eq_fits_iff, Checked.map_eq_fits_iff] at hfields
  obtain ⟨_, ⟨_, ⟨_, ⟨id, -, rfl⟩, type, -, rfl⟩, position, -, rfl⟩, data, hdata, rfl⟩ := hfields
  have hdata : data.toValue.IsJsonWithin (limit + 3) := by
    rcases hv.exists_of_optionalField hdata with rfl | ⟨w, hw, hread⟩
    · exact NodeData.isJsonWithin_toValue_empty
    · exact NodeData.isJsonWithin_toValue hw hread
  refine .ofFields _ (by simp) ?_
  simp [IsJsonWithin.text, position.isJsonWithin_toValue, hdata]

theorem FieldMapping.isJsonWithin_toValue {m : FieldMapping} (hv : v.IsJsonWithin (limit + 1)) (h : read v = .fits m) :
    m.toValue.IsJsonWithin (limit + 1) := by
  obtain ⟨fields, rfl, hfields⟩ := exists_of_record h
  simp only [Checked.seq_eq_fits_iff, Checked.map_eq_fits_iff] at hfields
  obtain ⟨_, ⟨_, ⟨_, ⟨_, ⟨_, ⟨id, -, rfl⟩, source, -, rfl⟩, target, -, rfl⟩, kind, -, rfl⟩, transform, -, rfl⟩, static,
    hstatic, rfl⟩ := hfields
  have hstatic : static.IsJsonWithin limit := by
    rcases hv.exists_of_optionalField hstatic with rfl | ⟨w, hw, hread⟩
    · exact .null
    · cases hread
      exact hw
  refine .ofFields _ (by simp) ?_
  simp [IsJsonWithin.text, isJsonWithin_optionalText, hstatic]

theorem EdgeData.isJsonWithin_toValue {d : EdgeData} (hv : v.IsJsonWithin (limit + 3)) (h : read v = .fits d) :
    d.toValue.IsJsonWithin (limit + 3) := by
  obtain ⟨fields, rfl, hfields⟩ := exists_of_record h
  simp only [Checked.seq_eq_fits_iff, Checked.map_eq_fits_iff] at hfields
  obtain ⟨_, ⟨condition, -, rfl⟩, mapping, hmapping, rfl⟩ := hfields
  have hmapping : ∀ m ∈ mapping, m.toValue.IsJsonWithin (limit + 1) := by
    rcases hv.exists_of_optionalField hmapping with rfl | ⟨w, hw, hread⟩
    · simp
    · intro m hm
      obtain ⟨x, hx, hread⟩ := hw.exists_of_listOf hread m hm
      exact FieldMapping.isJsonWithin_toValue hx hread
  have hlist : (Value.list (mapping.map FieldMapping.toValue)).IsJsonWithin (limit + 2) :=
    .list (List.forall_mem_map.2 hmapping)
  refine .ofFields _ (by simp) ?_
  simp [isJsonWithin_optionalText, hlist]

theorem EdgeData.isJsonWithin_toValue_empty : ({} : EdgeData).toValue.IsJsonWithin (limit + 3) :=
  isJsonWithin_toValue (v := .ofFields []) (.ofFields [] (by simp) (by simp)) rfl

theorem Edge.isJsonWithin_toValue {e : Edge} (hv : v.IsJsonWithin (limit + 4)) (h : read v = .fits e) :
    e.toValue.IsJsonWithin (limit + 4) := by
  obtain ⟨fields, rfl, hfields⟩ := exists_of_record h
  simp only [Checked.seq_eq_fits_iff, Checked.map_eq_fits_iff] at hfields
  obtain ⟨_, ⟨_, ⟨_, ⟨_, ⟨_, ⟨id, -, rfl⟩, source, -, rfl⟩, target, -, rfl⟩, sourcePort, -, rfl⟩, targetPort, -, rfl⟩, data,
    hdata, rfl⟩ := hfields
  have hdata : data.toValue.IsJsonWithin (limit + 3) := by
    rcases hv.exists_of_optionalField hdata with rfl | ⟨w, hw, hread⟩
    · exact EdgeData.isJsonWithin_toValue_empty
    · exact EdgeData.isJsonWithin_toValue hw hread
  refine .ofFields _ (by simp) ?_
  simp [IsJsonWithin.text, isJsonWithin_optionalText, hdata]

theorem FlowConfig.isJsonWithin_toValue {c : FlowConfig} (hv : v.IsJsonWithin (limit + 1)) (h : read v = .fits c) :
    c.toValue.IsJsonWithin (limit + 1) := by
  obtain ⟨fields, rfl, hfields⟩ := exists_of_record h
  simp only [Checked.seq_eq_fits_iff, Checked.map_eq_fits_iff] at hfields
  obtain ⟨_, ⟨_, ⟨timeout, htimeout, rfl⟩, retries, hretries, rfl⟩, errorHandling, -, rfl⟩ := hfields
  have hnatural {name : String} {n m : Nat} (hread : optionalField fields name m Schema.natural = .fits n)
      (hdefault : (Value.int m).IsJson) : (Value.int n).IsJsonWithin limit := by
    rcases hv.exists_of_optionalField hread with rfl | ⟨w, hw, hread⟩
    · exact ⟨hdefault, Nat.zero_le _⟩
    · exact ⟨isJson_of_natural hw.isJson hread, Nat.zero_le _⟩
  refine .ofFields _ (by simp) ?_
  simp [IsJsonWithin.text, hnatural htimeout (.int _ (by decide)), hnatural hretries (.int _ (by decide))]

/-- JSON can hold what is written of a flow that was read from what JSON can hold. -/
theorem Flow.isJsonWithin_toValue {now : Timestamp} {f : Flow} (hv : v.IsJsonWithin (limit + 6))
    (h : read now v = .fits f) : f.toValue.IsJsonWithin (limit + 6) := by
  obtain ⟨fields, rfl, hfields⟩ := exists_of_record h
  simp only [Checked.seq_eq_fits_iff, Checked.map_eq_fits_iff] at hfields
  obtain ⟨_, ⟨_, ⟨_, ⟨_, ⟨_, ⟨_, ⟨_, ⟨_, ⟨id, -, rfl⟩, name, -, rfl⟩, description, -, rfl⟩, version, -, rfl⟩, nodes, hnodes,
    rfl⟩, edges, hedges, rfl⟩, config, hconfig, rfl⟩, createdAt, -, rfl⟩, updatedAt, -, rfl⟩ := hfields
  have hnodes : ∀ n ∈ nodes, n.toValue.IsJsonWithin (limit + 4) := by
    rcases hv.exists_of_optionalField hnodes with rfl | ⟨w, hw, hread⟩
    · simp
    · intro n hn
      obtain ⟨x, hx, hread⟩ := hw.exists_of_listOf hread n hn
      exact Node.isJsonWithin_toValue hx hread
  have hedges : ∀ e ∈ edges, e.toValue.IsJsonWithin (limit + 4) := by
    rcases hv.exists_of_optionalField hedges with rfl | ⟨w, hw, hread⟩
    · simp
    · intro e he
      obtain ⟨x, hx, hread⟩ := hw.exists_of_listOf hread e he
      exact Edge.isJsonWithin_toValue hx hread
  have hconfig : config.toValue.IsJsonWithin (limit + 5) := by
    rcases hv.exists_of_optionalField hconfig with rfl | ⟨w, hw, hread⟩
    · exact FlowConfig.isJsonWithin_toValue (v := .ofFields []) (.ofFields [] (by simp) (by simp)) rfl
    · exact FlowConfig.isJsonWithin_toValue hw hread
  have hnodeList : (Value.list (nodes.map Node.toValue)).IsJsonWithin (limit + 5) := .list (List.forall_mem_map.2 hnodes)
  have hedgeList : (Value.list (edges.map Edge.toValue)).IsJsonWithin (limit + 5) := .list (List.forall_mem_map.2 hedges)
  refine .ofFields _ (by simp) ?_
  simp [IsJsonWithin.text, hnodeList, hedgeList, hconfig]

/-- The timestamps of a flow that was read are such that can be read again. -/
theorem Flow.isShown_of_read {now : Timestamp} (hnow : now.IsShown) {f : Flow} (hv : v.IsJsonWithin (limit + 6))
    (h : read now v = .fits f) : f.createdAt.IsShown ∧ f.updatedAt.IsShown := by
  obtain ⟨fields, rfl, hfields⟩ := exists_of_record h
  simp only [Checked.seq_eq_fits_iff, Checked.map_eq_fits_iff] at hfields
  obtain ⟨_, ⟨_, ⟨_, ⟨_, ⟨_, ⟨_, ⟨_, ⟨_, ⟨_, -, rfl⟩, _, -, rfl⟩, _, -, rfl⟩, _, -, rfl⟩, _, -, rfl⟩, _, -, rfl⟩, _, -, rfl⟩,
    createdAt, hcreated, rfl⟩, updatedAt, hupdated, rfl⟩ := hfields
  have hshown {name : String} {t : Timestamp} (hread : optionalField fields name now timestamp = .fits t) :
      t.IsShown := by
    rcases hv.exists_of_optionalField hread with rfl | ⟨w, -, hread⟩
    · exact hnow
    · exact isShown_of_timestamp hread
  exact ⟨hshown hcreated, hshown hupdated⟩

end

end IntegrationFlow
