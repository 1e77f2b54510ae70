import IntegrationFlow.Flow.Mapping
import IntegrationFlow.Proofs.Cell.Part

/-!
# What the mappings of an edge make

The mappings of an edge are meant to take their values from one and the same output (`Edge.assembled`). They do so as
long as none of them writes into the output, and then the output stays as it is (`Edge.result_buildInputs`). None does
when no mapping gives out a part of the output itself (`Edge.writes_mapInputs_of_apart`), so an edge without
transformations only reads. Else a later mapping may find the output changed (`Edge.mapInputs_overwriting`).
-/

namespace IntegrationFlow

/-- The mappings of the edge never write into the output from which they take their fields. -/
def Edge.SparesSource (e : Edge) : Prop :=
  ∀ c, (e.mapInputs c).writes = []

/-- No mapping of the flow ever writes into the output from which it takes its field. -/
def Flow.SparesSources (f : Flow) : Prop :=
  ∀ e ∈ f.edges, e.SparesSource

/-- What becomes of a mapping whose target takes no value. -/
def Halt.ofTarget : Path.AssignProblem → Halt
  | .invalidTarget path => .failed (.badTarget path)
  | .tooLong => .crashed .badValue

/-- Store a value in an object at the end of some names. -/
def Cell.assign (b : Birth) (c : Cell) (names : List String) (value : Cell) : Cell :=
  match writeFor b value c names with
  | none => c
  | some w => w.apply c

/-- Store what a mapping makes from a source at the target of the mapping. -/
def FieldMapping.storeFrom (m : FieldMapping) (b : Birth) (source c : Cell) : Outcome Cell :=
  match m.resolve (b.part 0) source with
  | .error halt => .error halt
  | .ok value => ((Path.targetNames m.targetField).map fun names => c.assign (b.part 1) names value).mapError .ofTarget

/-- The object that the mappings of an edge make from one source: from the first one to the last one, each stores what
it makes from the source. -/
def Edge.assembled (e : Edge) (source : Cell) : Outcome Cell :=
  let b := source.after e.site
  e.data.mapping.zipIdx.foldlM (fun c m => m.1.storeFrom (b.part m.2) source c) (b.object [])

/-- Two cells have no object in common. -/
def Cell.Apart (c d : Cell) : Prop :=
  ∀ l, c.holds l = true → d.holds l = false

/-- A mapping gives out no object of the source itself. -/
def FieldMapping.SparesSource (m : FieldMapping) (source : Cell) : Prop :=
  ∀ b value, source.age < b.age → m.resolve b source = .ok value → source.Apart value

/-! ### One field that is stored -/

theorem Write.apply_of_not_holds {w : Write} {c : Cell} (h : c.holds w.object = false) : w.apply c = c :=
  Cell.store_of_not_holds [] c h

theorem holds_of_nested {l : Label} {b : Birth} {value : Cell} {names : List String}
    (h : (nested b value names).holds l = true) : l.age = b.age ∨ value.holds l = true := by
  induction names generalizing b with
  | nil => exact .inr h
  | cons name names ih =>
    rcases Bool.or_eq_true_iff.1 h with h | h
    · exact .inl (by rw [← eq_of_beq h]; rfl)
    · rw [Cell.holdsEntry, Cell.holdsEntry, Bool.or_false] at h
      exact ih (b := b.part 0) h

/-- What is stored at the end of some names is written into an object of the cell, and holds nothing but the value and
what is new. -/
theorem holds_of_writeFor {b : Birth} {value current : Cell} {names : List String} {w : Write}
    (hobject : current.holds current.label = true) (h : writeFor b value current names = some w) :
    current.holds w.object = true ∧ ∀ l, w.value.holds l = true → l.age = b.age ∨ value.holds l = true := by
  induction names generalizing current with
  | nil => cases h
  | cons name names ih =>
    cases names with
    | nil =>
      cases h
      exact ⟨hobject, fun l hl => .inr hl⟩
    | cons other names =>
      rw [writeFor] at h
      · split at h
        · next l entries hstep =>
          obtain ⟨hheld, hvalue⟩ := ih (by simp [Cell.holds, Cell.label]) h
          exact ⟨Cell.holds_of_field hstep hheld, hvalue⟩
        · cases h
          exact ⟨hobject, fun l hl => holds_of_nested hl⟩
      · simp

namespace Building

theorem store_eq (b : Birth) (x : Building) (names : List String) (value : Cell) :
    (x.store b names value).result = x.result.assign b names value := by
  unfold store Cell.assign
  cases writeFor b value x.result names <;> rfl

/-- What was written is not taken back. -/
theorem writes_store (b : Birth) (x : Building) (names : List String) (value : Cell) :
    x.writes <+: (x.store b names value).writes := by
  unfold store
  split
  · exact List.prefix_rfl
  · exact List.prefix_append _ _

end Building

/-- Storing at the end of some names changes the source as the added write does. -/
theorem Building.source_store (b : Birth) (x : Building) (names : List String) (value : Cell)
    (h : ∀ w ∈ (x.store b names value).writes, x.source.holds w.object = false) :
    (x.store b names value).source = x.source := by
  unfold store at h ⊢
  split
  · rfl
  · next w hw =>
    rw [hw] at h
    exact Write.apply_of_not_holds (h w (List.mem_append_right _ List.mem_cons_self))

/-- What is built has no object in common with its source, and nothing was written into the source. -/
structure Building.Clear (x : Building) (age : Nat) : Prop where
  object : ∃ l entries, x.result = .object l entries
  apart : x.source.Apart x.result
  writes : ∀ w ∈ x.writes, x.source.holds w.object = false
  older : x.source.age < age

/-- Storing a value that has no object in common with the source leaves the source alone. -/
theorem Building.Clear.store {b : Birth} {x : Building} {value : Cell} (h : x.Clear b.age) (hvalue : x.source.Apart value)
    (names : List String) : (x.store b names value).source = x.source ∧ (x.store b names value).Clear b.age := by
  obtain ⟨l, entries, hobject⟩ := h.object
  unfold Building.store
  cases hwrite : writeFor b value x.result names with
  | none => exact ⟨rfl, h⟩
  | some w =>
    obtain ⟨hheld, hnew⟩ := holds_of_writeFor (by rw [hobject]; simp [Cell.holds, Cell.label]) hwrite
    have hspared : x.source.holds w.object = false := by
      by_contra hholds
      rw [h.apart _ (by simpa using hholds)] at hheld
      cases hheld
    have hsource : w.apply x.source = x.source := Write.apply_of_not_holds hspared
    simp only [hsource, true_and]
    refine ⟨⟨_, _, by rw [hobject]; rfl⟩, fun k hk => ?_, fun w' hw' => ?_, h.older⟩
    · dsimp only at hk
      by_contra hholds
      rw [Bool.not_eq_false] at hholds
      rcases Cell.holds_of_holds_store [] x.result hholds with hholds | hholds
      · rw [h.apart k hk] at hholds
        cases hholds
      · rcases hnew k hholds with hage | hholds
        · have := Cell.age_le_of_holds _ hk
          have := h.older
          omega
        · rw [hvalue k hk] at hholds
          cases hholds
    · rcases List.mem_append.1 hw' with hw' | hw'
      · exact h.writes w' hw'
      · rwa [List.mem_singleton.1 hw']

/-! ### All mappings of an edge -/

namespace FieldMapping

variable {m : FieldMapping} {b : Birth} {source value c : Cell}

theorem storeFrom_of_error {halt : Halt} (h : m.resolve (b.part 0) source = .error halt) :
    m.storeFrom b source c = .error halt := by
  unfold storeFrom
  rw [h]

theorem storeFrom_of_ok (h : m.resolve (b.part 0) source = .ok value) :
    m.storeFrom b source c =
      ((Path.targetNames m.targetField).map fun names => c.assign (b.part 1) names value).mapError .ofTarget := by
  unfold storeFrom
  rw [h]

/-- Only a transformation gives out a part of the source itself. -/
theorem age_of_resolve (hkind : m.kind ≠ .transform) {l : Label} (h : m.resolve b source = .ok value)
    (hl : value.holds l = true) : l.age = b.age := by
  unfold resolve at h
  split at h
  · cases h
    exact Cell.age_of_holds_copy _ hl
  · next hstatic =>
    split at h
    · cases h
    · cases h
    · split at h
      · cases h
        exact Cell.age_of_holds_copy _ hl
      · next hdirect => cases hcase : m.kind <;> simp_all

theorem sparesSource_of_ne_transform (hkind : m.kind ≠ .transform) (source : Cell) : m.SparesSource source := by
  intro b value hbirth hresolve l hl
  by_contra hheld
  have hage := age_of_resolve hkind hresolve (by simpa using hheld)
  have := Cell.age_le_of_holds _ hl
  omega

end FieldMapping

namespace Edge

theorem writes_buildInputs (b : Birth) (x : Building) (position : Nat) (ms : List FieldMapping) :
    x.writes <+: (buildInputs b x position ms).1.writes := by
  induction ms generalizing x position with
  | nil => exact List.prefix_rfl
  | cons m ms ih =>
    unfold buildInputs
    split
    · exact List.prefix_rfl
    · split
      · exact List.prefix_rfl
      · exact List.prefix_rfl
      · exact (x.writes_store _ _ _).trans (ih _ _)

/-- While nothing is written into the source, each mapping stores what it makes from the source. -/
theorem result_buildInputs {b : Birth} {x : Building} {position : Nat} {ms : List FieldMapping}
    (h : ∀ w ∈ (buildInputs b x position ms).1.writes, x.source.holds w.object = false) :
    (buildInputs b x position ms).1.source = x.source ∧ (buildInputs b x position ms).2 =
      (ms.zipIdx position).foldlM (fun c m => m.1.storeFrom (b.part m.2) x.source c) x.result := by
  -- Writes are never taken back, so none was made into the source by any of the mappings.
  induction ms generalizing x position with
  | nil => exact ⟨rfl, rfl⟩
  | cons m ms ih =>
    rw [List.zipIdx_cons, List.foldlM_cons]
    unfold buildInputs at h ⊢
    cases hresolve : m.resolve ((b.part position).part 0) x.source with
    | error halt =>
      rw [FieldMapping.storeFrom_of_error hresolve]
      exact ⟨rfl, rfl⟩
    | ok value =>
      rw [hresolve] at h
      rw [FieldMapping.storeFrom_of_ok hresolve]
      cases htarget : Path.targetNames m.targetField with
      | error problem => cases problem <;> exact ⟨rfl, rfl⟩
      | ok names =>
        rw [htarget] at h
        dsimp only at h ⊢
        have hkept := (x.source_store ((b.part position).part 1) names value
          fun w hw => h w ((writes_buildInputs b _ _ ms).subset hw))
        obtain ⟨hsource, hresult⟩ := @ih (x.store ((b.part position).part 1) names value) (position + 1)
          (by rwa [hkept])
        rw [hkept] at hsource hresult
        rw [x.store_eq] at hresult
        exact ⟨hsource, hresult⟩

/-- Nothing is written into the source while no mapping gives out an object of it. -/
theorem writes_buildInputs_of_spares {b : Birth} {x : Building} {position : Nat} {ms : List FieldMapping}
    (h : x.Clear b.age) (hms : ∀ m ∈ ms, m.SparesSource x.source) :
    ∀ w ∈ (buildInputs b x position ms).1.writes, x.source.holds w.object = false := by
  induction ms generalizing x position with
  | nil => exact h.writes
  | cons m ms ih =>
    unfold buildInputs
    cases hresolve : m.resolve ((b.part position).part 0) x.source with
    | error halt => exact h.writes
    | ok value =>
      cases htarget : Path.targetNames m.targetField with
      | error problem => cases problem <;> exact h.writes
      | ok names =>
        obtain ⟨hsource, hclear⟩ := Building.Clear.store (b := (b.part position).part 1) h
          (hms m List.mem_cons_self ((b.part position).part 0) _ h.older hresolve) names
        have hrest := @ih (x.store ((b.part position).part 1) names value) (position + 1) hclear
          (by rw [hsource]; exact fun m hm => hms m (List.mem_cons_of_mem _ hm))
        rwa [hsource] at hrest

theorem mapInputs_eq_buildInputs {e : Edge} (hmapping : e.data.mapping ≠ []) (source : Cell) :
    e.mapInputs source = (buildInputs (source.after e.site) (.start (source.after e.site) source) 0 e.data.mapping).1.mapped
      source (buildInputs (source.after e.site) (.start (source.after e.site) source) 0 e.data.mapping).2 := by
  unfold mapInputs
  split
  · next h => exact absurd h hmapping
  · rfl

theorem writes_mapped_eq_nil_iff {source : Cell} {x : Building} {result : Outcome Cell} :
    (x.mapped source result).writes = [] ↔ ∀ w ∈ x.writes, source.holds w.object = false := by
  unfold Building.mapped
  dsimp only
  split
  · next hany =>
    obtain ⟨w, hw, hheld⟩ := List.any_eq_true.1 hany
    refine iff_of_false (List.ne_nil_of_mem hw) fun hnone => ?_
    rw [hnone w hw] at hheld
    cases hheld
  · next hany => exact iff_of_true rfl (by simpa using hany)

/-- An edge only reads when no mapping gives out a part of the output itself. -/
theorem writes_mapInputs_of_spares {e : Edge} {source : Cell} (h : ∀ m ∈ e.data.mapping, m.SparesSource source) :
    (e.mapInputs source).writes = [] := by
  by_cases hmapping : e.data.mapping = []
  · rw [mapInputs_of_no_mapping hmapping]
  · rw [mapInputs_eq_buildInputs hmapping, writes_mapped_eq_nil_iff]
    refine writes_buildInputs_of_spares ⟨⟨_, _, rfl⟩, fun l hl => ?_, fun w hw => (List.not_mem_nil hw).elim,
      Nat.lt_succ_self _⟩ h
    have hage := Cell.age_le_of_holds _ hl
    by_contra hheld
    have hlabel : (source.after e.site).label = l := by
      simpa [Building.start, Birth.object, Cell.holds, Cell.holdsEntry] using hheld
    rw [← hlabel] at hage
    exact Nat.not_succ_le_self _ hage

/-- An edge without transformations only reads. -/
theorem sparesSource_of_no_transform {e : Edge} (h : ∀ m ∈ e.data.mapping, m.kind ≠ .transform) : e.SparesSource :=
  fun source => writes_mapInputs_of_spares fun m hm => m.sparesSource_of_ne_transform (h m hm) source

/-- An edge makes its object from one and the same output and leaves the output as it is, as long as nothing is written
into the output. Nothing is when no mapping gives out a part of the output itself, as only a transformation can. -/
theorem mapInputs_eq_assembled {e : Edge} (hmapping : e.data.mapping ≠ []) (source : Cell) :
    ((e.mapInputs source).writes = [] →
      (e.mapInputs source).result = e.assembled source ∧ (e.mapInputs source).source = source) ∧
    ((∀ m ∈ e.data.mapping, m.kind = .transform → m.SparesSource source) → (e.mapInputs source).writes = []) := by
  refine ⟨fun hwrites => ?_, fun hspares => writes_mapInputs_of_spares fun m hm => ?_⟩
  · rw [mapInputs_eq_buildInputs hmapping] at hwrites ⊢
    obtain ⟨hsource, hresult⟩ := result_buildInputs (writes_mapped_eq_nil_iff.1 hwrites)
    exact ⟨hresult, hsource⟩
  · by_cases hkind : m.kind = .transform
    · exact hspares m hm hkind
    · exact m.sparesSource_of_ne_transform hkind source

/-- A mapping that gives out the part of the output in a field. -/
def handOver (target : String) : FieldMapping :=
  { id := "1", sourceField := "a", targetField := target, kind := .transform, transform? := some "value" }

/-- An edge that gives out a part of the output, and a field next to it. -/
def tagging : Edge where
  id := "1"
  source := "box"
  target := "done"
  data := { mapping := [handOver "x.part",
    { id := "2", targetField := "x.tag", kind := .static, staticValue := .int 1 },
    { id := "3", sourceField := "a", targetField := "z" }] }

/-- An edge that stores a field inside of a part of the output that it gave out before. -/
def overwriting : Edge where
  id := "1"
  source := "box"
  target := "done"
  data := { mapping := [handOver "x",
    { id := "2", targetField := "x.y", kind := .static, staticValue := .int 1 },
    { id := "3", sourceField := "a", targetField := "z" }] }

/-- An output with an object in a field. -/
def boxed : Cell :=
  .ofValue [.name "box"] (.ofFields [("a", .object [])])

theorem mapInputs_eq_assembled_tagging :
    tagging.data.mapping ≠ [] ∧ (tagging.mapInputs boxed).writes = [] ∧
      (tagging.mapInputs boxed).result = tagging.assembled boxed ∧ (tagging.mapInputs boxed).source = boxed := by
  have hne : tagging.data.mapping ≠ [] := List.cons_ne_nil _ _
  have hwrites : (tagging.mapInputs boxed).writes = [] := List.isEmpty_iff.1 (by decide +kernel)
  exact ⟨hne, hwrites, (mapInputs_eq_assembled hne boxed).1 hwrites⟩

/-- The entries have some names, and each value passes a test. -/
private def haveFields {α : Type} (test : Value → α → Bool) : Entries → List (String × α) → Bool
  | [], [] => true
  | (.text name, v) :: es, f :: fs => name == f.1 && test v f.2 && haveFields test es fs
  | _, _ => false

private theorem eq_of_haveFields {α : Type} {test : Value → α → Bool} {make : α → Value}
    (htest : ∀ v a, test v a = true → v = make a) (es : Entries) (fs : List (String × α))
    (h : haveFields test es fs = true) : es = fs.map fun f => (.text f.1, make f.2) := by
  fun_induction haveFields test es fs with
  | case1 => rfl
  | case2 name v es f fs ih =>
    simp only [Bool.and_eq_true, beq_iff_eq] at h
    obtain ⟨⟨rfl, hv⟩, hes⟩ := h
    rw [List.map_cons, ← ih hes, ← htest v f.2 hv]
  | case3 => cases h

/-- Objects that hold numbers, inside of an object. -/
private def numbered (fields : List (String × List (String × Int))) : Value :=
  .ofFields (fields.map fun f => (f.1, .ofFields (f.2.map fun g => (g.1, .int g.2))))

private def isNumbered (v : Value) (fields : List (String × List (String × Int))) : Bool :=
  match v with
  | .object es => haveFields isObject es fields
  | _ => false
where
  isObject (v : Value) (fields : List (String × Int)) : Bool :=
    match v with
    | .object es => haveFields isInt es fields
    | _ => false
  isInt (v : Value) (n : Int) : Bool :=
    match v with
    | .int m => m == n
    | _ => false

private theorem eq_of_isNumbered {v : Value} (fields : List (String × List (String × Int)))
    (h : isNumbered v fields = true) : v = numbered fields := by
  have hint (v : Value) (n : Int) (h : isNumbered.isInt v n = true) : v = .int n := by
    unfold isNumbered.isInt at h
    split at h
    · rw [eq_of_beq h]
    · cases h
  have hobject (v : Value) (fields : List (String × Int)) (h : isNumbered.isObject v fields = true) :
      v = .ofFields (fields.map fun g => (g.1, .int g.2)) := by
    unfold isNumbered.isObject at h
    split at h
    · rw [eq_of_haveFields hint _ _ h, Value.ofFields, List.map_map]
      rfl
    · cases h
  unfold isNumbered at h
  split at h
  · rw [eq_of_haveFields hobject _ _ h, numbered, Value.ofFields, List.map_map]
    rfl
  · cases h

private theorem map_value_eq_ok {r : Outcome Cell} (fields : List (String × List (String × Int)))
    (h : r.toOption.any (fun c => isNumbered c.value fields) = true) : r.map Cell.value = .ok (numbered fields) := by
  cases r with
  | error halt => cases h
  | ok c => rw [Except.map, eq_of_isNumbered fields h]

/-- The last mapping finds the field that the second one stored in the output. -/
theorem mapInputs_overwriting :
    (overwriting.mapInputs boxed).result.map Cell.value =
        .ok (.ofFields [("x", .ofFields [("y", .int 1)]), ("z", .ofFields [("y", .int 1)])]) ∧
      (overwriting.assembled boxed).map Cell.value =
        .ok (.ofFields [("x", .ofFields [("y", .int 1)]), ("z", .ofFields [])]) ∧
      (overwriting.mapInputs boxed).source.value = .ofFields [("a", .ofFields [("y", .int 1)])] := by
  refine ⟨?_, ?_, ?_⟩
  · exact map_value_eq_ok [("x", [("y", 1)]), ("z", [("y", 1)])] (by decide +kernel)
  · exact map_value_eq_ok [("x", [("y", 1)]), ("z", [])] (by decide +kernel)
  · exact eq_of_isNumbered [("a", [("y", 1)])] (by decide +kernel)

end Edge

end IntegrationFlow
