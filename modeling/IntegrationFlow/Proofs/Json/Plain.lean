import IntegrationFlow.Json.Printer
import IntegrationFlow.Proofs.Value.Entries

/-!
# Values that JSON can hold

What a JSON text gives (`Value.IsJson`) has a JSON form again (`Json.plain_eq`): the value itself but for the floats that
are not finite, in whose places null stands. So the form is the value exactly when all of its floats are finite
(`Value.IsJson.damped_eq_iff`).
-/

namespace IntegrationFlow

namespace Value

/-- A value that a JSON text can give. -/
inductive IsJson : Value → Prop
  | null : IsJson .null
  | bool (b : Bool) : IsJson (.bool b)
  | int (n : Int) (h : (Decimal.digitsOf n.natAbs).length ≤ Decimal.maxDigits) : IsJson (.int n)
  | float (x : Float) : IsJson (.float x)
  | text (s : String) : IsJson (.text s)
  | list {items : List Value} (h : ∀ v ∈ items, IsJson v) : IsJson (.list items)
  | object {es : Entries} (hkeys : ∀ e ∈ es, ∃ name, e.1 = .text name) (hdistinct : es.Distinct)
    (h : ∀ e ∈ es, IsJson e.2) : IsJson (.object es)

theorem isJson_list_iff {items : List Value} : (Value.list items).IsJson ↔ ∀ v ∈ items, v.IsJson :=
  ⟨fun h => match h with | .list hitems => hitems, .list⟩

theorem isJson_object_iff {es : Entries} :
    (Value.object es).IsJson ↔ (∀ e ∈ es, ∃ name, e.1 = .text name) ∧ es.Distinct ∧ ∀ e ∈ es, e.2.IsJson :=
  ⟨fun h => match h with | .object hkeys hdistinct hvalues => ⟨hkeys, hdistinct, hvalues⟩,
    fun h => .object h.1 h.2.1 h.2.2⟩

mutual

/-- No float of the value is infinite or no number. -/
def isFinite : Value → Bool
  | .float x => x.isFinite
  | .list items => areFinite items
  | .tuple items => areFinite items
  | .object entries => holdFinite entries
  | _ => true

/-- No float of the values is infinite or no number. -/
def areFinite : List Value → Bool
  | [] => true
  | v :: vs => v.isFinite && areFinite vs

/-- No float under a key of the entries is infinite or no number. -/
def holdFinite : Entries → Bool
  | [] => true
  | e :: es => e.2.isFinite && holdFinite es

end

theorem areFinite_iff {vs : List Value} : areFinite vs = true ↔ ∀ v ∈ vs, v.isFinite = true := by
  induction vs with
  | nil => simp [areFinite]
  | cons v vs ih => simp [areFinite, ih]

theorem holdFinite_iff {es : Entries} : holdFinite es = true ↔ ∀ e ∈ es, e.2.isFinite = true := by
  induction es with
  | nil => simp [holdFinite]
  | cons e es ih => simp [holdFinite, ih]

mutual

/-- The value with null in the place of each float that is not finite. -/
def damped : Value → Value
  | .float x => Json.plainFloat x
  | .list items => .list (dampedItems items)
  | .object entries => .object (dampedEntries entries)
  | v => v

/-- The values with null in the place of each float that is not finite. -/
def dampedItems : List Value → List Value
  | [] => []
  | v :: vs => v.damped :: dampedItems vs

/-- The entries with null in the place of each float that is not finite. -/
def dampedEntries : Entries → Entries
  | [] => []
  | e :: es => (e.1, e.2.damped) :: dampedEntries es

end

theorem dampedItems_eq_map (vs : List Value) : dampedItems vs = vs.map damped := by
  induction vs with
  | nil => rfl
  | cons v vs ih => rw [dampedItems, ih, List.map_cons]

theorem dampedEntries_eq_map (es : Entries) : dampedEntries es = es.map fun e => (e.1, e.2.damped) := by
  induction es with
  | nil => rfl
  | cons e es ih => rw [dampedEntries, ih, List.map_cons]

/-- The keys of entries do not change. -/
theorem distinct_dampedEntries {es : Entries} (h : es.Distinct) : (dampedEntries es).Distinct := by
  rw [dampedEntries_eq_map]
  exact List.pairwise_map.2 h

namespace IsJson

variable {v : Value}

theorem damped (h : v.IsJson) : v.damped.IsJson := by
  induction h with
  | float x =>
    unfold Value.damped Json.plainFloat
    split
    · exact .float x
    · exact .null
  | list h ih =>
    rw [Value.damped, dampedItems_eq_map]
    exact .list (List.forall_mem_map.2 ih)
  | object hkeys hdistinct h ih =>
    rw [Value.damped]
    refine .object ?_ (distinct_dampedEntries hdistinct) ?_
    · rw [dampedEntries_eq_map]
      exact List.forall_mem_map.2 hkeys
    · rw [dampedEntries_eq_map]
      exact List.forall_mem_map.2 ih
  | null => exact .null
  | bool b => exact .bool b
  | int n hn => exact .int n hn
  | text s => exact .text s

theorem isFinite_damped (h : v.IsJson) : v.damped.isFinite = true := by
  induction h with
  | float x =>
    unfold Value.damped Json.plainFloat
    split
    · next hx => exact hx
    · rfl
  | list h ih =>
    rw [Value.damped, dampedItems_eq_map]
    exact areFinite_iff.2 (List.forall_mem_map.2 ih)
  | object hkeys hdistinct h ih =>
    rw [Value.damped, dampedEntries_eq_map]
    exact holdFinite_iff.2 (List.forall_mem_map.2 ih)
  | _ => rfl

/-- A value without infinite floats stays as it is. -/
theorem damped_eq (h : v.IsJson) (hv : v.isFinite = true) : v.damped = v := by
  induction h with
  | float x => exact if_pos hv
  | list h ih =>
    rw [isFinite, areFinite_iff] at hv
    rw [Value.damped, dampedItems_eq_map, List.map_congr_left fun w hw => ih w hw (hv w hw), List.map_id']
  | object hkeys hdistinct h ih =>
    rw [isFinite, holdFinite_iff] at hv
    rw [Value.damped, dampedEntries_eq_map, List.map_congr_left (g := id) fun e he => by rw [ih e he (hv e he)]; rfl,
      List.map_id]
  | _ => rfl

theorem damped_eq_iff (h : v.IsJson) : v.damped = v ↔ v.isFinite = true :=
  ⟨fun heq => heq ▸ h.isFinite_damped, h.damped_eq⟩

/-- The value is nested as deeply as before. -/
theorem depth_damped (h : v.IsJson) : v.damped.depth = v.depth := by
  induction h with
  | float x =>
    unfold Value.damped Json.plainFloat
    split <;> rfl
  | @list items h ih =>
    have hitems : depthOfItems (dampedItems items) = depthOfItems items := by
      clear h
      induction items with
      | nil => rfl
      | cons w ws ihs =>
        rw [dampedItems, depthOfItems, depthOfItems, ih w List.mem_cons_self,
          ihs fun x hx => ih x (List.mem_cons_of_mem w hx)]
    rw [Value.damped, depth, depth, hitems]
  | @object es hkeys hdistinct h ih =>
    have hentries : depthOfEntries (dampedEntries es) = depthOfEntries es := by
      clear hkeys hdistinct h
      induction es with
      | nil => rfl
      | cons e es ihs =>
        rw [dampedEntries, depthOfEntries, depthOfEntries, ih e List.mem_cons_self,
          ihs fun x hx => ih x (List.mem_cons_of_mem e hx)]
    rw [Value.damped, depth, depth, hentries]
  | _ => rfl

end IsJson

end Value

namespace Entries

/-- A field with a new name goes to the end. -/
theorem put_eq_append {k : Key} {es : Entries} (h : ∀ e ∈ es, e.1.eq k = false) (v : Value) :
    put k v es = es ++ [(k, v)] := by
  induction es with
  | nil => rfl
  | cons e es ih =>
    rw [put, if_neg (by simp [h e List.mem_cons_self]), ih fun x hx => h x (List.mem_cons_of_mem e hx), List.cons_append]

end Entries

namespace Json

open Value

/-- What a JSON text gives has a JSON form. -/
theorem plain_eq {v : Value} (h : v.IsJson) : plain v = .ok v.damped := by
  induction h with
  | @list items h ih =>
    have hitems : plainItems items = .ok (dampedItems items) := by
      clear h
      induction items with
      | nil => rfl
      | cons w ws ihs =>
        rw [plainItems, ih w List.mem_cons_self, ihs fun x hx => ih x (List.mem_cons_of_mem w hx)]
        rfl
    rw [plain, hitems]
    rfl
  | @object es hkeys hdistinct h ih =>
    have hentries (done : Entries) (hdone : (done ++ es).Distinct) :
        plainEntries done es = .ok (done ++ dampedEntries es) := by
      clear hdistinct h
      induction es generalizing done with
      | nil => simp [plainEntries, dampedEntries]
      | cons e es ihs =>
        obtain ⟨name, hname⟩ := hkeys e List.mem_cons_self
        have hnew : ∀ d ∈ done, d.1.eq (.text name) = false := by
          intro d hd
          rw [← hname]
          exact (List.pairwise_append.1 hdone).2.2 d hd e List.mem_cons_self
        have hrest : ((done ++ [(e.1, e.2.damped)]) ++ es).Distinct := by
          unfold Entries.Distinct at hdone ⊢
          have hkeysEq :
              List.map Prod.fst (done ++ [(e.1, e.2.damped)] ++ es) = List.map Prod.fst (done ++ e :: es) := by simp
          rw [← List.pairwise_map (R := fun a b : Key => a.eq b = false), hkeysEq, List.pairwise_map]
          exact hdone
        have hkey : plainKey e.1 = .ok name := by rw [hname]; rfl
        rw [plainEntries, hkey, ih e List.mem_cons_self]
        simp only [bind, Except.bind]
        rw [Entries.put_eq_append hnew, ← hname, ihs (fun x hx => hkeys x (List.mem_cons_of_mem e hx))
          (fun x hx => ih x (List.mem_cons_of_mem e hx)) _ hrest, dampedEntries, List.append_assoc, List.singleton_append]
    rw [plain, hentries [] hdistinct]
    rfl
  | _ => rfl

/-- What a JSON text gives has no lone surrogates. -/
theorem isWhole_of_isJson {v : Value} (h : v.IsJson) : isWhole v = true := by
  induction h with
  | @list items h ih =>
    clear h
    rw [isWhole]
    induction items with
    | nil => rfl
    | cons w ws ihs =>
      rw [areWhole, ih w List.mem_cons_self, ihs fun x hx => ih x (List.mem_cons_of_mem w hx), Bool.and_true]
  | @object es hkeys hdistinct h ih =>
    clear hkeys hdistinct h
    rw [isWhole]
    induction es with
    | nil => rfl
    | cons e es ihs =>
      rw [holdWhole, ih e List.mem_cons_self, ihs fun x hx => ih x (List.mem_cons_of_mem e hx), Bool.and_true]
  | _ => rfl

/-- What a JSON text gives can be written. -/
theorem writable_eq {v : Value} (h : v.IsJson) : writable v = .ok v.damped := by
  unfold writable
  rw [plain_eq h]
  dsimp only
  rw [if_pos (isWhole_of_isJson h.damped)]

/-- A field that was stored is there as long as none of the fields that follow has its name. -/
private theorem field?_plainEntries_of_not_mem {fields : List (String × Value)} {done es : Entries} {name : String}
    (hname : name ∉ fields.map (·.1)) (h : plainEntries done (fields.map fun f => (.text f.1, f.2)) = .ok es) :
    Entries.field? name es = Entries.field? name done := by
  induction fields generalizing done with
  | nil =>
    cases h
    rfl
  | cons f fields ih =>
    rw [List.map_cons, List.mem_cons, not_or] at hname
    rw [List.map_cons, plainEntries] at h
    cases hf : plain f.2 with
    | error why =>
      rw [hf] at h
      cases h
    | ok u =>
      rw [hf] at h
      rw [ih hname.2 h, Entries.field?_put, if_neg]
      simp [Key.eq_text, Ne.symm hname.1]

private theorem exists_field?_plainEntries {fields : List (String × Value)} {done es : Entries} {name : String}
    {v : Value} (hnodup : (fields.map (·.1)).Nodup) (hmem : (name, v) ∈ fields)
    (h : plainEntries done (fields.map fun f => (.text f.1, f.2)) = .ok es) :
    ∃ u, plain v = .ok u ∧ Entries.field? name es = some u := by
  induction fields generalizing done with
  | nil => simp at hmem
  | cons f fields ih =>
    rw [List.map_cons, List.nodup_cons] at hnodup
    rw [List.map_cons, plainEntries] at h
    cases hf : plain f.2 with
    | error why =>
      rw [hf] at h
      cases h
    | ok u =>
      rw [hf] at h
      rcases List.mem_cons.1 hmem with rfl | hmem
      · refine ⟨u, hf, ?_⟩
        rw [field?_plainEntries_of_not_mem hnodup.1 h, Entries.field?_put, if_pos (by simp [Key.eq_text])]
      · exact ih hnodup.2 hmem h

/-- A field of an object with distinct text keys is there in its JSON form. -/
theorem exists_field?_of_plain_ofFields {fields : List (String × Value)} (hnodup : (fields.map (·.1)).Nodup)
    {name : String} {v w : Value} (hmem : (name, v) ∈ fields) (h : plain (.ofFields fields) = .ok w) :
    ∃ es u, w = .object es ∧ plain v = .ok u ∧ Entries.field? name es = some u := by
  unfold Value.ofFields at h
  rw [plain] at h
  cases hes : plainEntries [] (fields.map fun f => (.text f.1, f.2)) with
  | error why =>
    rw [hes] at h
    cases h
  | ok es =>
    rw [hes] at h
    cases h
    obtain ⟨u, hu, hfield⟩ := exists_field?_plainEntries hnodup hmem hes
    exact ⟨es, u, rfl, hu, hfield⟩

end Json

end IntegrationFlow
