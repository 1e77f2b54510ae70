import IntegrationFlow.Proofs.Value.Rearranged
import Mathlib.Data.Set.List

/-!
# Storing at a path

What is stored at a path is read there (`resolveSegments_assignNames`), a second value replaces the first one
(`assignNames_assignNames`), and what lies at a path that goes another way is left alone, unless something had to give
way to a new object (`resolveSegments_assignNames_of_apart`). Stores at paths that go different ways can be made in any
order (`rearranged_assignNames`).
-/

namespace IntegrationFlow.Path

/-- The pieces of a path. -/
def pieces (path : String) : List Piece :=
  piecesUpTo ((body path.toList).length + 1) (body path.toList)

theorem split?_eq (path : String) : split? path = segmentsOf? (pieces path) :=
  rfl

/-- Neither path leads on from the end of the other one. -/
structure Apart (a b : List Segment) : Prop where
  left : ¬ a <+: b
  right : ¬ b <+: a

/-- Every place that some steps pass through on their way is an object or missing. -/
def IsClear (entries : Entries) (steps : List Segment) : Prop :=
  ∀ way v, way <+: steps → way ≠ steps → resolveSegments (.object entries) way = some v → ∃ inner, v = .object inner

/-! ### Names -/

/-- The object under a name; an empty one when there is none. -/
def objectAt (name : String) (entries : Entries) : Entries :=
  match Entries.field? name entries with
  | some (.object inner) => inner
  | _ => []

/-- What lies under a name once a value was stored at the end of some more names. -/
def below (inner : Entries) (value : Value) : List String → Value
  | [] => value
  | name :: names => .object (assignNames inner value (name :: names))

/-- A value is stored under the first name, inside of the object that is there. -/
theorem assignNames_cons (entries : Entries) (value : Value) (name : String) (names : List String) :
    assignNames entries value (name :: names) =
      Entries.put (.text name) (below (objectAt name entries) value names) entries := by
  cases names with
  | nil => rfl
  | cons other names => rfl

theorem below_eq (inner : Entries) (value : Value) {names : List String} (h : names ≠ []) :
    below inner value names = .object (assignNames inner value names) := by
  cases names with
  | nil => exact absurd rfl h
  | cons name names => rfl

/-- What was stored is found. -/
theorem resolveSegments_below (inner : Entries) (value : Value) (names : List String) :
    resolveSegments (below inner value names) (names.map .field) = some value := by
  induction names generalizing inner with
  | nil => rfl
  | cons name names ih =>
    rw [below, assignNames_cons, List.map_cons, resolveSegments, step?, Entries.field?_put_self, Option.bind_some, ih]

/-- What was stored is read at its path. -/
theorem resolveSegments_assignNames (entries : Entries) (value : Value) {names : List String} (h : names ≠ []) :
    resolveSegments (.object (assignNames entries value names)) (names.map .field) = some value := by
  rw [← below_eq entries value h]
  exact resolveSegments_below entries value names

/-- The object under a name once something was stored behind it. -/
theorem objectAt_put_below (entries inner : Entries) (name : String) (value : Value) {names : List String}
    (h : names ≠ []) :
    objectAt name (Entries.put (.text name) (below inner value names) entries) = assignNames inner value names := by
  rw [objectAt, Entries.field?_put_self, below_eq inner value h]

/-- Storing under one name leaves the object under another one alone. -/
theorem objectAt_put_of_ne {name other : String} (h : name ≠ other) (value : Value) (entries : Entries) :
    objectAt other (Entries.put (.text name) value entries) = objectAt other entries := by
  rw [objectAt, Entries.field?_put_of_ne h, objectAt]

/-- A second value replaces the first one, as if only the second one had been stored. -/
theorem assignNames_assignNames (entries : Entries) (v w : Value) (names : List String) :
    assignNames (assignNames entries v names) w names = assignNames entries w names := by
  induction names generalizing entries with
  | nil => rfl
  | cons name names ih =>
    rw [assignNames_cons, assignNames_cons, assignNames_cons, Entries.put_put]
    cases names with
    | nil => rfl
    | cons other names => rw [objectAt_put_below _ _ _ _ (List.cons_ne_nil _ _), below, below, ih]

/-- Steps that begin with a name lead from there on. -/
theorem resolveSegments_field (entries : Entries) (name : String) (path : List Segment) :
    resolveSegments (.object entries) (.field name :: path) =
      (Entries.field? name entries).bind fun v => resolveSegments v path :=
  rfl

/-- Paths that go different ways behind a common step. -/
theorem Apart.of_cons {s : Segment} {a b : List Segment} (h : Apart (s :: a) (s :: b)) : Apart a b :=
  ⟨fun hpre => h.left (List.cons_prefix_cons.2 ⟨rfl, hpre⟩), fun hpre => h.right (List.cons_prefix_cons.2 ⟨rfl, hpre⟩)⟩

theorem Apart.left_ne_nil {a b : List Segment} (h : Apart a b) : a ≠ [] := by
  rintro rfl
  exact h.left List.nil_prefix

theorem Apart.right_ne_nil {a b : List Segment} (h : Apart a b) : b ≠ [] := by
  rintro rfl
  exact h.right List.nil_prefix

/-- Behind a name through which the way is clear it is clear in the object there. -/
theorem IsClear.objectAt {entries : Entries} {name : String} {steps : List Segment}
    (h : IsClear entries (.field name :: steps)) : IsClear (objectAt name entries) steps := by
  intro way v hway hne hv
  unfold Path.objectAt at hv
  split at hv
  · next inner hinner =>
    refine h (.field name :: way) v (List.cons_prefix_cons.2 ⟨rfl, hway⟩) (by simpa using hne) ?_
    rw [resolveSegments_field, hinner]
    exact hv
  · cases way with
    | nil => exact ⟨[], (Option.some.inj hv).symm⟩
    | cons s way =>
      cases s with
      | field other => cases hv
      | index i => cases hv

/-- What lies behind a name through which the way is clear lies in the object there. -/
theorem IsClear.resolveSegments_objectAt {entries : Entries} {name : String} {steps path : List Segment}
    (h : IsClear entries (.field name :: steps)) (hsteps : steps ≠ []) (hpath : path ≠ []) :
    resolveSegments (.object (Path.objectAt name entries)) path =
      (Entries.field? name entries).bind fun v => resolveSegments v path := by
  have hfound (v : Value) (hv : Entries.field? name entries = some v) : ∃ inner, v = .object inner := by
    refine h [.field name] v (List.cons_prefix_cons.2 ⟨rfl, List.nil_prefix⟩) (by simpa using hsteps.symm) ?_
    rw [resolveSegments_field, hv]
    rfl
  unfold Path.objectAt
  cases hfield : Entries.field? name entries with
  | some v =>
    obtain ⟨inner, rfl⟩ := hfound v hfield
    rfl
  | none =>
    cases path with
    | nil => exact absurd rfl hpath
    | cons s path => cases s <;> rfl

/-- What lies at a path that goes another way stays as it is, or missing. -/
theorem resolveSegments_assignNames_of_apart {entries : Entries} {value : Value} {names : List String}
    {path : List Segment} (h : Apart (names.map .field) path) (hclear : IsClear entries (names.map .field)) :
    resolveSegments (.object (assignNames entries value names)) path = resolveSegments (.object entries) path := by
  induction names generalizing entries path with
  | nil => exact absurd rfl h.left_ne_nil
  | cons name names ih =>
    rw [assignNames_cons]
    cases path with
    | nil => exact absurd rfl h.right_ne_nil
    | cons s path =>
      cases s with
      | index i => rfl
      | field other =>
        rw [resolveSegments_field, resolveSegments_field]
        by_cases hname : name = other
        -- Paths with the same first name part behind it, in the object that is there.
        · subst hname
          have hrest : Apart (names.map .field) path := h.of_cons
          have hne : names ≠ [] := by simpa using hrest.left_ne_nil
          rw [Entries.field?_put_self, Option.bind_some, below_eq _ _ hne, ih hrest hclear.objectAt,
            hclear.resolveSegments_objectAt (by simpa using hne) hrest.right_ne_nil]
        · rw [Entries.field?_put_of_ne hname]

/-- Values at paths that go different ways can be stored in any order. -/
theorem rearranged_assignNames {entries : Entries} {v w : Value} {names others : List String}
    (h : Apart (names.map .field) (others.map .field)) :
    Value.Rearranged (.object (assignNames (assignNames entries v names) w others))
      (.object (assignNames (assignNames entries w others) v names)) := by
  induction names generalizing entries others with
  | nil => exact absurd rfl h.left_ne_nil
  | cons name names ih =>
    cases others with
    | nil => exact absurd rfl h.right_ne_nil
    | cons other others =>
      rw [assignNames_cons, assignNames_cons, assignNames_cons, assignNames_cons]
      by_cases hname : name = other
      -- Only under two names of one object does the order show; under one name both stores reach the object there.
      · subst hname
        have hrest : Apart (names.map .field) (others.map .field) := h.of_cons
        have hnames : names ≠ [] := by simpa using hrest.left_ne_nil
        have hothers : others ≠ [] := by simpa using hrest.right_ne_nil
        rw [objectAt_put_below _ _ _ _ hnames, objectAt_put_below _ _ _ _ hothers, Entries.put_put, Entries.put_put,
          below_eq _ _ hnames, below_eq _ _ hothers]
        exact (ih hrest).put _ _
      · rw [objectAt_put_of_ne hname, objectAt_put_of_ne (Ne.symm hname)]
        exact .put_comm hname _ _ _

/-! ### Paths -/

/-- A position stands for no name. -/
private theorem segment?_digits_ne_field (ds : List Char) (name : String) :
    (Piece.digits ds).segment? ≠ some (.field name) := by
  unfold Piece.segment?
  dsimp only
  split <;> simp

/-- Pieces stand for steps when each of them does. -/
theorem segmentsOf?_cons_eq_some_iff {p : Piece} {ps : List Piece} {segments : List Segment} :
    segmentsOf? (p :: ps) = some segments ↔
      ∃ s ss, p.segment? = some s ∧ segmentsOf? ps = some ss ∧ s :: ss = segments := by
  rw [segmentsOf?]
  cases p.segment? <;> cases segmentsOf? ps <;> simp

/-- The steps of a list of pieces are names exactly when the pieces are these names. -/
theorem segmentsOf?_eq_names_iff {ps : List Piece} {names : List String} :
    segmentsOf? ps = some (names.map .field) ↔ ps = names.map fun name => .name name.toList := by
  induction ps generalizing names with
  | nil => cases names <;> simp [segmentsOf?]
  | cons p ps ih =>
    rw [segmentsOf?_cons_eq_some_iff]
    cases names with
    | nil => simp
    | cons name names =>
      have hname : p.segment? = some (.field name) ↔ p = .name name.toList := by
        cases p with
        | name cs =>
          simp only [Piece.segment?, Option.some.injEq, Segment.field.injEq, Piece.name.injEq]
          exact ⟨fun h => by rw [← h, String.toList_ofList], fun h => by rw [h, String.ofList_toList]⟩
        | digits ds => exact iff_of_false (segment?_digits_ne_field ds name) nofun
      simp only [List.map_cons, List.cons.injEq, ← ih, ← hname]
      constructor
      · rintro ⟨s, ss, hs, hss, rfl, rfl⟩
        exact ⟨hs, hss⟩
      · rintro ⟨hs, hss⟩
        exact ⟨_, _, hs, hss, rfl, rfl⟩

theorem fieldNames?_eq_some_iff {segments : List Segment} {names : List String} :
    fieldNames? segments = some names ↔ segments = names.map .field := by
  induction segments generalizing names with
  | nil => cases names <;> simp [fieldNames?]
  | cons s segments ih =>
    cases s with
    | field name =>
      cases names with
      | nil => simp [fieldNames?]
      | cons other names =>
        rw [List.map_cons, List.cons.injEq, ← ih, fieldNames?]
        cases fieldNames? segments <;> simp
    | index i => cases names <;> simp [fieldNames?]

/-- A value can be stored at a path whose steps are names, if there are any. -/
theorem targetNames_eq_ok_iff {path : String} {names : List String} :
    targetNames path = .ok names ↔ split? path = some (names.map .field) ∧ names ≠ [] := by
  unfold targetNames
  cases hsplit : split? path with
  | none => simp
  | some segments =>
    rw [Option.some.injEq, ← fieldNames?_eq_some_iff]
    rcases hfields : fieldNames? segments with _ | (_ | ⟨name, rest⟩)
    · simp [hfields]
    · simp [hfields, eq_comm]
    · simp only [hfields, Except.ok.injEq, Option.some.injEq]
      refine ⟨?_, fun h => h.1⟩
      rintro rfl
      exact ⟨rfl, List.cons_ne_nil _ _⟩

/-- A value can be stored at a path, or the path has no pieces or a position among them. -/
theorem exists_targetNames_iff {path : String} :
    (∃ names, targetNames path = .ok names) ↔ pieces path ≠ [] ∧ ∀ ds, Piece.digits ds ∉ pieces path := by
  simp only [targetNames_eq_ok_iff, split?_eq, segmentsOf?_eq_names_iff]
  constructor
  · rintro ⟨names, hpieces, hne⟩
    rw [hpieces]
    exact ⟨by simpa using hne, by simp⟩
  · rintro ⟨hne, hnames⟩
    have hall : pieces path ∈ Set.range (List.map fun name : String => Piece.name name.toList) := by
      rw [Set.range_list_map]
      rintro (cs | ds) hp
      · exact ⟨String.ofList cs, congrArg Piece.name String.toList_ofList⟩
      · exact absurd hp (hnames ds)
    obtain ⟨names, heq⟩ := hall
    exact ⟨names, heq.symm, by rintro rfl; exact hne heq.symm⟩

/-! ### Storing and reading -/

/-- The steps of two paths, neither of which leads on from the end of the other one. -/
def GoApart (path other : String) : Prop :=
  ∃ steps others, split? path = some steps ∧ split? other = some others ∧ Apart steps others

/-- Every place that a path passes through on its way is an object or missing. -/
def IsClearFor (entries : Entries) (path : String) : Prop :=
  ∀ steps, split? path = some steps → IsClear entries steps

theorem assign_eq_ok_iff {entries new : Entries} {path : String} {v : Value} :
    assign entries path v = .ok new ↔
      ∃ names, split? path = some (names.map .field) ∧ names ≠ [] ∧ new = assignNames entries v names := by
  have hassign : assign entries path v = .ok new ↔
      ∃ names, targetNames path = .ok names ∧ new = assignNames entries v names := by
    unfold assign
    cases targetNames path <;> simp [Except.map, eq_comm]
  simp only [hassign, targetNames_eq_ok_iff, and_assoc]

/-- Storing is refused at a path that has no pieces or a position among them. -/
theorem exists_assign_eq_error_iff {entries : Entries} {path : String} {v : Value} :
    (∃ problem, assign entries path v = .error problem) ↔ pieces path = [] ∨ ∃ ds, Piece.digits ds ∈ pieces path := by
  have hassign : (∃ problem, assign entries path v = .error problem) ↔ ¬ ∃ names, targetNames path = .ok names := by
    unfold assign
    cases targetNames path <;> simp [Except.map]
  rw [hassign, exists_targetNames_iff]
  by_cases hpieces : pieces path = [] <;> simp [hpieces]

/-- What storing a value at a path means. It is refused exactly when the path has no pieces or a position among them.
Otherwise the value is read at the path, and a second value stored there replaces it. A path that goes another way leads
where it led before, if no value had to give way to a new object, and a value can be stored there before or after. -/
theorem assign_laws (entries : Entries) (path : String) (v : Value) :
    ((∃ problem, assign entries path v = .error problem) ↔
      pieces path = [] ∨ ∃ ds, Piece.digits ds ∈ pieces path) ∧
    ∀ new, assign entries path v = .ok new →
      resolve (.object new) path = .ok v ∧
      (∀ w, assign new path w = assign entries path w) ∧
      (∀ other, GoApart path other → IsClearFor entries path →
        resolve (.object new) other = resolve (.object entries) other) ∧
      ∀ other w new', GoApart path other → assign entries other w = .ok new' →
        ∃ a b, assign new other w = .ok a ∧ assign new' path v = .ok b ∧ Value.Rearranged (.object a) (.object b) := by
  refine ⟨exists_assign_eq_error_iff, fun new hnew => ?_⟩
  obtain ⟨names, hsplit, hne, rfl⟩ := assign_eq_ok_iff.1 hnew
  have hassign (entries : Entries) (w : Value) : assign entries path w = .ok (assignNames entries w names) :=
    assign_eq_ok_iff.2 ⟨names, hsplit, hne, rfl⟩
  refine ⟨?_, fun w => ?_, ?_, ?_⟩
  · unfold resolve
    simp only [hsplit, resolveSegments_assignNames entries v hne]
  · rw [hassign, hassign, assignNames_assignNames]
  · rintro other ⟨steps, others, hsteps, hothers, hapart⟩ hclear
    obtain rfl : names.map .field = steps := Option.some.inj (hsplit.symm.trans hsteps)
    unfold resolve
    simp only [hothers, resolveSegments_assignNames_of_apart hapart (hclear _ hsplit)]
  · rintro other w new' ⟨steps, others, hsteps, hothers, hapart⟩ hnew'
    obtain rfl : names.map .field = steps := Option.some.inj (hsplit.symm.trans hsteps)
    obtain ⟨names', hsplit', hne', rfl⟩ := assign_eq_ok_iff.1 hnew'
    obtain rfl : names'.map .field = others := Option.some.inj (hsplit'.symm.trans hothers)
    exact ⟨_, _, assign_eq_ok_iff.2 ⟨names', hsplit', hne', rfl⟩, hassign _ v, rearranged_assignNames hapart⟩

/-- An object with a list, and with an object to store something in. -/
def sampleOrder : Entries :=
  [(.text "items", .list [.int 1]), (.text "meta", .object [])]

theorem split?_source : split? "meta.source" = some [.field "meta", .field "source"] := by
  decide +kernel

theorem goApart_source : GoApart "meta.source" "items[0]" :=
  ⟨[.field "meta", .field "source"], [.field "items", .index 0], split?_source, by decide +kernel, by decide, by decide⟩

theorem isClearFor_source : IsClearFor sampleOrder "meta.source" := by
  intro steps hsteps way v hway hne hv
  obtain rfl := Option.some.inj (split?_source.symm.trans hsteps)
  have hways : way = [] ∨ ∃ rest, way = .field "meta" :: rest ∧ (rest = [] ∨ rest = [.field "source"]) := by
    simpa [List.prefix_cons_iff] using hway
  rcases hways with rfl | ⟨rest, rfl, rfl | rfl⟩
  · exact ⟨sampleOrder, (Option.some.inj hv).symm⟩
  · exact ⟨[], (Option.some.inj hv).symm⟩
  · exact absurd rfl hne

/-- The list is left alone by what is stored in the object. -/
theorem assign_laws_source :
    ∃ new, assign sampleOrder "meta.source" (.text "web") = .ok new ∧
      resolve (.object new) "meta.source" = .ok (.text "web") ∧
      resolve (.object new) "items[0]" = resolve (.object sampleOrder) "items[0]" := by
  have hnew : assign sampleOrder "meta.source" (.text "web") =
      .ok [(.text "items", .list [.int 1]), (.text "meta", .object [(.text "source", .text "web")])] :=
    assign_eq_ok_iff.2 ⟨["meta", "source"], split?_source, List.cons_ne_nil _ _, rfl⟩
  obtain ⟨hread, -, hother, -⟩ := (assign_laws sampleOrder "meta.source" (.text "web")).2 _ hnew
  exact ⟨_, hnew, hread, hother "items[0]" goApart_source isClearFor_source⟩

end IntegrationFlow.Path
