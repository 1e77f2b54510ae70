import IntegrationFlow.NodeType.Check

/-!
# Configurations that are found in order can be read

A check of a configuration lists the problems of reading it. That there are none shows that it can be read only because
a reading that is refused always says why: it is `Checked.Explained`. Every way to put readings together keeps this.
-/

namespace IntegrationFlow.Schema

variable {α β : Type}

/-- A reading that is refused names a problem. -/
def Checked.Explained (c : Checked α) : Prop :=
  c.problems = [] → ∃ a, c = .fits a

namespace Checked

@[simp] theorem explained_fits (a : α) : (fits a).Explained :=
  fun _ => ⟨a, rfl⟩

@[simp] theorem explained_fail (m : Mismatch) : (fail m : Checked α).Explained := by
  intro h
  cases h

theorem explained_refused {ps : List Problem} (h : ps ≠ []) : (refused ps : Checked α).Explained :=
  fun hnil => absurd hnil h

theorem Explained.map {c : Checked α} (g : α → β) (h : c.Explained) : (c.map g).Explained := by
  intro hnil
  cases c with
  | fits a => exact ⟨g a, rfl⟩
  | refused ps =>
    obtain ⟨a, ha⟩ := h hnil
    cases ha

theorem Explained.apply {f : Checked (α → β)} {a : Checked α} (hf : f.Explained) (ha : a.Explained) :
    (f.apply a).Explained := by
  intro hnil
  rw [problems_apply, List.append_eq_nil_iff] at hnil
  obtain ⟨g, rfl⟩ := hf hnil.1
  obtain ⟨x, rfl⟩ := ha hnil.2
  exact ⟨g x, rfl⟩

theorem Explained.andThen {c : Checked α} {f : α → Checked β} (h : c.Explained)
    (hf : ∀ a, (f a).Explained) : (c.andThen f).Explained := by
  cases c with
  | fits a => exact hf a
  | refused ps =>
    intro hnil
    obtain ⟨a, ha⟩ := h hnil
    cases ha

theorem Explained.under {c : Checked α} (step : String) (h : c.Explained) : (c.under step).Explained := by
  cases c with
  | fits a => exact explained_fits a
  | refused ps =>
    intro hnil
    obtain ⟨a, ha⟩ := h (List.map_eq_nil_iff.1 hnil)
    cases ha

end Checked

/-! ### Readers of values -/

theorem explained_anything (v : Value) : (anything v).Explained :=
  Checked.explained_fits v

theorem explained_text (v : Value) : (text v).Explained := by
  unfold text
  split <;> simp

theorem explained_readWhole (s : String) : (readWhole s).Explained := by
  unfold readWhole
  dsimp only
  split
  · exact Checked.explained_fail _
  · split
    · split <;> simp
    · exact Checked.explained_fail _

theorem explained_wholeOfFloat (x : Float) : (wholeOfFloat x).Explained := by
  unfold wholeOfFloat
  split
  · simp
  · split
    · simp
    · split <;> simp

theorem explained_whole (v : Value) : (whole v).Explained := by
  unfold whole
  split <;> simp [explained_readWhole, explained_wholeOfFloat]

theorem explained_natural (v : Value) : (natural v).Explained := by
  unfold natural wholeFrom
  refine Checked.Explained.map _ (Checked.Explained.andThen (explained_whole v) fun n => ?_)
  split <;> simp

@[simp] theorem explained_flagOfWhole (n : Int) : (flagOfWhole n).Explained := by
  unfold flagOfWhole
  repeat' split
  all_goals simp

theorem explained_flag (v : Value) : (flag v).Explained := by
  unfold flag
  split
  · exact Checked.explained_fits _
  · exact explained_flagOfWhole _
  · split
    · exact explained_flagOfWhole _
    · exact Checked.explained_fail _
  · dsimp only
    split
    · exact Checked.explained_fits _
    · split <;> simp
  · exact Checked.explained_fail _

theorem explained_nullable {read : Value → Checked α} (h : ∀ v, (read v).Explained) (v : Value) :
    (nullable read v).Explained := by
  unfold nullable
  split
  · exact Checked.explained_fits none
  · exact (h v).map some

/-! ### Readers of lists and records -/

theorem explained_itemsFrom {read : Value → Checked α} (h : ∀ v, (read v).Explained) (position : Nat)
    (vs : List Value) : (itemsFrom read position vs).Explained := by
  induction vs generalizing position with
  | nil => exact Checked.explained_fits []
  | cons v vs ih => exact (((h v).under _).map _).apply (ih (position + 1))

theorem explained_listOf {read : Value → Checked α} (h : ∀ v, (read v).Explained) (v : Value) :
    (listOf read v).Explained := by
  unfold listOf
  split
  · exact explained_itemsFrom h 0 _
  · exact explained_itemsFrom h 0 _
  · exact Checked.explained_fail _

theorem explained_spelledField {read : Value → Checked α} (h : ∀ v, (read v).Explained) (es : Entries)
    (s : Spelling) (default : α) : (spelledField es s default read).Explained := by
  unfold spelledField
  split
  · exact (h _).under _
  · exact Checked.explained_fits _

theorem explained_optionalField {read : Value → Checked α} (h : ∀ v, (read v).Explained) (es : Entries)
    (name : String) (default : α) : (optionalField es name default read).Explained :=
  explained_spelledField h es _ default

theorem explained_closed {read : Entries → Checked α} (spellings : List Spelling) {es : Entries}
    (h : (read es).Explained) : (closed spellings read es).Explained := by
  unfold closed
  refine (h.map _).apply ?_
  split
  · exact Checked.explained_fits ()
  · next hsome => exact Checked.explained_refused fun hnil => hsome (by rw [hnil]; rfl)

end IntegrationFlow.Schema

namespace IntegrationFlow

open Schema

/-- The first field of a record. -/
private theorem explained_first {α β : Type} (g : α → β) {read : Value → Checked α}
    (hread : ∀ v, (read v).Explained) {es : Entries} {name : String} {default : α} :
    (g <$> optionalField es name default read).Explained :=
  (explained_optionalField hread es name default).map g

/-- One more field of a record. -/
private theorem Schema.Checked.Explained.field {α β : Type} {f : Checked (α → β)} (h : f.Explained)
    {read : Value → Checked α} (hread : ∀ v, (read v).Explained) {es : Entries} {name : String} {default : α} :
    (f <*> optionalField es name default read).Explained :=
  h.apply (explained_optionalField hread es name default)

private theorem explained_readOutbound (d : OutboundConfig) (es : Entries) : (OutboundConfig.read d es).Explained :=
  explained_first _ explained_natural
    |>.field explained_natural
    |>.field explained_natural
    |>.field explained_text
    |>.field explained_flag
    |>.field (explained_nullable explained_natural)
    |>.field explained_text
    |>.field (explained_nullable explained_natural)
    |>.field explained_anything

/-- The settings of every kind are refused for a reason only. -/
theorem Kind.explained_read (k : Kind) (config : Entries) : (k.read config).Explained := by
  cases k with
  | ingress =>
    have h : (IngressConfig.read config).Explained :=
      explained_first _ explained_text |>.field explained_text |>.field explained_natural |>.field explained_flag
        |>.field explained_text
    exact (explained_closed _ h).map _
  | transform =>
    have h : (TransformConfig.read config).Explained := explained_first _ explained_text |>.field explained_text
    exact (explained_closed _ h).map _
  | connector =>
    have h : (ConnectorConfig.read config).Explained :=
      (explained_readOutbound _ config).map _ |>.field explained_text |>.field explained_text
    exact (explained_closed _ h).map _
  | serviceCall =>
    have h : (ServiceCallConfig.read config).Explained :=
      (explained_readOutbound _ config).map _ |>.field explained_text |>.field explained_text
        |>.apply (explained_spelledField explained_flag config _ _)
    exact (explained_closed _ h).map _
  | condition =>
    have h : (ConditionConfig.read config).Explained := explained_first _ explained_text |>.field explained_text
    exact (explained_closed _ h).map _
  | database =>
    have h : (DatabaseConfig.read config).Explained :=
      explained_first _ explained_text |>.field explained_text |>.field explained_text |>.field explained_text
        |>.field (explained_nullable explained_natural) |>.field explained_text
        |>.field (explained_nullable (explained_listOf explained_anything))
    exact (explained_closed _ h).map _
  | errorHandler =>
    have h : (ErrorHandlerConfig.read config).Explained :=
      explained_first _ (explained_nullable explained_text) |>.field explained_natural |>.field explained_natural
        |>.field explained_text |>.field explained_anything
    exact (explained_closed _ h).map _
  | serviceBox =>
    have h : (ServiceBoxConfig.read config).Explained :=
      explained_first _ explained_text |>.field explained_text |>.field (explained_listOf explained_anything)
    exact (explained_closed _ h).map _

/-- A configuration in which nothing is wrong is read. -/
theorem NodeType.exists_read_eq_fits {t : NodeType} {config : Entries} {k : Kind} (hk : t.kind? = some k)
    (h : t.configProblems config = []) : ∃ c, k.read config = .fits c :=
  k.explained_read config (read_of_configProblems_eq_nil hk h)

/-! ### The kind of a configuration -/

/-- Kinds have different names. -/
theorem Kind.name_injective {k l : Kind} (h : k.name = l.name) : k = l := by
  cases k <;> cases l <;> first | rfl | exact absurd h (by decide)

/-- The kind to which a configuration belongs. -/
def Config.kind : Config → Kind
  | .ingress _ => .ingress
  | .transform _ => .transform
  | .connector _ => .connector
  | .serviceCall _ => .serviceCall
  | .condition _ => .condition
  | .database _ => .database
  | .errorHandler _ => .errorHandler
  | .serviceBox _ => .serviceBox

private theorem kind_of_map_eq_fits {α : Type} {a : Checked α} {g : α → Config} {k : Kind} {c : Config}
    (hg : ∀ x, (g x).kind = k) (h : a.map g = .fits c) : c.kind = k := by
  cases a with
  | fits x =>
    obtain rfl : g x = c := Checked.fits.inj h
    exact hg x
  | refused ps => cases h

/-- What is read for a kind belongs to it. -/
theorem Kind.kind_of_read_eq_fits {k : Kind} {config : Entries} {c : Config} (h : k.read config = .fits c) :
    c.kind = k := by
  cases k <;> exact kind_of_map_eq_fits (fun _ => rfl) h

/-- A node of a kind, with some settings in place of the defaults. -/
def Kind.node (k : Kind) (id : String) (settings : List (String × Value)) : Node :=
  let config := k.defaults.fields.map fun x => (.text x.1, (settings.lookup x.1).getD x.2)
  ⟨id, k.name, {}, ⟨k.nodeLabel, config, k.inputs, k.outputs⟩⟩

/-- Every built-in node type is that of a kind, and has its name. -/
theorem Registry.exists_kind_of_find?_builtin {type : String} {t : NodeType} (h : builtin.find? type = some t) :
    ∃ k : Kind, t = k.nodeType ∧ type = k.name := by
  obtain ⟨hmem, htype⟩ := mem_of_find?_eq_some h
  obtain ⟨k, -, rfl⟩ := List.mem_map.1 hmem
  exact ⟨k, rfl, htype.symm⟩

end IntegrationFlow
