import IntegrationFlow.Proofs.NodeType.Config
import IntegrationFlow.Run.Handler

/-!
# Flaws of flows

An evaluation that goes wrong is a failure of its node, with three exceptions: an expression with a NUL character cannot
be read at all, a path may have a position with too many digits, and a slot of a template may have a value without a
text. A flow `IsFlawedOn` the values of a run when one of these happens at a node with the input that it has there, or in
a mapping of an edge; nothing else stops an evaluation.
-/

namespace IntegrationFlow

/-- The character that no expression may hold. -/
def nul : Char := Char.ofNat 0

namespace Expression

/-- Only a NUL character keeps an expression from being read or refused. -/
theorem nul_mem_of_read {code : String} {m : Mishap} (h : read code = .error (.crashed m)) :
    m = .badValue ∧ nul ∈ code.toList := by
  unfold read at h
  split at h
  · cases h
  · split at h
    · cases h
    · split at h
      · next hnul =>
        cases h
        exact ⟨rfl, List.contains_iff_mem.1 hnul⟩
      · split at h <;> cases h

theorem nul_mem_of_evaluate {scope : Scope} {b : Birth} {code : String} {m : Mishap}
    (h : evaluate scope b code = .error (.crashed m)) : m = .badValue ∧ nul ∈ code.toList := by
  unfold evaluate at h
  split at h
  · next stop hread =>
    cases h
    exact nul_mem_of_read hread
  · split at h <;> cases h

end Expression

/-! ### Templates -/

namespace Template

open Expression

/-- The expressions of the slots that are met when a template is filled in at most `fuel` steps. -/
def slotsUpTo : Nat → List Char → List (List Char)
  | 0, _ => []
  | _ + 1, [] => []
  | fuel + 1, c :: cs =>
    match slotAt? (c :: cs) with
    | none => slotsUpTo fuel cs
    | some (inside, rest) => inside :: slotsUpTo fuel rest

/-- The expressions of the slots of a template, from left to right. -/
def slots (template : String) : List (List Char) :=
  slotsUpTo (template.length + 1) template.toList

/-- A slot cannot be filled in a scope: its expression cannot be read, or its value has no text. -/
def IsFlawedSlot (scope : Scope) (b : Birth) (inside : List Char) : Prop :=
  nul ∈ inside ∨ ∃ c, evaluate scope (b.part 0) (String.ofList inside) = .ok c ∧ c.str? = none

theorem str?_eq_none_of_textCell {b : Birth} {c : Cell} {m : Mishap} (h : textCell b c = .error m) :
    m = .badValue ∧ c.str? = none := by
  unfold textCell at h
  split at h
  · cases h
  · cases h
  · cases h
  · next htext _ hrepr =>
    cases h
    refine ⟨rfl, ?_⟩
    unfold Cell.str?
    split
    · exact absurd rfl (htext _ _)
    · exact hrepr

theorem isFlawedSlot_of_slotCell {scope : Scope} {b : Birth} {inside : List Char} {m : Mishap}
    (h : slotCell scope b inside = .error (.crashed m)) : m = .badValue ∧ IsFlawedSlot scope b inside := by
  unfold slotCell at h
  split at h
  · next stop hevaluate =>
    cases h
    obtain ⟨hm, hnul⟩ := nul_mem_of_evaluate hevaluate
    exact ⟨hm, .inl (by simpa using hnul)⟩
  · cases h
  · next c _ hevaluate =>
    split at h
    · cases h
    · next hnone =>
      cases h
      exact (str?_eq_none_of_textCell hnone).imp_right fun hstr => .inr ⟨c, hevaluate, hstr⟩

/-- Only a slot keeps a template from being filled or refused. -/
theorem exists_slot_of_renderUpTo {scope : Scope} {b : Birth} {fuel : Nat} {cs : List Char} {m : Mishap}
    (h : renderUpTo scope b fuel cs = .error (.crashed m)) :
    m = .badValue ∧ ∃ inside ∈ slotsUpTo fuel cs, IsFlawedSlot scope b inside := by
  induction fuel generalizing cs with
  | zero => cases h
  | succ fuel ih =>
    -- Behind a literal or a slot the mishap is one of the rest.
    have hmap {rest : List Char} {g : List Text.Point → List Text.Point}
        (h : (renderUpTo scope b fuel rest).map g = .error (.crashed m)) :
        m = .badValue ∧ ∃ inside ∈ slotsUpTo fuel rest, IsFlawedSlot scope b inside := by
      cases hrender : renderUpTo scope b fuel rest with
      | ok s =>
        rw [hrender] at h
        cases h
      | error stop =>
        rw [hrender] at h
        cases h
        exact ih hrender
    cases cs with
    | nil => cases h
    | cons c cs =>
      rw [renderUpTo] at h
      rw [slotsUpTo]
      cases hslot : slotAt? (c :: cs) with
      | none =>
        rw [hslot] at h
        exact hmap h
      | some slot =>
        obtain ⟨inside, rest⟩ := slot
        rw [hslot] at h
        dsimp only at h ⊢
        split at h
        · next stop htext =>
          cases h
          unfold slotText at htext
          cases hcell : slotCell scope b inside with
          | ok c =>
            rw [hcell] at htext
            cases htext
          | error stop =>
            rw [hcell] at htext
            cases htext
            obtain ⟨hm, hflawed⟩ := isFlawedSlot_of_slotCell hcell
            exact ⟨hm, inside, List.mem_cons_self, hflawed⟩
        · obtain ⟨hm, inside', hinside, hflawed⟩ := hmap h
          exact ⟨hm, inside', List.mem_cons_of_mem _ hinside, hflawed⟩

theorem exists_slot_of_renderCell {scope : Scope} {b : Birth} {template : String} {m : Mishap}
    (h : renderCell scope b template = .error (.crashed m)) :
    m = .badValue ∧ ∃ inside ∈ slots template, IsFlawedSlot scope b inside := by
  unfold renderCell at h
  split at h
  · next inside hslot =>
    obtain ⟨hm, hflawed⟩ := isFlawedSlot_of_slotCell h
    refine ⟨hm, inside, ?_, hflawed⟩
    unfold slots
    cases hchars : template.toList with
    | nil =>
      rw [hchars] at hslot
      cases hslot
    | cons c cs =>
      rw [hchars] at hslot
      rw [slotsUpTo, hslot]
      exact List.mem_cons_self
  · unfold render at h
    cases hrender : renderUpTo scope b (template.length + 1) template.toList with
    | ok s =>
      rw [hrender] at h
      cases h
    | error stop =>
      rw [hrender] at h
      cases h
      exact exists_slot_of_renderUpTo hrender

end Template

/-! ### Nodes -/

open Run

/-- The template has a slot that cannot be filled for the input, or the path or the expression cannot be read. -/
def TransformConfig.IsFlawedOn (c : TransformConfig) (b : Birth) (input : Cell) : Prop :=
  if c.transformType == "template" then
    ∃ inside ∈ Template.slots c.code, Template.IsFlawedSlot (templateScope input) b inside
  else if c.transformType == "jsonpath" then Path.split? c.code = none
  else nul ∈ c.code.toList

/-- The condition cannot be read. -/
def ConditionConfig.IsFlawed (c : ConditionConfig) : Prop :=
  if c.conditionType == "jsonpath" then Path.split? c.condition = none else nul ∈ c.condition.toList

/-- Only nodes that evaluate something can be flawed. -/
def Config.IsFlawedOn (b : Birth) (input : Cell) : Config → Prop
  | .transform c => c.IsFlawedOn b input
  | .condition c => c.IsFlawed
  | _ => False

/-- Only a position with too many digits keeps a path from leading somewhere or nowhere. -/
theorem Run.split?_eq_none_of_atPath {c : Cell} {path : String} {m : Expression.Mishap}
    (h : atPath c path = .error (.crashed m)) : m = .badValue ∧ Path.split? path = none := by
  unfold atPath at h
  split at h
  · cases h
  · cases h
  · next hlong =>
    cases h
    unfold Cell.resolve at hlong
    split at hlong
    · next hsplit => exact ⟨rfl, hsplit⟩
    · split at hlong <;> cases hlong

theorem Halt.ofStop_eq_crashed {stop : Expression.Stop} {m : Expression.Mishap} (h : ofStop stop = .crashed m) :
    stop = .crashed m := by
  cases stop with
  | refused e => cases h
  | crashed m' =>
    cases h
    rfl

theorem TransformConfig.isFlawedOn_of_transform {c : TransformConfig} {b : Birth} {input : Cell} {m : Expression.Mishap}
    (h : transform c b input = .error (.crashed m)) : m = .badValue ∧ c.IsFlawedOn b input := by
  unfold IsFlawedOn
  unfold transform at h
  split at h
  · next htemplate =>
    rw [if_pos htemplate]
    split at h
    · cases h
    · next stop hrender =>
      rw [Halt.ofStop_eq_crashed (Except.error.inj h)] at hrender
      exact Template.exists_slot_of_renderCell hrender
  · next htemplate =>
    rw [if_neg htemplate]
    split at h
    · next hpath =>
      rw [if_pos hpath]
      split at h
      · cases h
      · cases h
      · next halt hhalt =>
        rw [Except.error.inj h] at hhalt
        exact split?_eq_none_of_atPath hhalt
    · next hpath =>
      rw [if_neg hpath]
      split at h
      · cases h
      · next stop hstop =>
        rw [Halt.ofStop_eq_crashed (Except.error.inj h)] at hstop
        exact Expression.nul_mem_of_evaluate hstop

theorem ConditionConfig.isFlawed_of_choose {c : ConditionConfig} {b : Birth} {input : Cell} {m : Expression.Mishap}
    (h : choose c b input = .error (.crashed m)) : m = .badValue ∧ c.IsFlawed := by
  unfold choose at h
  split at h
  · cases h
  · next halt hhalt =>
    rw [Except.error.inj h] at hhalt
    unfold IsFlawed
    unfold holds at hhalt
    split at hhalt
    · next hpath =>
      rw [if_pos hpath]
      split at hhalt
      · cases hhalt
      · cases hhalt
      · next hresolve =>
        rw [Except.error.inj hhalt] at hresolve
        exact split?_eq_none_of_atPath hresolve
    · next hpath =>
      rw [if_neg hpath]
      split at hhalt
      · cases hhalt
      · next stop hstop =>
        rw [Halt.ofStop_eq_crashed (Except.error.inj hhalt)] at hstop
        exact Expression.nul_mem_of_evaluate hstop

/-! ### Edges -/

/-- A text of the mapping cannot be read. -/
def FieldMapping.IsFlawed (m : FieldMapping) : Prop :=
  Path.split? m.targetField = none ∨
    m.kind ≠ .static ∧ Path.split? m.sourceField = none ∨
      m.kind = .transform ∧ ∃ code, m.transform? = some code ∧ nul ∈ code.toList

/-- The outcome of a node's work is stored at a place: as its output, or as what it gave when a handler tried it again. -/
def Run.Place.IsOutcomeOf (node : String) (p : Place) : Prop :=
  p = .output node ∨ ∃ handler, p = .retried handler

/-- Some evaluation in the flow ends without a value and without a failure: the work of a node on the input that it has, or
a mapping of an edge. -/
inductive Flow.IsFlawedOn (f : Flow) (d : Documents) : Prop
  | node {n : Node} {c : Config} {p : Place} (mem : n ∈ f.nodes) (type : n.type = c.kind.name)
    (read : c.kind.read n.data.config = .fits c) (place : p.IsOutcomeOf n.id)
    (flawed : c.IsFlawedOn ((d.read (.input n.id)).after p.site) (d.read (.input n.id)))
  | edge {e : Edge} (mem : e ∈ f.edges) {m : FieldMapping} (mapping : m ∈ e.data.mapping) (flawed : m.IsFlawed)

end IntegrationFlow
