import IntegrationFlow.Proofs.NodeType.Check
import IntegrationFlow.Simulation.Duration

/-!
# How long nodes take

A node whose configuration can be read takes some time (`DurationModel.exists_ofNode_eq_ok`): the kinds with a latency
read it as a whole number that is not negative, and all others refuse the setting, so it is never a float that is not
finite.
-/

namespace IntegrationFlow

open Schema

namespace Schema

/-- A closed record that is read has only fields that it knows. -/
theorem closed_eq_fits {α : Type} {spellings : List Spelling} {read : Entries → Checked α} {es : Entries} {a : α}
    (h : closed spellings read es = .fits a) : read es = .fits a ∧ ∀ name v, Entries.field? name es = some v →
      ∃ s ∈ spellings, name = s.main ∨ name = s.other := by
  unfold closed at h
  dsimp only at h
  split at h
  · next hextra =>
    refine ⟨?_, fun name v hv => ?_⟩
    · cases hread : read es with
      | fits x =>
        rw [hread] at h
        cases h
        rfl
      | refused ps =>
        rw [hread] at h
        cases h
    · have hnone := List.filterMap_eq_nil_iff.1 (List.isEmpty_iff.1 hextra) _ (Entries.mem_of_field?_eq_some hv)
      dsimp only at hnone
      split at hnone
      · next hused =>
        rw [List.contains_iff_mem] at hused
        obtain ⟨s, hs, hsome⟩ := List.mem_filterMap.1 hused
        refine ⟨s, hs, ?_⟩
        unfold Spelling.find? at hsome
        split at hsome
        · exact .inl (Option.some.inj hsome).symm
        · rw [Option.map_map, Option.map_eq_some_iff] at hsome
          obtain ⟨_, _, rfl⟩ := hsome
          exact .inr rfl
      · cases hnone
  · cases hread : read es <;> rw [hread] at h <;> cases h

/-- Readings joined by `<*>` list the problems of both. -/
theorem Checked.problems_seq {α β : Type} (f : Checked (α → β)) (a : Checked α) :
    (f <*> a).problems = f.problems ++ a.problems :=
  problems_apply f a

theorem Checked.problems_map {α β : Type} (f : α → β) (a : Checked α) : (f <$> a).problems = a.problems := by
  cases a <;> rfl

/-- A latency without problems is null or a whole number that is not negative. -/
private theorem exists_nullable_natural {es : Entries} {default : Option Nat} {v : Value}
    (h : (optionalField es "simulatedLatencyMs" default (nullable natural)).problems = [])
    (hv : Entries.field? "simulatedLatencyMs" es = some v) : ∃ d, nullable natural v = .fits d := by
  have hfind : (Spelling.camel "simulatedLatencyMs").find? es = some ("simulatedLatencyMs", v) := by
    unfold Spelling.find?
    rw [show (Spelling.camel "simulatedLatencyMs").main = "simulatedLatencyMs" from rfl, hv]
  simp only [optionalField, spelledField, hfind] at h
  cases hread : nullable natural v with
  | fits d => exact ⟨d, rfl⟩
  | refused ps =>
    rw [hread] at h
    have hnil : (Checked.refused ps : Checked (Option Nat)).problems = [] := by
      simpa [Checked.under, Checked.problems] using h
    exact hread ▸ explained_nullable explained_natural v (hread ▸ hnil)

end Schema

namespace Kind

/-- A configuration that gives a latency gives none, or a whole number that is not negative. -/
theorem exists_latency_of_read {k : Kind} {config : Entries} {c : Config} (h : k.read config = .fits c) {v : Value}
    (hv : Entries.field? "simulatedLatencyMs" config = some v) : ∃ d, nullable natural v = .fits d := by
  have hother {α : Type} {spellings : List Spelling} {read : Entries → Checked α} {g : α → Config}
      (hnone : ∀ s ∈ spellings, "simulatedLatencyMs" ≠ s.main ∧ "simulatedLatencyMs" ≠ s.other)
      (h : (closed spellings read config).map g = .fits c) : ∃ d, nullable natural v = .fits d := by
    cases hclosed : closed spellings read config with
    | refused ps =>
      rw [hclosed] at h
      cases h
    | fits a =>
      obtain ⟨s, hs, hname⟩ := (closed_eq_fits hclosed).2 _ _ hv
      exact absurd hname (not_or.2 (hnone s hs))
  have houtbound {d : OutboundConfig} (h : (OutboundConfig.read d config).problems = []) :
      ∃ d, nullable natural v = .fits d := by
    simp only [OutboundConfig.read, Checked.problems_seq, List.append_eq_nil_iff] at h
    exact exists_nullable_natural h.1.1.1.2 hv
  -- A closed record has no problems when it is read.
  have hfits {α : Type} {spellings : List Spelling} {read : Entries → Checked α} {g : α → Config}
      (h : (closed spellings read config).map g = .fits c) : (read config).problems = [] := by
    cases hclosed : closed spellings read config with
    | refused ps =>
      rw [hclosed] at h
      cases h
    | fits a =>
      rw [(closed_eq_fits hclosed).1]
      rfl
  cases k with
  | ingress => exact hother (by decide) h
  | transform => exact hother (by decide) h
  | condition => exact hother (by decide) h
  | errorHandler => exact hother (by decide) h
  | serviceBox => exact hother (by decide) h
  | connector =>
    have hproblems := hfits h
    simp only [ConnectorConfig.read, Checked.problems_seq, Checked.problems_map, List.append_eq_nil_iff] at hproblems
    exact houtbound hproblems.1.1
  | serviceCall =>
    have hproblems := hfits h
    simp only [ServiceCallConfig.read, Checked.problems_seq, Checked.problems_map, List.append_eq_nil_iff] at hproblems
    exact houtbound hproblems.1.1.1
  | database =>
    have hproblems := hfits h
    simp only [DatabaseConfig.read, Checked.problems_seq, List.append_eq_nil_iff] at hproblems
    exact exists_nullable_natural hproblems.1.1.2 hv

end Kind

namespace Schema

/-- A whole number that is read with a least one is not below it. -/
private theorem exists_whole_of_nullable_natural {v : Value} {d : Option Nat} (h : (natural v).map some = .fits d) :
    ∃ n : Nat, whole v = .fits n := by
  unfold natural wholeFrom at h
  cases hwhole : whole v with
  | refused ps =>
    rw [hwhole] at h
    cases h
  | fits m =>
    rw [hwhole] at h
    simp only [Checked.andThen] at h
    split at h
    · cases h
    · next hm => exact ⟨m.toNat, congrArg Checked.fits (by omega)⟩

/-- A float that is read as a whole number is finite, and the number is what is left of it without its fraction. -/
private theorem ofFloat?_of_wholeOfFloat {x : Float} {n : Int} (h : wholeOfFloat x = .fits n) :
    ∃ b, Decimal.Binary.ofFloat? x = some b ∧ b.truncate = n := by
  unfold wholeOfFloat at h
  split at h
  · cases h
  · next b hb =>
    split at h
    · cases h
    · split at h
      · cases h
        exact ⟨b, hb, rfl⟩
      · cases h

end Schema

namespace Simulation.DurationModel

/-- A node whose configuration can be read takes a time that can be told. It is not negative when that of its type is
not. -/
theorem exists_ofNode_eq_ok (m : DurationModel) {n : Node} {k : Kind} {c : Config}
    (h : k.read n.data.config = .fits c) : ∃ ms, m.ofNode n = .ok ms ∧ (0 ≤ m.ofType n.type → 0 ≤ ms) := by
  unfold ofNode
  split
  · next ms hms =>
    obtain ⟨d, hd⟩ := Kind.exists_latency_of_read h hms
    obtain ⟨l, hl⟩ := exists_whole_of_nullable_natural hd
    cases hl
    exact ⟨_, rfl, fun _ => Int.natCast_nonneg l⟩
  · next x hx =>
    obtain ⟨d, hd⟩ := Kind.exists_latency_of_read h hx
    obtain ⟨l, hl⟩ := exists_whole_of_nullable_natural hd
    obtain ⟨b, hb, hvalue⟩ := ofFloat?_of_wholeOfFloat hl
    unfold Expression.truncateFloat
    rw [hb]
    exact ⟨_, rfl, fun _ => hvalue ▸ Int.natCast_nonneg l⟩
  · exact ⟨_, rfl, id⟩

end Simulation.DurationModel

end IntegrationFlow
