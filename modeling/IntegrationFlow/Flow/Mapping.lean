import IntegrationFlow.Cell.Part
import IntegrationFlow.Expression.Evaluate
import IntegrationFlow.Failure
import IntegrationFlow.Flow.Basic

/-!
# What an edge hands over

An edge without mappings hands over a copy of the producer's output. With mappings it hands over an object that is built
field by field, in the order of the mappings. What a mapping copies or makes is new; but one that transforms its field may
pick out a part of the producer's output as it is. When a later mapping stores something inside of that part, it changes
the producer's output as well; so `Edge.mapInputs` gives both the result and the output as it is afterwards.
-/

namespace IntegrationFlow

/-- A value inside of new objects, one for each name. -/
def nested (b : Birth) (c : Cell) : List String → Cell
  | [] => c
  | name :: names => b.object [(.ofString name, nested (b.part 0) c names)]

/-- The one field that changes when a value is stored in a cell at the end of some names: that of the last object on the
way there. -/
def writeFor (b : Birth) (value current : Cell) : List String → Option Write
  | [] => none
  | [name] => some ⟨current.label, name, value⟩
  | name :: names =>
    match current.step? (.field name) with
    | some (.object l entries) => writeFor b value (.object l entries) names
    | _ => some ⟨current.label, name, nested b value names⟩

/-- An object that is being built from a source. -/
structure Building where
  source : Cell
  result : Cell
  /-- What was written so far, in order. -/
  writes : List Write := []

namespace Building

/-- Nothing is built yet. -/
def start (b : Birth) (source : Cell) : Building where
  source
  result := b.object []

/-- Store a value in the result at the end of some names. What the result has in common with the source changes in
both. -/
def store (b : Birth) (x : Building) (names : List String) (value : Cell) : Building :=
  match writeFor b value x.result names with
  | none => x
  | some w => { source := w.apply x.source, result := w.apply x.result, writes := x.writes ++ [w] }

end Building

namespace FieldMapping

/-- The scope of a transformation. -/
def scope (value source : Cell) : Expression.Scope :=
  [("value", value), ("input", source)]

/-- The value that a mapping makes from a source. -/
def resolve (m : FieldMapping) (b : Birth) (source : Cell) : Outcome Cell :=
  match m.kind with
  | .static => .ok ((Cell.ofValue b.site m.staticValue).copy b)
  | kind =>
    match source.resolve m.sourceField with
    | .error .tooLong => .error (.crashed .badValue)
    | .error .missing => .error (.failed (.unmappedField m.sourceField))
    | .ok value =>
      if kind = .direct then .ok (value.copy b)
      else
        match m.transform? with
        | none => .error (.failed (.noTransform m.id))
        | some "" => .error (.failed (.noTransform m.id))
        | some code => (Expression.evaluate (scope value source) b code).mapError .ofStop

end FieldMapping

/-- What an edge hands over, and the producer's output afterwards. -/
structure Mapped where
  result : Outcome Cell
  source : Cell
  /-- What was written, in order, when some of it was written into the producer's output. -/
  writes : List Write := []

namespace Building

/-- What was built from a source, with its result in the end. -/
def mapped (source : Cell) (x : Building) (result : Outcome Cell) : Mapped where
  result
  source := x.source
  writes := if x.writes.any fun w => source.holds w.object then x.writes else []

end Building

namespace Edge

/-- Where the objects arise that an edge makes. -/
def site (e : Edge) : Site :=
  [.name e.id, .name "edge"]

/-- Build an object by mappings, one after another, from a position on: what was built, and how it ended. -/
def buildInputs (b : Birth) (x : Building) (position : Nat) : List FieldMapping → Building × Outcome Cell
  | [] => (x, .ok x.result)
  | m :: ms =>
    match m.resolve ((b.part position).part 0) x.source with
    | .error halt => (x, .error halt)
    | .ok value =>
      match Path.targetNames m.targetField with
      | .error (.invalidTarget path) => (x, .error (.failed (.badTarget path)))
      | .error .tooLong => (x, .error (.crashed .badValue))
      | .ok names => buildInputs b (x.store ((b.part position).part 1) names value) (position + 1) ms

/-- What an edge hands over from its producer's output. -/
def mapInputs (e : Edge) (source : Cell) : Mapped :=
  let b := source.after e.site
  match e.data.mapping with
  | [] => ⟨.ok (source.copy b), source, []⟩
  | ms =>
    let (x, result) := buildInputs b (.start b source) 0 ms
    x.mapped source result

/-- Without mappings a copy of the output is handed over. -/
theorem mapInputs_of_no_mapping {e : Edge} (h : e.data.mapping = []) (source : Cell) :
    e.mapInputs source = ⟨.ok (source.copy (source.after e.site)), source, []⟩ := by
  simp [mapInputs, h]

end Edge

end IntegrationFlow
