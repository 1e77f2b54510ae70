import IntegrationFlow.Schema.Scalar

/-!
# Reading lists and records

A record is an object with known fields. A field has two spellings, `camelCase` and `snake_case`; where a record gives
both, the first one counts. A problem names the field as the record spells it, and a missing field by its first spelling.
-/

namespace IntegrationFlow.Schema

/-- The two spellings of a field. -/
structure Spelling where
  main : String
  other : String
deriving DecidableEq

/-- The letters of a name in `snake_case`. -/
def snakeCase (cs : List Char) : List Char :=
  cs.flatMap fun c => if c.isUpper then ['_', c.toLower] else [c]

/-- The field with a name in `camelCase`. -/
def Spelling.camel (name : String) : Spelling :=
  ⟨name, String.ofList (snakeCase name.toList)⟩

/-- What a record gives for a field, and the spelling under which it does. -/
def Spelling.find? (s : Spelling) (fields : Entries) : Option (String × Value) :=
  match Entries.field? s.main fields with
  | some v => some (s.main, v)
  | none => (Entries.field? s.other fields).map fun v => (s.other, v)

/-- A field that must be given. -/
def requiredField {α : Type} (fields : Entries) (name : String) (read : Value → Checked α) : Checked α :=
  match (Spelling.camel name).find? fields with
  | some (used, v) => (read v).under used
  | none => (Checked.fail .missing).under name

/-- A field that has a default. -/
def spelledField {α : Type} (fields : Entries) (s : Spelling) (default : α) (read : Value → Checked α) : Checked α :=
  match s.find? fields with
  | some (used, v) => (read v).under used
  | none => .fits default

/-- A field that has a default, by its name in `camelCase`. -/
def optionalField {α : Type} (fields : Entries) (name : String) (default : α) (read : Value → Checked α) : Checked α :=
  spelledField fields (.camel name) default read

/-- A record. -/
def record {α : Type} (read : Entries → Checked α) : Value → Checked α
  | .object fields => read fields
  | _ => .fail .notRecord

/-- A record all of whose keys are spellings of its fields, each field in at most one spelling. -/
def closed {α : Type} (spellings : List Spelling) (read : Entries → Checked α) (fields : Entries) : Checked α :=
  let used := spellings.filterMap fun s => (s.find? fields).map (·.1)
  let extra := fields.filterMap fun e =>
    match e.1 with
    | .text s => if used.contains s then none else some (Problem.mk [s] .unexpected)
    | _ => none
  (Checked.map (fun a _ => a) (read fields)).apply (if extra.isEmpty then .fits () else .refused extra)

/-- An object with any keys. -/
def object : Value → Checked Entries
  | .object entries => .fits entries
  | _ => .fail .notObject

/-- The items of a list, from a position on. -/
def itemsFrom {α : Type} (read : Value → Checked α) (position : Nat) : List Value → Checked (List α)
  | [] => .fits []
  | v :: vs => (Checked.map List.cons ((read v).under (toString position))).apply (itemsFrom read (position + 1) vs)

/-- A list. -/
def listOf {α : Type} (read : Value → Checked α) : Value → Checked (List α)
  | .list items => itemsFrom read 0 items
  | .tuple items => itemsFrom read 0 items
  | _ => .fail .notList

end IntegrationFlow.Schema
