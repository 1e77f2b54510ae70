import IntegrationFlow.NodeType.Registry

/-!
# Checking configurations

A configuration is checked against the form of its node type, field by field, and, when the form finds nothing wrong,
against the typed settings. `NodeType.configProblems` is the full check; `NodeType.typeProblems` leaves out what is
still to be filled in.
-/

namespace IntegrationFlow

open Schema

/-- What is wrong with a configuration. -/
inductive ConfigProblem where
  | unknownKey (key : String)
  | required (field : String)
  | notText (field : String)
  | notAnOption (field : String) (options : List String)
  | notNumber (field : String)
  | notFlag (field : String)
  /-- The typed settings do not allow it. -/
  | unfit (problem : Problem)
deriving DecidableEq

/-- The wording of a problem. -/
def ConfigProblem.message : ConfigProblem → String
  | .unknownKey key => "Unknown config key '" ++ key ++ "'"
  | .required field => "'" ++ field ++ "' is required"
  | .notText field => "'" ++ field ++ "' must be a string"
  | .notAnOption field options => "'" ++ field ++ "' must be one of " ++ bracketed "[" "]" (options.map quoteText)
  | .notNumber field => "'" ++ field ++ "' must be a number"
  | .notFlag field => "'" ++ field ++ "' must be a boolean"
  | .unfit p => "'" ++ p.place ++ "': " ++ p.mismatch.message

/-- The value is null or a text of blanks. -/
def isBlankValue : Value → Bool
  | .null => true
  | .text s => Text.isAllBlank s.toList
  | _ => false

namespace FormField

/-- What a configuration gives for the field; null when it gives nothing. -/
def valueIn (f : FormField) (config : Entries) : Value :=
  (Entries.field? f.name config).getD .null

/-- What is wrong with the kind of a value that is not null. -/
def kindProblem (f : FormField) (v : Value) : List ConfigProblem :=
  match f.widget, v with
  | .json, _ => []
  | .select, .text s => if f.options.isEmpty || f.options.contains s then [] else [.notAnOption f.name f.options]
  | .text, .text _ => []
  | .code, .text _ => []
  | .text, _ => [.notText f.name]
  | .code, _ => [.notText f.name]
  | .select, _ => [.notText f.name]
  | .number, .int _ => []
  | .number, .float _ => []
  | .number, _ => [.notNumber f.name]
  | .boolean, .bool _ => []
  | .boolean, _ => [.notFlag f.name]

/-- What is wrong with the kind of the field's value; null fits every field. -/
def typeProblems (f : FormField) (config : Entries) : List ConfigProblem :=
  match f.valueIn config with
  | .null => []
  | v => f.kindProblem v

/-- What is wrong with the field's value. -/
def problems (f : FormField) (config : Entries) : List ConfigProblem :=
  if f.required && isBlankValue (f.valueIn config) then [.required f.name] else f.typeProblems config

end FormField

namespace NodeType

/-- The keys of a configuration that are no fields of the form. -/
def unknownKeys (t : NodeType) (config : Entries) : List String :=
  config.filterMap fun e =>
    match e.1 with
    | .text key => if t.form.any (·.name == key) then none else some key
    | _ => none

/-- What is wrong with a configuration, apart from required fields that are missing. -/
def typeProblems (t : NodeType) (config : Entries) : List ConfigProblem :=
  (t.unknownKeys config).map .unknownKey ++ t.form.flatMap (·.typeProblems config)

/-- What the form finds wrong with a configuration. -/
def formProblems (t : NodeType) (config : Entries) : List ConfigProblem :=
  (t.unknownKeys config).map .unknownKey ++ t.form.flatMap (·.problems config)

/-- Everything that is wrong with a configuration. -/
def configProblems (t : NodeType) (config : Entries) : List ConfigProblem :=
  match t.formProblems config with
  | [] =>
    match t.kind? with
    | some k => (k.read config).problems.map .unfit
    | none => []
  | p :: ps => p :: ps

/-- A configuration in which nothing is wrong is one that the typed settings read. -/
theorem read_of_configProblems_eq_nil {t : NodeType} {config : Entries} {k : Kind} (hk : t.kind? = some k)
    (h : t.configProblems config = []) : (k.read config).problems = [] := by
  unfold configProblems at h
  split at h
  · simpa [hk] using h
  · simp at h

end NodeType

end IntegrationFlow
