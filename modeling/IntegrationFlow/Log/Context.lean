import IntegrationFlow.Value.Equality

/-!
# Log contexts

What is known about the run that is going on while something is logged: fields with values that are not null.
-/

namespace IntegrationFlow.Log

/-- The fields that go with every record. -/
structure Context where
  fields : Entries := []

namespace Context

/-- Set fields. A field that is set to null is dropped. -/
def set (c : Context) (fields : Entries) : Context :=
  ⟨(c.fields.merge fields).filter fun e =>
    match e.2 with
    | .null => false
    | _ => true⟩

/-- The value of a field. -/
def field? (c : Context) (name : String) : Option Value :=
  Entries.field? name c.fields

end Context

end IntegrationFlow.Log
