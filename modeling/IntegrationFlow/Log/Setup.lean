import IntegrationFlow.Log.Record

/-!
# Setting up the log

The log has one handler. Which form it writes is chosen outright, or is left to the environment: entries for machines in
production or where the environment asks for them, else lines for people.
-/

namespace IntegrationFlow.Log

/-- The forms in which records are written. -/
inductive Form where
  | entries
  | lines
deriving DecidableEq

/-- A log that has been set up. -/
structure Setup where
  form : Form
  level : Level
  /-- The log of requests to the service goes through the same handler. -/
  includesAccess : Bool
deriving DecidableEq

/-- The form that the environment asks for. -/
def formOf (environment : List (String × String)) : Form :=
  let names (name value : String) : Bool := (environment.lookup name).any fun s => Text.lower s == value
  if names "LOG_FORMAT" "json" || names "ENV" "production" then .entries else .lines

/-- The form that is chosen by a name; any name but `auto` and `json` stands for lines. -/
def chosenForm (environment : List (String × String)) (name : String) : Form :=
  if name == "auto" then formOf environment else if name == "json" then .entries else .lines

/-- Set up the log. The name of a level may be written in any case; a name of no level is a bad value. -/
def setup (environment : List (String × String)) (level form : String) : Except Expression.Mishap Setup :=
  match Level.ofName? (Text.upper level) with
  | some l =>
    let f := chosenForm environment form
    .ok ⟨f, l, f = .entries⟩
  | none => .error .badValue

end IntegrationFlow.Log
