import IntegrationFlow.File.Location
import IntegrationFlow.Expression.Helper
import IntegrationFlow.Json.Reader

/-!
# Where settings come from

Settings are taken from variables of the environment and from a configuration file in the program's home directory. A
file that holds no JSON counts as an empty one.
-/

namespace IntegrationFlow.Settings

open Expression File

/-- Why settings cannot be read. -/
inductive Problem where
  /-- A setting has a value that cannot be used. -/
  | mishap (cause : Mishap)
  /-- A home directory is not known. -/
  | noHome
deriving DecidableEq

/-- The variables of the environment and the files that can be read. -/
structure Source where
  environment : List (String × String)
  fileText : Location → Option String

namespace Source

/-- A variable that is set and not empty. -/
def variableNamed? (s : Source) (name : String) : Option String :=
  (s.environment.lookup name).filter fun v => !v.isEmpty

/-- The home directory of the user. -/
def userHome (s : Source) : String :=
  (s.environment.lookup "HOME").getD "/root"

/-- A location, with the user's home directory in place of a tilde. -/
def locate (s : Source) (path : String) : Except Problem Location :=
  match (Location.read path).withHome? s.userHome with
  | some l => .ok l
  | none => .error .noHome

/-- The home directory of the program. -/
def home (s : Source) : Except Problem Location :=
  match s.variableNamed? "FLOWDESIGNER_HOME" with
  | some path => s.locate path
  | none => do return (← s.locate "~").below ".flowdesigner"

/-- A text without the byte order mark at its front. -/
def withoutMark (text : String) : String :=
  match text.toList with
  | c :: cs => if c == Char.ofNat 0xFEFF then String.ofList cs else text
  | [] => text

/-- The configuration file. -/
def configurationFile (s : Source) : Except Problem Location := do
  return (← s.home).below "configuration.json"

/-- What the configuration file holds. -/
def configuration (s : Source) : Except Problem Value := do
  return ((s.fileText (← s.configurationFile)).bind fun text => Json.parse (withoutMark text)).getD (.object [])

/-- A section of the configuration file. -/
def part (s : Source) (name : String) : Except Problem Entries := do
  match ← s.configuration with
  | .object fields => return ((Entries.field? name fields).bind Value.entries?).getD []
  | _ => throw (.mishap .noMethod)

/-- A setting in a section. -/
def setting? (s : Source) (section_ name : String) : Except Problem (Option Value) := do
  return Entries.field? name (← s.part section_)

end Source

/-- Make something of a setting. -/
def interpret {α : Type} (read : Cell → Except Mishap α) (v : Value) : Except Problem α :=
  (read (.ofValue [] v)).mapError .mishap

end IntegrationFlow.Settings
