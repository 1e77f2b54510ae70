import IntegrationFlow.Settings.Source

/-!
# Settings of the engine and the service

`EngineSettings.read` and `ServiceSettings.read` collect the settings from their source. A variable of the environment
comes before the configuration file, and the file before the default.
-/

namespace IntegrationFlow.Settings

open Expression

/-- Settings of the engine. -/
structure EngineSettings where
  /-- How many seconds of real time a simulated second takes. -/
  timeScale : Float := 0.0
  failureThreshold : Int := 5
  resetTimeout : Int := 30000
  /-- Durations of node types that differ from the built-in ones. -/
  durations : List (String × Int) := []

/-- Settings of the service. -/
structure ServiceSettings where
  host : Value
  port : Int
  storage : File.Location

/-- A setting of a section, or its default. -/
def settingOr (s : Source) (section_ name : String) (default : Value) : Except Problem Value := do
  return (← s.setting? section_ name).getD default

/-- The durations of node types in the configuration file. -/
def readDurations (s : Source) : Except Problem (List (String × Int)) := do
  match ← settingOr s "engine" "durations" (.object []) with
  | .object fields =>
    fields.mapM fun e => do
      return (← (textOfValue e.1.toValue).mapError Problem.mishap, ← interpret wholeOf e.2)
  | _ => return []

/-- Read the settings of the engine. -/
def EngineSettings.read (s : Source) : Except Problem EngineSettings := do
  let timeScale ← match s.variableNamed? "FLOWDESIGNER_TIME_SCALE" with
    | some text => (readFloat (some text)).mapError Problem.mishap
    | none => do interpret floatOf (← settingOr s "engine" "time_scale" (.float 0.0))
  let failureThreshold ← interpret wholeOf (← settingOr s "engine" "circuit_failure_threshold" (.int 5))
  let resetTimeout ← interpret wholeOf (← settingOr s "engine" "circuit_reset_timeout_ms" (.int 30000))
  return { timeScale, failureThreshold, resetTimeout, durations := ← readDurations s }

/-- Where flows are stored. -/
def readStorage (s : Source) : Except Problem File.Location := do
  let configured ← match s.variableNamed? "FLOWDESIGNER_STORAGE" with
    | some path => pure (some (Value.text path))
    | none => s.setting? "server" "storage_path"
  match configured.filter Value.truthy with
  | none => return (← s.home).below "flows"
  | some (.text path) => s.locate path
  | some _ => throw (.mishap .wrongKind)

/-- Read the settings of the service. -/
def ServiceSettings.read (s : Source) : Except Problem ServiceSettings := do
  let host ← match s.variableNamed? "FLOWDESIGNER_HOST" with
    | some name => pure (.text name)
    | none => settingOr s "server" "host" (.text "127.0.0.1")
  let port ← match s.variableNamed? "FLOWDESIGNER_PORT" with
    | some text => (readWhole 10 text).mapError Problem.mishap
    | none => do interpret wholeOf (← settingOr s "server" "port" (.int 8470))
  return { host, port, storage := ← readStorage s }

end IntegrationFlow.Settings
