import IntegrationFlow.Log.Terminal
import IntegrationFlow.Log.Context
import IntegrationFlow.Expression.Helper
import IntegrationFlow.Time.Timestamp

/-!
# Log records

A record is written in one of two forms: `Record.entry` is an object for machines, without colours, and `Record.line` is a
line for people. Both hold the context in which the record was made.
-/

namespace IntegrationFlow.Log

open Expression

/-- How much a record matters. -/
inductive Level where
  | unset
  | debug
  | info
  | warning
  | error
  | critical
deriving DecidableEq, Inhabited

namespace Level

/-- The names of the levels; two levels have a second name. -/
def names : List (String × Level) :=
  [("NOTSET", .unset), ("DEBUG", .debug), ("INFO", .info), ("WARNING", .warning), ("WARN", .warning), ("ERROR", .error),
    ("CRITICAL", .critical), ("FATAL", .critical)]

/-- The level with a name. -/
def ofName? (name : String) : Option Level :=
  names.lookup name

/-- The name of a level. -/
def name : Level → String
  | .unset => "NOTSET"
  | .debug => "DEBUG"
  | .info => "INFO"
  | .warning => "WARNING"
  | .error => "ERROR"
  | .critical => "CRITICAL"

/-- A name stands for its level. -/
theorem ofName?_name (l : Level) : ofName? l.name = some l := by
  cases l <;> rfl

/-- The code that sets a colour. -/
def colorCode (parameters : String) : String :=
  String.ofList [escape, '['] ++ parameters ++ "m"

/-- The colour of a level. -/
def color : Level → String
  | .unset => ""
  | .debug => colorCode "36"
  | .info => colorCode "32"
  | .warning => colorCode "33"
  | .error => colorCode "31"
  | .critical => colorCode "35"

end Level

/-- An exception that a record reports. -/
structure Exception where
  className : String
  text : String

/-- The text of an exception. -/
def Exception.show (e : Exception) : String :=
  if e.text.isEmpty then e.className else e.className ++ ": " ++ e.text

/-- Something that is logged. -/
structure Record where
  message : Value
  level : Level := .info
  logger : String
  /-- When it was made, in seconds since 1970. -/
  created : Value := .int 0
  extra : Entries := []
  exception? : Option Exception := none

/-- The nearest whole number; of two, the even one. -/
def roundToEven (x : Float) : Float :=
  let r := x.round
  if (x - r).abs == 0.5 then 2.0 * (x / 2.0).round else r

/-- The microseconds since 1970. -/
def microsOf (seconds : Value) : Except Mishap Int :=
  match seconds.number? with
  | none => .error .wrongKind
  | some (.int n) => .ok (n * Time.second)
  | some (.float x) => do
    let whole ← truncateFloat x
    let fraction ← truncateFloat (roundToEven ((x - (if x < 0.0 then x.ceil else x.floor)) * 1000000.0))
    return whole * Time.second + fraction
  | some (.complex _) => .error .wrongKind

/-- The beginning of the year 1. -/
def firstMicros : Int := -62135596800 * Time.second

/-- The end of the year 9999. -/
def endMicros : Int := 253402300800 * Time.second

/-- The time that a number of seconds stands for. -/
def timeOf (seconds : Value) : Except Mishap Time.Timestamp := do
  let micros ← microsOf seconds
  if firstMicros ≤ micros ∧ micros < endMicros then return ⟨micros, some 0⟩
  else if -9223372036854775808 ≤ micros.tdiv Time.second ∧ micros.tdiv Time.second ≤ 9223372036854775807 then throw .badValue
  else throw .overflow

namespace Record

/-- The extra fields that an entry takes over. -/
def entryFields : List String :=
  ["event", "duration_ms", "retry_count", "node_id", "status"]

/-- What the record gives for an extra field; null counts as nothing. -/
def extra? (r : Record) (name : String) : Option Value :=
  match Entries.field? name r.extra with
  | some .null => none
  | v => v

/-- The record for machines. -/
def entry (r : Record) (c : Context) : Except Mishap Entries := do
  let base : Entries :=
    [(.text "timestamp", .text (← timeOf r.created).renderOffset), (.text "level", .text (Text.lower r.level.name)),
      (.text "logger", .text r.logger), (.text "message", .text (plainText (← textOfValue r.message)))]
  let extras := entryFields.filterMap fun name => (r.extra? name).map fun v => (Key.text name, plainValue v)
  let exception := match r.exception? with
    | some e => [(Key.text "exception", Value.text (plainText e.show))]
    | none => []
  return ((base.merge c.fields).merge extras).merge exception

/-- How many characters of an execution id are shown. -/
def shownOfExecution : Nat := 8

/-- The last items of a list. -/
def lastItems {α : Type} (n : Nat) (items : List α) : List α :=
  items.drop (items.length - n)

/-- The end of an execution id. -/
def endOfExecution (v : Value) : Except Mishap String :=
  match v with
  | .text s => .ok (String.ofList (lastItems shownOfExecution s.toList))
  | .list items => textOfValue (.list (lastItems shownOfExecution items))
  | _ => .error .wrongKind

/-- A tag, when the context has something to say for it. -/
def tag (c : Context) (field label : String) (render : Value → Except Mishap String) : Except Mishap (List String) :=
  match c.field? field with
  | some v => if v.truthy then return [label ++ ":" ++ (← render v)] else return []
  | none => .ok []

/-- The tags in front of a message. -/
def tags (c : Context) : Except Mishap (List String) := do
  return (← tag c "flow_id" "flow" textOfValue) ++ (← tag c "execution_id" "exec" endOfExecution) ++
    (← tag c "node_id" "node" textOfValue)

/-- A text with blanks up to a width. -/
def padded (width : Nat) (s : String) : String :=
  s ++ String.ofList (List.replicate (width - s.length) ' ')

/-- The record for people. -/
def line (r : Record) (c : Context) : Except Mishap String := do
  let tags ← tags c
  let message ← textOfValue r.message
  let event ← match r.extra? "event" with
    | some v => do pure (" [" ++ (← textOfValue v) ++ "]")
    | none => pure ""
  return r.level.color ++ "[" ++ padded 8 r.level.name ++ "]" ++ Level.colorCode "0" ++ " " ++
    (if tags.isEmpty then "" else "[" ++ " | ".intercalate tags ++ "] ") ++ message ++ event ++
    (match r.exception? with
      | some e => "\n" ++ e.show
      | none => "")

end Record

end IntegrationFlow.Log
