/-!
# Problems of documents

A document is read against a schema. Every place that does not fit is reported with its location, the list of field
names and positions that lead to it, and with the way in which it does not fit.
-/

namespace IntegrationFlow.Schema

/-- How a value does not fit its place. -/
inductive Mismatch where
  | missing
  | unexpected
  | notText
  | notWhole
  | unreadableWhole
  | wholeTooLong
  | fractional
  | notFinite
  | notNumber
  | unreadableNumber
  | notFlag
  | unreadableFlag
  | notList
  | notObject
  | notRecord
  | notAnOption
  | below (least : Int)
  | notTime
  | timeOutOfRange
  | unreadableTime
  | notJson
deriving DecidableEq

namespace Mismatch

/-- The short code of a mismatch. -/
def code : Mismatch → String
  | .missing => "missing"
  | .unexpected => "extra_forbidden"
  | .notText => "string_type"
  | .notWhole => "int_type"
  | .unreadableWhole => "int_parsing"
  | .wholeTooLong => "int_parsing_size"
  | .fractional => "int_from_float"
  | .notFinite => "finite_number"
  | .notNumber => "float_type"
  | .unreadableNumber => "float_parsing"
  | .notFlag => "bool_type"
  | .unreadableFlag => "bool_parsing"
  | .notList => "list_type"
  | .notObject => "dict_type"
  | .notRecord => "model_type"
  | .notAnOption => "enum"
  | .below _ => "greater_than_equal"
  | .notTime => "datetime_type"
  | .timeOutOfRange => "datetime_parsing"
  | .unreadableTime => "datetime_from_date_parsing"
  | .notJson => "json_invalid"

/-- The wording of a mismatch. -/
def message : Mismatch → String
  | .missing => "Field required"
  | .unexpected => "Extra inputs are not permitted"
  | .notText => "Input should be a valid string"
  | .notWhole => "Input should be a valid integer"
  | .unreadableWhole => "Input should be a valid integer, unable to parse string as an integer"
  | .wholeTooLong => "Unable to parse input string as an integer, exceeded maximum size"
  | .fractional => "Input should be a valid integer, got a number with a fractional part"
  | .notFinite => "Input should be a finite number"
  | .notNumber => "Input should be a valid number"
  | .unreadableNumber => "Input should be a valid number, unable to parse string as a number"
  | .notFlag => "Input should be a valid boolean"
  | .unreadableFlag => "Input should be a valid boolean, unable to interpret input"
  | .notList => "Input should be a valid list"
  | .notObject => "Input should be a valid dictionary"
  | .notRecord => "Input should be an object"
  | .notAnOption => "Input should be one of the options"
  | .below least => "Input should be greater than or equal to " ++ toString least
  | .notTime => "Input should be a valid datetime"
  | .timeOutOfRange => "Input should be a valid datetime"
  | .unreadableTime => "Input should be a valid datetime or date"
  | .notJson => "Invalid JSON"

end Mismatch

/-- A place that does not fit. -/
structure Problem where
  location : List String
  mismatch : Mismatch
deriving DecidableEq

namespace Problem

/-- The location with its steps joined by dots. -/
def place (p : Problem) : String :=
  ".".intercalate p.location

/-- The location and the code. -/
def summary (p : Problem) : String :=
  p.place ++ ": " ++ p.mismatch.code

/-- The problem as seen from one level further out. -/
def under (step : String) (p : Problem) : Problem :=
  { p with location := step :: p.location }

end Problem

end IntegrationFlow.Schema
