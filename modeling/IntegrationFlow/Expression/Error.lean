import IntegrationFlow.Value.Basic

/-!
# Failures of expressions

An expression is refused for a cause of its own (`Error`), or its evaluation meets a mishap: an operation that its
operands do not allow. `Error.message` words each cause.
-/

namespace IntegrationFlow.Expression

/-- What can go wrong inside an operation on values. -/
inductive Mishap where
  | wrongKind
  | badValue
  | divisionByZero
  | overflow
  | noMethod
  | unknownEncoding
  | badIndex
  | missingKey
  | undecodable
  | unencodable
deriving DecidableEq

/-- The class name of a mishap. -/
def Mishap.name : Mishap → String
  | .wrongKind => "TypeError"
  | .badValue => "ValueError"
  | .divisionByZero => "ZeroDivisionError"
  | .overflow => "OverflowError"
  | .noMethod => "AttributeError"
  | .unknownEncoding => "LookupError"
  | .badIndex => "IndexError"
  | .missingKey => "KeyError"
  | .undecodable => "UnicodeDecodeError"
  | .unencodable => "UnicodeEncodeError"

/-- Constructs that are part of the grammar and are never evaluated. -/
inductive Construct where
  | lambda
  | listComprehension
  | setComprehension
  | objectComprehension
  | generator
  | formattedText
  | yielding
  | yieldingFrom
  | awaiting
  | naming
  | starred
  | set
  | slice
deriving DecidableEq

/-- The name of a construct. -/
def Construct.name : Construct → String
  | .lambda => "Lambda"
  | .listComprehension => "ListComp"
  | .setComprehension => "SetComp"
  | .objectComprehension => "DictComp"
  | .generator => "GeneratorExp"
  | .formattedText => "JoinedStr"
  | .yielding => "Yield"
  | .yieldingFrom => "YieldFrom"
  | .awaiting => "Await"
  | .naming => "NamedExpr"
  | .starred => "Starred"
  | .set => "Set"
  | .slice => "Slice"

/-- Why an expression has no value. -/
inductive Error where
  | empty
  | tooLong
  | malformed
  | hidden (name : String)
  | unknownName (name : String)
  | unknownField (field : String)
  | noFields (field kind : String)
  | noItem (key : String)
  | steppedSlice
  | unsupported (construct : Construct)
  | unsupportedOperator (name : String)
  | spreadOfNoObject
  | noHelper
  | keywordSpread
  | exponentTooLarge
  | powerTooLarge
  | repetitionTooLarge
  | mishap (cause : Mishap)
deriving DecidableEq

/-- The wording of an error. -/
def Error.message : Error → String
  | .empty => "Expression is empty"
  | .tooLong => "Expression is too long"
  | .malformed => "Invalid expression syntax"
  | .hidden name => "Access to '" ++ name ++ "' is not allowed"
  | .unknownName name => "Unknown name '" ++ name ++ "'"
  | .unknownField field => "Field '" ++ field ++ "' not found"
  | .noFields field kind => "Cannot read field '" ++ field ++ "' of " ++ kind
  | .noItem key => "Cannot index with " ++ key
  | .steppedSlice => "Slice steps are not supported"
  | .unsupported construct => "Unsupported syntax: " ++ construct.name
  | .unsupportedOperator name => "Unsupported operator: " ++ name
  | .spreadOfNoObject => "Only objects can be unpacked with **"
  | .noHelper => "Only built-in helper functions may be called"
  | .keywordSpread => "Keyword unpacking is not supported"
  | .exponentTooLarge => "Exponent too large"
  | .powerTooLarge => "Power result too large"
  | .repetitionTooLarge => "Repetition result too large"
  | .mishap cause => cause.name

/-- How an evaluation ends without a value. -/
inductive Stop where
  /-- The expression is refused, which is reported as its error. -/
  | refused (e : Error)
  /-- A mishap outside of the expression's own evaluation, which nothing reports. -/
  | crashed (m : Mishap)
deriving DecidableEq

end IntegrationFlow.Expression
