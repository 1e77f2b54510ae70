import IntegrationFlow.Expression.Error

/-!
# Failures

What can go wrong at a node of a running flow. A failure is part of the run: it travels along the error outputs of the
flow until an error handler absorbs it.
-/

namespace IntegrationFlow

/-- The kinds of failures. -/
inductive FailureKind where
  | timeout
  | service
  | expression
  | validation
deriving DecidableEq

/-- The name of a kind. -/
def FailureKind.name : FailureKind → String
  | .timeout => "TimeoutError"
  | .service => "ServiceError"
  | .expression => "ExpressionError"
  | .validation => "ValidationFailure"

/-- What has gone wrong. -/
inductive FailureCause where
  | badExpression (e : Expression.Error)
  /-- A mapping takes a field that the producer's output does not have. -/
  | unmappedField (field : String)
  /-- A mapping is to transform its field and has no expression. -/
  | noTransform (mapping : String)
  /-- Nothing can be stored at the target of a mapping. -/
  | badTarget (path : String)
  | noSuchPath (path : String)
  | noMerging (node : String) (inputs : Nat)
  | wrongInput (port node expected found : String)
  | timedOut (circuit : String) (waited : Int)
  | callFailed (circuit : String)
  | circuitOpen (circuit : String)
  | queryFailed (table : String)
  | customFailed
deriving DecidableEq

namespace FailureCause

/-- The kind of a failure. -/
def kind : FailureCause → FailureKind
  | .badExpression _ => .expression
  | .unmappedField _ => .validation
  | .noTransform _ => .expression
  | .badTarget _ => .expression
  | .noSuchPath _ => .expression
  | .noMerging _ _ => .validation
  | .wrongInput _ _ _ _ => .validation
  | .timedOut _ _ => .timeout
  | .callFailed _ => .service
  | .circuitOpen _ => .service
  | .queryFailed _ => .service
  | .customFailed => .service

/-- The wording of a failure. -/
def message : FailureCause → String
  | .badExpression e => e.message
  | .unmappedField field => "Mapped field '" ++ field ++ "' not found in input"
  | .noTransform mapping => "Mapping '" ++ mapping ++ "' has no transform expression"
  | .badTarget path => "Invalid target field path: '" ++ path ++ "'"
  | .noSuchPath path => "Path '" ++ path ++ "' not found in input"
  | .noMerging node inputs =>
    "Node '" ++ node ++ "' received " ++ toString inputs ++ " concurrent inputs but does not support merging"
  | .wrongInput port node expected found =>
    "Input port '" ++ port ++ "' of node '" ++ node ++ "' expects " ++ expected ++ ", got " ++ found
  | .timedOut circuit waited => "Call to '" ++ circuit ++ "' timed out after " ++ toString waited ++ "ms"
  | .callFailed circuit => "Call to '" ++ circuit ++ "' failed (simulated)"
  | .circuitOpen circuit => "Circuit '" ++ circuit ++ "' is open; call not attempted"
  | .queryFailed table => "Query against '" ++ table ++ "' failed (simulated)"
  | .customFailed => "custom handler failed"

end FailureCause

/-- A failure and the node at which it arose. -/
structure Failure where
  cause : FailureCause
  node : String
deriving DecidableEq

namespace Failure

/-- The failure as a value. -/
def toValue (f : Failure) : Value :=
  .ofFields [("type", .text f.cause.kind.name), ("message", .text f.cause.message), ("nodeId", .text f.node)]

/-- The failure as the error text of a run. -/
def summary (f : Failure) : String :=
  f.cause.kind.name ++ " at node '" ++ f.node ++ "': " ++ f.cause.message

end Failure

/-- Why a computation on values has no result. -/
inductive Halt where
  /-- It failed, and the failure is part of the run. -/
  | failed (cause : FailureCause)
  /-- It met a mishap that nothing reports. -/
  | crashed (mishap : Expression.Mishap)
deriving DecidableEq

/-- The end of an expression as the end of a computation. -/
def Halt.ofStop : Expression.Stop → Halt
  | .refused e => .failed (.badExpression e)
  | .crashed m => .crashed m

/-- A result, or why there is none. -/
abbrev Outcome (α : Type) := Except Halt α

end IntegrationFlow
