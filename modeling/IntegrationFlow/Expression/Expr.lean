import IntegrationFlow.Expression.Error
import IntegrationFlow.Cell.Equality

/-!
# Expressions

The tree of an expression. Constructs that are never evaluated are kept as their name alone.
-/

namespace IntegrationFlow

namespace Expression

/-- An operator in front of its operand. -/
inductive UnaryOp where
  | negate
  | plus
  | not
  | invert
deriving DecidableEq

/-- An operator between its operands. -/
inductive BinaryOp where
  | add
  | subtract
  | multiply
  | divide
  | floorDivide
  | modulo
  | power
  | matrixMultiply
  | shiftLeft
  | shiftRight
  | bitOr
  | bitXor
  | bitAnd
deriving DecidableEq

/-- The name of an operator that is never evaluated. -/
def BinaryOp.unsupportedName? : BinaryOp → Option String
  | .matrixMultiply => some "MatMult"
  | .shiftLeft => some "LShift"
  | .shiftRight => some "RShift"
  | .bitOr => some "BitOr"
  | .bitXor => some "BitXor"
  | .bitAnd => some "BitAnd"
  | _ => none

/-- A comparison. -/
inductive Comparison where
  | equal
  | notEqual
  | order (o : Value.Order)
  | isIn
  | notIn
  | same
  | notSame
deriving DecidableEq

end Expression

open Expression in
/-- An expression. -/
inductive Expr where
  | constant (a : Atom)
  | name (s : String)
  | attribute (target : Expr) (field : String)
  | item (target key : Expr)
  | slice (target : Expr) (lower upper : Option Expr) (stepped : Bool)
  | unary (op : UnaryOp) (operand : Expr)
  | binary (op : BinaryOp) (left right : Expr)
  | all (operands : List Expr)
  | any (operands : List Expr)
  | compare (first : Expr) (rest : List (Comparison × Expr))
  | choose (test body other : Expr)
  | list (items : List Expr)
  | tuple (items : List Expr)
  /-- An entry without a key spreads the object that its value gives. -/
  | object (entries : List (Option Expr × Expr))
  /-- A keyword without a name spreads an object into keywords. -/
  | call (function : Expr) (arguments : List Expr) (keywords : List (Option String × Expr))
  | unsupported (construct : Construct)
deriving Inhabited

namespace Expr

open Expression

mutual

/-- The names that occur in an expression. -/
def names : Expr → List String
  | .constant _ => []
  | .name s => [s]
  | .attribute target _ => target.names
  | .item target key => target.names ++ key.names
  | .slice target lower upper _ => target.names ++ namesOption lower ++ namesOption upper
  | .unary _ operand => operand.names
  | .binary _ left right => left.names ++ right.names
  | .all operands => namesList operands
  | .any operands => namesList operands
  | .compare first rest => first.names ++ namesRest rest
  | .choose test body other => test.names ++ body.names ++ other.names
  | .list items => namesList items
  | .tuple items => namesList items
  | .object entries => namesEntries entries
  | .call function arguments keywords => function.names ++ namesList arguments ++ namesKeywords keywords
  | .unsupported _ => []

/-- The names in a part that may be absent. -/
def namesOption : Option Expr → List String
  | none => []
  | some e => e.names

/-- The names in a list of expressions. -/
def namesList : List Expr → List String
  | [] => []
  | e :: es => e.names ++ namesList es

/-- The names in the further operands of a comparison. -/
def namesRest : List (Comparison × Expr) → List String
  | [] => []
  | e :: es => e.2.names ++ namesRest es

/-- The names in the entries of an object. -/
def namesEntries : List (Option Expr × Expr) → List String
  | [] => []
  | e :: es => namesOption e.1 ++ e.2.names ++ namesEntries es

/-- The names in keyword arguments. -/
def namesKeywords : List (Option String × Expr) → List String
  | [] => []
  | e :: es => e.2.names ++ namesKeywords es

end

end Expr

end IntegrationFlow
