import IntegrationFlow.Expression.Parser
import IntegrationFlow.Expression.Eval

/-!
# Evaluating a text

`evaluate` is the value of the expression that a text writes. Blanks around it do not count. A text that is blank, too
long or malformed is refused before anything is evaluated.
-/

namespace IntegrationFlow.Expression

/-- The most characters that an expression may have. -/
def maxLength : Nat := 4000

/-- Read an expression. A text with a NUL character cannot be read at all. -/
def read (text : String) : Except Stop Expr :=
  if Text.isAllBlank text.toList then .error (.refused .empty)
  else if text.length > maxLength then .error (.refused .tooLong)
  else if text.toList.contains (Char.ofNat 0) then .error (.crashed .badValue)
  else
    match parse (Text.trim text.toList) with
    | some e => .ok e
    | none => .error (.refused .malformed)

/-- The value of an expression in a scope. What it makes arises with a birth. -/
def evaluate (scope : Scope) (b : Birth) (text : String) : Except Stop Cell :=
  match read text with
  | .error stop => .error stop
  | .ok e =>
    match e.eval scope b with
    | .ok c => .ok c
    | .error e => .error (.refused e)

/-- The value of an expression that is given as a value. A text with lone halves cannot be read at all, and anything but
a text is an empty expression. -/
def evaluateValue (scope : Scope) (b : Birth) : Value → Except Stop Cell
  | .text s => evaluate scope b s
  | .broken s => .error (if s.points.length > maxLength then .refused .tooLong else .crashed .unencodable)
  | _ => .error (.refused .empty)

end IntegrationFlow.Expression
