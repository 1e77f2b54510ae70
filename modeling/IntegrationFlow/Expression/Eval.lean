import IntegrationFlow.Expression.Expr
import IntegrationFlow.Expression.Helper

/-!
# Evaluation

`Expr.eval` gives the value of an expression in a scope. It depends on nothing but the names in scope: a name that
starts with an underscore is never read, the fields of objects are the only attributes, and the helper functions are
the only things that can be called. What an expression reads are the objects in scope themselves; what it makes are new
objects, each with a birth of its own.
-/

namespace IntegrationFlow

namespace Expression

/-- The names that an expression can use. -/
abbrev Scope := List (String × Cell)

/-- The constants that can be spelled as names; a scope may give these names another value. -/
def constants : Scope :=
  [("true", .atom .only (.bool true)), ("false", .atom .only (.bool false)), ("null", .atom .only .null),
    ("True", .atom .only (.bool true)), ("False", .atom .only (.bool false)), ("None", .atom .only .null)]

/-- A name that is never read. -/
def isHidden (name : String) : Bool :=
  name.startsWith "_"

/-- The value of a name. -/
def readName (scope : Scope) (name : String) : Except Error Cell :=
  if isHidden name then .error (.hidden name)
  else
    match scope.lookup name with
    | some v => .ok v
    | none =>
      match constants.lookup name with
      | some v => .ok v
      | none => .error (.unknownName name)

/-- The value of a field. -/
def readField (c : Cell) (field : String) : Except Error Cell :=
  match c.entries? with
  | some entries =>
    match CellEntries.field? field entries with
    | some c => .ok c
    | none => .error (.unknownField field)
  | none => .error (.noFields field c.kindName)

/-- An operation whose mishaps end the evaluation. -/
def attempt {α : Type} (r : Except Mishap α) : Except Error α :=
  match r with
  | .ok a => .ok a
  | .error m => .error (.mishap m)

/-- The value of an item. -/
def readItem (b : Birth) (c key : Cell) : Except Error Cell :=
  match item b c key with
  | .ok c => .ok c
  | .error _ =>
    match key.value.repr? with
    | some s => .error (.noItem s)
    | none => .error (.mishap .badValue)

/-- The greatest exponent of a power. -/
def maxExponent : Int := 64

/-- The most bits that the power of a whole number may have. -/
def maxPowerBits : Nat := 4096

/-- The most items that a repeated sequence may have. -/
def maxRepetition : Nat := 100000

/-- How many bits a whole number has, its sign apart. -/
def bitLength (n : Int) : Nat :=
  if n == 0 then 0 else n.natAbs.log2 + 1

/-- The exponent is beyond the limit; there is none for complex ones. -/
def exponentTooLarge : Number → Bool
  | .int n => n.natAbs > maxExponent.natAbs
  | .float x => x.abs > 64.0
  | .complex _ => false

/-- The length of a sequence whose repetition is limited. -/
def repeatedLength? : Cell → Option Nat
  | .atom _ (.text ps) => some ps.length
  | .list _ items => some items.length
  | .tuple _ items => some items.length
  | _ => none

/-- Repeating the sequence makes it too long. -/
def repeatsTooMuch (sequence count : Cell) : Bool :=
  match repeatedLength? sequence, count.int? with
  | some length, some n => (length : Int) * n > maxRepetition
  | _, _ => false

/-- Refuse an operation whose result would be huge, before it is computed. -/
def guardSize (op : BinaryOp) (left right : Cell) : Except Error Unit :=
  match op with
  | .power =>
    match right.number? with
    | none => .ok ()
    | some exponent =>
      if exponentTooLarge exponent then .error .exponentTooLarge
      else
        match left.int?, right.int? with
        | some base, some n =>
          if n > 0 && (bitLength base : Int) * n > maxPowerBits then .error .powerTooLarge else .ok ()
        | _, _ => .ok ()
  | .multiply =>
    if repeatsTooMuch left right || repeatsTooMuch right left then .error .repetitionTooLarge else .ok ()
  | _ => .ok ()

/-- The remainder of numbers, or a text with its conversions filled. -/
def moduloCells (b : Birth) (left right : Cell) : Except Mishap Cell :=
  match left with
  | .atom _ (.text ps) => interpolate b left ps right
  | .atom _ (.bytes data) => interpolateBytes b data right
  | left => remainder b left right

/-- Apply a binary operator to its operands. -/
def applyBinary (b : Birth) (op : BinaryOp) (left right : Cell) : Except Mishap Cell :=
  match op with
  | .add => add b left right
  | .subtract => calculate b difference left right
  | .multiply => multiply b left right
  | .divide => calculate b divide left right
  | .floorDivide => calculate b floorDivide left right
  | .modulo => moduloCells b left right
  | .power => calculate b power left right
  | _ => .error .wrongKind

/-- Apply a unary operator to its operand. -/
def applyUnary (b : Birth) (op : UnaryOp) (c : Cell) : Except Mishap Cell :=
  match op with
  | .negate => negate b c
  | .plus => plus b c
  | .not => .ok (b.atom (.bool !c.truthy))
  | .invert => .error .wrongKind

/-- Whether a comparison holds. -/
def Comparison.holds (op : Comparison) (left right : Cell) : Except Mishap Bool :=
  match op with
  | .equal => .ok (left.eq right)
  | .notEqual => .ok !(left.eq right)
  | .order o =>
    match left.order? o right with
    | some r => .ok r
    | none => .error .wrongKind
  | .isIn => contains right left
  | .notIn => (contains right left).map (!·)
  | .same => .ok (left.same right)
  | .notSame => .ok !(left.same right)

/-- The helper that an expression in call position names. -/
def helperOf? : Expr → Option Helper
  | .name s => Helper.ofName? s
  | _ => none

end Expression

open Expression

namespace Expr

mutual

/-- The value of an expression in a scope. What its parts make arises at places of their own. -/
def eval (scope : Scope) (b : Birth) : Expr → Except Error Cell
  | .constant a => .ok (b.piece a)
  | .name s => readName scope s
  | .attribute target field =>
    if isHidden field then .error (.hidden field)
    else
      match target.eval scope b with
      | .error e => .error e
      | .ok c => readField c field
  | .item target key =>
    match target.eval scope (b.part 1) with
    | .error e => .error e
    | .ok c =>
      match key.eval scope (b.part 2) with
      | .error e => .error e
      | .ok k => readItem (b.part 0) c k
  | .slice target lower upper stepped =>
    match target.eval scope (b.part 1) with
    | .error e => .error e
    | .ok c =>
      match evalOption scope (b.part 2) lower with
      | .error e => .error e
      | .ok l =>
        match evalOption scope (b.part 3) upper with
        | .error e => .error e
        | .ok u => if stepped then .error .steppedSlice else attempt (Expression.slice (b.part 0) c l u)
  | .unary op operand =>
    if op = .invert then .error (.unsupportedOperator "Invert")
    else
      match operand.eval scope (b.part 1) with
      | .error e => .error e
      | .ok c => attempt (applyUnary (b.part 0) op c)
  | .binary op left right =>
    match op.unsupportedName? with
    | some operator => .error (.unsupportedOperator operator)
    | none =>
      match left.eval scope (b.part 1) with
      | .error e => .error e
      | .ok l =>
        match right.eval scope (b.part 2) with
        | .error e => .error e
        | .ok r =>
          match guardSize op l r with
          | .error e => .error e
          | .ok () => attempt (applyBinary (b.part 0) op l r)
  | .all operands => evalAll scope b (.atom .only (.bool true)) operands
  | .any operands => evalAny scope b (.atom .only (.bool false)) operands
  | .compare first rest =>
    match first.eval scope (b.part 0) with
    | .error e => .error e
    | .ok c => (evalComparisons scope (b.part 1) c rest).map fun r => .atom .only (.bool r)
  | .choose test body other =>
    match test.eval scope (b.part 0) with
    | .error e => .error e
    | .ok t => if t.truthy then body.eval scope (b.part 1) else other.eval scope (b.part 2)
  | .list items => (evalList scope (b.part 0) items).map b.list
  | .tuple items => (evalList scope (b.part 0) items).map b.tuple
  | .object entries => (evalEntries scope (b.part 0) [] entries).map b.object
  | .call function arguments keywords =>
    match helperOf? function with
    | none => .error .noHelper
    | some helper =>
      match evalList scope (b.part 1) arguments with
      | .error e => .error e
      | .ok cs =>
        match evalKeywords scope (b.part 2) [] keywords with
        | .error e => .error e
        | .ok ks => attempt (helper.apply (b.part 0) ⟨cs, ks⟩)
  | .unsupported construct => .error (.unsupported construct)

/-- The value of a part that may be absent; null stands for an absent one. -/
def evalOption (scope : Scope) (b : Birth) : Option Expr → Except Error Cell
  | none => .ok (.atom .only .null)
  | some e => e.eval scope b

/-- The values of a list of expressions. -/
def evalList (scope : Scope) (b : Birth) : List Expr → Except Error (List Cell)
  | [] => .ok []
  | e :: es =>
    match e.eval scope (b.part 0) with
    | .error e => .error e
    | .ok c => (evalList scope (b.part 1) es).map (c :: ·)

/-- The first value that counts as false, else the last one. -/
def evalAll (scope : Scope) (b : Birth) (last : Cell) : List Expr → Except Error Cell
  | [] => .ok last
  | e :: es =>
    match e.eval scope (b.part 0) with
    | .error e => .error e
    | .ok c => if c.truthy then evalAll scope (b.part 1) c es else .ok c

/-- The first value that counts as true, else the last one. -/
def evalAny (scope : Scope) (b : Birth) (last : Cell) : List Expr → Except Error Cell
  | [] => .ok last
  | e :: es =>
    match e.eval scope (b.part 0) with
    | .error e => .error e
    | .ok c => if c.truthy then .ok c else evalAny scope (b.part 1) c es

/-- Whether all comparisons hold; operands behind one that fails are not evaluated. -/
def evalComparisons (scope : Scope) (b : Birth) (left : Cell) : List (Comparison × Expr) → Except Error Bool
  | [] => .ok true
  | r :: rs =>
    match r.2.eval scope (b.part 0) with
    | .error e => .error e
    | .ok right =>
      match r.1.holds left right with
      | .error m => .error (.mishap m)
      | .ok false => .ok false
      | .ok true => evalComparisons scope (b.part 1) right rs

/-- The entries of an object, after those that are already there. -/
def evalEntries (scope : Scope) (b : Birth) (done : CellEntries) :
    List (Option Expr × Expr) → Except Error CellEntries
  | [] => .ok done
  | (none, spread) :: es =>
    match spread.eval scope (b.part 0) with
    | .error e => .error e
    | .ok c =>
      match c.entries? with
      | some entries => evalEntries scope (b.part 1) (done.merge entries) es
      | none => .error .spreadOfNoObject
  | (some key, value) :: es =>
    match value.eval scope (b.part 0) with
    | .error e => .error e
    | .ok c =>
      match key.eval scope (b.part 2) with
      | .error e => .error e
      | .ok k =>
        match k.toKey? with
        | none => .error (.mishap .wrongKind)
        | some k => evalEntries scope (b.part 1) (done.put k c) es

/-- The values of keyword arguments; of two with one name the later one counts. -/
def evalKeywords (scope : Scope) (b : Birth) (done : List (String × Cell)) :
    List (Option String × Expr) → Except Error (List (String × Cell))
  | [] => .ok done
  | (none, _) :: _ => .error .keywordSpread
  | (some parameter, value) :: ks =>
    match value.eval scope (b.part 0) with
    | .error e => .error e
    | .ok c => evalKeywords scope (b.part 1) (done.filter (·.1 != parameter) ++ [(parameter, c)]) ks

end

end Expr

end IntegrationFlow
