import IntegrationFlow.Expression.Error
import IntegrationFlow.Cell.Part
import IntegrationFlow.Decimal.Reading

/-!
# Arithmetic

The operations on numbers. Whole numbers are exact; as soon as one operand is a float the other one becomes the
nearest float, and as soon as one is complex, so does the other one. Quotients and remainders of whole numbers and of
floats go with the floor of the exact quotient. The result is a new object, unless it is an operand as it is.
-/

namespace IntegrationFlow.Expression

/-- The float nearest to a whole number, which must be in range. -/
def floatOfInt (n : Int) : Except Mishap Float :=
  let x := Decimal.ofInt n
  if x.isFinite then .ok x else .error .overflow

/-- A number as a complex one. -/
def complexOfNumber : Number → Except Mishap Decimal.Complex
  | .int n => (floatOfInt n).map fun x => ⟨x, 0.0⟩
  | .float x => .ok ⟨x, 0.0⟩
  | .complex z => .ok z

/-- A number that is not complex as a float. -/
def floatOfNumber : Number → Except Mishap Float
  | .int n => floatOfInt n
  | .float x => .ok x
  | .complex _ => .error .wrongKind

/-- Operations of one kind on whole numbers, on floats and on complex numbers. -/
structure Arithmetic where
  onInts : Int → Int → Except Mishap Atom
  onFloats : Float → Float → Except Mishap Atom
  /-- Complex numbers have neither remainders nor a floor. -/
  onComplex : Decimal.Complex → Decimal.Complex → Except Mishap Atom := fun _ _ => .error .wrongKind

/-- Apply an operation to numbers. -/
def Arithmetic.apply (o : Arithmetic) (a b : Number) : Except Mishap Atom :=
  match a, b with
  | .int m, .int n => o.onInts m n
  | a, b =>
    if a.isComplex || b.isComplex then do
      let z ← complexOfNumber a
      let w ← complexOfNumber b
      o.onComplex z w
    else do
      let x ← floatOfNumber a
      let y ← floatOfNumber b
      o.onFloats x y

/-- The exact quotient of whole numbers as the nearest float. -/
def divideInts (m n : Int) : Except Mishap Atom :=
  if n == 0 then .error .divisionByZero
  else
    let x := Decimal.withSign (decide (m < 0) != decide (n < 0)) (Decimal.ofRatio m.natAbs n.natAbs)
    if x.isFinite then .ok (.float x) else .error .overflow

/-- The remainder of floats, with the sign of the divisor, and the floor of the quotient. -/
def floorDivideFloats (x y : Float) : Float × Float :=
  let r := Decimal.remainder x y
  let quotient := (x - r) / y
  let crosses := r != 0.0 && decide (y < 0.0) != decide (r < 0.0)
  let quotient := if crosses then quotient - 1.0 else quotient
  let r :=
    if r == 0.0 then Decimal.withSign (Decimal.isNegative y) 0.0 else if crosses then r + y else r
  let whole :=
    if quotient == 0.0 then Decimal.withSign (Decimal.isNegative (x / y)) 0.0
    else
      let low := quotient.floor
      if quotient - low > 0.5 then low + 1.0 else low
  (whole, r)

/-- The floor of a quotient. -/
def floorDivide : Arithmetic where
  onInts m n := if n == 0 then .error .divisionByZero else .ok (.int (Int.fdiv m n))
  onFloats x y := if y == 0.0 then .error .divisionByZero else .ok (.float (floorDivideFloats x y).1)

/-- The remainder that belongs to the floor of a quotient. -/
def modulo : Arithmetic where
  onInts m n := if n == 0 then .error .divisionByZero else .ok (.int (Int.fmod m n))
  onFloats x y := if y == 0.0 then .error .divisionByZero else .ok (.float (floorDivideFloats x y).2)

/-- A quotient. -/
def divide : Arithmetic where
  onInts := divideInts
  onFloats x y := if y == 0.0 then .error .divisionByZero else .ok (.float (x / y))
  onComplex z w :=
    match z.div? w with
    | some q => .ok (.complex q)
    | none => .error .divisionByZero

/-- A float without a fraction. -/
def isWhole (x : Float) : Bool :=
  match Decimal.Binary.ofFloat? x with
  | some b => b.isWhole
  | none => false

/-- A power of complex numbers. -/
def powerComplex (z w : Decimal.Complex) : Except Mishap Atom :=
  match z.pow? w with
  | none => .error .divisionByZero
  | some r => if r.isInfinite then .error .overflow else .ok (.complex r)

/-- A power of floats. Zero has no negative powers; a negative base to a fraction gives a complex number. -/
def powerFloats (x y : Float) : Except Mishap Atom :=
  if y == 0.0 then .ok (.float 1.0)
  else if x.isNaN then .ok (.float x)
  else if y.isNaN then .ok (.float (if x == 1.0 then 1.0 else y))
  else if x == 0.0 && y < 0.0 then .error .divisionByZero
  else if x < 0.0 && x.isFinite && y.isFinite && !isWhole y then powerComplex ⟨x, 0.0⟩ ⟨y, 0.0⟩
  else
    let r := x.pow y
    if x.isFinite && y.isFinite && !r.isFinite then .error .overflow else .ok (.float r)

/-- A power of whole numbers; a negative exponent gives a float. -/
def powerInts (m n : Int) : Except Mishap Atom :=
  if n < 0 then do
    let x ← floatOfInt m
    let y ← floatOfInt n
    powerFloats x y
  else .ok (.int (Int.pow m n.toNat))

/-- A power. -/
def power : Arithmetic where
  onInts := powerInts
  onFloats := powerFloats
  onComplex := powerComplex

/-- A sum of numbers. -/
def sum : Arithmetic where
  onInts m n := .ok (.int (m + n))
  onFloats x y := .ok (.float (x + y))
  onComplex z w := .ok (.complex ⟨z.re + w.re, z.im + w.im⟩)

/-- A difference. -/
def difference : Arithmetic where
  onInts m n := .ok (.int (m - n))
  onFloats x y := .ok (.float (x - y))
  onComplex z w := .ok (.complex ⟨z.re - w.re, z.im - w.im⟩)

/-- A product of numbers. -/
def product : Arithmetic where
  onInts m n := .ok (.int (m * n))
  onFloats x y := .ok (.float (x * y))
  onComplex z w := .ok (.complex (z.mul w))

/-- Apply an operation on numbers to values. -/
def Arithmetic.onCells (o : Arithmetic) (a b : Cell) : Except Mishap Atom :=
  match a.number?, b.number? with
  | some m, some n => o.apply m n
  | _, _ => .error .wrongKind

/-- Apply an operation on numbers, with a new object as the result. -/
def calculate (b : Birth) (o : Arithmetic) (left right : Cell) : Except Mishap Cell :=
  (o.onCells left right).map b.atom

/-- A sum, or the concatenation of two texts, lists, tuples or byte strings; but for lists, an empty one gives the other
one as it is. -/
def add (b : Birth) (left right : Cell) : Except Mishap Cell :=
  match left, right with
  | .atom _ (.text s), .atom _ (.text t) =>
    .ok (if s.isEmpty then right else if t.isEmpty then left else b.atom (.text (s ++ t)))
  | .atom _ (.bytes s), .atom _ (.bytes t) =>
    .ok (if s.isEmpty then right else if t.isEmpty then left else b.atom (.bytes (s ++ t)))
  | .tuple _ as, .tuple _ bs =>
    .ok (if as.isEmpty then right else if bs.isEmpty then left
      else b.tuple ((left.parts?.getD []) ++ (right.parts?.getD [])))
  | .list _ _, .list _ _ => .ok (b.list ((left.parts?.getD []) ++ (right.parts?.getD [])))
  | left, right => calculate b sum left right

/-- The sequence with its items repeated; the empty one stays empty at no cost. -/
def repeatList {α : Type} (count : Nat) (items : List α) : List α :=
  if items.isEmpty then [] else (List.replicate count items).flatten

/-- The largest count of repetitions that can be asked for. -/
def maxCount : Int := 9223372036854775807

/-- Repeat a sequence; a negative count gives none. But for lists, once is the sequence as it is. -/
def repeatCell? (b : Birth) (count : Int) (c : Cell) : Option (Except Mishap Cell) :=
  match c with
  | .atom _ (.text ps) =>
    some (guarded count (if count = 1 then c else b.atom (.text (repeatList count.toNat ps))))
  | .list _ _ => some (guarded count (b.list (repeatList count.toNat (c.parts?.getD []))))
  | .tuple _ _ => some (guarded count (if count = 1 then c else b.tuple (repeatList count.toNat (c.parts?.getD []))))
  | .atom _ (.bytes data) =>
    some (if (data.length : Int) * count > maxCount then .error .overflow
      else guarded count (if count = 1 || data.isEmpty then c else b.atom (.bytes (repeatList count.toNat data))))
  | _ => none
where
  /-- The count must be one that can be asked for. -/
  guarded (count : Int) (c : Cell) : Except Mishap Cell :=
    if count > maxCount || count < -maxCount - 1 then .error .overflow else .ok c

/-- A product, or a repeated sequence. -/
def multiply (b : Birth) (left right : Cell) : Except Mishap Cell :=
  match left.number?, right.number? with
  | some m, some n => (product.apply m n).map b.atom
  | _, _ =>
    match right.int?.bind fun n => repeatCell? b n left with
    | some r => r
    | none =>
      match left.int?.bind fun n => repeatCell? b n right with
      | some r => r
      | none => .error .wrongKind

/-- The first number has fewer digits of 30 bits than the second one, or as many and a lesser leading one. -/
def isShorter (m n : Nat) : Bool :=
  let shift := 30 * (n.log2 / 30)
  m >>> shift < n >>> shift

/-- A remainder; a dividend that is clearly less than the divisor, and has its sign, is the remainder as it is. -/
def remainder (b : Birth) (left right : Cell) : Except Mishap Cell :=
  match left, right.int? with
  | .atom _ (.int m), some n =>
    if n != 0 && decide (m < 0) == decide (n < 0) && isShorter m.natAbs n.natAbs then .ok left
    else calculate b modulo left right
  | left, _ => calculate b modulo left right

/-- The opposite of a number. -/
def negate (b : Birth) (c : Cell) : Except Mishap Cell :=
  match c.number? with
  | some (.int n) => .ok (b.atom (.int (-n)))
  | some (.float x) => .ok (b.atom (.float (-x)))
  | some (.complex z) => .ok (b.atom (.complex ⟨-z.re, -z.im⟩))
  | none => .error .wrongKind

/-- A number as it is; booleans become whole numbers. -/
def plus (b : Birth) (c : Cell) : Except Mishap Cell :=
  match c with
  | .atom _ (.bool t) => .ok (b.atom (.int (if t then 1 else 0)))
  | c => if c.number?.isSome then .ok c else .error .wrongKind

/-- The absolute value of a number; a whole number that is not negative is its own. -/
def absolute (b : Birth) (c : Cell) : Except Mishap Cell :=
  match c, c.number? with
  | .atom _ (.int n), _ => .ok (if n ≥ 0 then c else b.atom (.int (-n)))
  | _, some (.int n) => .ok (b.atom (.int n))
  | _, some (.float x) => .ok (b.atom (.float x.abs))
  | _, some (.complex z) =>
    let x := Decimal.hypotenuse z.re z.im
    if x.isFinite || !(z.re.isFinite && z.im.isFinite) then .ok (b.atom (.float x)) else .error .overflow
  | _, none => .error .wrongKind

/-- The whole part of a float. -/
def truncateFloat (x : Float) : Except Mishap Int :=
  match Decimal.Binary.ofFloat? x with
  | some b => .ok b.truncate
  | none => if x.isNaN then .error .badValue else .error .overflow

/-- The whole number nearest to a float, a tie to the even one. -/
def roundFloat (x : Float) : Except Mishap Int :=
  match Decimal.Binary.ofFloat? x with
  | some b => .ok b.nearestInt
  | none => if x.isNaN then .error .badValue else .error .overflow

/-- A float rounded to a number of decimal places: the exact value is rounded, a tie to the even digit, and the result
is the float nearest to that decimal. -/
def roundPlaces (x : Float) (places : Int) : Except Mishap Float :=
  match Decimal.Binary.ofFloat? x with
  | none => .ok x
  | some b =>
    if places > 323 then .ok x
    else if places < -308 then .ok (0.0 * x)
    else
      let digits := Decimal.roundDiv (b.numerator * Nat.pow 10 places.toNat) (b.denominator * Nat.pow 10 (-places).toNat)
      let y := Decimal.ofScientific digits (-places)
      if y.isFinite then .ok (Decimal.withSign b.negative y) else .error .overflow

/-- A whole number rounded to a power of ten, a tie to the even multiple. -/
def roundTens (n : Int) (places : Int) : Int :=
  if places ≥ 0 then n
  else
    let k := (-places).toNat
    if k > Decimal.digitCount n.natAbs + 1 then 0
    else
      let m := Decimal.roundDiv n.natAbs (Nat.pow 10 k) * Nat.pow 10 k
      if n < 0 then -(m : Int) else m

end IntegrationFlow.Expression
