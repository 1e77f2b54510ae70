import IntegrationFlow.Value.Basic
import IntegrationFlow.Decimal.Binary

/-!
# Equality of values, and the order of numbers

Whole numbers, floats and booleans are compared as the exact numbers they stand for; true is one and false is zero.
Objects are equal when they hold equal values under equal keys, in any order. This is the equality of values that have
no object in common; `Cell.eq` is that of any two values.
-/

namespace IntegrationFlow

/-- A whole number, a float, or a complex number. -/
inductive Number where
  | int (n : Int)
  | float (x : Float)
  | complex (z : Decimal.Complex)

namespace Number

/-- How two floats compare; nothing when one is no number. -/
def compareFloats (x y : Float) : Option Ordering :=
  if x < y then some .lt else if y < x then some .gt else if x == y then some .eq else none

/-- How two numbers compare; nothing when one is complex. -/
def compare? : Number → Number → Option Ordering
  | .int m, .int n => some (compare m n)
  | .int m, .float y => Decimal.compareInt m y
  | .float x, .int n => (Decimal.compareInt n x).map Ordering.swap
  | .float x, .float y => compareFloats x y
  | _, _ => none

/-- The number has an imaginary part, be it zero. -/
def isComplex : Number → Bool
  | .complex _ => true
  | _ => false

/-- The numbers are equal. -/
def eq : Number → Number → Bool
  | .complex z, .complex w => z.re == w.re && z.im == w.im
  | .complex z, b => z.im == 0.0 && b.compare? (.float z.re) == some .eq
  | a, .complex z => z.im == 0.0 && a.compare? (.float z.re) == some .eq
  | a, b => a.compare? b == some .eq

end Number

namespace Key

/-- The number that a key stands for. -/
def number? : Key → Option Number
  | .bool b => some (.int (if b then 1 else 0))
  | .int n => some (.int n)
  | .float x => some (.float x)
  | .complex z => some (.complex z)
  | _ => none

mutual

/-- Two keys name the same entry. -/
def eq : Key → Key → Bool
  | .null, .null => true
  | .text s, .text t => s == t
  | .broken s, .broken t => s == t
  | .bytes a, .bytes b => a == b
  | .ellipsis, .ellipsis => true
  | .tuple as, .tuple bs => eqList as bs
  | a, b =>
    match a.number?, b.number? with
    | some x, some y => x.eq y
    | _, _ => false

/-- Two lists of keys are equal item by item. -/
def eqList : List Key → List Key → Bool
  | [], [] => true
  | a :: as, b :: bs => a.eq b && eqList as bs
  | _, _ => false

end

/-- Text keys are equal exactly when their characters are. -/
theorem eq_text {s t : String} : (Key.text s).eq (.text t) = (s == t) := by
  simp [eq]

end Key

namespace Entries

/-- The value stored under a key. -/
def find? (key : Key) : Entries → Option Value
  | [] => none
  | e :: es => if e.1.eq key then some e.2 else find? key es

/-- The value stored under a text. -/
def field? (name : String) (es : Entries) : Option Value :=
  find? (.text name) es

/-- Store a value: in the place of the entry with an equal key, which keeps its key, or at the end. -/
def put (key : Key) (value : Value) : Entries → Entries
  | [] => [(key, value)]
  | e :: es => if e.1.eq key then (e.1, value) :: es else e :: put key value es

/-- Remove the entry with the key. -/
def erase (key : Key) : Entries → Entries
  | [] => []
  | e :: es => if e.1.eq key then es else e :: erase key es

/-- Store all entries of the second list, one after another. -/
def merge (es new : Entries) : Entries :=
  new.foldl (fun acc e => put e.1 e.2 acc) es

/-- A stored value is found under its text key. -/
theorem field?_put_self (name : String) (v : Value) (es : Entries) :
    field? name (put (.text name) v es) = some v := by
  induction es with
  | nil => simp [field?, put, find?, Key.eq_text]
  | cons e es ih =>
    unfold put
    split
    · next h => simp [field?, find?, h]
    · next h => simpa [field?, find?, h] using ih

/-- Storing under one text changes no other field. -/
theorem field?_put_of_ne {name other : String} (h : name ≠ other) (v : Value) (es : Entries) :
    field? other (put (.text name) v es) = field? other es := by
  have absent : ∀ k : Key, k.eq (.text name) = true → k.eq (.text other) = false := by
    intro k hk
    cases k <;> simp_all [Key.eq, Key.number?]
  induction es with
  | nil => simp [field?, put, find?, Key.eq_text, h]
  | cons e es ih =>
    unfold put
    split
    · next hk => simp [field?, find?, absent _ hk]
    · next hk =>
      simp only [field?, find?] at ih ⊢
      split <;> simp [ih]

end Entries

namespace Value

/-- The number that a value stands for. -/
def number? : Value → Option Number
  | .bool b => some (.int (if b then 1 else 0))
  | .int n => some (.int n)
  | .float x => some (.float x)
  | .complex z => some (.complex z)
  | _ => none

/-- The whole number that a value stands for. -/
def int? : Value → Option Int
  | .bool b => some (if b then 1 else 0)
  | .int n => some n
  | _ => none

mutual

/-- The values are equal. -/
def eq : Value → Value → Bool
  | .null, .null => true
  | .text s, .text t => s == t
  | .broken s, .broken t => s == t
  | .bytes a, .bytes b => a == b
  | .ellipsis, .ellipsis => true
  | .list as, .list bs => eqList as bs
  | .tuple as, .tuple bs => eqList as bs
  | .object as, .object bs => as.length == bs.length && subsumed as bs
  | a, b =>
    match a.number?, b.number? with
    | some x, some y => x.eq y
    | _, _ => false

/-- The lists are equal item by item. -/
def eqList : List Value → List Value → Bool
  | [], [] => true
  | a :: as, b :: bs => a.eq b && eqList as bs
  | _, _ => false

/-- Every entry of the first object is in the second one. -/
def subsumed : Entries → Entries → Bool
  | [], _ => true
  | e :: es, other =>
    (match Entries.find? e.1 other with
      | some v => e.2.eq v
      | none => false) && subsumed es other

end

/-- One of the four order comparisons. -/
inductive Order where
  | less
  | lessEqual
  | greater
  | greaterEqual
deriving DecidableEq

namespace Order

/-- The comparison holds of two things that compare as stated. -/
def holds : Order → Ordering → Bool
  | .less, o => o == .lt
  | .lessEqual, o => o != .gt
  | .greater, o => o == .gt
  | .greaterEqual, o => o != .lt

/-- The comparison holds of two numbers; it fails when one of them is no number. -/
def holdsNumber (o : Order) (a b : Number) : Bool :=
  (a.compare? b).any o.holds

end Order

/-- How two byte strings compare. -/
def compareBytes : List UInt8 → List UInt8 → Ordering
  | [], [] => .eq
  | [], _ :: _ => .lt
  | _ :: _, [] => .gt
  | a :: as, b :: bs => (compare a b).then (compareBytes as bs)

end Value

end IntegrationFlow
