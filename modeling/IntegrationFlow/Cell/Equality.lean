import IntegrationFlow.Cell.Basic

/-!
# Identity, equality and order of cells

`Cell.same` says whether two cells are one object. Equality and order go by content, but an item of a sequence or of an
object counts as equal to itself, even where it is not, as what is no number. So does a key.
-/

namespace IntegrationFlow

open Text (Point)

namespace Atom

/-- The contents are alike in all respects. -/
def alike : Atom → Atom → Bool
  | .null, .null => true
  | .bool a, .bool b => a == b
  | .int m, .int n => m == n
  | .text a, .text b => a == b
  | .bytes a, .bytes b => a == b
  | .ellipsis, .ellipsis => true
  | _, _ => false

/-- The values are equal. -/
def eq : Atom → Atom → Bool
  | .null, .null => true
  | .text a, .text b => a == b
  | .bytes a, .bytes b => a == b
  | .ellipsis, .ellipsis => true
  | a, b =>
    match a.number?, b.number? with
    | some x, some y => x.eq y
    | _, _ => false

/-- Whether an order comparison holds; nothing when the values have no order. -/
def order? (o : Value.Order) : Atom → Atom → Option Bool
  | .text a, .text b => some (o.holds (Text.comparePoints a b))
  | .bytes a, .bytes b => some (o.holds (Value.compareBytes a b))
  | a, b =>
    match a.number?, b.number? with
    | some x, some y => if x.isComplex || y.isComplex then none else some (o.holdsNumber x y)
    | _, _ => none

end Atom

namespace CellKey

/-- The keys are one object. -/
def same : CellKey → CellKey → Bool
  | .atom .only a, .atom .only b => a.alike b
  | .tuple .only _, .tuple .only _ => true
  | a, b => a.label != .only && a.label == b.label

mutual

/-- The keys are equal. -/
def eq : CellKey → CellKey → Bool
  | .atom _ a, .atom _ b => a.eq b
  | .tuple _ as, .tuple _ bs => eqItems as bs
  | _, _ => false

/-- The lists are equal item by item. -/
def eqItems : List CellKey → List CellKey → Bool
  | [], [] => true
  | a :: as, b :: bs => (a.same b || a.eq b) && eqItems as bs
  | _, _ => false

end

/-- The keys name the same entry. -/
def names (a b : CellKey) : Bool :=
  a.same b || a.eq b

end CellKey

namespace CellEntries

/-- The cell stored under a key. -/
def find? (key : CellKey) : CellEntries → Option Cell
  | [] => none
  | e :: es => if e.1.names key then some e.2 else find? key es

/-- The cell stored under a text. -/
def field? (name : String) (es : CellEntries) : Option Cell :=
  find? (.ofString name) es

/-- Store a cell: in the place of the entry with an equal key, which keeps its key, or at the end. -/
def put (key : CellKey) (c : Cell) : CellEntries → CellEntries
  | [] => [(key, c)]
  | e :: es => if e.1.names key then (e.1, c) :: es else e :: put key c es

/-- Store all entries of the second list, one after another. -/
def merge (es new : CellEntries) : CellEntries :=
  new.foldl (fun acc e => put e.1 e.2 acc) es

end CellEntries

namespace Cell

/-- The cells are one object. -/
def same : Cell → Cell → Bool
  | .atom .only a, .atom .only b => a.alike b
  | .tuple .only _, .tuple .only _ => true
  | a, b => a.label != .only && a.label == b.label

mutual

/-- The cells are equal. -/
def eq : Cell → Cell → Bool
  | .atom _ a, .atom _ b => a.eq b
  | .list _ as, .list _ bs => eqItems as bs
  | .tuple _ as, .tuple _ bs => eqItems as bs
  | .object _ as, .object _ bs => as.length == bs.length && subsumed as bs
  | _, _ => false

/-- The lists are equal item by item. -/
def eqItems : List Cell → List Cell → Bool
  | [], [] => true
  | a :: as, b :: bs => (a.same b || a.eq b) && eqItems as bs
  | _, _ => false

/-- Every entry of the first object is in the second one. -/
def subsumed : CellEntries → CellEntries → Bool
  | [], _ => true
  | e :: es, other =>
    (match CellEntries.find? e.1 other with
      | some c => e.2.same c || e.2.eq c
      | none => false) && subsumed es other

end

/-- The cells count as equal, as items do. -/
def agrees (a b : Cell) : Bool :=
  a.same b || a.eq b

mutual

/-- Whether an order comparison holds; nothing when the cells have no order. -/
def order? (o : Value.Order) : Cell → Cell → Option Bool
  | .atom _ a, .atom _ b => a.order? o b
  | .list _ as, .list _ bs => orderItems? o as bs
  | .tuple _ as, .tuple _ bs => orderItems? o as bs
  | _, _ => none

/-- Two lists are ordered by the first items that differ, else by length. -/
def orderItems? (o : Value.Order) : List Cell → List Cell → Option Bool
  | [], [] => some (o.holds .eq)
  | [], _ :: _ => some (o.holds .lt)
  | _ :: _, [] => some (o.holds .gt)
  | a :: as, b :: bs => if a.agrees b then orderItems? o as bs else order? o a b

end

end Cell

end IntegrationFlow
