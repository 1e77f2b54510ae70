import IntegrationFlow.Expression.Arithmetic

/-!
# Items, slices and membership

How a value is taken apart: the item at a position or under a key, a slice between two positions, the items that it
is made of, and whether it contains another value. A negative position counts from the end. The items of lists, tuples
and objects are what they are; those of texts and byte strings arise as they are asked for.
-/

namespace IntegrationFlow.Expression

/-- The position that an index means in a sequence of a length, if there is one. -/
def position? (length : Nat) (i : Int) : Option Nat :=
  let p := if i < 0 then i + length else i
  if 0 ≤ p ∧ p < length then some p.toNat else none

/-- The item of a list that an index means. -/
def itemAt {α : Type} (items : List α) (key : Cell) : Except Mishap α :=
  match key.int? with
  | none => .error .wrongKind
  | some i =>
    match (position? items.length i).bind (items[·]?) with
    | some v => .ok v
    | none => .error .badIndex

/-- The value under a key of an object. -/
def entry (entries : CellEntries) (key : Cell) : Except Mishap Cell :=
  match key.toKey? with
  | none => .error .wrongKind
  | some k =>
    match entries.find? k with
    | some c => .ok c
    | none => .error .missingKey

/-- The value under a key. -/
def item (b : Birth) (target key : Cell) : Except Mishap Cell :=
  match target with
  | .list _ _ => itemAt (target.parts?.getD []) key
  | .tuple _ _ => itemAt (target.parts?.getD []) key
  | .object _ _ => entry (target.entries?.getD []) key
  | .atom _ (.text ps) => (itemAt ps key).map fun p => b.piece (.text [p])
  | .atom _ (.bytes data) => (itemAt data key).map fun d => b.atom (.int d.toNat)
  | _ => .error .wrongKind

/-- A bound of a slice: a whole number or null. -/
def bound? (c : Cell) : Except Mishap (Option Int) :=
  match c with
  | .atom _ .null => .ok none
  | c =>
    match c.int? with
    | some i => .ok (some i)
    | none => .error .wrongKind

/-- The offset that a bound means: kept inside the sequence. -/
def offset (length : Nat) (default : Nat) : Option Int → Nat
  | none => default
  | some i => if i < 0 then (i + length).toNat else min i.toNat length

/-- The items between two bounds. -/
def sliceList {α : Type} (lower upper : Option Int) (items : List α) : List α :=
  let first := offset items.length 0 lower
  let stop := offset items.length items.length upper
  (items.take stop).drop first

/-- How many items a value is made of. -/
def length? : Cell → Option Nat
  | .atom _ (.text ps) => some ps.length
  | .atom _ (.bytes data) => some data.length
  | .list _ items => some items.length
  | .tuple _ items => some items.length
  | .object _ entries => some entries.length
  | _ => none

/-- The slice of a sequence between two bounds. But for lists, the slice of all is the sequence as it is. -/
def cut (b : Birth) (target : Cell) (lower upper : Option Int) : Except Mishap Cell :=
  match target with
  | .list _ _ => .ok (b.list (sliceList lower upper (target.parts?.getD [])))
  | .tuple _ items =>
    let slice := sliceList lower upper (target.parts?.getD [])
    .ok (if slice.length = items.length then target else b.tuple slice)
  | .atom _ (.text ps) =>
    let slice := sliceList lower upper ps
    .ok (if slice.length = ps.length then target else b.piece (.text slice))
  | .atom _ (.bytes data) =>
    let slice := sliceList lower upper data
    .ok (if slice.length = data.length then target else b.piece (.bytes slice))
  | _ => .error .wrongKind

/-- The slice of a sequence. -/
def slice (b : Birth) (target lower upper : Cell) : Except Mishap Cell :=
  if (length? target).isSome && target.entries?.isNone then do
    let l ← bound? lower
    let u ← bound? upper
    cut b target l u
  else .error .wrongKind

/-- The items that a value is made of; an object is made of its keys. -/
def items? (b : Birth) (c : Cell) : Option (List Cell) :=
  match c with
  | .list _ _ => c.parts?
  | .tuple _ _ => c.parts?
  | .object _ entries => some (entries.map fun e => e.1.cell)
  | .atom _ (.text ps) => some (ps.mapIdx fun i p => (b.part i).piece (.text [p]))
  | .atom _ (.bytes data) => some (data.map fun d => b.atom (.int d.toNat))
  | _ => none

/-- One list stands somewhere inside another one. -/
def isInfix {α : Type} [BEq α] (part : List α) : List α → Bool
  | [] => part.isEmpty
  | a :: as => part.isPrefixOf (a :: as) || isInfix part as

/-- Whether a byte string contains another one, or a byte. -/
def containsBytes (data : List UInt8) (c : Cell) : Except Mishap Bool :=
  match c with
  | .atom _ (.bytes part) => .ok (isInfix part data)
  | c =>
    match c.int? with
    | some n => if 0 ≤ n ∧ n < 256 then .ok (data.any fun d => (d.toNat : Int) == n) else .error .badValue
    | none => .error .wrongKind

/-- Whether a value contains another one. -/
def contains (container c : Cell) : Except Mishap Bool :=
  match container with
  | .list _ _ => .ok ((container.parts?.getD []).any fun i => i.agrees c)
  | .tuple _ _ => .ok ((container.parts?.getD []).any fun i => i.agrees c)
  | .object _ entries =>
    match c.toKey? with
    | some k => .ok (CellEntries.find? k entries).isSome
    | none => .error .wrongKind
  | .atom _ (.text ps) =>
    match c.text? with
    | some part => .ok (isInfix part ps)
    | none => .error .wrongKind
  | .atom _ (.bytes data) => containsBytes data c
  | _ => .error .wrongKind

/-- Insert an item behind the items of a sorted list that are not greater, searching by halves in the stretch between
two positions; `fuel` bounds the halvings. -/
def insertionPoint {α : Type} (less : α → α → Except Mishap Bool) (sorted : List α) (v : α) :
    Nat → Nat → Nat → Except Mishap Nat
  | 0, low, _ => .ok low
  | fuel + 1, low, high =>
    if low < high then do
      let middle := (low + high) / 2
      match sorted[middle]? with
      | none => .ok low
      | some m =>
        if ← less v m then insertionPoint less sorted v fuel low middle
        else insertionPoint less sorted v fuel (middle + 1) high
    else .ok low

/-- Insert items one after another into a sorted list. -/
def insertAll {α : Type} (less : α → α → Except Mishap Bool) (sorted : List α) : List α → Except Mishap (List α)
  | [] => .ok sorted
  | v :: vs => do
    let p ← insertionPoint less sorted v (sorted.length + 1) 0 sorted.length
    insertAll less (sorted.take p ++ v :: sorted.drop p) vs

/-- The longest stretch at the front in which every item is less than the one before it, or none is, after a first
item; the flag says which of the two. -/
def takeRun {α : Type} (less : α → α → Except Mishap Bool) (falling : Bool) (last : α) :
    List α → Except Mishap (List α × List α)
  | [] => .ok ([], [])
  | v :: vs => do
    if (← less v last) == falling then
      let (run, rest) ← takeRun less falling v vs
      return (v :: run, rest)
    else return ([], v :: vs)

/-- Sort by a comparison, keeping the order of items that compare equal: a falling run at the front is turned around,
and the items behind the run are inserted into it. -/
def sortBy {α : Type} (less : α → α → Except Mishap Bool) : List α → Except Mishap (List α)
  | [] => .ok []
  | [v] => .ok [v]
  | v :: w :: vs => do
    let falling ← less w v
    let (run, rest) ← takeRun less falling v (w :: vs)
    insertAll less (if falling then (v :: run).reverse else v :: run) rest

/-- Whether one value comes before another; they must have an order. -/
def precedes (a b : Cell) : Except Mishap Bool :=
  match a.order? .less b with
  | some r => .ok r
  | none => .error .wrongKind

end IntegrationFlow.Expression
