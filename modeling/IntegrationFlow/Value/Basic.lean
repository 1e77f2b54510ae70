import IntegrationFlow.Decimal.Complex
import IntegrationFlow.Text.Point

/-!
# Values

The data that flows through a graph: what JSON can hold, and besides it what expressions can build from that (tuples,
byte strings, complex numbers, texts with lone surrogates, the ellipsis, and objects whose keys are not texts). An object
keeps its entries in insertion order. A value that was made to be a part of itself ends where it comes back to a part
that it is inside of.
-/

namespace IntegrationFlow

/-- What can be the key of an object: every value that is not, and does not contain, a list or an object. -/
inductive Key where
  | null
  | bool (b : Bool)
  | int (n : Int)
  | float (x : Float)
  | complex (z : Decimal.Complex)
  | text (s : String)
  | broken (s : Text.Broken)
  | tuple (items : List Key)
  | bytes (data : List UInt8)
  | ellipsis
deriving Inhabited

/-- The kinds of values that have parts. -/
inductive Container where
  | list
  | tuple
  | object
deriving DecidableEq

/-- The name of a kind. -/
def Container.name : Container → String
  | .list => "list"
  | .tuple => "tuple"
  | .object => "dict"

/-- A value. -/
inductive Value where
  | null
  | bool (b : Bool)
  | int (n : Int)
  | float (x : Float)
  | complex (z : Decimal.Complex)
  | text (s : String)
  | broken (s : Text.Broken)
  | list (items : List Value)
  | tuple (items : List Value)
  | object (entries : List (Key × Value))
  | bytes (data : List UInt8)
  | ellipsis
  /-- One of the values that this one is a part of. -/
  | loop (kind : Container)
deriving Inhabited

/-- The entries of an object. -/
abbrev Entries := List (Key × Value)

namespace Key

/-- The text of some code points as a key. -/
def ofPoints (ps : List Text.Point) : Key :=
  match h : Text.chars? ps with
  | some cs => .text (String.ofList cs)
  | none => .broken ⟨ps, h⟩

mutual

/-- A key as a value. -/
def toValue : Key → Value
  | .null => .null
  | .bool b => .bool b
  | .int n => .int n
  | .float x => .float x
  | .complex z => .complex z
  | .text s => .text s
  | .broken s => .broken s
  | .tuple items => .tuple (toValues items)
  | .bytes data => .bytes data
  | .ellipsis => .ellipsis

/-- Keys as values. -/
def toValues : List Key → List Value
  | [] => []
  | k :: ks => k.toValue :: toValues ks

end

end Key

namespace Value

mutual

/-- A value as a key. Lists and objects are no keys. -/
def toKey? : Value → Option Key
  | .null => some .null
  | .bool b => some (.bool b)
  | .int n => some (.int n)
  | .float x => some (.float x)
  | .complex z => some (.complex z)
  | .text s => some (.text s)
  | .broken s => some (.broken s)
  | .tuple items => (toKeys? items).map .tuple
  | .bytes data => some (.bytes data)
  | .ellipsis => some .ellipsis
  | .list _ => none
  | .object _ => none
  | .loop _ => none

/-- Values as keys, when all of them can be. -/
def toKeys? : List Value → Option (List Key)
  | [] => some []
  | v :: vs =>
    match v.toKey?, toKeys? vs with
    | some k, some ks => some (k :: ks)
    | _, _ => none

end

mutual

/-- A key read as a value is that key again. -/
theorem toKey?_toValue : (k : Key) → k.toValue.toKey? = some k
  | .null | .bool _ | .int _ | .float _ | .complex _ | .text _ | .broken _ | .bytes _ | .ellipsis => rfl
  | .tuple items => by simp [Key.toValue, toKey?, toKeys?_toValues items]

/-- Keys read as values are those keys again. -/
theorem toKeys?_toValues : (ks : List Key) → toKeys? (Key.toValues ks) = some ks
  | [] => rfl
  | k :: ks => by simp [Key.toValues, toKeys?, toKey?_toValue k, toKeys?_toValues ks]

end

/-- The name of the kind of a value. -/
def kindName : Value → String
  | .null => "NoneType"
  | .bool _ => "bool"
  | .int _ => "int"
  | .float _ => "float"
  | .complex _ => "complex"
  | .text _ => "str"
  | .broken _ => "str"
  | .list _ => "list"
  | .tuple _ => "tuple"
  | .object _ => "dict"
  | .bytes _ => "bytes"
  | .ellipsis => "ellipsis"
  | .loop kind => kind.name

/-- Whether a value counts as true: everything but null, false, zero and what is empty. -/
def truthy : Value → Bool
  | .null => false
  | .bool b => b
  | .int n => n != 0
  | .float x => x != 0.0
  | .complex z => !z.isZero
  | .text s => s != ""
  | .broken _ => true
  | .list items => !items.isEmpty
  | .tuple items => !items.isEmpty
  | .object entries => !entries.isEmpty
  | .bytes data => !data.isEmpty
  | .ellipsis => true
  | .loop _ => true

/-- The entries of an object. -/
def entries? : Value → Option Entries
  | .object entries => some entries
  | _ => none

/-- The characters of a text. -/
def text? : Value → Option String
  | .text s => some s
  | _ => none

mutual

/-- How deeply lists and objects are nested in a value. -/
def depth : Value → Nat
  | .list items => depthOfItems items + 1
  | .tuple items => depthOfItems items + 1
  | .object entries => depthOfEntries entries + 1
  | _ => 0

/-- The greatest depth of the values. -/
def depthOfItems : List Value → Nat
  | [] => 0
  | v :: vs => max v.depth (depthOfItems vs)

/-- The greatest depth of the values of the entries. -/
def depthOfEntries : Entries → Nat
  | [] => 0
  | e :: es => max e.2.depth (depthOfEntries es)

end

mutual

/-- How many values there are on the longest way into a value, with itself and what has no parts. -/
def levels : Value → Nat
  | .list items => levelsOfItems items + 1
  | .tuple items => levelsOfItems items + 1
  | .object entries => levelsOfEntries entries + 1
  | _ => 1

/-- The most levels of the values. -/
def levelsOfItems : List Value → Nat
  | [] => 0
  | v :: vs => max v.levels (levelsOfItems vs)

/-- The most levels of the values of the entries. -/
def levelsOfEntries : Entries → Nat
  | [] => 0
  | e :: es => max e.2.levels (levelsOfEntries es)

end

/-- The text of some code points. -/
def ofPoints (ps : List Text.Point) : Value :=
  match h : Text.chars? ps with
  | some cs => .text (String.ofList cs)
  | none => .broken ⟨ps, h⟩

/-- An object with text keys. -/
def ofFields (fields : List (String × Value)) : Value :=
  .object (fields.map fun f => (.text f.1, f.2))

end Value

end IntegrationFlow
