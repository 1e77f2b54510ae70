import IntegrationFlow.Value.Equality
import IntegrationFlow.Value.Display

/-!
# Values with identity

Two values with the same content may be one object or two, which an expression can find out, and which matters when an
object is changed: the change shows wherever that one object is a part. A `Cell` is a value in which every part carries
a `Label` that tells it from other objects with the same content; parts with one label are one object. A cell that is a
part of itself ends where it comes back to an object that it is inside of.

The label of a new object says where it arises, and that it is younger than everything that it was made from. So it is
the label of nothing that is there already.
-/

namespace IntegrationFlow

open Text (Point)

/-- A step of the way to the place where an object arises. -/
inductive Mark where
  | name (s : String)
  | number (n : Nat)
deriving DecidableEq

/-- A place where objects arise, from the inside out. -/
abbrev Site := List Mark

/-- What tells an object from others with the same content. -/
inductive Label where
  /-- There is no other object with the same content that bears this label. -/
  | only
  /-- Made at a place. -/
  | made (age : Nat) (site : Site)
  /-- Made at a place as a copy. -/
  | copied (age : Nat) (site : Site) (original : Label)
deriving DecidableEq, Inhabited

/-- How young an object is: younger than what it was made from. -/
def Label.age : Label → Nat
  | .only => 0
  | .made age _ => age
  | .copied age _ _ => age

/-- Where and when new objects arise. -/
structure Birth where
  age : Nat
  site : Site

namespace Birth

/-- A place of its own for a part. -/
def part (b : Birth) (i : Nat) : Birth :=
  { b with site := .number i :: b.site }

/-- The label of what is made. -/
def label (b : Birth) : Label :=
  .made b.age b.site

/-- The label of the copy of an object. -/
def copyOf (b : Birth) (l : Label) : Label :=
  .copied b.age b.site l

end Birth

/-- A value without parts. -/
inductive Atom where
  | null
  | bool (b : Bool)
  | int (n : Int)
  | float (x : Float)
  | complex (z : Decimal.Complex)
  | text (ps : List Point)
  | bytes (data : List UInt8)
  | ellipsis
deriving Inhabited

namespace Atom

/-- A text of characters. -/
def ofString (s : String) : Atom :=
  .text (Text.points s.toList)

/-- The value. -/
def value : Atom → Value
  | .null => .null
  | .bool b => .bool b
  | .int n => .int n
  | .float x => .float x
  | .complex z => .complex z
  | .text ps => .ofPoints ps
  | .bytes data => .bytes data
  | .ellipsis => .ellipsis

/-- The value as a key. -/
def key : Atom → Key
  | .null => .null
  | .bool b => .bool b
  | .int n => .int n
  | .float x => .float x
  | .complex z => .complex z
  | .text ps => .ofPoints ps
  | .bytes data => .bytes data
  | .ellipsis => .ellipsis

/-- The number that a value stands for. -/
def number? : Atom → Option Number
  | .bool b => some (.int (if b then 1 else 0))
  | .int n => some (.int n)
  | .float x => some (.float x)
  | .complex z => some (.complex z)
  | _ => none

/-- The whole number that a value stands for. -/
def int? : Atom → Option Int
  | .bool b => some (if b then 1 else 0)
  | .int n => some n
  | _ => none

/-- Whether a value counts as true: everything but null, false, zero and what is empty. -/
def truthy : Atom → Bool
  | .null => false
  | .bool b => b
  | .int n => n != 0
  | .float x => x != 0.0
  | .complex z => !z.isZero
  | .text ps => !ps.isEmpty
  | .bytes data => !data.isEmpty
  | .ellipsis => true

/-- There is one object with that content, wherever it arises: the constants, the empty text, and small whole numbers. -/
def isSingle : Atom → Bool
  | .null => true
  | .bool _ => true
  | .int n => -5 ≤ n && n ≤ 256
  | .text ps => ps.isEmpty
  | .ellipsis => true
  | _ => false

/-- The content is no more than a single letter of one byte. There is one object for each, as far as it arises as a
piece of a greater one. -/
def isLetter : Atom → Bool
  | .text [p] => p.code < 256
  | .bytes data => data.length ≤ 1
  | _ => false

end Atom

/-- A number as an atom. -/
def Number.atom : Number → Atom
  | .int n => .int n
  | .float x => .float x
  | .complex z => .complex z

/-- The key of an object: an atom, or a tuple of keys. -/
inductive CellKey where
  | atom (l : Label) (a : Atom)
  | tuple (l : Label) (items : List CellKey)
deriving Inhabited

/-- A value whose parts have an identity. -/
inductive Cell where
  | atom (l : Label) (a : Atom)
  | list (l : Label) (items : List Cell)
  | tuple (l : Label) (items : List Cell)
  | object (l : Label) (entries : List (CellKey × Cell))
  /-- The object around with that label. -/
  | back (l : Label) (kind : Container)
deriving Inhabited

/-- The entries of an object. -/
abbrev CellEntries := List (CellKey × Cell)

/-! ### Making cells -/

namespace Birth

/-- A new value without parts. -/
def atom (b : Birth) (a : Atom) : Cell :=
  .atom (if a.isSingle then .only else b.label) a

/-- A new value without parts that is a piece of a greater one. -/
def piece (b : Birth) (a : Atom) : Cell :=
  .atom (if a.isSingle || a.isLetter then .only else b.label) a

/-- A new list. -/
def list (b : Birth) (items : List Cell) : Cell :=
  .list b.label items

/-- A new tuple; there is only one empty tuple. -/
def tuple (b : Birth) (items : List Cell) : Cell :=
  .tuple (if items.isEmpty then .only else b.label) items

/-- A new object. -/
def object (b : Birth) (entries : CellEntries) : Cell :=
  .object b.label entries

end Birth

namespace CellKey

/-- A key that is a text. Of the keys of a document there is one object for each text. -/
def ofString (s : String) : CellKey :=
  .atom .only (.ofString s)

/-- The label of the key. -/
def label : CellKey → Label
  | .atom l _ => l
  | .tuple l _ => l

mutual

/-- The key without the identities. -/
def key : CellKey → Key
  | .atom _ a => a.key
  | .tuple _ items => .tuple (keys items)

/-- Keys without the identities. -/
def keys : List CellKey → List Key
  | [] => []
  | k :: ks => k.key :: keys ks

end

mutual

/-- The key as a value. -/
def cell : CellKey → Cell
  | .atom l a => .atom l a
  | .tuple l items => .tuple l (cells items)

/-- Keys as values. -/
def cells : List CellKey → List Cell
  | [] => []
  | k :: ks => k.cell :: cells ks

end

mutual

/-- How young the youngest part of a key is. -/
def age : CellKey → Nat
  | .atom l _ => l.age
  | .tuple l items => max l.age (ageOfItems items)

/-- How young the youngest part of some keys is. -/
def ageOfItems : List CellKey → Nat
  | [] => 0
  | k :: ks => max k.age (ageOfItems ks)

end

end CellKey

namespace Cell

/-- The label of the cell. -/
def label : Cell → Label
  | .atom l _ => l
  | .list l _ => l
  | .tuple l _ => l
  | .object l _ => l
  | .back l _ => l

mutual

/-- The value without the identities. -/
def value : Cell → Value
  | .atom _ a => a.value
  | .list _ items => .list (values items)
  | .tuple _ items => .tuple (values items)
  | .object _ entries => .object (valuesOfEntries entries)
  | .back _ kind => .loop kind

/-- Values without the identities. -/
def values : List Cell → List Value
  | [] => []
  | c :: cs => c.value :: values cs

/-- The values of entries without the identities. -/
def valuesOfEntries : CellEntries → Entries
  | [] => []
  | e :: es => (e.1.key, e.2.value) :: valuesOfEntries es

end

mutual

/-- How young the youngest part of a cell is. -/
def age : Cell → Nat
  | .atom l _ => l.age
  | .list l items => max l.age (ageOfItems items)
  | .tuple l items => max l.age (ageOfItems items)
  | .object l entries => max l.age (ageOfEntries entries)
  | .back l _ => l.age

/-- How young the youngest part of some cells is. -/
def ageOfItems : List Cell → Nat
  | [] => 0
  | c :: cs => max c.age (ageOfItems cs)

/-- How young the youngest part of some entries is. -/
def ageOfEntries : CellEntries → Nat
  | [] => 0
  | e :: es => max (max e.1.age e.2.age) (ageOfEntries es)

end

/-- A birth after everything in a cell. -/
def after (c : Cell) (site : Site) : Birth :=
  ⟨c.age + 1, site⟩

mutual

/-- A cell as a key. Lists and objects are no keys. -/
def toKey? : Cell → Option CellKey
  | .atom l a => some (.atom l a)
  | .tuple l items => (toKeys? items).map (.tuple l)
  | .list _ _ => none
  | .object _ _ => none
  | .back _ _ => none

/-- Cells as keys, when all of them can be. -/
def toKeys? : List Cell → Option (List CellKey)
  | [] => some []
  | c :: cs =>
    match c.toKey?, toKeys? cs with
    | some k, some ks => some (k :: ks)
    | _, _ => none

end

/-! ### From values -/

mutual

/-- A key as that of a document at a place. -/
def keyOf (site : Site) : Key → CellKey
  | .null => .atom .only .null
  | .bool b => .atom .only (.bool b)
  | .int n => .atom (if (Atom.int n).isSingle then .only else .made 0 site) (.int n)
  | .float x => .atom (.made 0 site) (.float x)
  | .complex z => .atom (.made 0 site) (.complex z)
  | .text s => .ofString s
  | .broken s => .atom .only (.text s.points)
  | .tuple items => .tuple (if items.isEmpty then .only else .made 0 site) (keysOf site 0 items)
  | .bytes data => .atom (.made 0 site) (.bytes data)
  | .ellipsis => .atom .only .ellipsis

/-- Keys as those of a document at a place, from a position on. -/
def keysOf (site : Site) (position : Nat) : List Key → List CellKey
  | [] => []
  | k :: ks => keyOf (.number position :: site) k :: keysOf site (position + 1) ks

end

mutual

/-- A value as a document at a place, in which no two parts are one object. -/
def ofValue (site : Site) : Value → Cell
  | .null => .atom .only .null
  | .bool b => .atom .only (.bool b)
  | .int n => Birth.piece ⟨0, site⟩ (.int n)
  | .float x => Birth.piece ⟨0, site⟩ (.float x)
  | .complex z => Birth.piece ⟨0, site⟩ (.complex z)
  | .text s => Birth.piece ⟨0, site⟩ (.ofString s)
  | .broken s => Birth.piece ⟨0, site⟩ (.text s.points)
  | .list items => Birth.list ⟨0, site⟩ (ofValues site 0 items)
  | .tuple items => Birth.tuple ⟨0, site⟩ (ofValues site 0 items)
  | .object entries => Birth.object ⟨0, site⟩ (ofEntries site 0 entries)
  | .bytes data => Birth.piece ⟨0, site⟩ (.bytes data)
  | .ellipsis => .atom .only .ellipsis
  | .loop kind => .back .only kind

/-- Values as parts of a document at a place, from a position on. -/
def ofValues (site : Site) (position : Nat) : List Value → List Cell
  | [] => []
  | v :: vs => ofValue (.number position :: site) v :: ofValues site (position + 1) vs

/-- Entries as parts of a document at a place, from a position on. -/
def ofEntries (site : Site) (position : Nat) : Entries → CellEntries
  | [] => []
  | e :: es =>
    (keyOf (.number 0 :: .number position :: site) e.1, ofValue (.number position :: site) e.2) ::
      ofEntries site (position + 1) es

end

/-! ### Kinds -/

/-- The name of the kind of a cell. -/
def kindName (c : Cell) : String :=
  c.value.kindName

/-- Whether a cell counts as true. -/
def truthy : Cell → Bool
  | .atom _ a => a.truthy
  | .list _ items => !items.isEmpty
  | .tuple _ items => !items.isEmpty
  | .object _ entries => !entries.isEmpty
  | .back _ _ => true

/-- The number that a cell stands for. -/
def number? : Cell → Option Number
  | .atom _ a => a.number?
  | _ => none

/-- The whole number that a cell stands for. -/
def int? : Cell → Option Int
  | .atom _ a => a.int?
  | _ => none

/-- The code points of a text. -/
def text? : Cell → Option (List Point)
  | .atom _ (.text ps) => some ps
  | _ => none

/-- A cell as text that shows its kind. -/
def repr? (c : Cell) : Option (List Point) :=
  c.value.repr?.map fun s => Text.points s.toList

/-- A cell as text; a text stands for itself. -/
def str? : Cell → Option (List Point)
  | .atom _ (.text ps) => some ps
  | c => c.repr?

end Cell

end IntegrationFlow
