import IntegrationFlow.Cell.Equality
import IntegrationFlow.Path

/-!
# Parts of cells

What is a part of a cell, the cell at the end of a path, copies, and what storing a value in an object does to all
cells that the object is a part of.
-/

namespace IntegrationFlow

open Text (Point)

namespace Cell

/-! ### Ways back -/

mutual

/-- A cell as a part of the objects with some labels: where one of them comes up in it, the way leads back. -/
def inside (around : List Label) : Cell → Cell
  | .atom l a => .atom l a
  | .list l items => if around.contains l then .back l .list else .list l (insideItems around items)
  | .tuple l items => if around.contains l then .back l .tuple else .tuple l (insideItems around items)
  | .object l entries => if around.contains l then .back l .object else .object l (insideEntries around entries)
  | .back l kind => .back l kind

/-- Cells as parts of the objects with some labels. -/
def insideItems (around : List Label) : List Cell → List Cell
  | [] => []
  | c :: cs => c.inside around :: insideItems around cs

/-- The values of entries as parts of the objects with some labels. -/
def insideEntries (around : List Label) : CellEntries → CellEntries
  | [] => []
  | e :: es => (e.1, e.2.inside around) :: insideEntries around es

end

mutual

/-- A part that is taken out of a cell: a way back to the cell leads on into it. `around` are the labels of what is
around in the part. -/
def outOf (whole : Cell) (around : List Label) : Cell → Cell
  | .atom l a => .atom l a
  | .list l items => .list l (outOfItems whole (l :: around) items)
  | .tuple l items => .tuple l (outOfItems whole (l :: around) items)
  | .object l entries => .object l (outOfEntries whole (l :: around) entries)
  | .back l kind => if l = whole.label then whole.inside around else .back l kind

/-- Parts that are taken out of a cell. -/
def outOfItems (whole : Cell) (around : List Label) : List Cell → List Cell
  | [] => []
  | c :: cs => outOf whole around c :: outOfItems whole around cs

/-- The values of entries that are taken out of a cell. -/
def outOfEntries (whole : Cell) (around : List Label) : CellEntries → CellEntries
  | [] => []
  | e :: es => (e.1, outOf whole around e.2) :: outOfEntries whole around es

end

/-! ### Parts -/

/-- The items of a list or a tuple. -/
def parts? : Cell → Option (List Cell)
  | .list l items => some (outOfItems (.list l items) [] items)
  | .tuple l items => some (outOfItems (.tuple l items) [] items)
  | _ => none

/-- The entries of an object. -/
def entries? : Cell → Option CellEntries
  | .object l entries => some (outOfEntries (.object l entries) [] entries)
  | _ => none

/-- Take one step into a cell: a name leads into an object, a position into a list. -/
def step? (c : Cell) : Path.Segment → Option Cell
  | .field name => c.entries?.bind (CellEntries.field? name)
  | .index i =>
    match c with
    | .list _ _ => c.parts?.bind (·[i]?)
    | _ => none

/-- The cell at the end of the steps. -/
def resolveSegments (c : Cell) : List Path.Segment → Option Cell
  | [] => some c
  | s :: ss => (c.step? s).bind fun c => resolveSegments c ss

/-- The cell at a path. -/
def resolve (c : Cell) (path : String) : Except Path.Problem Cell :=
  match Path.split? path with
  | none => .error .tooLong
  | some segments =>
    match c.resolveSegments segments with
    | some c => .ok c
    | none => .error .missing

/-! ### Copies -/

mutual

/-- There is nothing in a cell that could change. -/
def isFixed : Cell → Bool
  | .atom _ _ => true
  | .tuple _ items => areFixed items
  | .list _ _ => false
  | .object _ _ => false
  | .back _ _ => false

/-- There is nothing in some cells that could change. -/
def areFixed : List Cell → Bool
  | [] => true
  | c :: cs => c.isFixed && areFixed cs

end

mutual

/-- A copy of a cell. What was one object is one object in the copy; what cannot change is not copied. -/
def copy (b : Birth) : Cell → Cell
  | .atom l a => .atom l a
  | .list l items => .list (b.copyOf l) (copyItems b items)
  | .tuple l items => if areFixed items then .tuple l items else .tuple (b.copyOf l) (copyItems b items)
  | .object l entries => .object (b.copyOf l) (copyEntries b entries)
  | .back l kind => .back (b.copyOf l) kind

/-- Copies of cells. -/
def copyItems (b : Birth) : List Cell → List Cell
  | [] => []
  | c :: cs => c.copy b :: copyItems b cs

/-- Entries with copies of their values. -/
def copyEntries (b : Birth) : CellEntries → CellEntries
  | [] => []
  | e :: es => (e.1, e.2.copy b) :: copyEntries b es

end

/-! ### Changes -/

mutual

/-- The object with a label is a part of a cell. -/
def holds (l : Label) : Cell → Bool
  | .atom _ _ => false
  | .list _ items => holdsItem l items
  | .tuple _ items => holdsItem l items
  | .object m entries => m == l || holdsEntry l entries
  | .back _ _ => false

/-- The object with a label is a part of some cells. -/
def holdsItem (l : Label) : List Cell → Bool
  | [] => false
  | c :: cs => c.holds l || holdsItem l cs

/-- The object with a label is a part of the values of some entries. -/
def holdsEntry (l : Label) : CellEntries → Bool
  | [] => false
  | e :: es => e.2.holds l || holdsEntry l es

end

mutual

/-- Store a value under a text in the object with a label, wherever it is a part. `around` are the labels of what the
cell is inside of. -/
def store (l : Label) (name : String) (new : Cell) (around : List Label) : Cell → Cell
  | .atom m a => .atom m a
  | .list m items => .list m (storeItems l name new (m :: around) items)
  | .tuple m items => .tuple m (storeItems l name new (m :: around) items)
  | .object m entries =>
    let entries := storeEntries l name new (m :: around) entries
    .object m (if m = l then CellEntries.put (.ofString name) (new.inside (m :: around)) entries else entries)
  | .back m kind => .back m kind

/-- Store a value in the object with a label, in some cells. -/
def storeItems (l : Label) (name : String) (new : Cell) (around : List Label) : List Cell → List Cell
  | [] => []
  | c :: cs => store l name new around c :: storeItems l name new around cs

/-- Store a value in the object with a label, in the values of some entries. -/
def storeEntries (l : Label) (name : String) (new : Cell) (around : List Label) : CellEntries → CellEntries
  | [] => []
  | e :: es => (e.1, store l name new around e.2) :: storeEntries l name new around es

end

end Cell

/-- A value stored under a text in an object. -/
structure Write where
  object : Label
  name : String
  value : Cell

/-- Carry out a write in a cell. -/
def Write.apply (w : Write) (c : Cell) : Cell :=
  Cell.store w.object w.name w.value [] c

end IntegrationFlow
