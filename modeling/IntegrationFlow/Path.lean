import IntegrationFlow.Value.Equality
import IntegrationFlow.Value.Display
import IntegrationFlow.Decimal.Reading

/-!
# Field paths

A path such as `order.items[0].sku` names a place inside a value. Names are separated by dots, positions stand in
square brackets, and a dollar sign at the front stands for the value itself. Characters that belong to neither a name
nor a position are passed over.
-/

namespace IntegrationFlow.Path

/-- One step of a path. -/
inductive Segment where
  | field (name : String)
  | index (i : Nat)
deriving DecidableEq

/-- A character that can stand in a name. -/
def isNameChar (c : Char) : Bool :=
  c != '.' && c != '[' && c != ']'

/-- The digits of a position up to its closing bracket, and what follows. -/
def takeIndex (cs : List Char) : Option (List Char × List Char) :=
  match cs.takeWhile Text.isDecimalDigit, cs.dropWhile Text.isDecimalDigit with
  | d :: ds, ']' :: rest => some (d :: ds, rest)
  | _, _ => none

/-- What was read of a path: a name, or the digits of a position. -/
inductive Piece where
  | name (cs : List Char)
  | digits (cs : List Char)

/-- Cut a path into pieces in at most `fuel` steps. -/
def piecesUpTo : Nat → List Char → List Piece
  | 0, _ => []
  | _ + 1, [] => []
  | fuel + 1, c :: cs =>
    if isNameChar c then
      .name (c :: cs.takeWhile isNameChar) :: piecesUpTo fuel (cs.dropWhile isNameChar)
    else if c == '[' then
      match takeIndex cs with
      | some (ds, rest) => .digits ds :: piecesUpTo fuel rest
      | none => piecesUpTo fuel cs
    else piecesUpTo fuel cs

/-- Drop the blanks around a path, and the dollar sign and the dots in front of it. -/
def body (cs : List Char) : List Char :=
  match Text.trim cs with
  | '$' :: cs => cs.dropWhile (· == '.')
  | cs => cs

/-- The step that a piece stands for; nothing for a position with too many digits. -/
def Piece.segment? : Piece → Option Segment
  | .name cs => some (.field (String.ofList cs))
  | .digits ds =>
    if ds.length > Decimal.maxDigits then none
    else some (.index (Decimal.ofDigits 10 (ds.filterMap Text.decimalValue?)))

/-- The steps that a list of pieces stands for. -/
def segmentsOf? : List Piece → Option (List Segment)
  | [] => some []
  | p :: ps =>
    match p.segment?, segmentsOf? ps with
    | some s, some ss => some (s :: ss)
    | _, _ => none

/-- The steps of a path; nothing when a position has too many digits. -/
def split? (path : String) : Option (List Segment) :=
  let cs := body path.toList
  segmentsOf? (piecesUpTo (cs.length + 1) cs)

/-- Take one step into a value: a name leads into an object, a position into a list. -/
def step? (v : Value) : Segment → Option Value
  | .field name =>
    match v with
    | .object entries => Entries.field? name entries
    | _ => none
  | .index i =>
    match v with
    | .list items => items[i]?
    | _ => none

/-- The value at the end of the steps. -/
def resolveSegments (v : Value) : List Segment → Option Value
  | [] => some v
  | s :: ss => (step? v s).bind fun v => resolveSegments v ss

/-- Why a path leads nowhere. -/
inductive Problem where
  /-- A step does not exist. -/
  | missing
  /-- A position has too many digits. -/
  | tooLong
deriving DecidableEq

/-- The value at a path. -/
def resolve (v : Value) (path : String) : Except Problem Value :=
  match split? path with
  | none => .error .tooLong
  | some segments =>
    match resolveSegments v segments with
    | some v => .ok v
    | none => .error .missing

/-- The names of the steps, when none of them is a position. -/
def fieldNames? : List Segment → Option (List String)
  | [] => some []
  | .field name :: ss => (fieldNames? ss).map (name :: ·)
  | .index _ :: _ => none

/-- Store a value at the end of a list of names, with new objects where none are. -/
def assignNames (entries : Entries) (value : Value) : List String → Entries
  | [] => entries
  | [name] => Entries.put (.text name) value entries
  | name :: names =>
    let inner := match Entries.field? name entries with
      | some (.object inner) => inner
      | _ => []
    Entries.put (.text name) (.object (assignNames inner value names)) entries

/-- Why nothing can be stored at a path. -/
inductive AssignProblem where
  /-- It has no steps, or a position among them. -/
  | invalidTarget (path : String)
  /-- A position has too many digits. -/
  | tooLong
deriving DecidableEq

/-- The names that lead to the place where a value is to be stored. -/
def targetNames (path : String) : Except AssignProblem (List String) :=
  match split? path with
  | none => .error .tooLong
  | some segments =>
    match fieldNames? segments with
    | some (name :: names) => .ok (name :: names)
    | _ => .error (.invalidTarget path)

/-- The wording for a path at which nothing can be stored. -/
def invalidTargetMessage (path : String) : String :=
  "Invalid target field path: '" ++ path ++ "'"

/-- Store a value at a path. -/
def assign (entries : Entries) (path : String) (value : Value) : Except AssignProblem Entries :=
  (targetNames path).map (assignNames entries value)

end IntegrationFlow.Path
