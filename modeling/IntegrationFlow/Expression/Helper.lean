import IntegrationFlow.Expression.Codec
import IntegrationFlow.Expression.Interpolation
import IntegrationFlow.Text.LetterCase

/-!
# Helper functions

The functions that an expression may call. Each has its own rule for which arguments may be given by position and
which by keyword; a call against the rule is a mishap of the wrong kind. What a helper makes is a new object; but it may
give one of its arguments, or a part of it, as it is.
-/

namespace IntegrationFlow.Expression

open Text (Point)

/-- The arguments of a call. -/
structure Call where
  arguments : List Cell
  keywords : List (String × Cell)

/-- A helper function. -/
inductive Helper where
  | len
  | str
  | int
  | float
  | bool
  | round
  | abs
  | min
  | max
  | sum
  | sorted
  | lower
  | upper
  | get
deriving DecidableEq

/-- The names of the helper functions. -/
def helpers : List (String × Helper) :=
  [("len", .len), ("str", .str), ("int", .int), ("float", .float), ("bool", .bool), ("round", .round), ("abs", .abs),
    ("min", .min), ("max", .max), ("sum", .sum), ("sorted", .sorted), ("lower", .lower), ("upper", .upper),
    ("get", .get)]

/-- The helper with a name. -/
def Helper.ofName? (name : String) : Option Helper :=
  helpers.lookup name

/-- The value of each parameter, given by position or by keyword, when no argument is left over or given twice. -/
def Call.bind (call : Call) (parameters : List String) : Except Mishap (List (Option Cell)) :=
  if call.arguments.length > parameters.length then .error .wrongKind
  else if call.keywords.any fun k => !((parameters.drop call.arguments.length).contains k.1) then .error .wrongKind
  else
    .ok (call.arguments.map some ++
      (parameters.drop call.arguments.length).map fun p => call.keywords.lookup p)

/-- The arguments by position, when none is given by keyword. -/
def Call.positional (call : Call) : Except Mishap (List Cell) :=
  if call.keywords.isEmpty then .ok call.arguments else .error .wrongKind

/-- Only the stated keywords are given. -/
def Call.allows (call : Call) (names : List String) : Except Mishap Unit :=
  if call.keywords.all fun k => names.contains k.1 then .ok () else .error .wrongKind

/-- The text of a value; a text is its own. There is one object for each of the texts of the two booleans. -/
def textCell (b : Birth) (c : Cell) : Except Mishap Cell :=
  match c, c.repr? with
  | .atom _ (.text _), _ => .ok c
  | .atom _ (.bool t), _ =>
    let s := if t then "True" else "False"
    .ok (.atom (.made 0 [.name s]) (.ofString s))
  | _, some ps => .ok (b.atom (.text ps))
  | _, none => .error .badValue

/-- The text of a value without lone surrogates. -/
def textOfValue (v : Value) : Except Mishap String :=
  match v.str? with
  | some s => .ok s
  | none => .error .badValue

/-- The code points of the text of a value. -/
def textOf (c : Cell) : Except Mishap (List Point) :=
  match c.str? with
  | some ps => .ok ps
  | none => .error .badValue

/-- The name of an encoding or of a policy. It is handed on in UTF-8, and ends at no NUL. -/
def nameOf : Cell → Except Mishap String
  | .atom _ (.text ps) =>
    match Text.chars? ps with
    | none => .error .unencodable
    | some cs => if cs.contains (Char.ofNat 0) then .error .badValue else .ok (String.ofList cs)
  | _ => .error .wrongKind

/-- The name that is given for a parameter, or else its default. -/
def nameOr (default : String) : Option Cell → Except Mishap String
  | none => .ok default
  | some c => nameOf c

/-- The text of a value, or the text that a byte string encodes when an encoding or a policy is named. -/
def callStr (b : Birth) (call : Call) : Except Mishap Cell := do
  match ← call.bind ["object", "encoding", "errors"] with
  | [object, none, none] =>
    match object with
    | none => return b.atom (.text [])
    | some c => textCell b c
  | [object, encoding, errors] =>
    let encoding ← nameOr "utf-8" encoding
    let policy ← nameOr "strict" errors
    match object with
    | none => return b.atom (.text [])
    | some (.atom _ (.bytes data)) => return b.piece (.text (← decodeNamed encoding policy data))
    | some _ => .error .wrongKind
  | _ => .error .wrongKind

/-- The characters of a byte string that holds only ASCII. -/
def asciiText? (data : List UInt8) : Option String :=
  if data.all (· < 128) then some (String.ofList (data.map fun b => Char.ofNat b.toNat)) else none

/-- The text in which a number is written: a text without lone halves, or a byte string that holds only ASCII. -/
def numeral? : Cell → Option (Option String)
  | .atom _ (.text ps) => some ((Text.chars? ps).map String.ofList)
  | .atom _ (.bytes data) => some (asciiText? data)
  | _ => none

/-- Read a whole number in a base. -/
def readWhole (base : Nat) (s : String) : Except Mishap Int :=
  match Decimal.readInt base s with
  | .ok n => .ok n
  | .error _ => .error .badValue

/-- Read a whole number in a base, where there is a text to read. -/
def readNumeral (base : Nat) : Option String → Except Mishap Int
  | some s => readWhole base s
  | none => .error .badValue

/-- A whole number: read from a text, or the whole part of a number. -/
def wholeOf (c : Cell) : Except Mishap Int :=
  match numeral? c with
  | some text? => readNumeral 10 text?
  | none => wholeNumber c

/-- The helper `int`; a whole number is its own. -/
def callInt (b : Birth) (call : Call) : Except Mishap Cell := do
  call.allows ["base"]
  let base? := call.keywords.lookup "base"
  match call.arguments, base? with
  | [], none => return b.atom (.int 0)
  | [c], none =>
    match c with
    | .atom _ (.int _) => return c
    | c => return b.atom (.int (← wholeOf c))
  | [c], some base | [c, base], none =>
    match base.int? with
    | none => .error .wrongKind
    | some n =>
      if n != 0 && (n < 2 || n > 36) then .error .badValue
      else
        match numeral? c with
        | some text? => return b.atom (.int (← readNumeral n.toNat text?))
        | none => .error .wrongKind
  | _, _ => .error .wrongKind

/-- Read a float, where there is a text to read. -/
def readFloat (text? : Option String) : Except Mishap Float :=
  match text?.bind Decimal.readFloat? with
  | some x => .ok x
  | none => .error .badValue

/-- A float: read from a text, or nearest to a number. -/
def floatOf (c : Cell) : Except Mishap Float :=
  match numeral? c, c.number? with
  | some text?, _ => readFloat text?
  | none, some n => floatOfNumber n
  | none, none => .error .wrongKind

/-- The helper `float`; a float is its own. -/
def callFloat (b : Birth) (call : Call) : Except Mishap Cell := do
  match ← call.positional with
  | [] => return b.atom (.float 0.0)
  | [c] =>
    match c with
    | .atom _ (.float _) => return c
    | c => return b.atom (.float (← floatOf c))
  | _ => .error .wrongKind

/-- Round a whole number, which is its own without places or with some behind the point. -/
def roundWhole (b : Birth) (c : Cell) (n : Int) (places? : Option Int) : Cell :=
  match places? with
  | none => keep
  | some p => if p ≥ 0 then keep else b.atom (.int (roundTens n p))
where
  /-- A boolean becomes a whole number. -/
  keep : Cell :=
    match c with
    | .atom _ (.int _) => c
    | _ => b.atom (.int n)

/-- The helper `round`. -/
def callRound (b : Birth) (call : Call) : Except Mishap Cell := do
  match ← call.bind ["number", "ndigits"] with
  | [some c, places?] =>
    let places? ← match places? with
      | none | some (.atom _ .null) => pure none
      | some p =>
        match p.int? with
        | some n => pure (some n)
        | none => .error .wrongKind
    match c.number?, places? with
    | some (.int n), places? => return roundWhole b c n places?
    | some (.float x), none => return b.atom (.int (← roundFloat x))
    | some (.float x), some p => return b.atom (.float (← roundPlaces x p))
    | _, _ => .error .wrongKind
  | _ => .error .wrongKind

/-- The first of the values that none of the others precedes. -/
def extreme {α : Type} (precedes : α → α → Except Mishap Bool) (best : α) : List α → Except Mishap α
  | [] => .ok best
  | v :: vs => do
    if ← precedes v best then extreme precedes v vs else extreme precedes best vs

/-- The helpers `min` and `max`: the extreme of the items of one argument, or of several arguments. -/
def callExtreme (b : Birth) (precedes : Cell → Cell → Except Mishap Bool) (call : Call) : Except Mishap Cell := do
  call.allows ["key", "default"]
  let default? := call.keywords.lookup "default"
  let keyed := match call.keywords.lookup "key" with
    | none | some (.atom _ .null) => false
    | some _ => true
  let items ← match call.arguments with
    | [] => .error .wrongKind
    | [v] =>
      match items? b v with
      | some items => pure items
      | none => .error .wrongKind
    | vs => if default?.isSome then .error .wrongKind else pure vs
  match items with
  | [] =>
    match default? with
    | some v => return v
    | none => .error .badValue
  | v :: vs => if keyed then .error .wrongKind else extreme precedes v vs

/-- Whether one value comes after another; they must have an order. -/
def follows (a b : Cell) : Except Mishap Bool :=
  match a.order? .greater b with
  | some r => .ok r
  | none => .error .wrongKind

/-- Add values one after another. -/
def addAll (b : Birth) (start : Cell) : List Cell → Except Mishap Cell
  | [] => .ok start
  | c :: cs => do addAll b (← add b start c) cs

/-- The sum of no values: a float, or a whole number of at most 64 bits, comes out as a new object. -/
def emptySum (b : Birth) (start : Cell) : Cell :=
  match start with
  | .atom _ (.int n) => if -maxCount - 1 ≤ n ∧ n ≤ maxCount then b.atom (.int n) else start
  | .atom _ (.float x) => b.atom (.float x)
  | start => start

/-- The helper `sum`. Texts and byte strings are not summed up. -/
def callSum (b : Birth) (call : Call) : Except Mishap Cell := do
  call.allows ["start"]
  let (c, start) ← match call.arguments, call.keywords.lookup "start" with
    | [c], none => pure (c, b.atom (.int 0))
    | [c], some start => pure (c, start)
    | [c, start], none => pure (c, start)
    | _, _ => .error .wrongKind
  match items? b c, start with
  | none, _ => .error .wrongKind
  | _, .atom _ (.text _) => .error .wrongKind
  | _, .atom _ (.bytes _) => .error .wrongKind
  | some [], start => return emptySum b start
  | some items, start => addAll b start items

/-- The helper `sorted`. -/
def callSorted (b : Birth) (call : Call) : Except Mishap Cell := do
  call.allows ["key", "reverse"]
  match call.arguments.map (items? b) with
  | [some items] =>
    let reverse ← match call.keywords.lookup "reverse" with
      | none => pure false
      | some c =>
        match c.int? with
        | some n => if n < -2147483648 || n > 2147483647 then .error .overflow else pure (n != 0)
        | none => .error .wrongKind
    let keyed := match call.keywords.lookup "key" with
      | none | some (.atom _ .null) => false
      | some _ => true
    if keyed && !items.isEmpty then .error .wrongKind
    else if reverse then return b.list (← sortBy precedes items.reverse).reverse
    else return b.list (← sortBy precedes items)
  | _ => .error .wrongKind

/-- Change the letter case of the characters between lone halves, which have none. `run` are the latest characters, the
last one first. -/
def changeCase (change : String → String) (run : List Char) : List Point → List Point
  | [] => changed run
  | .char c :: ps => changeCase change (c :: run) ps
  | .half n :: ps => changed run ++ .half n :: changeCase change [] ps
where
  /-- What becomes of the characters that were collected. -/
  changed (run : List Char) : List Point :=
    Text.points (change (String.ofList run.reverse)).toList

/-- A helper that changes the letter case of the text of its one argument. -/
def callCase (b : Birth) (change : String → String) (call : Call) : Except Mishap Cell := do
  match ← call.bind ["s"] with
  | [some c] => return b.atom (.text (changeCase change [] (← textOf c)))
  | _ => .error .wrongKind

/-- A point that can stand in a name of a path; a lone half can. -/
def isNamePoint : Point → Bool
  | .char c => Path.isNameChar c
  | .half _ => true

/-- The steps of a path in which lone halves stand, read `fuel` pieces at most; nothing when a position has too many
digits. -/
def brokenSteps? : Nat → List Point → Option (List (Cell → Option Cell))
  | 0, _ => some []
  | _ + 1, [] => some []
  | fuel + 1, p :: ps =>
    if isNamePoint p then
      let key : CellKey := .atom .only (.text (p :: ps.takeWhile isNamePoint))
      (brokenSteps? fuel (ps.dropWhile isNamePoint)).map ((fun c => c.entries?.bind (CellEntries.find? key)) :: ·)
    else
      -- No half stands in a position, so the characters in front of the next one are enough to find it.
      match p, Path.takeIndex ((ps.map Point.char?).takeWhile Option.isSome).reduceOption with
      | .char '[', some (ds, _) =>
        match (Path.Piece.digits ds).segment?, brokenSteps? fuel (ps.drop (ds.length + 1)) with
        | some s, some steps => some ((·.step? s) :: steps)
        | _, _ => none
      | _, _ => brokenSteps? fuel ps

/-- The value at a path that is given by its code points. -/
def atPoints (c : Cell) (ps : List Point) : Except Path.Problem Cell :=
  match Text.chars? ps with
  | some cs => c.resolve (String.ofList cs)
  | none =>
    let isBlank := Point.isChar Text.isBlank
    let ps := match ((ps.dropWhile isBlank).reverse.dropWhile isBlank).reverse with
      | .char '$' :: ps => ps.dropWhile (· = .char '.')
      | ps => ps
    match brokenSteps? ps.length ps with
    | none => .error .tooLong
    | some steps =>
      match steps.foldlM (fun c step => step c) c with
      | some c => .ok c
      | none => .error .missing

/-- The helper `get`: the value at a path, or a default where there is none. -/
def callGet (call : Call) : Except Mishap Cell := do
  match ← call.bind ["data", "path", "default"] with
  | [some data, some path, default?] =>
    match path with
    | .atom _ (.text ps) =>
      match atPoints data ps with
      | .ok c => return c
      | .error .missing => return default?.getD (.atom .only .null)
      | .error .tooLong => .error .badValue
    | .atom _ (.bytes _) => .error .wrongKind
    | _ => .error .noMethod
  | _ => .error .wrongKind

/-- Call a helper. -/
def Helper.apply (h : Helper) (b : Birth) (call : Call) : Except Mishap Cell :=
  match h with
  | .len => do
    match ← call.positional with
    | [c] =>
      match length? c with
      | some n => return b.atom (.int n)
      | none => .error .wrongKind
    | _ => .error .wrongKind
  | .str => callStr b call
  | .int => callInt b call
  | .float => callFloat b call
  | .bool => do
    match ← call.positional with
    | [] => return b.atom (.bool false)
    | [c] => return b.atom (.bool c.truthy)
    | _ => .error .wrongKind
  | .round => callRound b call
  | .abs => do
    match ← call.positional with
    | [c] => absolute b c
    | _ => .error .wrongKind
  | .min => callExtreme b precedes call
  | .max => callExtreme b follows call
  | .sum => callSum b call
  | .sorted => callSorted b call
  | .lower => callCase b Text.lower call
  | .upper => callCase b Text.upper call
  | .get => callGet call

end IntegrationFlow.Expression
