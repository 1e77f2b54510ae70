import IntegrationFlow.Expression.Sequence

/-!
# Interpolation

The remainder operator applied to a text fills its conversions (`%s`, `%d`, `%.2f`, …) with values: with the items of a
tuple, with a single value, or by name (`%(key)s`) with the entries of an object. A byte string is filled in the same way;
its characters are its bytes, and only byte strings stand in it as they are. When the outcome is no more than one text as
it was given, it is that very text.
-/

namespace IntegrationFlow.Expression

open Text (Point)

/-- The flags, width and precision of a conversion. -/
structure Conversion where
  left : Bool := false
  plus : Bool := false
  blank : Bool := false
  alternate : Bool := false
  zero : Bool := false
  width : Nat := 0
  precision : Option Nat := none

/-- The values that are still to be used. -/
inductive Supply where
  | items (cs : List Cell)
  | single (c : Cell)
  | used

/-- Take the next value. -/
def Supply.next : Supply → Except Mishap (Cell × Supply)
  | .items (c :: cs) => .ok (c, .items cs)
  | .items [] => .error .wrongKind
  | .single c => .ok (c, .used)
  | .used => .error .wrongKind

/-- Values are left over. -/
def Supply.isLeft : Supply → Bool
  | .items cs => !cs.isEmpty
  | .single _ => true
  | .used => false

/-- Read the flags of a conversion. -/
def takeFlags (c : Conversion) : List Point → Conversion × List Point
  | .char '-' :: ps => takeFlags { c with left := true } ps
  | .char '+' :: ps => takeFlags { c with plus := true } ps
  | .char ' ' :: ps => takeFlags { c with blank := true } ps
  | .char '#' :: ps => takeFlags { c with alternate := true } ps
  | .char '0' :: ps => takeFlags { c with zero := true } ps
  | ps => (c, ps)

/-- Read a key up to its closing parenthesis; `depth` counts those that are open inside of it. -/
def takeName (depth : Nat) : List Point → Option (List Point × List Point)
  | [] => none
  | p :: ps =>
    if p = .char ')' then
      if depth == 0 then some ([], ps) else (takeName (depth - 1) ps).map fun (n, rest) => (p :: n, rest)
    else if p = .char '(' then (takeName (depth + 1) ps).map fun (n, rest) => (p :: n, rest)
    else (takeName depth ps).map fun (n, rest) => (p :: n, rest)

/-- A whole number that the values supply for a width or a precision. -/
def supplied (supply : Supply) : Except Mishap (Int × Supply) := do
  let (c, supply) ← supply.next
  match c.int? with
  | some n => return (n, supply)
  | none => .error .wrongKind

/-- Pad a text to the width of its conversion. -/
def padTo (c : Conversion) (body : List Point) : List Point :=
  let blanks := List.replicate (c.width - body.length) (Point.char ' ')
  if c.left then body ++ blanks else blanks ++ body

/-- Pad a number to the width of its conversion. A sign or base mark in front of zeros stays in front. -/
def padNumber (c : Conversion) (mark body : List Char) : List Point :=
  if c.zero && !c.left then
    Text.points (mark ++ List.replicate (c.width - (mark.length + body.length)) '0' ++ body)
  else padTo c (Text.points (mark ++ body))

/-- The sign in front of a number. -/
def signMark (c : Conversion) (negative : Bool) : List Char :=
  if negative then ['-'] else if c.plus then ['+'] else if c.blank then [' '] else []

/-- A whole number in a base, with the flags of its conversion. -/
def formatInt (c : Conversion) (base : Nat) (baseMark : List Char) (upper : Bool) (n : Int) :
    Except Mishap (List Point) := do
  let digits := Nat.toDigits base n.natAbs
  if base == 10 && digits.length > Decimal.maxDigits then .error .badValue
  let digits := Decimal.padZeros (c.precision.getD 0) digits
  let digits := if upper then digits.map Char.toUpper else digits
  let mark := signMark c (n < 0) ++ if c.alternate then baseMark else []
  return padNumber c mark digits

/-- A float with the flags of its conversion; `style` is one of `e`, `f` and `g`. -/
def formatFloat (c : Conversion) (style : Char) (upper : Bool) (x : Float) : List Point :=
  let places := c.precision.getD 6
  let body : List Char :=
    match Decimal.Binary.ofFloat? x with
    | none => if x.isNaN then ['n', 'a', 'n'] else ['i', 'n', 'f']
    | some b =>
      if style == 'e' then b.scientific places c.alternate
      else if style == 'f' then b.fixed places c.alternate
      else b.general places c.alternate
  let body := if upper then body.map Char.toUpper else body
  padNumber c (signMark c (Decimal.isNegative x && !x.isNaN)) body

/-- A text with what is outside of ASCII escaped. -/
def escapeNonAscii (ps : List Point) : List Point :=
  ps.flatMap fun p =>
    if p.code < 128 then [p]
    else
      Text.points <|
        if p.code < 0x100 then '\\' :: 'x' :: hexText 2 p.code
        else if p.code < 0x10000 then '\\' :: 'u' :: hexText 4 p.code
        else '\\' :: 'U' :: hexText 8 p.code

/-- A text cut to the precision of its conversion and padded. -/
def formatText (c : Conversion) (text? : Option (List Point)) (ascii : Bool) : Except Mishap (List Point) :=
  match text? with
  | none => .error .badValue
  | some ps =>
    let ps := if ascii then escapeNonAscii ps else ps
    let ps := match c.precision with
      | some n => ps.take n
      | none => ps
    .ok (padTo c ps)

/-- The whole number for a decimal conversion; a float is cut. -/
def wholeNumber (c : Cell) : Except Mishap Int :=
  match c.number? with
  | some (.int n) => .ok n
  | some (.float x) => truncateFloat x
  | _ => .error .wrongKind

/-- The bytes of a byte string as code points. -/
def pointsOfBytes (data : List UInt8) : List Point :=
  data.map fun b => .char (Char.ofNat b.toNat)

/-- The text that stands for a value as it is. -/
def formatPlain (c : Conversion) (bytewise : Bool) (v : Cell) : Except Mishap (List Point) :=
  match bytewise, v with
  | false, v => formatText c v.str? false
  | true, .atom _ (.bytes data) => formatText c (some (pointsOfBytes data)) false
  | true, _ => .error .wrongKind

/-- The character that a value stands for. -/
def formatChar (c : Conversion) (bytewise : Bool) (v : Cell) : Except Mishap (List Point) :=
  let one (ps : List Point) : Except Mishap (List Point) :=
    if ps.length == 1 then .ok (padTo c ps) else .error .wrongKind
  match bytewise, v with
  | false, .atom _ (.text ps) => one ps
  | true, .atom _ (.bytes data) => one (pointsOfBytes data)
  | _, v =>
    match v.int? with
    | some n =>
      if 0 ≤ n ∧ n < (if bytewise then 0x100 else 0x110000) then .ok (padTo c [.ofCode n.toNat])
      else .error .overflow
    | none => .error .wrongKind

/-- Fill one conversion with a value. -/
def formatValue (bytewise : Bool) (c : Conversion) (kind : Char) (v : Cell) : Except Mishap (List Point) :=
  match kind with
  | 's' => formatPlain c bytewise v
  | 'b' => if bytewise then formatPlain c bytewise v else .error .badValue
  | 'r' => formatText c v.repr? bytewise
  | 'a' => formatText c v.repr? true
  | 'd' | 'i' | 'u' => do formatInt c 10 [] false (← wholeNumber v)
  | 'o' | 'x' | 'X' =>
    match v.int? with
    | some n =>
      if kind == 'o' then formatInt c 8 ['0', 'o'] false n
      else formatInt c 16 ['0', kind] (kind == 'X') n
    | none => .error .wrongKind
  | 'e' | 'f' | 'g' | 'E' | 'F' | 'G' =>
    match v.number? with
    | some n => do
      let x ← floatOfNumber n
      return formatFloat c kind.toLower kind.isUpper x
    | none => .error .wrongKind
  | 'c' => formatChar c bytewise v
  | _ => .error .badValue

/-- The value itself, when it is the text that it is filled in as. -/
def reused? (kind : Char) (v : Cell) (filled : List Point) : Option Cell :=
  if kind == 's' && v.text? == some filled then some v else none

/-- What the conversions take their values from: the values in turn, and an object for those with a key. -/
structure Source where
  supply : Supply
  named : Option Cell
  /-- A byte string is filled. -/
  bytewise : Bool
  /-- Where pieces of the values arise. -/
  birth : Birth

/-- The values that stand to the right of the operator. -/
def Source.ofCell (b : Birth) (bytewise : Bool) (c : Cell) : Source :=
  match c with
  | .tuple _ _ => ⟨.items (c.parts?.getD []), none, bytewise, b⟩
  | .object _ _ | .list _ _ => ⟨.single c, some c, bytewise, b⟩
  | .atom _ (.bytes _) => ⟨.single c, if bytewise then none else some c, bytewise, b⟩
  | c => ⟨.single c, none, bytewise, b⟩

/-- The key of an entry that is given by name. -/
def Source.key (source : Source) (name : List Point) : Cell :=
  source.birth.atom (if source.bytewise then .bytes (name.map fun p => UInt8.ofNat p.code) else .text name)

/-- No width is beyond this one. -/
def widest : Nat := 9223372036854775807

/-- No precision is beyond this one. -/
def mostPrecise : Nat := 2147483647

/-- The ASCII digits at the front of a text, and the rest. -/
def takeDigitPoints : List Point → List Char × List Point
  | .char c :: ps =>
    if c.isDigit then
      let (ds, rest) := takeDigitPoints ps
      (c :: ds, rest)
    else ([], .char c :: ps)
  | ps => ([], ps)

/-- A width or precision that is given by digits. -/
def measured (most : Nat) (digits : List Char) : Except Mishap Nat :=
  let n := Decimal.ofAsciiDigits digits
  if n ≤ most then .ok n else .error .badValue

/-- A width or precision that the values supply. -/
def bounded (most : Nat) (n : Int) : Except Mishap Unit :=
  if -(most + 1 : Int) ≤ n ∧ n ≤ most then .ok () else .error .overflow

/-- A conversion that was filled: its text, the value that is that text, and what is left. -/
structure Filled where
  text : List Point
  reused? : Option Cell
  source : Source
  rest : List Point

/-- Read one conversion behind its percent sign and fill it. -/
def fillOne (source : Source) (ps : List Point) : Except Mishap Filled := do
  let (source, ps) ←
    match ps with
    | .char '(' :: ps =>
      match source.named with
      | none => .error .wrongKind
      | some container =>
        match takeName 0 ps with
        | none => .error .badValue
        | some (name, ps) => do
          let v ← item source.birth container (source.key name)
          pure ({ source with supply := .single v }, ps)
    | ps => pure (source, ps)
  let (c, ps) := takeFlags {} ps
  let (c, supply, ps) ←
    match ps with
    | .char '*' :: ps => do
      let (n, supply) ← supplied source.supply
      bounded widest n
      let c := if n < 0 then { c with left := true, width := n.natAbs } else { c with width := n.toNat }
      pure (c, supply, ps)
    | ps =>
      let (digits, ps) := takeDigitPoints ps
      let width ← measured widest digits
      pure ({ c with width }, source.supply, ps)
  let (c, supply, ps) ←
    match ps with
    | .char '.' :: .char '*' :: ps => do
      let (n, supply) ← supplied supply
      bounded mostPrecise n
      pure ({ c with precision := some n.toNat }, supply, ps)
    | .char '.' :: ps =>
      let (digits, ps) := takeDigitPoints ps
      let precision ← measured mostPrecise digits
      pure ({ c with precision := some precision }, supply, ps)
    | ps => pure (c, supply, ps)
  let ps := match ps with
    | .char 'h' :: ps => ps
    | .char 'l' :: ps => ps
    | .char 'L' :: ps => ps
    | ps => ps
  match ps with
  | [] => .error .badValue
  | .char '%' :: ps => return ⟨[.char '%'], none, { source with supply }, ps⟩
  | .char kind :: ps => do
    let (v, supply) ← supply.next
    let text ← formatValue source.bytewise c kind v
    return ⟨text, Expression.reused? kind v text, { source with supply }, ps⟩
  | .half _ :: _ => do
    let _ ← supply.next
    .error .badValue

/-- Fill all conversions of a text, in at most `fuel` steps: the outcome, the value that is the outcome, and what is
left of the source. -/
def fillAll : Nat → Source → List Point → Except Mishap (List Point × Option Cell × Source)
  | 0, source, _ => .ok ([], none, source)
  | _ + 1, source, [] => .ok ([], none, source)
  | fuel + 1, source, .char '%' :: ps => do
    let filled ← fillOne source ps
    let (rest, reused?, source) ← fillAll fuel filled.source filled.rest
    return (filled.text ++ rest,
      if filled.rest.isEmpty then filled.reused? else if filled.text.isEmpty then reused? else none, source)
  | fuel + 1, source, p :: ps => do
    let (rest, _, source) ← fillAll fuel source ps
    return (p :: rest, none, source)

/-- Fill the conversions between some code points; values in turn must all be used. -/
def interpolatePoints (ps : List Point) (source : Source) : Except Mishap (List Point × Option Cell) := do
  let (filled, reused?, source) ← fillAll (ps.length + 1) source ps
  if source.supply.isLeft && source.named.isNone then .error .wrongKind
  return (filled, reused?)

/-- Fill the conversions of a text with values. A text without conversions stays as it is. -/
def interpolate (b : Birth) (text : Cell) (ps : List Point) (c : Cell) : Except Mishap Cell :=
  (interpolatePoints ps (.ofCell (b.part 0) false c)).map fun (filled, reused?) =>
    if ps.contains (.char '%') then reused?.getD (b.piece (.text filled)) else text

/-- Fill the conversions of a byte string with values. -/
def interpolateBytes (b : Birth) (data : List UInt8) (c : Cell) : Except Mishap Cell :=
  (interpolatePoints (pointsOfBytes data) (.ofCell (b.part 0) true c)).map fun (filled, _) =>
    b.piece (.bytes (filled.map fun p => UInt8.ofNat p.code))

end IntegrationFlow.Expression
