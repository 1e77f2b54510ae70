import IntegrationFlow.Value.Basic
import IntegrationFlow.Text.Printable
import IntegrationFlow.Decimal.Layout

/-!
# Values as text

`Value.repr?` writes a value so that its kind shows: texts in quotes, lists in brackets. `Value.str?` is the same but
for a text, which stands for itself. Neither has a result for a whole number of more than 4300 digits.
-/

namespace IntegrationFlow

/-- A whole number in base ten; nothing when it is too long. -/
def showInt? (n : Int) : Option String :=
  let s := String.ofList (Decimal.digitsOf n.natAbs)
  if s.length > Decimal.maxDigits then none else some (if n < 0 then "-" ++ s else s)

/-- Lower case hexadecimal digits of a least length. -/
def hexText (width n : Nat) : List Char :=
  Decimal.padZeros width (Nat.toDigits 16 n)

/-- A character inside quotes. -/
def quoteChar (quote c : Char) : List Char :=
  if c == quote || c == '\\' then ['\\', c]
  else if c == '\n' then ['\\', 'n']
  else if c == '\r' then ['\\', 'r']
  else if c == '\t' then ['\\', 't']
  else if Text.isPrintable c then [c]
  else if c.toNat < 0x100 then '\\' :: 'x' :: hexText 2 c.toNat
  else if c.toNat < 0x10000 then '\\' :: 'u' :: hexText 4 c.toNat
  else '\\' :: 'U' :: hexText 8 c.toNat

/-- A code point inside quotes. -/
def quotePoint (quote : Char) : Text.Point → List Char
  | .char c => quoteChar quote c
  | .half n => '\\' :: 'u' :: hexText 4 (0xD800 + n)

/-- A text in quotes: single ones, unless it holds a single quote and no double one. -/
def quotePoints (ps : List Text.Point) : String :=
  let quote := if ps.contains (.char '\'') && !ps.contains (.char '"') then '"' else '\''
  String.ofList (quote :: ps.flatMap (quotePoint quote) ++ [quote])

/-- A text in quotes. -/
def quoteText (s : String) : String :=
  quotePoints (Text.points s.toList)

/-- A byte inside quotes. -/
def quoteByte (quote : Char) (b : UInt8) : List Char :=
  let c := Char.ofNat b.toNat
  if b.toNat < 128 then quoteChar quote c else '\\' :: 'x' :: hexText 2 b.toNat

/-- A byte string in quotes. -/
def quoteBytes (data : List UInt8) : String :=
  let quote := if data.contains 39 && !data.contains 34 then '"' else '\''
  String.ofList ('b' :: quote :: data.flatMap (quoteByte quote) ++ [quote])

/-- The text of a boolean. -/
def showBool (b : Bool) : String :=
  if b then "True" else "False"

/-- Items between brackets. -/
def bracketed (left right : String) (items : List String) : String :=
  left ++ ", ".intercalate items ++ right

/-- A tuple; one item alone is followed by a comma. -/
def showTuple (items : List String) : String :=
  match items with
  | [item] => "(" ++ item ++ ",)"
  | items => bracketed "(" ")" items

namespace Key

mutual

/-- A key as text that shows its kind. -/
def repr? : Key → Option String
  | .null => some "None"
  | .bool b => some (showBool b)
  | .int n => showInt? n
  | .float x => some (Decimal.render x)
  | .complex z => some z.render
  | .text s => some (quoteText s)
  | .broken s => some (quotePoints s.points)
  | .tuple items => (reprs? items).map showTuple
  | .bytes data => some (quoteBytes data)
  | .ellipsis => some "Ellipsis"

/-- Keys as texts. -/
def reprs? : List Key → Option (List String)
  | [] => some []
  | k :: ks => k.repr?.bind fun s => (reprs? ks).map (s :: ·)

end

end Key

namespace Value

mutual

/-- A value as text that shows its kind. -/
def repr? : Value → Option String
  | .null => some "None"
  | .bool b => some (showBool b)
  | .int n => showInt? n
  | .float x => some (Decimal.render x)
  | .complex z => some z.render
  | .text s => some (quoteText s)
  | .broken s => some (quotePoints s.points)
  | .list items => (reprs? items).map (bracketed "[" "]")
  | .tuple items => (reprs? items).map showTuple
  | .object entries => (reprEntries? entries).map (bracketed "\x7b" "\x7d")
  | .bytes data => some (quoteBytes data)
  | .ellipsis => some "Ellipsis"
  | .loop .list => some "[...]"
  | .loop .tuple => some "(...)"
  | .loop .object => some "\x7b...\x7d"

/-- Values as texts. -/
def reprs? : List Value → Option (List String)
  | [] => some []
  | v :: vs => v.repr?.bind fun s => (reprs? vs).map (s :: ·)

/-- Entries as texts. -/
def reprEntries? : Entries → Option (List String)
  | [] => some []
  | e :: es =>
    e.1.repr?.bind fun k => e.2.repr?.bind fun v => (reprEntries? es).map ((k ++ ": " ++ v) :: ·)

end

/-- A value as text; a text stands for itself. -/
def str? : Value → Option String
  | .text s => some s
  | v => v.repr?

end Value

end IntegrationFlow
