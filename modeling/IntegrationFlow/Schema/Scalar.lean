import IntegrationFlow.Schema.Checked
import IntegrationFlow.Value.Equality
import IntegrationFlow.Decimal.Reading

/-!
# Reading single values

How a value is read where the schema wants a text, a whole number, a number or a flag. Values of a near kind are
accepted: a whole number may be given as a float without a fraction or as a text of digits, a flag as one of the words
for it.
-/

namespace IntegrationFlow.Schema

/-- Any value. -/
def anything (v : Value) : Checked Value :=
  .fits v

/-- A text. -/
def text : Value → Checked String
  | .text s => .fits s
  | _ => .fail .notText

/-- The value of an ASCII digit. -/
def asciiDigit? (c : Char) : Option Nat :=
  if c.isDigit then some (c.toNat - '0'.toNat) else none

/-- Nothing, or a point with nothing but zeros behind it. -/
def isZeroFraction : List Char → Bool
  | [] => true
  | '.' :: cs => cs.all (· == '0')
  | _ => false

/-- Read a whole number from a text. -/
def readWhole (s : String) : Checked Int :=
  let (negative, cs) := Decimal.takeSign (Decimal.trimNumber s.toList)
  if cs.length > Decimal.maxDigits then .fail .wholeTooLong
  else
    match Decimal.takeDigits 10 asciiDigit? cs with
    | (d :: ds, rest) =>
      if isZeroFraction rest then .fits (Decimal.signed negative (Decimal.ofDigits 10 (d :: ds)))
      else .fail .unreadableWhole
    | _ => .fail .unreadableWhole

/-- The number has a form in 64 bits. -/
def isWord (n : Int) : Bool :=
  -9223372036854775808 ≤ n && n ≤ 9223372036854775807

/-- The whole number that a float stands for, strictly within the bounds of 64 bits. -/
def wholeOfFloat (x : Float) : Checked Int :=
  match Decimal.Binary.ofFloat? x with
  | none => .fail .notFinite
  | some b =>
    if !b.isWhole then .fail .fractional
    else if b.truncate.natAbs < 9223372036854775808 then .fits b.truncate
    else .fail .wholeTooLong

/-- A whole number. -/
def whole : Value → Checked Int
  | .bool b => .fits (if b then 1 else 0)
  | .int n => .fits n
  | .float x => wholeOfFloat x
  | .text s => readWhole s
  | _ => .fail .notWhole

/-- A whole number that is not below a bound. -/
def wholeFrom (least : Int) (v : Value) : Checked Int :=
  (whole v).andThen fun n => if n < least then .fail (.below least) else .fits n

/-- A whole number that is not negative. -/
def natural (v : Value) : Checked Nat :=
  (wholeFrom 0 v).map Int.toNat

/-- A number. -/
def number : Value → Checked Float
  | .bool b => .fits (if b then 1.0 else 0.0)
  | .int n => .fits (Decimal.ofInt n)
  | .float x => .fits x
  | .text s =>
    match Decimal.readFloat? s with
    | some x => .fits x
    | none => .fail .unreadableNumber
  | _ => .fail .notNumber

/-- The words for a flag that is set. -/
def wordsForYes : List String := ["1", "on", "t", "true", "y", "yes"]

/-- The words for a flag that is not set. -/
def wordsForNo : List String := ["0", "off", "f", "false", "n", "no"]

/-- The flag that a whole number stands for. -/
def flagOfWhole (n : Int) : Checked Bool :=
  if n = 0 then .fits false
  else if n = 1 then .fits true
  else if isWord n then .fail .unreadableFlag
  else .fail .notFlag

/-- A flag. -/
def flag : Value → Checked Bool
  | .bool b => .fits b
  | .int n => flagOfWhole n
  | .float x =>
    match wholeOfFloat x with
    | .fits n => flagOfWhole n
    | .refused _ => .fail .notFlag
  | .text s =>
    let word := String.ofList (s.toList.map Char.toLower)
    if wordsForYes.contains word then .fits true
    else if wordsForNo.contains word then .fits false
    else .fail .unreadableFlag
  | _ => .fail .notFlag

/-- One of the listed texts, each of which stands for something. -/
def oneOf {α : Type} (options : List (String × α)) : Value → Checked α
  | .text s =>
    match options.lookup s with
    | some a => .fits a
    | none => .fail .notAnOption
  | _ => .fail .notAnOption

/-- A value that may be null. -/
def nullable {α : Type} (read : Value → Checked α) : Value → Checked (Option α)
  | .null => .fits none
  | v => (read v).map some

end IntegrationFlow.Schema
