import IntegrationFlow.Value.Equality
import IntegrationFlow.Value.Display
import IntegrationFlow.Decimal.Reading

/-!
# JSON tokens

The words of a JSON text. Besides the standard's own, the three words for floats that are no finite number are read.
A number with a fraction or an exponent is a float, any other a whole number of any size up to `maxDigits` digits.
-/

namespace IntegrationFlow.Json

/-- A word of a JSON text. -/
inductive Token where
  | leftBrace
  | rightBrace
  | leftBracket
  | rightBracket
  | comma
  | colon
  | null
  | bool (b : Bool)
  | int (n : Int)
  | float (x : Float)
  | text (s : String)

/-- The white space of JSON. -/
def isSpace (c : Char) : Bool :=
  c == ' ' || c == '\t' || c == '\n' || c == '\r'

/-- The value of a hexadecimal digit. -/
def hexValue? (c : Char) : Option Nat :=
  if '0' ≤ c ∧ c ≤ '9' then some (c.toNat - '0'.toNat)
  else if 'a' ≤ c ∧ c ≤ 'f' then some (c.toNat - 'a'.toNat + 10)
  else if 'A' ≤ c ∧ c ≤ 'F' then some (c.toNat - 'A'.toNat + 10)
  else none

/-- Four hexadecimal digits as a number. -/
def hex4? (a b c d : Char) : Option Nat :=
  match hexValue? a, hexValue? b, hexValue? c, hexValue? d with
  | some a, some b, some c, some d => some (((a * 16 + b) * 16 + c) * 16 + d)
  | _, _, _, _ => none

/-- The character behind a backslash. -/
def simpleEscape? : Char → Option Char
  | '"' => some '"'
  | '\\' => some '\\'
  | '/' => some '/'
  | 'b' => some (Char.ofNat 8)
  | 'f' => some (Char.ofNat 12)
  | 'n' => some '\n'
  | 'r' => some '\r'
  | 't' => some '\t'
  | _ => none

/-- Put a character in front of what was read. -/
def consRead (c : Char) (read : Option (List Char × List Char)) : Option (List Char × List Char) :=
  read.map fun (cs, rest) => (c :: cs, rest)

/-- Read the characters of a text up to its closing quote, and what follows. A character outside the basic plane may
be written as a pair of surrogate escapes; half a pair alone is refused. -/
def lexText : List Char → Option (List Char × List Char)
  | [] => none
  | '"' :: rest => some ([], rest)
  | '\\' :: 'u' :: a :: b :: c :: d :: rest =>
    match hex4? a b c d with
    | none => none
    | some n =>
      if 0xD800 ≤ n ∧ n < 0xDC00 then
        match rest with
        | '\\' :: 'u' :: a :: b :: c :: d :: rest =>
          match hex4? a b c d with
          | none => none
          | some m =>
            if 0xDC00 ≤ m ∧ m < 0xE000 then
              consRead (Char.ofNat (0x10000 + (n - 0xD800) * 0x400 + (m - 0xDC00))) (lexText rest)
            else none
        | _ => none
      else if 0xDC00 ≤ n ∧ n < 0xE000 then none
      else consRead (Char.ofNat n) (lexText rest)
  | '\\' :: c :: rest =>
    match simpleEscape? c with
    | some c => consRead c (lexText rest)
    | none => none
  | c :: rest => if c.toNat < 32 then none else consRead c (lexText rest)

/-- The ASCII digits at the front of a text, and the rest. -/
def takeAsciiDigits (cs : List Char) : List Char × List Char :=
  (cs.takeWhile Char.isDigit, cs.dropWhile Char.isDigit)

/-- Read an exponent, when there is one: its value, and the rest. -/
def lexExponent : List Char → Option (Option Int × List Char)
  | [] => some (none, [])
  | c :: cs =>
    if c == 'e' || c == 'E' then
      let (negative, cs) := Decimal.takeSign cs
      match takeAsciiDigits cs with
      | ([], _) => none
      | (ds, rest) => some (some (Decimal.signed negative (Decimal.ofAsciiDigits ds)), rest)
    else some (none, c :: cs)

/-- Read a fraction, when there is one: its digits, and the rest. -/
def lexFraction : List Char → Option (Option (List Char) × List Char)
  | '.' :: cs =>
    match takeAsciiDigits cs with
    | ([], _) => none
    | (ds, rest) => some (some ds, rest)
  | cs => some (none, cs)

/-- Read a number behind its sign. -/
def lexUnsigned (negative : Bool) (cs : List Char) : Option (Token × List Char) :=
  match takeAsciiDigits cs with
  | ([], _) => none
  | (whole, rest) =>
    if whole.length > 1 && whole.head? == some '0' then none
    else
      match lexFraction rest with
      | none => none
      | some (fraction, rest) =>
        match lexExponent rest with
        | none => none
        | some (none, rest) =>
          match fraction with
          | none =>
            if whole.length > Decimal.maxDigits then none
            else some (.int (Decimal.signed negative (Decimal.ofAsciiDigits whole)), rest)
          | some ds =>
            let x := Decimal.ofScientific (Decimal.ofAsciiDigits (whole ++ ds)) (-(ds.length : Int))
            some (.float (if negative then -x else x), rest)
        | some (some e, rest) =>
          let ds := fraction.getD []
          let x := Decimal.ofScientific (Decimal.ofAsciiDigits (whole ++ ds)) (e - ds.length)
          some (.float (if negative then -x else x), rest)

/-- Drop a word at the front of a text. -/
def dropWord? : List Char → List Char → Option (List Char)
  | [], cs => some cs
  | w :: ws, c :: cs => if w == c then dropWord? ws cs else none
  | _ :: _, [] => none

/-- The words that stand for a value. -/
def words : List (String × Token) :=
  [("null", .null), ("true", .bool true), ("false", .bool false), ("NaN", .float Decimal.notANumber),
    ("Infinity", .float Decimal.infinity), ("-Infinity", .float (-Decimal.infinity))]

/-- Read one of the words. -/
def lexWord (cs : List Char) : Option (Token × List Char) :=
  words.findSome? fun w => (dropWord? w.1.toList cs).map fun rest => (w.2, rest)

/-- Read one token at the front of a text that does not start with white space. -/
def lexToken : List Char → Option (Token × List Char)
  | [] => none
  | '\x7b' :: rest => some (.leftBrace, rest)
  | '\x7d' :: rest => some (.rightBrace, rest)
  | '[' :: rest => some (.leftBracket, rest)
  | ']' :: rest => some (.rightBracket, rest)
  | ',' :: rest => some (.comma, rest)
  | ':' :: rest => some (.colon, rest)
  | '"' :: rest => (lexText rest).map fun (cs, rest) => (.text (String.ofList cs), rest)
  | c :: rest =>
    match lexWord (c :: rest) with
    | some r => some r
    | none => if c == '-' then lexUnsigned true rest else lexUnsigned false (c :: rest)

/-- Read all tokens, at most `fuel` of them. -/
def lexUpTo : Nat → List Char → Option (List Token)
  | 0, _ => none
  | fuel + 1, cs =>
    match cs.dropWhile isSpace with
    | [] => some []
    | c :: rest => (lexToken (c :: rest)).bind fun (t, rest) => (lexUpTo fuel rest).map (t :: ·)

/-- The tokens of a text; a text has fewer tokens than it has characters and one. -/
def lex (s : String) : Option (List Token) :=
  lexUpTo (s.length + 1) s.toList

end IntegrationFlow.Json
