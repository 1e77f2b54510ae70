import IntegrationFlow.Decimal.Layout
import IntegrationFlow.Text.Blank
import IntegrationFlow.Text.DecimalDigit

/-!
# Reading numbers

`ofScientific` is the float nearest to a decimal. `readFloat?` and `readInt?` read the numbers that people write:
blanks around them are dropped, digits may be of any script and may be grouped by single underscores.
-/

namespace IntegrationFlow.Decimal

/-- The float nearest to `m * 10 ^ e`. -/
def ofScientific (m : Nat) (e : Int) : Float :=
  if m == 0 then 0.0
  else if (digitCount m : Int) + e > 400 then infinity
  else if (digitCount m : Int) + e < -400 then 0.0
  else ofRatio (m * Nat.pow 10 e.toNat) (Nat.pow 10 (-e).toNat)

/-- The value of a digit in bases up to 36: decimal digits of any script, then the letters. -/
def digitValue? (c : Char) : Option Nat :=
  match Text.decimalValue? c with
  | some d => some d
  | none =>
    if 'a' ≤ c ∧ c ≤ 'z' then some (c.toNat - 'a'.toNat + 10)
    else if 'A' ≤ c ∧ c ≤ 'Z' then some (c.toNat - 'A'.toNat + 10)
    else none

/-- The digits below `base` at the front of a text, single underscores between them dropped, and the rest. -/
def takeDigits (base : Nat) (value? : Char → Option Nat) : List Char → List Nat × List Char
  | [] => ([], [])
  | c :: cs =>
    match value? c with
    | some d =>
      if d < base then
        match cs with
        | '_' :: c' :: rest =>
          if (value? c').any (· < base) then
            let (ds, rest') := takeDigits base value? (c' :: rest)
            (d :: ds, rest')
          else ([d], cs)
        | cs =>
          let (ds, rest') := takeDigits base value? cs
          (d :: ds, rest')
      else ([], c :: cs)
    | none => ([], c :: cs)

/-- The number that digits write in a base. -/
def ofDigits (base : Nat) (ds : List Nat) : Nat :=
  ds.foldl (fun n d => base * n + d) 0

/-- The number that ASCII digits write. -/
def ofAsciiDigits (ds : List Char) : Nat :=
  ofDigits 10 (ds.map fun d => d.toNat - '0'.toNat)

/-- A blank that may stand around a number; the separators among the control characters may not. -/
def isBlankAround (c : Char) : Bool :=
  Text.isBlank c && !(28 ≤ c.toNat && c.toNat ≤ 31)

/-- Drop the blanks around a number. -/
def trimNumber (cs : List Char) : List Char :=
  ((cs.dropWhile isBlankAround).reverse.dropWhile isBlankAround).reverse

/-- Split off a sign; true for a minus. -/
def takeSign : List Char → Bool × List Char
  | '-' :: cs => (true, cs)
  | '+' :: cs => (false, cs)
  | cs => (false, cs)

/-- Apply a sign. -/
def signed (negative : Bool) (n : Nat) : Int :=
  if negative then -(n : Int) else n

/-- The text is the stated word, in any case of ASCII letters. -/
def isWord (word : String) (cs : List Char) : Bool :=
  cs.map Char.toLower == word.toList

/-- Read the digits, fraction and exponent of a float without its sign. -/
def readUnsigned? (value? : Char → Option Nat) (cs : List Char) : Option (Nat × Int) :=
  let (whole, rest) := takeDigits 10 value? cs
  let (fraction, rest) :=
    match rest with
    | '.' :: rest => takeDigits 10 value? rest
    | rest => ([], rest)
  let exponent : Option Int :=
    match rest with
    | [] => some 0
    | c :: rest =>
      if c == 'e' || c == 'E' then
        let (negative, rest) := takeSign rest
        match takeDigits 10 value? rest with
        | ([], _) => none
        | (ds, []) => some (signed negative (ofDigits 10 ds))
        | _ => none
      else none
  if whole.isEmpty && fraction.isEmpty then none
  else exponent.map fun e => (ofDigits 10 (whole ++ fraction), e - fraction.length)

/-- Read a float: a decimal, or one of the words for infinity and for what is no number. -/
def readFloat? (s : String) : Option Float :=
  let (negative, cs) := takeSign (trimNumber s.toList)
  let signedFloat (x : Float) := if negative then -x else x
  if isWord "inf" cs || isWord "infinity" cs then some (signedFloat infinity)
  else if isWord "nan" cs then some notANumber
  else (readUnsigned? Text.decimalValue? cs).map fun (m, e) => signedFloat (ofScientific m e)

/-- Drop the mark of a base and one underscore after it. -/
def dropBaseMark (mark : Char) : List Char → Option (List Char)
  | '0' :: c :: '_' :: cs => if c.toLower == mark then some cs else none
  | '0' :: c :: cs => if c.toLower == mark then some cs else none
  | _ => none

/-- Why a text is no whole number. -/
inductive IntProblem where
  /-- The text is not written like one. -/
  | malformed
  /-- It has more digits than are read. -/
  | tooLong
deriving DecidableEq

/-- Read digits that reach to the end. Their count is limited in a base that is not a power of two. -/
def readDigits (base : Nat) (cs : List Char) : Except IntProblem Nat :=
  match takeDigits base digitValue? cs with
  | (d :: ds, []) =>
    if maxDigits < (d :: ds).length && !([2, 4, 8, 16, 32].contains base) then .error .tooLong
    else .ok (ofDigits base (d :: ds))
  | _ => .error .malformed

/-- Read a whole number in a base from 2 to 36, or in base 0, where the marks `0x`, `0o` and `0b` choose the base and
a number without a mark does not start with a zero unless it is zero. -/
def readInt (base : Nat) (s : String) : Except IntProblem Int :=
  let (negative, cs) := takeSign (trimNumber s.toList)
  let result : Except IntProblem Nat :=
    if base == 0 then
      match dropBaseMark 'x' cs, dropBaseMark 'o' cs, dropBaseMark 'b' cs with
      | some cs, _, _ => readDigits 16 cs
      | _, some cs, _ => readDigits 8 cs
      | _, _, some cs => readDigits 2 cs
      | none, none, none =>
        match readDigits 10 cs with
        | .ok n => if n != 0 && (cs.head?.bind Text.decimalValue?) == some 0 then .error .malformed else .ok n
        | e => e
    else
      let mark := if base == 16 then some 'x' else if base == 8 then some 'o' else if base == 2 then some 'b' else none
      match mark.bind fun m => dropBaseMark m cs with
      | some cs => readDigits base cs
      | none => readDigits base cs
  result.map (signed negative)

end IntegrationFlow.Decimal
