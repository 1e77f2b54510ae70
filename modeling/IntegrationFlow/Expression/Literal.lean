import IntegrationFlow.Json.Token
import IntegrationFlow.Text.CharacterName
import IntegrationFlow.Text.Point

/-!
# The content of literals

What the body of a literal stands for: escapes are replaced unless the literal is raw. Formatted texts are cut into
their literal parts and the texts of their slots.
-/

namespace IntegrationFlow.Expression

open Text (Point)

/-- The value of an octal digit. -/
def octalValue? (c : Char) : Option Nat :=
  if '0' ≤ c ∧ c ≤ '7' then some (c.toNat - '0'.toNat) else none

/-- At most `count` further octal digits. -/
def takeOctal : Nat → Nat → List Char → Nat × List Char
  | 0, n, cs => (n, cs)
  | _ + 1, n, [] => (n, [])
  | count + 1, n, c :: cs =>
    match octalValue? c with
    | some d => takeOctal count (8 * n + d) cs
    | none => (n, c :: cs)

/-- At most `count` hexadecimal digits: how many are missing, the number that they write, and the rest. -/
def takeHex : Nat → Nat → List Char → Nat × Nat × List Char
  | 0, n, cs => (0, n, cs)
  | count + 1, n, [] => (count + 1, n, [])
  | count + 1, n, c :: cs =>
    match Json.hexValue? c with
    | some d => takeHex count (16 * n + d) cs
    | none => (count + 1, n, c :: cs)

/-- The characters that a backslash and one letter stand for. -/
def letterEscape? : Char → Option Nat
  | '\\' => some 92
  | '\'' => some 39
  | '"' => some 34
  | 'a' => some 7
  | 'b' => some 8
  | 'f' => some 12
  | 'n' => some 10
  | 'r' => some 13
  | 't' => some 9
  | 'v' => some 11
  | _ => none

/-- How many hexadecimal digits follow a marking letter. -/
def hexEscapeLength? : Char → Option Nat
  | 'x' => some 2
  | 'u' => some 4
  | 'U' => some 8
  | _ => none

/-- What stands at the front of a text with escapes. -/
inductive Escaped where
  /-- The code points that it stands for, and what follows it. -/
  | points (ps : List Point) (rest : List Char)
  /-- An escape that is not complete, or stands for nothing, and its length. -/
  | flawed (length : Nat)

/-- A code point that is given by `count` hexadecimal digits behind a backslash and a letter. -/
def takeHexEscape (count : Nat) (cs : List Char) : Escaped :=
  match takeHex count 0 cs with
  | (0, n, rest) => if n > 0x10FFFF then .flawed (2 + count) else .points [.ofCode n] rest
  | (missing, _, _) => .flawed (2 + (count - missing))

/-- A character that is given by its name in braces behind a backslash and a letter. -/
def takeNameEscape (cs : List Char) : Escaped :=
  match cs with
  | '\x7b' :: cs =>
    let name := cs.takeWhile (· != '\x7d')
    match cs.dropWhile (· != '\x7d') with
    | [] => .flawed (3 + name.length)
    | _ :: rest =>
      match Text.named? name with
      | some c => .points [.char c] rest
      | none => .flawed (if name.isEmpty then 3 else 4 + name.length)
  | _ => .flawed 2

/-- What a backslash and the character `c` behind it stand for. Before anything but an escape, the backslash stands for
itself. -/
def takeEscape (c : Char) (cs : List Char) : Escaped :=
  if c == '\n' then .points [] cs
  else
    match letterEscape? c, octalValue? c, hexEscapeLength? c with
    | some n, _, _ => .points [.ofCode n] cs
    | none, some d, _ =>
      let (n, rest) := takeOctal 2 d cs
      .points [.ofCode n] rest
    | none, none, some count => takeHexEscape count cs
    | none, none, none => if c == 'N' then takeNameEscape cs else .points [.char '\\', .char c] cs

/-- Replace the escapes of a text, in at most `fuel` steps. -/
def decodeTextUpTo : Nat → List Char → Option (List Point)
  | 0, _ => none
  | _ + 1, [] => some []
  | fuel + 1, '\\' :: c :: cs =>
    match takeEscape c cs with
    | .points ps rest => (decodeTextUpTo fuel rest).map (ps ++ ·)
    | .flawed _ => none
  | _ + 1, ['\\'] => none
  | fuel + 1, c :: cs => (decodeTextUpTo fuel cs).map (.char c :: ·)

/-- The text of a literal body. -/
def decodeText (raw : Bool) (body : List Char) : Option (List Point) :=
  if raw then some (Text.points body) else decodeTextUpTo (body.length + 1) body

/-- Replace the escapes of a byte string, in at most `fuel` steps. -/
def decodeBytesUpTo : Nat → List Char → Option (List UInt8)
  | 0, _ => none
  | _ + 1, [] => some []
  | fuel + 1, '\\' :: c :: cs =>
    if c == '\n' then decodeBytesUpTo fuel cs
    else
      match letterEscape? c, octalValue? c with
      | some n, _ => (decodeBytesUpTo fuel cs).map (n.toUInt8 :: ·)
      | none, some d =>
        let (n, rest) := takeOctal 2 d cs
        (decodeBytesUpTo fuel rest).map (n.toUInt8 :: ·)
      | none, none =>
        if c == 'x' then
          match takeHex 2 0 cs with
          | (0, n, rest) => (decodeBytesUpTo fuel rest).map (n.toUInt8 :: ·)
          | _ => none
        else (decodeBytesUpTo fuel cs).map fun rest => 92 :: c.toNat.toUInt8 :: rest
  | fuel + 1, c :: cs => (decodeBytesUpTo fuel cs).map (c.toNat.toUInt8 :: ·)

/-- The bytes of a literal body, which may hold ASCII characters only. -/
def decodeBytes (raw : Bool) (body : List Char) : Option (List UInt8) :=
  if body.any (·.toNat ≥ 128) then none
  else if raw then some (body.map (·.toNat.toUInt8))
  else decodeBytesUpTo (body.length + 1) body

/-- The bracket that closes an opening one. -/
def closing? : Char → Option Char
  | '(' => some ')'
  | '[' => some ']'
  | '\x7b' => some '\x7d'
  | _ => none

/-- The brackets that close. -/
def isClosing (c : Char) : Bool :=
  c == ')' || c == ']' || c == '\x7d'

/-- Find the end of the expression in a slot: the first `!`, `:`, `=` or closing brace outside of brackets and quotes
that is not part of a comparison. `stack` holds the closing brackets awaited, `mark` the open quote and whether it is a
triple one. The result is the expression and the text from its end on. -/
def slotExpressionUpTo : Nat → List Char → Option (Char × Bool) → List Char → Option (List Char × List Char)
  | 0, _, _, _ => none
  | _ + 1, _, _, [] => none
  | fuel + 1, stack, mark, c :: cs =>
    let keep (n : Nat) (stack : List Char) (mark : Option (Char × Bool)) :=
      (slotExpressionUpTo fuel stack mark ((c :: cs).drop n)).map fun (e, rest) => ((c :: cs).take n ++ e, rest)
    if c == '\\' then none
    else
      match mark with
      | some (q, triple) =>
        if c == q then
          if triple then (if cs.take 2 == [q, q] then keep 3 stack none else keep 1 stack mark)
          else keep 1 stack none
        else keep 1 stack mark
      | none =>
        if c == '\'' || c == '"' then
          if cs.take 2 == [c, c] then keep 3 stack (some (c, true)) else keep 1 stack (some (c, false))
        else
          match closing? c with
          | some close => if stack.length ≥ 200 then none else keep 1 (close :: stack) none
          | none =>
            if c == '#' then none
            else if stack.isEmpty && ['!', ':', '\x7d', '=', '>', '<'].contains c then
              if cs.head? == some '=' && ['!', '=', '<', '>'].contains c then keep 2 stack none
              else if c == '>' || c == '<' then keep 1 stack none
              else some ([], c :: cs)
            else if c == ')' || c == ']' || c == '\x7d' then
              match stack with
              | close :: stack => if close == c then keep 1 stack none else none
              | [] => none
            else keep 1 stack none

/-- The parts of a formatted text. -/
structure Formatted where
  /-- The texts between the slots. -/
  literals : List (List Char)
  /-- The texts of the expressions in the slots. -/
  slots : List (List Char)

/-- Put a character in front of the first literal part. -/
def Formatted.consChars (cs : List Char) (f : Formatted) : Formatted :=
  match f.literals with
  | l :: ls => { f with literals := (cs ++ l) :: ls }
  | [] => { f with literals := [cs] }

/-- Skip the blanks after an equals sign in a slot. -/
def skipBlanks (cs : List Char) : List Char :=
  cs.dropWhile fun c => c == ' ' || (9 ≤ c.toNat && c.toNat ≤ 13)

/-- Read the parts of a formatted text. Inside a slot (`level` above zero) the text ends before the closing brace, which
is left in the rest; a slot may be nested in the format of another one, but no deeper. -/
def readFormattedUpTo : Nat → Nat → Bool → List Char → Option (Formatted × List Char)
  | 0, _, _, _ => none
  | _ + 1, level, _, [] => if level == 0 then some (⟨[], []⟩, []) else none
  | fuel + 1, level, raw, c :: cs =>
    let more (front rest : List Char) :=
      (readFormattedUpTo fuel level raw rest).map fun (f, rest) => (f.consChars front, rest)
    let slot (cs : List Char) : Option (Formatted × List Char) :=
      if level ≥ 2 then none
      else
        (slotExpressionUpTo (cs.length + 1) [] none cs).bind fun (e, rest) =>
          let rest := match rest with
            | '=' :: rest => skipBlanks rest
            | rest => rest
          let converted : Option (List Char) := match rest with
            | '!' :: k :: rest => if ['s', 'r', 'a'].contains k then some rest else none
            | '!' :: [] => none
            | rest => some rest
          converted.bind fun rest =>
            let nested : Option (List (List Char) × List (List Char) × List Char) := match rest with
              | ':' :: rest =>
                (readFormattedUpTo fuel (level + 1) raw rest).map fun (f, rest) => (f.literals, f.slots, rest)
              | rest => some ([], [], rest)
            nested.bind fun (ls, ss, rest) =>
              match rest with
              | '\x7d' :: rest =>
                (readFormattedUpTo fuel level raw rest).map fun (f, rest) =>
                  (⟨[] :: ls ++ f.literals, e :: ss ++ f.slots⟩, rest)
              | _ => none
    if c == '\\' && !raw then
      match cs with
      | [] => none
      | d :: rest =>
        if d == '\x7b' then
          if level == 0 && rest.head? == some '\x7b' then more ['\\', '\x7b'] (rest.drop 1)
          else (slot rest).map fun (f, rest) => (f.consChars ['\\'], rest)
        else if d == '\x7d' then
          if level == 0 then
            if rest.head? == some '\x7d' then more ['\\', '\x7d'] (rest.drop 1) else none
          else some (⟨[['\\']], []⟩, '\x7d' :: rest)
        else more ['\\', d] rest
    else if c == '\x7b' then
      if level == 0 && cs.head? == some '\x7b' then more ['\x7b'] (cs.drop 1) else slot cs
    else if c == '\x7d' then
      if level == 0 then (if cs.head? == some '\x7d' then more ['\x7d'] (cs.drop 1) else none)
      else some (⟨[], []⟩, '\x7d' :: cs)
    else more [c] cs

/-- The texts of the slots of a formatted text, when it is well formed. -/
def formattedSlots? (raw : Bool) (body : List Char) : Option (List (List Char)) :=
  (readFormattedUpTo (body.length + 1) 0 raw body).bind fun (f, _) =>
    if f.literals.all fun l => (decodeText raw l).isSome then
      if f.slots.all fun s => !(s.all fun c => c == ' ' || c == '\t' || c == '\n' || c.toNat == 12) then some f.slots
      else none
    else none

end IntegrationFlow.Expression
