/-!
# UTF-8

`decodeUtf8?` reads a byte string as a text. Overlong forms, surrogates and code points beyond the last one are
refused; `flaw?` says where a byte string goes wrong. `encodeUtf8` goes the other way.
-/

namespace IntegrationFlow.Text

/-- The bytes of a text. -/
def encodeUtf8 (s : String) : List UInt8 :=
  s.toUTF8.toList

/-- The low six bits of a continuation byte. -/
def continuation? (b : UInt8) : Option Nat :=
  if 0x80 ≤ b ∧ b < 0xC0 then some (b.toNat - 0x80) else none

/-- The character with a code point in a range, surrogates apart. -/
def charWithin? (low high code : Nat) : Option Char :=
  if low ≤ code ∧ code ≤ high ∧ ¬(0xD800 ≤ code ∧ code < 0xE000) then some (Char.ofNat code) else none

/-- The characters that a byte string encodes. -/
def decodeChars? : List UInt8 → Option (List Char)
  | [] => some []
  | a :: rest =>
    if a < 0x80 then (decodeChars? rest).map (Char.ofNat a.toNat :: ·)
    else if a < 0xC2 then none
    else if a < 0xE0 then
      match rest with
      | b :: rest =>
        match continuation? b with
        | some b => (decodeChars? rest).map (Char.ofNat ((a.toNat - 0xC0) * 64 + b) :: ·)
        | none => none
      | [] => none
    else if a < 0xF0 then
      match rest with
      | b :: c :: rest =>
        match continuation? b, continuation? c with
        | some b, some c =>
          match charWithin? 0x800 0xFFFF (((a.toNat - 0xE0) * 64 + b) * 64 + c) with
          | some ch => (decodeChars? rest).map (ch :: ·)
          | none => none
        | _, _ => none
      | _ => none
    else
      match rest with
      | b :: c :: d :: rest =>
        match continuation? b, continuation? c, continuation? d with
        | some b, some c, some d =>
          match charWithin? 0x10000 0x10FFFF ((((a.toNat - 0xF0) * 64 + b) * 64 + c) * 64 + d) with
          | some ch => (decodeChars? rest).map (ch :: ·)
          | none => none
        | _, _, _ => none
      | _ => none

/-- The text that a byte string encodes. -/
def decodeUtf8? (data : List UInt8) : Option String :=
  (decodeChars? data).map String.ofList

/-- Bytes that encode no character: where they begin and how many they are, or that the byte string ends before the
character does. -/
structure Flaw where
  index : Nat
  length? : Option Nat
deriving DecidableEq

/-- The ranges of the bytes that follow the first byte of a character. -/
def followers? (a : UInt8) : Option (List (UInt8 × UInt8)) :=
  if a < 0x80 then some []
  else if a < 0xC2 then none
  else if a < 0xE0 then some [(0x80, 0xBF)]
  else if a < 0xF0 then
    some [(if a = 0xE0 then 0xA0 else 0x80, if a = 0xED then 0x9F else 0xBF), (0x80, 0xBF)]
  else if a < 0xF5 then
    some [(if a = 0xF0 then 0x90 else 0x80, if a = 0xF4 then 0x8F else 0xBF), (0x80, 0xBF), (0x80, 0xBF)]
  else none

/-- How many bytes fit before the first one that does not; nothing when there are too few bytes, and the bytes behind them
when all fit. -/
def follow (fitting : Nat) : List (UInt8 × UInt8) → List UInt8 → Except (Option Nat) (List UInt8)
  | [], rest => .ok rest
  | _ :: _, [] => .error none
  | (low, high) :: ranges, b :: rest =>
    if low ≤ b ∧ b ≤ high then follow (fitting + 1) ranges rest else .error (some fitting)

/-- The first flaw, of at most `fuel` characters, in what follows the first `index` bytes. -/
def flawFrom? (index : Nat) : Nat → List UInt8 → Option Flaw
  | 0, _ => none
  | _ + 1, [] => none
  | fuel + 1, a :: rest =>
    match followers? a with
    | none => some ⟨index, some 1⟩
    | some ranges =>
      match follow 1 ranges rest with
      | .error length? => some ⟨index, length?⟩
      | .ok rest => flawFrom? (index + 1 + ranges.length) fuel rest

/-- The first flaw of a byte string. -/
def flaw? (data : List UInt8) : Option Flaw :=
  flawFrom? 0 data.length data

end IntegrationFlow.Text
