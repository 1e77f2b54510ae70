import IntegrationFlow.Text.Utf8

/-!
# Encodings of texts

A byte string that holds a text of ASCII brackets, quotes and digits shows its encoding: by a byte order mark, or by where its
first bytes are zero. `decodeText?` finds out the encoding and reads the text.
-/

namespace IntegrationFlow.Text

/-- An encoding; in two or four bytes, the high byte may come first or last. -/
inductive Encoding where
  | utf8
  | utf16 (highFirst : Bool)
  | utf32 (highFirst : Bool)
deriving DecidableEq

/-- The encoding that a byte order mark names, and what follows the mark. -/
def marked? : List UInt8 → Option (Encoding × List UInt8)
  | 0 :: 0 :: 0xFE :: 0xFF :: rest => some (.utf32 true, rest)
  | 0xFF :: 0xFE :: 0 :: 0 :: rest => some (.utf32 false, rest)
  | 0xFE :: 0xFF :: rest => some (.utf16 true, rest)
  | 0xFF :: 0xFE :: rest => some (.utf16 false, rest)
  | 0xEF :: 0xBB :: 0xBF :: rest => some (.utf8, rest)
  | _ => none

/-- The encoding that the first bytes show. -/
def shown : List UInt8 → Encoding
  | a :: b :: c :: d :: _ =>
    if a = 0 then if b = 0 then .utf32 true else .utf16 true
    else if b = 0 then if c = 0 ∧ d = 0 then .utf32 false else .utf16 false
    else .utf8
  | [a, b] => if a = 0 then .utf16 true else if b = 0 then .utf16 false else .utf8
  | _ => .utf8

/-- The units of two bytes. -/
def units16? (highFirst : Bool) : List UInt8 → Option (List Nat)
  | [] => some []
  | [_] => none
  | a :: b :: rest =>
    (units16? highFirst rest).map ((if highFirst then a.toNat * 256 + b.toNat else b.toNat * 256 + a.toNat) :: ·)

/-- The characters that units of two bytes encode; beyond the first 65536, one takes two units. -/
def decodeUnits? : List Nat → Option (List Char)
  | [] => some []
  | u :: rest =>
    if 0xD800 ≤ u ∧ u < 0xDC00 then
      match rest with
      | [] => none
      | v :: rest =>
        if 0xDC00 ≤ v ∧ v < 0xE000 then
          (decodeUnits? rest).map (Char.ofNat (0x10000 + (u - 0xD800) * 1024 + (v - 0xDC00)) :: ·)
        else none
    else if 0xDC00 ≤ u ∧ u < 0xE000 then none
    else (decodeUnits? rest).map (Char.ofNat u :: ·)

/-- The characters that units of four bytes encode. -/
def decodeUtf32? (highFirst : Bool) : List UInt8 → Option (List Char)
  | [] => some []
  | a :: b :: c :: d :: rest =>
    let code := if highFirst then ((a.toNat * 256 + b.toNat) * 256 + c.toNat) * 256 + d.toNat
      else ((d.toNat * 256 + c.toNat) * 256 + b.toNat) * 256 + a.toNat
    match charWithin? 0 0x10FFFF code with
    | some ch => (decodeUtf32? highFirst rest).map (ch :: ·)
    | none => none
  | _ => none

/-- The text that a byte string holds in an encoding. -/
def Encoding.decode? (e : Encoding) (data : List UInt8) : Option String :=
  match e with
  | .utf8 => decodeUtf8? data
  | .utf16 highFirst => ((units16? highFirst data).bind decodeUnits?).map String.ofList
  | .utf32 highFirst => (decodeUtf32? highFirst data).map String.ofList

/-- The text that a byte string holds in the encoding that it shows. -/
def decodeText? (data : List UInt8) : Option String :=
  match marked? data with
  | some (e, rest) => e.decode? rest
  | none => (shown data).decode? data

end IntegrationFlow.Text
