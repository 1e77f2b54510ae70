import IntegrationFlow.Expression.Error
import IntegrationFlow.Expression.Literal
import IntegrationFlow.Text.EncodingTable
import IntegrationFlow.Text.Utf8

/-!
# Encoded texts

A byte string is read as a text in an encoding that is given by its name, and a policy says what becomes of bytes that
encode nothing. All encodings are known but those of several bytes for the scripts of East Asia and those of domain names.
-/

namespace IntegrationFlow.Expression

open Text (Point)

/-- What is found at the front of a byte string. -/
inductive Decoded where
  /-- Code points, and the bytes behind them. -/
  | read (ps : List Point) (rest : List UInt8)
  /-- Code points, and then at the front so many bytes that do not encode what they should. -/
  | flawed (before : List Point) (length : Nat)

/-- A way to encode texts; with more than one byte for a unit, the high byte comes first or last. -/
inductive Codec where
  | utf7
  | utf8
  | utf16 (highFirst : Bool)
  | utf32 (highFirst : Bool)
  | ascii
  | latin1
  /-- One byte for each character, by a table. -/
  | table (codes : List (Option Nat))
  /-- Escapes as in literals. -/
  | escapes
  /-- Only the escapes that give a code point by its number. -/
  | numberEscapes

namespace Codec

/-! ### One step -/

/-- The number that the bytes of one character in UTF-8 stand for. -/
def utf8Code (first : UInt8) (others : List UInt8) : Nat :=
  let high := if others.isEmpty then first.toNat else first.toNat % Nat.pow 2 (6 - others.length)
  others.foldl (fun n b => 64 * n + b.toNat % 64) high

/-- A character in UTF-8. -/
def stepUtf8 (first : UInt8) (rest : List UInt8) : Decoded :=
  match Text.followers? first with
  | none => .flawed [] 1
  | some ranges =>
    match Text.follow 1 ranges rest with
    | .error (some fitting) => .flawed [] fitting
    | .error none => .flawed [] (rest.length + 1)
    | .ok behind => .read [.ofCode (utf8Code first (rest.take ranges.length))] behind

/-- A unit of two bytes. -/
def unit16 (highFirst : Bool) (a b : UInt8) : Nat :=
  if highFirst then 256 * a.toNat + b.toNat else 256 * b.toNat + a.toNat

/-- A character in units of two bytes; beyond the first 65536, it takes two units. -/
def stepUtf16 (highFirst : Bool) (data : List UInt8) : Decoded :=
  match data with
  | a :: b :: rest =>
    let u := unit16 highFirst a b
    if 0xD800 ≤ u ∧ u < 0xDC00 then
      match rest with
      | c :: d :: rest =>
        let v := unit16 highFirst c d
        if 0xDC00 ≤ v ∧ v < 0xE000 then .read [.ofCode (0x10000 + (u - 0xD800) * 1024 + (v - 0xDC00))] rest
        else .flawed [] 2
      | _ => .flawed [] data.length
    else if 0xDC00 ≤ u ∧ u < 0xE000 then .flawed [] 2
    else .read [.ofCode u] rest
  | _ => .flawed [] data.length

/-- A character in units of four bytes. -/
def stepUtf32 (highFirst : Bool) (data : List UInt8) : Decoded :=
  match data with
  | a :: b :: c :: d :: rest =>
    let code := if highFirst then 65536 * unit16 true a b + unit16 true c d
      else 65536 * unit16 false c d + unit16 false a b
    if code ≥ 0x110000 ∨ (0xD800 ≤ code ∧ code < 0xE000) then .flawed [] 4 else .read [.ofCode code] rest
  | _ => .flawed [] data.length

/-- The value of a digit in base 64. -/
def base64? (b : UInt8) : Option Nat :=
  let c := Char.ofNat b.toNat
  if c.isUpper then some (b.toNat - 65)
  else if c.isLower then some (b.toNat - 71)
  else if c.isDigit then some (b.toNat + 4)
  else if c == '+' then some 62
  else if c == '/' then some 63
  else none

/-- The code points of units of two bytes, in which halves of pairs may stand alone, and a first half at the end. -/
def joinUnits : List Nat → List Point × Option Point
  | [] => ([], none)
  | [u] => if 0xD800 ≤ u ∧ u < 0xDC00 then ([], some (.ofCode u)) else ([.ofCode u], none)
  | u :: v :: rest =>
    if 0xD800 ≤ u ∧ u < 0xDC00 ∧ 0xDC00 ≤ v ∧ v < 0xE000 then
      let (ps, last?) := joinUnits rest
      (.ofCode (0x10000 + (u - 0xD800) * 1024 + (v - 0xDC00)) :: ps, last?)
    else
      let (ps, last?) := joinUnits (v :: rest)
      (.ofCode u :: ps, last?)

/-- The units of 16 bits in a number of so many bits, from the highest bit on. -/
def unitsOfBits (n : Nat) : Nat → List Nat
  | 0 => []
  | count + 1 => n / Nat.pow 65536 count % 65536 :: unitsOfBits n count

/-- What the digits in base 64 behind a plus sign stand for, and what follows them. -/
def stepShifted (data : List UInt8) : Decoded :=
  let digits := data.takeWhile fun b => (base64? b).isSome
  let rest := data.dropWhile fun b => (base64? b).isSome
  let bits := 6 * digits.length
  let n := digits.foldl (fun n b => 64 * n + (base64? b).getD 0) 0
  let (ps, half?) := joinUnits (unitsOfBits (n / Nat.pow 2 (bits % 16)) (bits / 16))
  let isCut := bits % 16 ≥ 6 || n % Nat.pow 2 (bits % 16) != 0
  match rest with
  | [] => if half?.isSome || isCut then .flawed ps (digits.length + 1) else .read ps []
  | b :: behind =>
    if isCut then .flawed ps (digits.length + 2)
    else
      let ps := if b < 128 && b != 43 then ps ++ half?.toList else ps
      .read ps (if b == 45 then behind else rest)

/-- A character in UTF-7, or several behind a plus sign. -/
def stepUtf7 (first : UInt8) (rest : List UInt8) : Decoded :=
  if first == 43 then
    match rest with
    | 45 :: rest => .read [.char '+'] rest
    | b :: _ => if (base64? b).isSome then stepShifted rest else .flawed [] 2
    | [] => stepShifted rest
  else if first < 128 then .read [.ofCode first.toNat] rest
  else .flawed [] 1

/-- Bytes as characters of their numbers. -/
def asChars (data : List UInt8) : List Char :=
  data.map fun b => Char.ofNat b.toNat

/-- A character, or an escape as in a literal. -/
def stepEscapes (first : UInt8) (rest : List UInt8) : Decoded :=
  if first == 92 then
    match rest with
    | [] => .flawed [] 1
    | c :: rest =>
      match takeEscape (Char.ofNat c.toNat) (asChars rest) with
      | .points ps behind => .read ps (rest.drop (rest.length - behind.length))
      | .flawed length => .flawed [] length
  else .read [.ofCode first.toNat] rest

/-- A character, or an escape with a number of four or eight digits. -/
def stepNumberEscapes (first : UInt8) (rest : List UInt8) : Decoded :=
  if first == 92 then
    match rest with
    | [] => .read [.char '\\'] []
    | c :: rest =>
      if c == 117 || c == 85 then
        match takeHexEscape (if c == 117 then 4 else 8) (asChars rest) with
        | .points ps behind => .read ps (rest.drop (rest.length - behind.length))
        | .flawed length => .flawed [] length
      else .read [.char '\\', .ofCode c.toNat] rest
  else .read [.ofCode first.toNat] rest

/-- What a byte stands for. -/
def stepByte (code? : UInt8 → Option Nat) (first : UInt8) (rest : List UInt8) : Decoded :=
  match code? first with
  | some code => .read [.ofCode code] rest
  | none => .flawed [] 1

/-- What stands at the front of a byte string. -/
def step (c : Codec) (first : UInt8) (rest : List UInt8) : Decoded :=
  match c with
  | utf7 => stepUtf7 first rest
  | utf8 => stepUtf8 first rest
  | utf16 highFirst => stepUtf16 highFirst (first :: rest)
  | utf32 highFirst => stepUtf32 highFirst (first :: rest)
  | ascii => stepByte (fun b => if b < 128 then some b.toNat else none) first rest
  | latin1 => stepByte (fun b => some b.toNat) first rest
  | table codes => stepByte (fun b => (codes[b.toNat]?).join) first rest
  | escapes => stepEscapes first rest
  | numberEscapes => stepNumberEscapes first rest

/-! ### Flaws -/

/-- What becomes of bytes that encode nothing. -/
inductive Policy where
  | strict
  | ignore
  | replace
  /-- The bytes stand as escapes. -/
  | escape
  /-- Each byte becomes half of a surrogate pair. -/
  | surrogateEscape
  /-- Bytes that encode half of a surrogate pair stand for it. -/
  | surrogatePass
  /-- A policy for encoding only. -/
  | misfit
  | unknown

/-- The policy with a name. -/
def Policy.ofName (name : String) : Policy :=
  (([("strict", .strict), ("ignore", .ignore), ("replace", .replace), ("backslashreplace", .escape),
    ("surrogateescape", .surrogateEscape), ("surrogatepass", .surrogatePass), ("xmlcharrefreplace", .misfit),
    ("namereplace", .misfit)] : List (String × Policy)).lookup name).getD .unknown

/-- The half of a surrogate pair that the first bytes would encode, and how many they are. -/
def half? (c : Codec) (data : List UInt8) : Option (Point × Nat) :=
  let found? : Option (Nat × Nat) :=
    match c, data with
    | utf8, a :: b :: d :: _ =>
      if a / 16 == 14 && b / 64 == 2 && d / 64 == 2 then some (utf8Code a [b, d], 3) else none
    | utf16 highFirst, a :: b :: _ => some (unit16 highFirst a b, 2)
    | utf32 highFirst, a :: b :: d :: e :: _ =>
      some (if highFirst then 65536 * unit16 true a b + unit16 true d e
        else 65536 * unit16 false d e + unit16 false a b, 4)
    | _, _ => none
  found?.bind fun (code, length) =>
    if 0xD800 ≤ code ∧ code < 0xE000 then some (.ofCode code, length) else none

/-- What a policy puts in the place of the first `length` bytes, and how many bytes it takes. -/
def Policy.mend (policy : Policy) (c : Codec) (data : List UInt8) (length : Nat) : Except Mishap (List Point × Nat) :=
  match policy with
  | .strict => .error .undecodable
  | .ignore => .ok ([], length)
  | .replace => .ok ([.ofCode 0xFFFD], length)
  | .escape => .ok ((data.take length).flatMap fun b => Text.points ('\\' :: 'x' :: hexText 2 b.toNat), length)
  | .surrogateEscape =>
    match ((data.take length).take 4).takeWhile (· ≥ 128) with
    | [] => .error .undecodable
    | taken => .ok (taken.map fun b => .ofCode (0xDC00 + b.toNat), taken.length)
  | .surrogatePass =>
    match c.half? data with
    | some (p, taken) => .ok ([p], taken)
    | none => .error .undecodable
  | .misfit => .error .wrongKind
  | .unknown => .error .unknownEncoding

/-- The text of a byte string, read in at most `fuel` steps. -/
def decodeUpTo (c : Codec) (policy : Policy) : Nat → List UInt8 → Except Mishap (List Point)
  | 0, _ => .ok []
  | _ + 1, [] => .ok []
  | fuel + 1, b :: rest =>
    match c.step b rest with
    | .read ps behind => (decodeUpTo c policy fuel behind).map (ps ++ ·)
    | .flawed before length => do
      let (mended, taken) ← policy.mend c (b :: rest) length
      let ps ← decodeUpTo c policy fuel ((b :: rest).drop taken)
      return before ++ mended ++ ps

/-- The text of a byte string. -/
def decode (c : Codec) (policy : Policy) (data : List UInt8) : Except Mishap (List Point) :=
  c.decodeUpTo policy data.length data

/-! ### Names -/

/-- The name of an encoding in small letters, with one underscore for what stands between its words. -/
def normalName (afterMark : Bool) (begun : Bool) : List Char → List Char
  | [] => []
  | c :: cs =>
    if c.isAlphanum || c == '.' then
      let rest := c.toLower :: normalName false true cs
      if afterMark && begun then '_' :: rest else rest
    else normalName true begun cs

/-- The code points of a table of bytes. -/
def codesOf : List Char → List (Option Nat)
  | a :: b :: c :: d :: rest => ((Json.hex4? a b c d).filter (· != 0xFFFF)) :: codesOf rest
  | _ => []

/-- The codec with a name, and the bytes without a byte order mark where one is looked for. -/
def ofOwnName? (name : String) (data : List UInt8) : Option (Codec × List UInt8) :=
  match name with
  | "utf_8" => some (utf8, data)
  | "utf_8_sig" => some (utf8, if [0xEF, 0xBB, 0xBF].isPrefixOf data then data.drop 3 else data)
  | "utf_16" =>
    match data with
    | 0xFF :: 0xFE :: rest => some (utf16 false, rest)
    | 0xFE :: 0xFF :: rest => some (utf16 true, rest)
    | data => some (utf16 false, data)
  | "utf_16_le" => some (utf16 false, data)
  | "utf_16_be" => some (utf16 true, data)
  | "utf_32" =>
    match data with
    | 0xFF :: 0xFE :: 0 :: 0 :: rest => some (utf32 false, rest)
    | 0 :: 0 :: 0xFE :: 0xFF :: rest => some (utf32 true, rest)
    | data => some (utf32 false, data)
  | "utf_32_le" => some (utf32 false, data)
  | "utf_32_be" => some (utf32 true, data)
  | "utf_7" => some (utf7, data)
  | "ascii" => some (ascii, data)
  | "latin_1" | "iso8859_1" | "charmap" => some (latin1, data)
  | "unicode_escape" => some (escapes, data)
  | "raw_unicode_escape" => some (numberEscapes, data)
  | name =>
    (Text.byteEncodings.lookup name).map fun codes =>
      let codes := codesOf (String.join codes).toList
      (table (if codes.length < 256 then (List.range 128).map some ++ codes else codes), data)

/-- The codec with a name, which may be an alias and is spelled loosely. -/
def ofName? (name : String) (data : List UInt8) : Option (Codec × List UInt8) :=
  let name := String.ofList (normalName false false name.toList)
  let alias? := (Text.encodingAliases.lookup name).or
    (Text.encodingAliases.lookup (String.ofList (name.toList.map fun c => if c == '.' then '_' else c)))
  (alias?.bind (ofOwnName? · data)).or (ofOwnName? name data)

end Codec

/-- The text of a byte string in the encoding with a name. An empty one is read in any. -/
def decodeNamed (encoding policy : String) (data : List UInt8) : Except Mishap (List Point) :=
  if data.isEmpty then .ok []
  else
    match Codec.ofName? encoding data with
    | some (c, data) => c.decode (.ofName policy) data
    | none => .error .unknownEncoding

end IntegrationFlow.Expression
