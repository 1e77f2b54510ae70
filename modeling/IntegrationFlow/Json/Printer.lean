import IntegrationFlow.Json.Token
import IntegrationFlow.Text.Utf8

/-!
# Writing JSON

`plain` turns a value into one that JSON can hold: tuples become lists, byte strings the text that they encode, complex
numbers and keys texts, and floats that are not finite null. A text with lone surrogates stays as it is, but it cannot be
written (`writable`). `render` writes a value, and `pretty` writes it with two blanks of indentation for each level.
-/

namespace IntegrationFlow.Json

/-- Why a value has no JSON form: an ellipsis, a byte string that is not UTF-8, a whole number without text as a key, a text
with lone surrogates, a value that is a part of itself, or one that is nested too deeply. -/
inductive Unwritable where
  | kind
  | encoding (flaw? : Option Text.Flaw)
  | tooLong
  | surrogate
  | circular
  | tooDeep
deriving DecidableEq

/-- The wording of the reason. -/
def Unwritable.message : Unwritable → String
  | .kind => "Unable to serialize unknown type: <class 'ellipsis'>"
  | .encoding (some ⟨index, some length⟩) =>
    s!"Error serializing to JSON: invalid utf-8 sequence of {length} bytes from index {index}"
  | .encoding (some ⟨index, none⟩) => s!"Error serializing to JSON: incomplete utf-8 byte sequence from index {index}"
  | .encoding none => "Error serializing to JSON"
  | .tooLong =>
    s!"Error serializing to JSON: ValueError: Exceeds the limit ({Decimal.maxDigits} digits) for integer string conversion" ++
      "; use sys.set_int_max_str_digits() to increase the limit"
  | .surrogate => "Error serializing to JSON: surrogates not allowed"
  | .circular => "Error serializing to JSON: ValueError: Circular reference detected (id repeated)"
  | .tooDeep => "Error serializing to JSON: ValueError: Circular reference detected (depth exceeded)"

/-- A finite float stands for itself and every other for null. -/
def plainFloat (x : Float) : Value :=
  if x.isFinite then .float x else .null

/-- The text of an encoded byte string. -/
def plainBytes (data : List UInt8) : Except Unwritable String :=
  match Text.decodeUtf8? data with
  | some s => .ok s
  | none => .error (.encoding (Text.flaw? data))

/-- The text of a whole number. -/
def plainInt (n : Int) : Except Unwritable String :=
  match showInt? n with
  | some s => .ok s
  | none => .error .tooLong

mutual

/-- A key as the text that JSON holds; the items of a tuple are joined by commas. -/
def plainKey : Key → Except Unwritable String
  | .null => .ok "None"
  | .bool b => .ok (if b then "true" else "false")
  | .int n => plainInt n
  | .float x => .ok (Decimal.render x)
  | .complex z => .ok z.plain
  | .text s => .ok s
  | .broken _ => .error .surrogate
  | .tuple items => (plainKeys items).map (",".intercalate ·)
  | .bytes data => plainBytes data
  | .ellipsis => .error .kind

/-- Keys as texts. -/
def plainKeys : List Key → Except Unwritable (List String)
  | [] => .ok []
  | k :: ks => do
    let s ← plainKey k
    let ss ← plainKeys ks
    return s :: ss

end

mutual

/-- The value as JSON holds it. -/
def plain : Value → Except Unwritable Value
  | .null => .ok .null
  | .bool b => .ok (.bool b)
  | .int n => .ok (.int n)
  | .float x => .ok (plainFloat x)
  | .complex z => .ok (.text z.plain)
  | .text s => .ok (.text s)
  | .broken s => .ok (.broken s)
  | .list items => (plainItems items).map .list
  | .tuple items => (plainItems items).map .list
  | .object entries => (plainEntries [] entries).map .object
  | .bytes data => (plainBytes data).map .text
  | .ellipsis => .error .kind
  | .loop _ => .error .circular

/-- The values as JSON holds them. -/
def plainItems : List Value → Except Unwritable (List Value)
  | [] => .ok []
  | v :: vs => do
    let v ← plain v
    let vs ← plainItems vs
    return v :: vs

/-- The entries as JSON holds them; of two keys with the same text the later value wins. -/
def plainEntries (done : Entries) : Entries → Except Unwritable Entries
  | [] => .ok done
  | e :: es => do
    let k ← plainKey e.1
    let v ← plain e.2
    plainEntries (Entries.put (.text k) v done) es

end

mutual

/-- There is no text with lone surrogates in the value. -/
def isWhole : Value → Bool
  | .broken _ => false
  | .list items => areWhole items
  | .tuple items => areWhole items
  | .object entries => holdWhole entries
  | _ => true

/-- There is no text with lone surrogates in the values. -/
def areWhole : List Value → Bool
  | [] => true
  | v :: vs => isWhole v && areWhole vs

/-- There is no text with lone surrogates under a key of the entries. -/
def holdWhole : Entries → Bool
  | [] => true
  | e :: es => isWhole e.2 && holdWhole es

end

/-- The value as JSON holds it, when it can be written. -/
def writable (v : Value) : Except Unwritable Value :=
  match plain v with
  | .error why => .error why
  | .ok w => if isWhole w then .ok w else .error .surrogate

/-- A character inside a JSON text. -/
def escapeChar (c : Char) : List Char :=
  if c == '"' || c == '\\' then ['\\', c]
  else if c == '\n' then ['\\', 'n']
  else if c == '\r' then ['\\', 'r']
  else if c == '\t' then ['\\', 't']
  else if c == Char.ofNat 8 then ['\\', 'b']
  else if c == Char.ofNat 12 then ['\\', 'f']
  else if c.toNat < 32 then '\\' :: 'u' :: hexText 4 c.toNat
  else [c]

/-- A text between double quotes. -/
def quote (s : String) : String :=
  String.ofList ('"' :: s.toList.flatMap escapeChar ++ ['"'])

/-- A whole number in base ten. -/
def showInt (n : Int) : String :=
  let s := String.ofList (Decimal.digitsOf n.natAbs)
  if n < 0 then "-" ++ s else s

/-- A key of an object in JSON form. -/
def fieldName : Key → String
  | .text s => quote s
  | k => quote ((k.repr?).getD "")

mutual

/-- A value as JSON text without spaces. -/
def render : Value → String
  | .null => "null"
  | .bool b => if b then "true" else "false"
  | .int n => showInt n
  | .float x => if x.isFinite then Decimal.render x else "null"
  | .complex z => quote z.plain
  | .text s => quote s
  | .broken _ => "null"
  | .list items => "[" ++ ",".intercalate (renderItems items) ++ "]"
  | .tuple items => "[" ++ ",".intercalate (renderItems items) ++ "]"
  | .object entries => "\x7b" ++ ",".intercalate (renderEntries entries) ++ "\x7d"
  | .bytes _ => "null"
  | .ellipsis => "null"
  | .loop _ => "null"

/-- Values as JSON texts. -/
def renderItems : List Value → List String
  | [] => []
  | v :: vs => render v :: renderItems vs

/-- Entries as JSON texts. -/
def renderEntries : Entries → List String
  | [] => []
  | e :: es => (fieldName e.1 ++ ":" ++ render e.2) :: renderEntries es

end

/-- A line break and the indentation of a level. -/
def indentation (level : Nat) : String :=
  "\n" ++ String.ofList (List.replicate (2 * level) ' ')

/-- Items on lines of their own between brackets. -/
def block (level : Nat) (left right : String) (items : List String) : String :=
  if items.isEmpty then left ++ right
  else left ++ indentation (level + 1) ++ ("," ++ indentation (level + 1)).intercalate items ++ indentation level ++ right

mutual

/-- A value as JSON text with indentation, inside `level` brackets. -/
def prettyAt (level : Nat) : Value → String
  | .list items => block level "[" "]" (prettyItems (level + 1) items)
  | .object entries => block level "\x7b" "\x7d" (prettyEntries (level + 1) entries)
  | .tuple items => block level "[" "]" (prettyItems (level + 1) items)
  | v => render v

/-- Values as JSON texts with indentation. -/
def prettyItems (level : Nat) : List Value → List String
  | [] => []
  | v :: vs => prettyAt level v :: prettyItems level vs

/-- Entries as JSON texts with indentation. -/
def prettyEntries (level : Nat) : Entries → List String
  | [] => []
  | e :: es => (fieldName e.1 ++ ": " ++ prettyAt level e.2) :: prettyEntries level es

end

/-- A value as JSON text with indentation. -/
def pretty (v : Value) : String :=
  prettyAt 0 v

end IntegrationFlow.Json
