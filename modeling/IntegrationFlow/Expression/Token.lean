import IntegrationFlow.Expression.Quoted
import IntegrationFlow.Expression.Literal
import IntegrationFlow.Expression.Newline
import IntegrationFlow.Text.Identifier
import IntegrationFlow.Text.Normal

/-!
# Tokens of expressions

`lexemes` cuts a text into names, keywords, numbers, literals and operators, and into what stands between them; `tokenize`
gives the tokens alone. Outside of brackets the end of a line ends the expression: a `newline` token stands there, and
lines that follow may only hold comments.
-/

namespace IntegrationFlow.Expression

/-- A token. -/
inductive Token where
  | name (s : String)
  | keyword (s : String)
  | number (n : Number)
  | text (ps : List Text.Point)
  | bytes (data : List UInt8)
  /-- A formatted text, with the texts of its slots. -/
  | formatted (slots : List (List Char))
  | symbol (s : String)
  | newline

/-- The words that are no names. -/
def keywords : List String :=
  ["False", "None", "True", "and", "as", "assert", "async", "await", "break", "class", "continue", "def", "del",
    "elif", "else", "except", "finally", "for", "from", "global", "if", "import", "in", "is", "lambda", "nonlocal",
    "not", "or", "pass", "raise", "return", "try", "while", "with", "yield"]

/-- The operators, longer ones before those that they start with. -/
def symbols : List String :=
  ["**=", "//=", ">>=", "<<=", "...", "**", "//", ">>", "<<", "<=", ">=", "==", "!=", "<>", "->", "+=", "-=", "*=",
    "/=", "%=", "@=", "&=", "|=", "^=", ":=", "+", "-", "*", "/", "%", "|", "&", "^", "~", "@", "<", ">", ",", ":",
    ".", ";", "="]

/-- A character that continues a name or could do so; characters outside of ASCII are judged when the name is
complete. -/
def continuesName (c : Char) : Bool :=
  c.isAlphanum || c == '_' || c.toNat ≥ 128

/-- The word is a name by the standard's rule. -/
def isIdentifier (cs : List Char) : Bool :=
  match cs with
  | [] => false
  | c :: cs => Text.isIdentifierStart c && cs.all Text.isIdentifierRest

/-- What may follow a number without a blank: a keyword. Given is the text behind the number. -/
def mayFollowNumber (cs : List Char) : Bool :=
  match cs with
  | [] => true
  | c :: rest =>
    let starts (word : String) := word.toList.isPrefixOf rest
    if c == 'a' && starts "nd" then true
    else if c == 'e' && starts "lse" then true
    else if c == 'f' && starts "or" then true
    else if c == 'i' && (starts "f" || starts "n" || starts "s") then true
    else if c == 'o' && starts "r" then true
    else if c == 'n' && starts "ot" then true
    else !continuesName c

/-- Digits grouped by single underscores, at least one of them, and the rest. An underscore that no digit follows is an
error. -/
def takeGrouped (isDigit : Char → Bool) : List Char → Option (List Char × List Char)
  | [] => none
  | c :: cs =>
    if isDigit c then
      match cs with
      | [] => some ([c], [])
      | '_' :: rest => (takeGrouped isDigit rest).map fun (ds, rest) => (c :: ds, rest)
      | d :: rest =>
        if isDigit d then (takeGrouped isDigit (d :: rest)).map fun (ds, rest) => (c :: ds, rest)
        else some ([c], d :: rest)
    else none

/-- The number that digits write in a base. -/
def ofBase (base : Nat) (ds : List Char) : Nat :=
  Decimal.ofDigits base (ds.map fun d => (Json.hexValue? d).getD 0)

/-- A whole number with a base mark, given the text behind the mark. -/
def takeBased (base : Nat) (isDigit : Char → Bool) (cs : List Char) : Option (Number × List Char) :=
  let cs := match cs with
    | '_' :: rest => rest
    | cs => cs
  (takeGrouped isDigit cs).bind fun (ds, rest) =>
    if mayFollowNumber rest then some (.int (ofBase base ds), rest) else none

/-- Whether an exponent follows: a mark, and behind it a sign or a digit. -/
def exponentFollows : List Char → Bool
  | m :: s :: _ => (m == 'e' || m == 'E') && (s == '+' || s == '-' || s.isDigit)
  | _ => false

/-- Read a whole number that may have a sign. -/
def takeSigned (cs : List Char) : Option (Int × List Char) :=
  let (negative, rest) := Decimal.takeSign cs
  (takeGrouped Char.isDigit rest).map fun (ds, rest) => (Decimal.signed negative (Decimal.ofAsciiDigits ds), rest)

/-- Read an optional exponent. A mark that neither a digit nor a sign follows belongs to the next word. -/
def takeExponent (cs : List Char) : Option (Option Int × List Char) :=
  if exponentFollows cs then (takeSigned (cs.drop 1)).map fun (n, rest) => (some n, rest)
  else some (none, cs)

/-- Read the digits in front of a fraction; there may be none. -/
def takeWhole (cs : List Char) : Option (List Char × List Char) :=
  match cs with
  | '.' :: _ => some ([], cs)
  | cs => takeGrouped Char.isDigit cs

/-- Read an optional fraction; its digits may be missing. -/
def takeFraction (cs : List Char) : Option (Option (List Char) × List Char) :=
  match cs with
  | '.' :: d :: rest =>
    if d.isDigit then (takeGrouped Char.isDigit (d :: rest)).map fun (ds, rest) => (some ds, rest)
    else some (some [], d :: rest)
  | '.' :: [] => some (some [], [])
  | cs => some (none, cs)

/-- Read the mark of an imaginary number, which may be missing. -/
def takeImaginary : List Char → Bool × List Char
  | 'j' :: rest => (true, rest)
  | 'J' :: rest => (true, rest)
  | cs => (false, cs)

/-- The number that the parts of one write. A whole number that is neither zero nor imaginary starts with no zero. -/
def ofParts (whole : List Char) (fraction : Option (List Char)) (exponent : Option Int) (imaginary : Bool) :
    Option Number :=
  if fraction.isNone && exponent.isNone && !imaginary then
    if whole.head? == some '0' && whole.any (· != '0') then none else some (.int (Decimal.ofAsciiDigits whole))
  else
    let ds := fraction.getD []
    let x := Decimal.ofScientific (Decimal.ofAsciiDigits (whole ++ ds)) (exponent.getD 0 - ds.length)
    some (if imaginary then .complex ⟨0.0, x⟩ else .float x)

/-- Read a number in base ten. -/
def takeDecimal (cs : List Char) : Option (Number × List Char) :=
  (takeWhole cs).bind fun (whole, rest) =>
    (takeFraction rest).bind fun (fraction, rest) =>
      (takeExponent rest).bind fun (exponent, rest) =>
        let (imaginary, rest) := takeImaginary rest
        if mayFollowNumber rest then (ofParts whole fraction exponent imaginary).map fun n => (n, rest) else none

/-- The base that a letter behind a zero marks, and its digits. -/
def basis? (c : Char) : Option (Nat × (Char → Bool)) :=
  if c == 'x' || c == 'X' then some (16, fun c => (Json.hexValue? c).isSome)
  else if c == 'o' || c == 'O' then some (8, fun c => (octalValue? c).isSome)
  else if c == 'b' || c == 'B' then some (2, fun c => c == '0' || c == '1')
  else none

/-- Read a number. -/
def takeNumber (cs : List Char) : Option (Number × List Char) :=
  match cs with
  | '0' :: c :: rest =>
    match basis? c with
    | some (base, isDigit) => takeBased base isDigit rest
    | none => takeDecimal cs
  | cs => takeDecimal cs

/-- The letters that may stand in front of a literal, and what they mean: raw, bytes, formatted. -/
def literalFlags? (front : List Char) : Option (Bool × Bool × Bool) :=
  match front.map Char.toLower with
  | [] => some (false, false, false)
  | ['u'] => some (false, false, false)
  | ['r'] => some (true, false, false)
  | ['b'] => some (false, true, false)
  | ['f'] => some (false, false, true)
  | ['b', 'r'] | ['r', 'b'] => some (true, true, false)
  | ['f', 'r'] | ['r', 'f'] => some (true, false, true)
  | _ => none

/-- The token of a literal. -/
def literalToken? (front : List Char) (q : Quoted) : Option Token :=
  (literalFlags? front).bind fun (raw, isBytes, isFormatted) =>
    if isBytes then (decodeBytes raw q.body).map .bytes
    else if isFormatted then (formattedSlots? raw q.body).map .formatted
    else (decodeText raw q.body).map .text

/-- Read a name, a keyword, or a literal with letters in front of it. -/
def takeWord (cs : List Char) : Option (Token × List Char) :=
  let word := cs.takeWhile continuesName
  let rest := cs.dropWhile continuesName
  match rest with
  | q :: rest' =>
    if isQuote q && (literalFlags? word).isSome then
      (takeQuoted q rest').bind fun (quoted, rest) => (literalToken? word quoted).map fun t => (t, rest)
    else wordToken word rest
  | [] => wordToken word rest
where
  /-- The token of a word that is no part of a literal. -/
  wordToken (word rest : List Char) : Option (Token × List Char) :=
    let s := String.ofList word
    if keywords.contains s then some (.keyword s, rest)
    else if isIdentifier word then some (.name (Text.normalForm s), rest)
    else none

/-- Read one of the operators. -/
def takeSymbol (cs : List Char) : Option (Token × List Char) :=
  symbols.findSome? fun s => (Json.dropWord? s.toList cs).map fun rest => (.symbol s, rest)

/-- A literal without letters in front of it. -/
def takeLiteral (c : Char) (cs : List Char) : Option (Token × List Char) :=
  (takeQuoted c cs).bind fun (q, rest) => (literalToken? [] q).map fun t => (t, rest)

/-- Read a literal, a number, a word or an operator that begins with `c`. -/
def takeToken (c : Char) (cs : List Char) : Option (Token × List Char) :=
  if isQuote c then takeLiteral c cs
  else if c.isDigit || (c == '.' && cs.head?.any Char.isDigit) then
    (takeNumber (c :: cs)).map fun (n, rest) => (.number n, rest)
  else if continuesName c then takeWord (c :: cs)
  else takeSymbol (c :: cs)

/-- A stretch of a text that is read at once: a token with its characters, or a part of what stands between tokens. -/
structure Lexeme where
  source : List Char
  token? : Option Token

/-- Where reading stands. -/
structure Lexer where
  /-- The closing brackets of those that are open. -/
  awaited : List Char := []
  /-- At the start of a line: the width of the blanks so far, and the width that holds since the first backslash. -/
  line? : Option (Nat × Nat) := some (0, 0)

/-- The most brackets that may be open at a time. -/
def maxOpenBrackets : Nat := 200

namespace Lexer

/-- A stretch that is no token. -/
def gap (l : Lexer) (source rest : List Char) : Option (Lexeme × Lexer × List Char) :=
  some (⟨source, none⟩, l, rest)

/-- A comment up to the end of its line. -/
def comment (l : Lexer) (cs : List Char) : Option (Lexeme × Lexer × List Char) :=
  l.gap ('#' :: cs.takeWhile (· != '\n')) (cs.dropWhile (· != '\n'))

/-- The token that begins with `c`. The line has started with it. -/
def nextToken (l : Lexer) (c : Char) (cs : List Char) : Option (Lexeme × Lexer × List Char) :=
  match closing? c with
  | some close =>
    if l.awaited.length ≥ maxOpenBrackets then none
    else some (⟨[c], some (.symbol (String.singleton c))⟩, ⟨close :: l.awaited, none⟩, cs)
  | none =>
    if isClosing c then
      match l.awaited with
      | close :: awaited => if close == c then some (⟨[c], some (.symbol (String.singleton c))⟩, ⟨awaited, none⟩, cs) else none
      | [] => none
    else
      (takeToken c cs).map fun (t, rest) =>
        (⟨c :: cs.take (cs.length - rest.length), some t⟩, { l with line? := none }, rest)

/-- What stands next behind the start of a line, at a character `c`. -/
def nextInLine (l : Lexer) (c : Char) (cs : List Char) : Option (Lexeme × Lexer × List Char) :=
  if isSpacing c then l.gap [c] cs
  else if c == '#' then l.comment cs
  else if c == '\n' then
    if l.awaited.isEmpty then some (⟨[c], some .newline⟩, { l with line? := some (0, 0) }, cs) else l.gap [c] cs
  else if c == '\\' then
    match cs with
    | '\n' :: d :: rest => l.gap ['\\', '\n'] (d :: rest)
    | _ => none
  else l.nextToken c cs

/-- What stands next, at a character `c`. At the start of a line that is no more than a comment the blanks do not count,
nor does the end of the line; a backslash goes on with the next line, for which the width in front of the first one
holds. -/
def next (l : Lexer) (c : Char) (cs : List Char) : Option (Lexeme × Lexer × List Char) :=
  match l.line? with
  | none => l.nextInLine c cs
  | some (width, held) =>
    let held' := if held == 0 then width else held
    match column? width c, c, cs with
    | some width, _, _ => ({ l with line? := some (width, held) } : Lexer).gap [c] cs
    | none, '\\', '\n' :: rest => ({ l with line? := some (width, held') } : Lexer).gap ['\\', '\n'] rest
    | none, '\n', _ => ({ l with line? := some (0, 0) } : Lexer).gap ['\n'] cs
    | none, '#', _ => l.comment cs
    | none, _, _ => if held' == 0 then l.nextToken c cs else none

/-- Cut a text into lexemes in at most as many steps as stated. The brackets have to be closed at its end. -/
def lexemesUpTo : Nat → Lexer → List Char → Option (List Lexeme)
  | _, l, [] => if l.awaited.isEmpty then some [] else none
  | 0, _, _ => none
  | fuel + 1, l, c :: cs =>
    (l.next c cs).bind fun (lexeme, l, rest) => (lexemesUpTo fuel l rest).map (lexeme :: ·)

end Lexer

/-- Cut a text whose line breaks are line feeds into lexemes. -/
def lexemes (cs : List Char) : Option (List Lexeme) :=
  Lexer.lexemesUpTo cs.length {} cs

/-- The tokens of a text whose line breaks are line feeds. -/
def tokenize (cs : List Char) : Option (List Token) :=
  (lexemes cs).map (·.filterMap Lexeme.token?)

end IntegrationFlow.Expression
