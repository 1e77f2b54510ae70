import IntegrationFlow.Decimal.Reading
import IntegrationFlow.Text.NameTable
import IntegrationFlow.Text.Normal
import IntegrationFlow.Text.Range

/-!
# Character names

`named?` is the character with a name. The names of syllables and of unified ideographs follow a rule and are read as they
are written; the letters of all others may be small ones.
-/

namespace IntegrationFlow.Text

/-- The value of a digit of the table of names: a decimal digit or a small letter. -/
def sharedLetters (c : Char) : Nat :=
  if c.isDigit then c.toNat - '0'.toNat else c.toNat - 'a'.toNat + 10

/-- The number of the character with a name among those of some entries of the table, of which the first belongs to the
character `code`; `last` is the name in front of them. -/
def codeAmong? (name : List Char) (code : Nat) (last : List Char) : List String → Option Nat
  | [] => none
  | entry :: entries =>
    match entry.toList with
    | [] => codeAmong? name (code + 1) last entries
    | shared :: rest =>
      let this := last.take (sharedLetters shared) ++ rest
      if this == name then some code else codeAmong? name (code + 1) this entries

/-- The number of the character with a name in a line of the table. -/
def codeInLine? (name : List Char) (line : String) : Option Nat :=
  let digits := (line.toList.dropWhile (· == ' ')).takeWhile Char.isDigit
  let entries := ((line.toList.dropWhile (· == ' ')).dropWhile Char.isDigit).drop 1
  codeAmong? name (Decimal.ofAsciiDigits digits) [] ((String.ofList entries).splitOn ";")

/-- Capital hexadecimal digits, at least four of them. -/
def codeText (code : Nat) : List Char :=
  let digits := (Nat.toDigits 16 code).map Char.toUpper
  List.replicate (4 - digits.length) '0' ++ digits

/-- The number that capital hexadecimal digits write as `codeText` does. -/
def readCode? (cs : List Char) : Option Nat :=
  let code := cs.foldl (fun n c => 16 * n + (if c.isDigit then c.toNat - '0'.toNat else c.toNat - 'A'.toNat + 10)) 0
  if codeText code = cs then some code else none

/-- What follows a prefix of a text. -/
def after? (front : String) (cs : List Char) : Option (List Char) :=
  if front.toList.isPrefixOf cs then some (cs.drop front.length) else none

/-! ### Syllables -/

/-- The names of the leading consonants. -/
def leadingNames : List String :=
  ["G", "GG", "N", "D", "DD", "R", "M", "B", "BB", "S", "SS", "", "J", "JJ", "C", "K", "T", "P", "H"]

/-- The names of the vowels. -/
def vowelNames : List String :=
  ["A", "AE", "YA", "YAE", "EO", "E", "YEO", "YE", "O", "WA", "WAE", "OE", "YO", "U", "WEO", "WE", "WI", "YU", "EU", "YI", "I"]

/-- The names of the trailing consonants, of which there may be none. -/
def trailingNames : List String :=
  ["", "G", "GG", "GS", "N", "NJ", "NH", "D", "L", "LG", "LM", "LB", "LS", "LT", "LP", "LH", "M", "B", "BS", "S", "SS", "NG", "J",
    "C", "K", "T", "P", "H"]

/-- The longest of some names with which a text begins: its position, and what follows it. -/
def takeLongest? (names : List String) (cs : List Char) : Option (Nat × List Char) :=
  names.zipIdx.foldl (fun best? (name, i) =>
    match after? name cs, best? with
    | some rest, some (_, best) => if rest.length < best.length then some (i, rest) else best?
    | some rest, none => some (i, rest)
    | none, _ => best?) none

/-- The syllable with a name. -/
def syllableNamed? (cs : List Char) : Option Nat :=
  (takeLongest? leadingNames cs).bind fun (l, cs) =>
    (takeLongest? vowelNames cs).bind fun (v, cs) =>
      (takeLongest? trailingNames cs).bind fun (t, cs) =>
        if cs.isEmpty then some (firstSyllable + (l * vowelCount + v) * trailingCount + t) else none

/-! ### All characters -/

/-- The number of the character with a name in one of the tables. -/
def codeListed? (name : List Char) : Option Nat :=
  let numbered? := numberedNames.findSome? fun (front, first, last) =>
    ((after? front name).bind readCode?).filter fun code => first ≤ code && code ≤ last
  let further? := furtherNames.find? fun r => (r.2.splitOn ";").contains (String.ofList name)
  let listed? := (nameLines.splitOn "\n").findSome? (codeInLine? name)
  (numbered?.or (further?.map (·.1))).or listed?

/-- The character with a name. -/
def named? (name : List Char) : Option Char :=
  let code? :=
    match after? "HANGUL SYLLABLE " name, after? "CJK UNIFIED IDEOGRAPH-" name with
    | some syllable, _ => syllableNamed? syllable
    | _, some digits => (readCode? digits).filter (inRanges ideographRanges)
    | none, none => codeListed? (name.map Char.toUpper)
  code?.map Char.ofNat

end IntegrationFlow.Text
