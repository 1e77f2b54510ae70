import IntegrationFlow.Expression.Literal
import IntegrationFlow.Expression.Newline
import IntegrationFlow.Expression.Quoted

/-!
# Operator aliases

Four operators may be written in a second way: `&&` for `and`, `||` for `or`, `===` for `==` and `!==` for `!=`. The
second ways are replaced in the text before it is cut into tokens, outside of quoted literals only.

The literals are found by a search of its own, which goes through the text line by line. Of the tokens it knows the
literals, comments and brackets alone, and only a line feed ends a line for it. Where a line starts outside of brackets it
keeps account of the indentation, and passes over the whole line when that starts with a comment or a carriage return.
-/

namespace IntegrationFlow.Expression

/-- A stretch of a text: a quoted literal, or what stands between two of them. -/
inductive Segment where
  | code (cs : List Char)
  | literal (q : Quoted)

/-- Put a stretch in front of others. Between two literals there is one stretch of code. -/
def Segment.push : Segment → List Segment → List Segment
  | .code cs, .code ds :: segments => .code (cs ++ ds) :: segments
  | s, segments => s :: segments

/-! ### Finding the literals -/

/-- Where the search for literals stands. -/
structure Search where
  /-- The brackets that were opened, less those that were closed. -/
  depth : Int := 0
  /-- The indentations of the blocks that are open, the innermost first. -/
  indents : List Nat := [0]
  /-- At the start of a line, outside of brackets: its indentation so far. -/
  line? : Option Nat := some 0

namespace Search

/-- The blocks that are open once a line with an indentation starts. A line that ends a block has the indentation of one of
those around it. -/
def settle (width : Nat) (indents : List Nat) : Option (List Nat) :=
  if indents.all (· < width) then some (width :: indents)
  else if indents.contains width then some (indents.dropWhile (width < ·))
  else none

/-- Leave the start of a line. -/
def enter (s : Search) : Option Search :=
  match s.line? with
  | none => some s
  | some width => (settle width s.indents).map fun indents => { s with indents, line? := none }

/-- The first line of a literal in single marks that goes on with the next one, and what follows that line. -/
def firstLine? (mark : Char) : List Char → Option (List Char × List Char)
  | '\\' :: '\n' :: cs => some (['\\', '\n'], cs)
  | '\\' :: c :: cs => consBody ['\\', c] (firstLine? mark cs)
  | c :: cs => if c == mark || c == '\n' then none else consBody [c] (firstLine? mark cs)
  | [] => none

/-- The end of a literal on a line, and what follows its closing mark. -/
def lastLine? (mark : Char) : List Char → Option (List Char × List Char)
  | '\\' :: '\n' :: _ => none
  | '\\' :: c :: cs => consBody ['\\', c] (lastLine? mark cs)
  | c :: cs => if c == mark then some ([], cs) else if c == '\n' then none else consBody [c] (lastLine? mark cs)
  | [] => none

/-- The further lines of a literal in single marks, whether it ends on the last of them, and what follows; nothing when the
text ends before. A line goes on with the next one when its last character is a backslash. -/
def furtherLines : Nat → Char → List Char → Option (List Char × Bool × List Char)
  | _, _, [] => none
  | 0, _, _ => none
  | fuel + 1, mark, cs =>
    match lastLine? mark cs with
    | some (body, rest) => some (body, true, rest)
    | none =>
      let line := cs.takeWhile (· != '\n') ++ (cs.dropWhile (· != '\n')).take 1
      let rest := (cs.dropWhile (· != '\n')).drop 1
      if ['\\', '\n'].isSuffixOf line then
        (furtherLines fuel mark rest).map fun (body, ended, rest) => (line ++ body, ended, rest)
      else some (line, false, rest)

/-- The place behind the end of a line. -/
def newLine (s : Search) : Search :=
  { s with line? := if s.depth == 0 then some 0 else none }

/-- What is found at a mark that no literal follows. Triple marks have to be closed. A mark stands for itself, unless its
line goes on with the next one: then the search goes on behind the lines of which the literal would be made. -/
def atStrayMark (s : Search) (mark : Char) (cs : List Char) : Option (Segment × Search × List Char) :=
  if cs.take 2 == [mark, mark] then none
  else
    match firstLine? mark cs with
    | none => some (.code [mark], s, cs)
    | some (line, rest) =>
      (furtherLines rest.length mark rest).map fun (lines, ended, rest) =>
        if ended then (.literal ⟨mark, false, line ++ lines⟩, s, rest) else (.code (mark :: line ++ lines), s.newLine, rest)

/-- The next stretch behind the start of a line, which begins with `c`. -/
def nextInLine (s : Search) (c : Char) (cs : List Char) : Option (Segment × Search × List Char) :=
  if isQuote c then
    match takeQuoted c cs with
    | some (q, rest) => some (.literal q, s, rest)
    | none => s.atStrayMark c cs
  else if c == '#' then
    let inComment (d : Char) := d != '\n' && d != '\r'
    some (.code (c :: cs.takeWhile inComment), s, cs.dropWhile inComment)
  else if c == '\n' then some (.code [c], s.newLine, cs)
  else if c == '\\' then
    match cs with
    | ['\n'] => none
    | '\n' :: rest => some (.code ['\\', '\n'], s, rest)
    | rest => some (.code [c], s, rest)
  else if (closing? c).isSome then some (.code [c], { s with depth := s.depth + 1 }, cs)
  else if isClosing c then some (.code [c], { s with depth := s.depth - 1 }, cs)
  else some (.code [c], s, cs)

/-- The next stretch. -/
def next (s : Search) (c : Char) (cs : List Char) : Option (Segment × Search × List Char) :=
  match s.line? with
  | none => s.nextInLine c cs
  | some width =>
    match column? width c with
    | some width => some (.code [c], { s with line? := some width }, cs)
    | none =>
      if c == '\n' then some (.code [c], { s with line? := some 0 }, cs)
      else if c == '#' || c == '\r' then
        some (.code (c :: cs.takeWhile (· != '\n')), s, cs.dropWhile (· != '\n'))
      else s.enter.bind fun s => s.nextInLine c cs

/-- Cut a text into literals and the stretches between them, in at most as many steps as stated; nothing when the search
fails. -/
def segmentsUpTo : Nat → Search → List Char → Option (List Segment)
  | _, s, [] => if s.depth == 0 then some [] else none
  | 0, _, _ => none
  | fuel + 1, s, c :: cs =>
    (s.next c cs).bind fun (segment, s, rest) => (segmentsUpTo fuel s rest).map segment.push

end Search

/-- Cut a text into literals and the stretches between them. -/
def segments (cs : List Char) : Option (List Segment) :=
  Search.segmentsUpTo cs.length {} cs

/-! ### Replacing the aliases -/

/-- Write `new` for each occurrence of `old`, from left to right; so many characters are passed over first. -/
def substitute (old new : List Char) : Nat → List Char → List Char
  | _, [] => []
  | n + 1, _ :: cs => substitute old new n cs
  | 0, c :: cs =>
    if old.isPrefixOf (c :: cs) then new ++ substitute old new (old.length - 1) cs else c :: substitute old new 0 cs

/-- The aliases with what they stand for, in the order in which they are replaced. -/
def aliases : List (List Char × List Char) :=
  [("===".toList, "==".toList), ("!==".toList, "!=".toList), ("&&".toList, " and ".toList), ("||".toList, " or ".toList)]

/-- Replace the aliases in a text without literals. -/
def replaceAliases (cs : List Char) : List Char :=
  aliases.foldl (fun cs a => substitute a.1 a.2 0 cs) cs

/-- Replace the aliases of a stretch. -/
def Segment.expand : Segment → List Char
  | .code cs => replaceAliases cs
  | .literal q => q.source

/-- Replace the aliases of a text outside of its literals. A text whose literals are not found stays as it is. -/
def expandAliases (cs : List Char) : List Char :=
  match segments cs with
  | some segments => segments.flatMap Segment.expand
  | none => cs

end IntegrationFlow.Expression
