import IntegrationFlow.Text.Range

/-!
# Blank characters

The characters that count as white space when a text is trimmed, split or tested for being empty: the ASCII blanks,
the four information separators, and the space separators of Unicode.
-/

namespace IntegrationFlow.Text

/-- The ranges of code points that are blank. -/
def blankRanges : List (Nat × Nat) := [
  (9, 13), (28, 32), (133, 133), (160, 160), (5760, 5760), (8192, 8202), (8232, 8233), (8239, 8239),
  (8287, 8287), (12288, 12288)]

/-- A white space character. -/
def isBlank (c : Char) : Bool :=
  inRanges blankRanges c.toNat

/-- Drop the blanks at the front of a text. -/
def trimLeft (cs : List Char) : List Char :=
  cs.dropWhile isBlank

/-- Drop the blanks at the end of a text. -/
def trimRight (cs : List Char) : List Char :=
  (cs.reverse.dropWhile isBlank).reverse

/-- Drop the blanks at both ends of a text. -/
def trim (cs : List Char) : List Char :=
  trimRight (trimLeft cs)

/-- A text of blanks only; the empty text is one. -/
def isAllBlank (cs : List Char) : Bool :=
  cs.all isBlank

end IntegrationFlow.Text
