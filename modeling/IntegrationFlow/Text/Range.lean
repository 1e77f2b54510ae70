/-!
# Sets of characters given by ranges

A character property of the Unicode standard is a table of closed ranges of code points. `inRanges` is membership in
such a table.
-/

namespace IntegrationFlow.Text

/-- The code point lies in one of the closed ranges of the table. -/
def inRanges (table : List (Nat × Nat)) (code : Nat) : Bool :=
  table.any fun r => r.1 ≤ code && code ≤ r.2

end IntegrationFlow.Text
