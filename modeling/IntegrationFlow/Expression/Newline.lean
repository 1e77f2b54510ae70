/-!
# Lines

Before a text is cut into tokens, the three ways to end a line become one: first the pair of a carriage return and a
line feed, then each carriage return that is left. The blanks at the start of a line are counted in columns.
-/

namespace IntegrationFlow.Expression

/-- Write the pair of a carriage return and a line feed as a line feed. -/
def joinBreaks : List Char → List Char
  | '\r' :: '\n' :: cs => '\n' :: joinBreaks cs
  | c :: cs => c :: joinBreaks cs
  | [] => []

/-- Write each carriage return as a line feed. -/
def feedReturns (cs : List Char) : List Char :=
  cs.map fun c => if c == '\r' then '\n' else c

/-- A text without carriage returns stays as it is. -/
theorem feedReturns_eq_self {cs : List Char} (h : '\r' ∉ cs) : feedReturns cs = cs := by
  refine (List.map_congr_left fun c hc => ?_).trans (List.map_id cs)
  have hne : c ≠ '\r' := fun he => h (he ▸ hc)
  simp [hne]

/-- The column that a blank at the start of a line leads to: a tab goes on to the next multiple of eight, a form feed
starts the count again. -/
def column? (column : Nat) (c : Char) : Option Nat :=
  if c == ' ' then some (column + 1)
  else if c == '\t' then some ((column / 8 + 1) * 8)
  else if c == '\x0c' then some 0
  else none

/-- A blank within a line. -/
def isSpacing (c : Char) : Bool :=
  c == ' ' || c == '\t' || c == '\x0c'

/-- A blank is one wherever it stands. -/
theorem column?_eq_none_iff {column : Nat} {c : Char} : column? column c = none ↔ isSpacing c = false := by
  unfold column? isSpacing
  split
  · next h => simp [h]
  split
  · next h => simp [h]
  split
  · next h => simp [h]
  · next hspace htab hfeed => simp [hspace, htab, hfeed]

theorem isSpacing_of_column? {column column' : Nat} {c : Char} (h : column? column c = some column') :
    isSpacing c = true := by
  refine Decidable.byContradiction fun hc => ?_
  rw [column?_eq_none_iff.2 (Bool.eq_false_iff.2 hc)] at h
  cases h

end IntegrationFlow.Expression
