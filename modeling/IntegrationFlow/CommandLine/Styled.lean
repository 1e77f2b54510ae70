import IntegrationFlow.Value.Basic

/-!
# Styled texts and tables

What a command shows on a console: lines and tables whose parts may have a style. `Styled.markup` writes the styles as
tags around the text, and `Styled.plain` leaves them out.
-/

namespace IntegrationFlow.CommandLine

/-- A text, of which some parts have a style. -/
structure Styled where
  parts : List (Option String × String)
deriving DecidableEq

namespace Styled

/-- A text without a style. -/
def text (s : String) : Styled :=
  ⟨[(none, s)]⟩

/-- A text with a style. -/
def styled (style s : String) : Styled :=
  ⟨[(some style, s)]⟩

/-- One text after another. -/
def append (a b : Styled) : Styled :=
  ⟨a.parts ++ b.parts⟩

instance : Append Styled := ⟨append⟩

/-- A part with tags for its style. -/
def tagged : Option String × String → String
  | (some style, s) => "[" ++ style ++ "]" ++ s ++ "[/" ++ style ++ "]"
  | (none, s) => s

/-- The text with tags for its styles. -/
def markup (t : Styled) : String :=
  String.join (t.parts.map tagged)

/-- The text without its styles. -/
def plain (t : Styled) : String :=
  String.join (t.parts.map (·.2))

end Styled

/-- A table. -/
structure Table where
  title : String
  columns : List String
  rows : List (List Styled)
deriving DecidableEq

/-- The lines of a table: its title, the heads of its columns and its rows, with bars between the cells. -/
def Table.lines (t : Table) : List String :=
  t.title :: " | ".intercalate t.columns :: t.rows.map fun row => " | ".intercalate (row.map Styled.plain)

/-- Something that is shown on a console. -/
inductive Shown where
  | line (text : Styled)
  | table (table : Table)
deriving DecidableEq

/-- The lines of what is shown. -/
def Shown.lines : Shown → List String
  | .line t => [t.plain]
  | .table t => t.lines

end IntegrationFlow.CommandLine
