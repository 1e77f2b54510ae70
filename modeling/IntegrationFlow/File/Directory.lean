import IntegrationFlow.File.Location
import IntegrationFlow.Value.Display

/-!
# Reading files

A directory holds files under their names; a name with slashes lies in a directory further below.
-/

namespace IntegrationFlow.File

/-- Why a file cannot be read. -/
inductive Problem where
  | missing
  | isDirectory
  | notDirectory
deriving DecidableEq

/-- The number and the wording of a problem. -/
def Problem.message : Problem → String
  | .missing => "[Errno 2] No such file or directory"
  | .isDirectory => "[Errno 21] Is a directory"
  | .notDirectory => "[Errno 20] Not a directory"

/-- The wording of a problem with the file at a location. -/
def Problem.describe (p : Problem) (l : Location) : String :=
  p.message ++ ": " ++ quoteText l.render

/-- Files, by the names that lead to them. -/
structure Directory where
  files : List (List String × String) := []

namespace Directory

/-- A directory of files with their paths. -/
def ofPaths (files : List (String × String)) : Directory :=
  ⟨files.map fun f => (Location.namesOf f.1, f.2)⟩

/-- There are files below these names. -/
def hasBelow (d : Directory) (names : List String) : Bool :=
  names.isEmpty || d.files.any fun f => names.isPrefixOf f.1 && f.1.length > names.length

/-- Go from one place to the next ones. Going up from the directory leads out of it. -/
def walk (d : Directory) (reached : List String) : List String → Except Problem String
  | [] => if d.hasBelow reached then .error .isDirectory else .error .missing
  | name :: rest =>
    if name == ".." then
      match reached with
      | [] => if rest.isEmpty then .error .isDirectory else .error .missing
      | _ :: _ => walk d reached.dropLast rest
    else
      match d.files.lookup (reached ++ [name]) with
      | some text => if rest.isEmpty then .ok text else .error .notDirectory
      | none => if d.hasBelow (reached ++ [name]) then walk d (reached ++ [name]) rest else .error .missing

/-- The text of the file at a location. -/
def read (d : Directory) (l : Location) : Except Problem String :=
  if l.root.isEmpty then d.walk [] l.names
  else if l.names.isEmpty then .error .isDirectory
  else .error .missing

end Directory

end IntegrationFlow.File
