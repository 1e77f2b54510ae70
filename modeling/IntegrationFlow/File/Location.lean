import IntegrationFlow.Text.Range

/-!
# Locations of files

A location is a root and the names that lead from it to a file. Empty names and names of one point are dropped when a
location is read, so a location that is written in several ways is one.
-/

namespace IntegrationFlow.File

/-- Where a file is. -/
structure Location where
  /-- Empty, or the slashes at the front. -/
  root : String := ""
  names : List String := []
deriving DecidableEq, Inhabited

namespace Location

/-- The slashes at the front that count: two stay two, and more are one. -/
def rootOf (path : String) : String :=
  match (path.toList.takeWhile (· == '/')).length with
  | 0 => ""
  | 2 => "//"
  | _ => "/"

/-- The names in a path. -/
def namesOf (path : String) : List String :=
  ((path.toList.splitOn '/').map String.ofList).filter fun s => s != "" && s != "."

/-- Read a location. -/
def read (path : String) : Location :=
  ⟨rootOf path, namesOf path⟩

/-- The text of a location. -/
def render (l : Location) : String :=
  if l.root.isEmpty && l.names.isEmpty then "." else l.root ++ "/".intercalate l.names

/-- A location below this one. -/
def below (l : Location) (name : String) : Location :=
  { l with names := l.names ++ namesOf name }

/-- Trailing slashes dropped, but not all of the text. -/
def withoutTrailingSlashes (path : String) : String :=
  let s := String.ofList (path.toList.reverse.dropWhile (· == '/')).reverse
  if s.isEmpty then "/" else s

/-- The location with the home directory in place of a tilde at its front; nothing when the tilde stands for the home of
someone else. -/
def withHome? (home : String) (l : Location) : Option Location :=
  match l.root, l.names with
  | "", first :: rest =>
    if first.toList.head? != some '~' then some l
    else if first == "~" && home.toList.head? != some '~' then
      let h := read (withoutTrailingSlashes home)
      some { h with names := h.names ++ rest }
    else none
  | _, _ => some l

end Location

end IntegrationFlow.File
