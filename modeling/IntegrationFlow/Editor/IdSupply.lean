import IntegrationFlow.Value.Display

/-!
# New ids

An editor names new nodes and edges by a stem and something that tells them apart. Ids that are set aside are handed out
first, whatever the stem; then ids are made by a scheme. `IdSupply.fresh` passes over ids that are in use.
-/

namespace IntegrationFlow.Editor

/-- How an id is made from its stem. -/
inductive IdScheme where
  /-- The ids of one stem are counted. -/
  | counted
  /-- All ids are counted together, in eight hexadecimal digits. -/
  | hexadecimal
deriving DecidableEq, Inhabited

/-- Where new ids come from. -/
structure IdSupply where
  /-- The ids that are handed out first. -/
  reserved : List String := []
  scheme : IdScheme := .counted
  /-- The stems for which an id has been made. -/
  made : List String := []
deriving Inhabited

namespace IdSupply

/-- The id that the scheme makes for a stem. -/
def make (s : IdSupply) (stem : String) : String :=
  match s.scheme with
  | .counted => stem ++ "_" ++ toString (s.made.count stem + 1)
  | .hexadecimal => stem ++ "_" ++ String.ofList (hexText 8 (s.made.length + 1))

/-- The next id for a stem. -/
def draw (s : IdSupply) (stem : String) : String × IdSupply :=
  match s.reserved with
  | id :: rest => (id, { s with reserved := rest })
  | [] => (s.make stem, { s with made := stem :: s.made })

/-- The next id for a stem that is not taken, in at most so many further draws. -/
def freshWithin : Nat → IdSupply → String → List String → String × IdSupply
  | 0, s, stem, _ => s.draw stem
  | n + 1, s, stem, taken =>
    let (id, rest) := s.draw stem
    if taken.contains id then freshWithin n rest stem taken else (id, rest)

/-- The next id for a stem that is not taken. Made ids of one stem differ from each other, so no more of them than there
are taken ids are passed over. -/
def fresh (s : IdSupply) (stem : String) (taken : List String) : String × IdSupply :=
  s.freshWithin (s.reserved.length + taken.length) stem taken

end IdSupply

end IntegrationFlow.Editor
