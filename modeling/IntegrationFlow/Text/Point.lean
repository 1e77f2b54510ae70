/-!
# Code points

A text that an expression makes may hold half of a surrogate pair that stands alone. Such a half is no character, but it
counts as one: it takes a place of its own, and has its own number among the code points.
-/

namespace IntegrationFlow.Text

/-- A code point: a character, or half of a surrogate pair that stands alone. -/
inductive Point where
  | char (c : Char)
  | half (n : Fin 0x800)
deriving DecidableEq, Inhabited

namespace Point

/-- The number of a code point. -/
def code : Point → Nat
  | .char c => c.toNat
  | .half n => 0xD800 + n

/-- The code point with a number below 0x110000. -/
def ofCode (n : Nat) : Point :=
  if h : 0xD800 ≤ n ∧ n < 0xE000 then .half ⟨n - 0xD800, by omega⟩ else .char (Char.ofNat n)

/-- The character, unless the point is half of a pair. -/
def char? : Point → Option Char
  | .char c => some c
  | .half _ => none

/-- The point is a character of a sort. -/
def isChar (p : Char → Bool) : Point → Bool
  | .char c => p c
  | .half _ => false

end Point

/-- The code points of some characters. -/
def points (cs : List Char) : List Point :=
  cs.map .char

/-- The characters of a text without lone halves. -/
def chars? : List Point → Option (List Char)
  | [] => some []
  | .char c :: ps => (chars? ps).map (c :: ·)
  | .half _ :: _ => none

/-- The characters of some characters are these. -/
@[simp]
theorem chars?_points (cs : List Char) : chars? (points cs) = some cs := by
  induction cs with
  | nil => rfl
  | cons c cs ih => simp_all [points, chars?]

/-- Points that are all characters are those of their characters. -/
theorem points_of_chars? {ps : List Point} {cs : List Char} (h : chars? ps = some cs) : points cs = ps := by
  induction ps generalizing cs with
  | nil => simp_all [chars?, points]
  | cons p ps ih =>
    cases p with
    | half n => simp [chars?] at h
    | char c =>
      obtain ⟨rest, hrest, rfl⟩ := Option.map_eq_some_iff.1 h
      simp [points, ← ih hrest]

/-- How two lists of code points compare, point by point. -/
def comparePoints : List Point → List Point → Ordering
  | [], [] => .eq
  | [], _ :: _ => .lt
  | _ :: _, [] => .gt
  | a :: as, b :: bs => (compare a.code b.code).then (comparePoints as bs)

/-- A text that is broken: at least one of its points is half of a pair. -/
structure Broken where
  points : List Point
  isBroken : chars? points = none
deriving DecidableEq

end IntegrationFlow.Text
