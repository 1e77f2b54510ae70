import IntegrationFlow.Value.Basic

/-!
# Terminal codes

Texts for a terminal hold codes that set colours: an escape character, a bracket, digits and semicolons, and the letter
`m`. `plainText` drops them.
-/

namespace IntegrationFlow.Log

/-- The escape character. -/
def escape : Char := Char.ofNat 27

/-- What follows a colour code whose parameters begin here. -/
def afterCode? : List Char → Option (List Char)
  | [] => none
  | c :: cs => if c == 'm' then some cs else if c.isDigit || c == ';' then afterCode? cs else none

/-- What follows a code is shorter than the code and what follows it. -/
theorem length_lt_of_afterCode? {cs rest : List Char} (h : afterCode? cs = some rest) : rest.length < cs.length := by
  induction cs with
  | nil => simp [afterCode?] at h
  | cons c cs ih =>
    unfold afterCode? at h
    split at h
    · cases h
      simp
    · split at h
      · exact Nat.lt_succ_of_lt (ih h)
      · cases h

/-- A text without its colour codes. -/
def dropCodes : List Char → List Char
  | [] => []
  | c :: cs =>
    match cs with
    | '[' :: parameters =>
      if c == escape then
        match _h : afterCode? parameters with
        | some rest => dropCodes rest
        | none => c :: dropCodes ('[' :: parameters)
      else c :: dropCodes ('[' :: parameters)
    | cs => c :: dropCodes cs
termination_by cs => cs.length
decreasing_by
  all_goals simp_wf
  all_goals have := @length_lt_of_afterCode?
  all_goals grind

/-- A text without its colour codes. -/
def plainText (s : String) : String :=
  String.ofList (dropCodes s.toList)

/-- A text in a value without its colour codes. -/
def plainValue : Value → Value
  | .text s => .text (plainText s)
  | v => v

end IntegrationFlow.Log
