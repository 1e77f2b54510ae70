import IntegrationFlow.Schema.Problem

/-!
# Results of reading

What reading a document gives: a result, or the problems that were found. Two readings joined by `<*>` are both
carried out, and their problems are listed one after the other; so a document is reported with all its problems.
-/

namespace IntegrationFlow.Schema

/-- A result, or the problems that were found. -/
inductive Checked (α : Type) where
  | fits (a : α)
  | refused (problems : List Problem)

namespace Checked

/-- Change the result. -/
def map {α β : Type} (f : α → β) : Checked α → Checked β
  | .fits a => .fits (f a)
  | .refused ps => .refused ps

/-- Apply a result to another one; the problems of both count. -/
def apply {α β : Type} (f : Checked (α → β)) (a : Checked α) : Checked β :=
  match f, a with
  | .fits f, .fits a => .fits (f a)
  | .fits _, .refused qs => .refused qs
  | .refused ps, .fits _ => .refused ps
  | .refused ps, .refused qs => .refused (ps ++ qs)

instance : Applicative Checked where
  map := map
  pure := .fits
  seq f a := f.apply (a ())

/-- Go on with the result; later problems are found only when there are no earlier ones. -/
def andThen {α β : Type} (a : Checked α) (f : α → Checked β) : Checked β :=
  match a with
  | .fits a => f a
  | .refused ps => .refused ps

/-- One mismatch at the place that is read. -/
def fail {α : Type} (m : Mismatch) : Checked α :=
  .refused [⟨[], m⟩]

/-- The reading as seen from one level further out. -/
def under {α : Type} (step : String) : Checked α → Checked α
  | .fits a => .fits a
  | .refused ps => .refused (ps.map (·.under step))

/-- The result, when there is one. -/
def toOption {α : Type} : Checked α → Option α
  | .fits a => some a
  | .refused _ => none

/-- The problems that were found. -/
def problems {α : Type} : Checked α → List Problem
  | .fits _ => []
  | .refused ps => ps

/-- Readings joined by `apply` list the problems of both. -/
theorem problems_apply {α β : Type} (f : Checked (α → β)) (a : Checked α) :
    (f.apply a).problems = f.problems ++ a.problems := by
  cases f <;> cases a <;> simp [apply, problems]

end Checked

end IntegrationFlow.Schema
