import IntegrationFlow.Expression.Arithmetic

/-!
# Waiting between attempts

Before a retry a caller waits for a base time, or, when the waiting grows exponentially, for a time that doubles from
retry to retry.
-/

namespace IntegrationFlow.Simulation

/-- How many base times a caller waits before a retry; the first retry has number one. -/
def backoffFactor (strategy : String) (retry : Int) : Nat :=
  if retry < 1 then 0 else if strategy == "exponential" then Nat.pow 2 (retry - 1).toNat else 1

/-- How long a caller waits before a retry, in milliseconds. -/
def backoffDelay (strategy : String) (base retry : Nat) : Nat :=
  base * backoffFactor strategy retry

/-- How long a caller waits before a retry, for a base time that may be negative or have a fraction. -/
def backoffDelayOf (strategy : String) (base : Number) (retry : Int) : Except Expression.Mishap Value :=
  if retry < 1 || Value.Order.lessEqual.holdsNumber base (.int 0) then .ok (.int 0)
  else if strategy == "exponential" then 
    (Expression.product.apply base (.int (backoffFactor strategy retry))).map Atom.value
  else .ok base.atom.value

end IntegrationFlow.Simulation
