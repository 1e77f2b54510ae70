/-!
# Simulated time

A clock counts milliseconds from the beginning of a run. Time never runs backwards.
-/

namespace IntegrationFlow.Simulation

/-- A clock. -/
structure Clock where
  now : Nat := 0
deriving DecidableEq

/-- Let time pass; a negative time does not pass. -/
def Clock.advance (c : Clock) (ms : Int) : Clock :=
  ⟨c.now + ms.toNat⟩

/-- Time never runs backwards. -/
theorem Clock.now_le_advance (c : Clock) (ms : Int) : c.now ≤ (c.advance ms).now :=
  Nat.le_add_right _ _

end IntegrationFlow.Simulation
