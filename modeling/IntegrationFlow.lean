import IntegrationFlow.Event.Bus
import IntegrationFlow.Main
import IntegrationFlow.Proofs.Editor.Objection
import IntegrationFlow.Proofs.Flow.RoundTrip
import IntegrationFlow.Proofs.Run.Escape
import IntegrationFlow.Proofs.Run.Outstanding
import IntegrationFlow.Proofs.Run.Turn
import IntegrationFlow.Server.Api
import IntegrationFlow.Proofs.Run.Effect
import IntegrationFlow.Proofs.Run.Charge
import IntegrationFlow.Proofs.Run.Interrupt
import IntegrationFlow.Proofs.Run.Balance
import IntegrationFlow.Proofs.Run.Cancelled
import IntegrationFlow.Proofs.Run.Branch
import IntegrationFlow.Proofs.Run.Isolation
import IntegrationFlow.Proofs.Run.Shown
import IntegrationFlow.Proofs.Editor.Notice
import IntegrationFlow.Proofs.Server.Verdict
import IntegrationFlow.Proofs.Run.Influence
import IntegrationFlow.Proofs.Flow.Ports
import IntegrationFlow.Proofs.Flow.Cycles
import IntegrationFlow.Proofs.Server.Stored
import IntegrationFlow.Proofs.Run.Retries
import IntegrationFlow.Proofs.Run.Reorder
import IntegrationFlow.Proofs.Expression.Size
import IntegrationFlow.Proofs.Path.Assign
import IntegrationFlow.Proofs.Path.Written
import IntegrationFlow.Proofs.Flow.Rules
import IntegrationFlow.Proofs.Flow.Assembled
import IntegrationFlow.Proofs.Expression.Slots
import IntegrationFlow.Proofs.Store.Listing
import IntegrationFlow.Proofs.Expression.Aliasing
import IntegrationFlow.Proofs.Simulation.Breaker
import IntegrationFlow.Proofs.Expression.Names
import IntegrationFlow.Proofs.Run.Strategy
import IntegrationFlow.Proofs.Event.Hearing
