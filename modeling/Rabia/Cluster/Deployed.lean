import Rabia.Cluster.InMemory
import Rabia.Cluster.Simulated
import Rabia.Cluster.Tcp

/-!
# Maps over a network

The deployments of the repository from end to end: clients submit batches at the members,
whose engines talk over TCP or over the simulator, and which run `InMemoryStateMachine`.
-/

namespace Rabia

open Rabia.Lib
open Rabia.Lib.Text (encode)
open InMemoryStateMachine (entryCodecs entryCodecs_lawful)

namespace Deployment

variable {τ : Type} {t : NetworkTransport τ} {members : List NodeId}
  {Carries : (Packet → Prop) → τ → Prop}

/-- A client submitted the batch at a member. -/
def Submitted (members : List NodeId) (actions : List (Action t)) (batch : CommandBatch) : Prop :=
  ∃ node ∈ members, ∃ luck env request,
    Action.atNode node luck env (.command (.processBatch request)) ∈ actions ∧
      request.batch = batch

end Deployment

end Rabia
