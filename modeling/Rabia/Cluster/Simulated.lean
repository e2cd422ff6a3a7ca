import Rabia.Cluster.Agreement
import Rabia.Cluster.Deployment
import Rabia.Testing.NetworkSim

/-!
# The cluster on the network simulator

The `SimulatedNetwork` of `rabia-testing/src/network_sim.rs` as a transport: the nodes of a
test send through one `NetworkSimulator`, which loses, delays and separates as it is told, and
receive from the channel that it fills. The ranges of latencies that it is told are not empty.
-/

namespace Rabia

open Rabia.Lib

/-- The `SimulatedNetwork` of every node, and the simulator that they share. -/
structure SimulatedNetwork where
  simulator : NetworkSimulator
  connectedNodes : NodeId → Finset NodeId
  /-- What waits in the channel of a node. -/
  messageRx : NodeId → List (NodeId × ProtocolMessage)

namespace SimulatedNetwork

/-- The order in which a call walks the connected nodes, and for each recipient the time at
which `send_message` is called and what it draws. -/
structure Luck where
  order : List NodeId
  now : NodeId → Nat
  draws : NodeId → Draws

/-- What happens between the calls. A range of latencies is never empty: drawing from it would
end the task that sends. -/
inductive Turn where
  | updateConditions (conditions : NetworkConditions)
      (ordered : asMillis conditions.latencyMin ≤ asMillis conditions.latencyMax)
  | createPartition (now : Nat) (nodes : Finset NodeId) (duration : Nat)
  | healPartitions
  | deliverPendingMessages (now : Nat)
  | cleanupExpiredPartitions (now : Nat)
  | removeNode (node : NodeId)
  | connectToNodes (node : NodeId) (nodes : Finset NodeId)
  | disconnect (node : NodeId)

/-- `SimulatedNetwork::new` of every member. -/
def new (members : List NodeId) : SimulatedNetwork where
  simulator := members.foldl (fun s node => s.addNode node) .new
  connectedNodes := fun _ => ∅
  messageRx := fun _ => []

/-- `send_to`. -/
def sendTo (luck : Luck) (node target : NodeId) (m : ProtocolMessage) (s : SimulatedNetwork) :
    SimulatedNetwork :=
  { s with
    simulator := s.simulator.sendMessage (luck.now target) (luck.draws target) node target m }

/-- `broadcast`. -/
def broadcast (luck : Luck) (node : NodeId) (exclude : Option NodeId) (m : ProtocolMessage)
    (s : SimulatedNetwork) : SimulatedNetwork :=
  (iterate luck.order (s.connectedNodes node)).foldl
    (fun s other => if some other ≠ exclude ∧ other ≠ node then s.sendTo luck node other m else s)
    s

/-- `receive`. -/
def receive (node : NodeId) (s : SimulatedNetwork) :
    Option ((NodeId × ProtocolMessage) × SimulatedNetwork) :=
  match s.messageRx node with
  | [] => none
  | first :: rest => some (first, { s with messageRx := Function.update s.messageRx node rest })

/-- `deliver_pending_messages`: what is sent into a channel waits there. -/
def deliver (now : Nat) (s : SimulatedNetwork) : SimulatedNetwork :=
  let simulator := s.simulator.deliverPendingMessages now
  { s with
    simulator := simulator
    messageRx := fun node => s.messageRx node ++
      (simulator.receivedBy node).drop (s.simulator.receivedBy node).length }

def turn (s : SimulatedNetwork) : Turn → SimulatedNetwork
  | .updateConditions conditions _ =>
    { s with simulator := s.simulator.updateConditions conditions }
  | .createPartition now nodes duration =>
    { s with simulator := s.simulator.createPartition now nodes duration }
  | .healPartitions => { s with simulator := s.simulator.healPartitions }
  | .deliverPendingMessages now => s.deliver now
  | .cleanupExpiredPartitions now =>
    { s with simulator := s.simulator.cleanupExpiredPartitions now }
  | .removeNode node => { s with simulator := s.simulator.removeNode node }
  | .connectToNodes node nodes =>
    { s with connectedNodes := Function.update s.connectedNodes node nodes }
  | .disconnect node => { s with connectedNodes := Function.update s.connectedNodes node ∅ }

def transport : NetworkTransport SimulatedNetwork where
  Luck := Luck
  Turn := Turn
  sendTo := sendTo
  broadcast := broadcast
  answer _ _ _ := .ok ()
  receive := receive
  turn i s := s.turn i

/-! ## What the simulator carries -/

/-- All messages to members, whether they are pending or wait in a channel, were sent. -/
structure Carries (members : List NodeId) (Sent : Packet → Prop) (s : SimulatedNetwork) : Prop where
  pending : ∀ msg ∈ s.simulator.pendingMessages, msg.recipient ∈ members →
    Sent ⟨msg.sender, msg.recipient, msg.message⟩
  waiting : ∀ node ∈ members, ∀ p ∈ s.messageRx node, Sent ⟨p.1, node, p.2⟩

variable {members : List NodeId} {Sent : Packet → Prop} {s : SimulatedNetwork}

theorem Carries.sendTo (carries : s.Carries members Sent) (luck : Luck) {node target : NodeId}
    {m : ProtocolMessage} (sent : target ∈ members → Sent ⟨node, target, m⟩) :
    (s.sendTo luck node target m).Carries members Sent := by
  refine ⟨fun msg member => ?_, carries.waiting⟩
  have sends : SimulatorCall.sendMessage (luck.draws target) node target m ≠
      .deliverPendingMessages := SimulatorCall.noConfusion
  have queued : (s.sendTo luck node target m).simulator.pendingMessages = _ :=
    s.simulator.serve_pendingMessages (luck.now target) sends
  rw [queued] at member
  rcases List.mem_append.mp member with old | new
  · exact carries.pending msg old
  · unfold NetworkSimulator.queues at new
    dsimp only at new
    split at new
    · cases new
    · obtain ⟨deliverAt, -, rfl⟩ := List.mem_map.mp new
      exact sent

theorem Carries.broadcast (carries : s.Carries members Sent) (luck : Luck) {node : NodeId}
    (exclude : Option NodeId) {m : ProtocolMessage}
    (sent : ∀ other ∈ members, other ≠ node → Sent ⟨node, other, m⟩) :
    (s.broadcast luck node exclude m).Carries members Sent := by
  refine List.foldlRecOn (motive := Carries members Sent) _ _ carries ?_
  intro t kept other _
  split
  · rename_i meant
    exact kept.sendTo luck fun here => sent other here meant.2
  · exact kept

theorem Carries.deliver (carries : s.Carries members Sent) (now : Nat) :
    (s.deliver now).Carries members Sent := by
  refine ⟨fun msg member => ?_, fun node here p member => ?_⟩
  · rw [show (s.deliver now).simulator.pendingMessages = _ from
      s.simulator.deliverPendingMessages_pendingMessages now] at member
    exact carries.pending msg ((List.dropWhile_sublist _).subset member)
  · rcases List.mem_append.mp member with old | new
    · exact carries.waiting node here p old
    · rw [s.simulator.receivedBy_deliverPendingMessages, List.drop_left] at new
      obtain ⟨msg, reaching, rfl⟩ := List.mem_map.mp new
      obtain ⟨taken, own⟩ := List.mem_filter.mp reaching
      have target : msg.recipient = node := by
        simp only [Bool.and_eq_true, decide_eq_true_eq] at own
        exact own.1
      subst target
      exact carries.pending msg ((List.takeWhile_sublist _).subset taken) here

theorem honest (members : List NodeId) : transport.Honest members (Carries members) where
  mono carries more :=
    ⟨fun msg member here => more _ (carries.pending msg member here),
      fun node here p member => more _ (carries.waiting node here p member)⟩
  sendTo carries luck _ _ _ sent := carries.sendTo luck fun _ => sent
  broadcast carries luck _ _ sent := carries.broadcast luck _ sent
  turn carries i := by
    cases i with
    | deliverPendingMessages now => exact carries.deliver now
    | updateConditions _ _ | createPartition _ _ _ | healPartitions
    | cleanupExpiredPartitions _ | removeNode _ | connectToNodes _ _ | disconnect _ =>
        exact ⟨carries.pending, carries.waiting⟩
  receive {Sent s} carries {node} here {sender m s'} received := by
    change receive node s = _ at received
    unfold receive at received
    split at received
    · cases received
    · rename_i first rest waits
      cases received
      refine ⟨carries.waiting node here _ (by rw [waits]; exact List.mem_cons_self), ?_⟩
      refine ⟨carries.pending, fun other member p among => ?_⟩
      refine carries.waiting other member p ?_
      dsimp only at among
      by_cases same : other = node
      · subst same
        rw [Function.update_self] at among
        rw [waits]
        exact List.mem_cons_of_mem _ among
      · rwa [Function.update_of_ne same] at among

end SimulatedNetwork

end Rabia
