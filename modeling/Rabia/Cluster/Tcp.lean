import Rabia.Cluster.Agreement
import Rabia.Cluster.Deployment
import Rabia.Network.Mesh

/-!
# The cluster over TCP

The `TcpNetwork` of `rabia-engine/src/network/tcp.rs` as a transport: what an engine sends goes
through the connections of its node, and `receive` returns what the reader tasks passed on, in
its order. Nodes may connect to anybody, and their connections may break at any time.
-/

namespace Rabia

open Rabia.Lib

/-- How a node identifier is displayed: as a hyphenated uuid. -/
def NodeId.text (id : NodeId) : String :=
  let digits := (Nat.toDigits 16 id.uuid).leftpad 32 '0'
  let part (start count : Nat) := String.ofList ((digits.drop start).take count)
  s!"{part 0 8}-{part 8 4}-{part 12 4}-{part 16 4}-{part 20 12}"

namespace Mesh

/-- What `send_to` and, at `none`, `broadcast` return to a node. -/
def answer (s : Mesh) (node : NodeId) : Option NodeId → Except RabiaError Unit
  | none => .ok ()
  | some target =>
    match (s.connections node).lookup target with
    | none => .error (.network s!"No connection to node {target.text}")
    | some way =>
      match wire? s.links way with
      | some c =>
        if c.mute then .error (.network s!"Failed to queue message to {target.text}") else .ok ()
      | none => .error (.network s!"Failed to queue message to {target.text}")

/-- What waits for the `receive` calls of a node, and what they returned. -/
def inbox (s : Mesh) (node : NodeId) : List Letter := s.arrived.filter fun l => l.receiver = node

variable {b : Bincode} {eof : MessageFrame.Eof} {s : Mesh} {members : List NodeId}
  {Sent : Packet → Prop}

/-- A call posts at most its own message. -/
theorem mem_posted_post {node target : NodeId} {m : ProtocolMessage} {way : Way} {l : Letter}
    (member : l ∈ (s.post node target m way).posted) :
    l ∈ s.posted ∨ l = ⟨way, node, target, m⟩ := by
  unfold post at member
  split at member
  · exact .inl member
  · split at member
    · exact .inl member
    · exact (List.mem_append.mp member).imp_right List.mem_singleton.mp

/-- Every letter to a member was sent. -/
structure Carries (members : List NodeId) (b : Bincode) (Sent : Packet → Prop) (s : Mesh) :
    Prop where
  sound : s.Sound b
  sent : ∀ l ∈ s.posted, l.receiver ∈ members → Sent ⟨l.sender, l.receiver, l.message⟩

theorem carries_empty : empty.Carries members b Sent :=
  ⟨sound_empty, fun _ member => absurd member List.not_mem_nil⟩

theorem Carries.post (carries : s.Carries members b Sent) {node target : NodeId} {way : Way}
    (known : (s.connections node).lookup target = some way) {m : ProtocolMessage}
    (sent : target ∈ members → Sent ⟨node, target, m⟩) :
    (s.post node target m way).Carries members b Sent := by
  refine ⟨sound_post carries.sound (carries.sound.tables node target way known) m, ?_⟩
  intro l member
  rcases mem_posted_post member with old | rfl
  · exact carries.sent l old
  · exact sent

theorem Carries.sendTo (carries : s.Carries members b Sent) {node target : NodeId}
    {m : ProtocolMessage} (sent : Sent ⟨node, target, m⟩) :
    (s.sendTo node target m).Carries members b Sent := by
  unfold Mesh.sendTo
  cases known : (s.connections node).lookup target with
  | none => exact carries
  | some way => exact carries.post known fun _ => sent

theorem Carries.broadcast (carries : s.Carries members b Sent) {node : NodeId}
    (order : List NodeId) (exclude : Option NodeId) {m : ProtocolMessage}
    (sent : ∀ other ∈ members, other ≠ node → Sent ⟨node, other, m⟩) :
    (s.broadcast node order exclude m).Carries members b Sent := by
  let Good (t : Mesh) : Prop := t.Carries members b Sent ∧ t.connections = s.connections
  suffices all : Good (s.broadcast node order exclude m) from all.1
  refine List.foldlRecOn (motive := Good) _ _ ⟨carries, rfl⟩ ?_
  rintro t ⟨kept, same⟩ ⟨peer, way⟩ member
  have known : (t.connections node).lookup peer = some way := by
    rw [same]
    exact Table.mem_walk.mp member
  dsimp only
  split
  · rename_i meant
    refine ⟨kept.post known fun here => sent peer here meant.2, ?_⟩
    rw [connections_post, same]
  · exact ⟨kept, same⟩

/-- The tasks of the links post nothing. -/
theorem posted_perform (b : Bincode) (eof : MessageFrame.Eof) (i : Nat) (direction : Direction)
    (operation : Operation) (s : Mesh) :
    (s.perform b eof i direction operation).posted = s.posted := by
  unfold perform
  split
  · rfl
  · dsimp only
    split <;> rfl

theorem posted_connect (b : Bincode) (dialler acceptor expected : NodeId) (s : Mesh) :
    (s.connect b dialler acceptor expected).posted = s.posted := by
  unfold connect
  split <;> rfl

/-- What waits for a member was sent to it. -/
theorem Carries.inbox (carries : s.Carries members b Sent) {node : NodeId} (here : node ∈ members)
    {letter : Letter} (waits : letter ∈ s.inbox node) :
    Sent ⟨letter.sender, node, letter.message⟩ := by
  obtain ⟨arrived, own⟩ := List.mem_filter.mp waits
  rw [decide_eq_true_eq] at own
  subst own
  exact carries.sent letter ((arrived_subperm carries.sound).subset arrived) here

end Mesh

/-! ## The transport -/

/-- A mesh, and how many messages `receive` has returned to each node. -/
structure TcpTransport where
  mesh : Mesh
  taken : NodeId → Nat

namespace TcpTransport

/-- What happens between the calls. -/
inductive Turn where
  | connect (dialler acceptor expected : NodeId)
  | removePeer (node peer : NodeId)
  | perform (link : Nat) (direction : Direction) (operation : Operation)

/-- Nobody has dialled. -/
def new : TcpTransport := ⟨.empty, fun _ => 0⟩

/-- Calls depend on the order in which the table of connections is walked. -/
def transport (b : Bincode) (eof : MessageFrame.Eof) : NetworkTransport TcpTransport where
  Luck := List NodeId
  Turn := Turn
  sendTo _ node target m s := { s with mesh := s.mesh.sendTo node target m }
  broadcast order node exclude m s := { s with mesh := s.mesh.broadcast node order exclude m }
  answer s := s.mesh.answer
  receive node s :=
    (s.mesh.inbox node)[s.taken node]?.map fun letter =>
      ((letter.sender, letter.message),
        { s with taken := Function.update s.taken node (s.taken node + 1) })
  turn i s :=
    match i with
    | .connect dialler acceptor expected =>
      { s with mesh := s.mesh.connect b dialler acceptor expected }
    | .removePeer node peer => { s with mesh := s.mesh.removePeer node peer }
    | .perform link direction operation =>
      { s with mesh := s.mesh.perform b eof link direction operation }

theorem honest {b : Bincode} (lawful : b.Lawful) (eof : MessageFrame.Eof)
    (members : List NodeId) :
    (transport b eof).Honest members fun Sent s => s.mesh.Carries members b Sent where
  mono carries more :=
    ⟨carries.sound, fun l member here => more _ (carries.sent l member here)⟩
  sendTo carries _ _ _ _ sent := carries.sendTo sent
  broadcast carries order _ _ sent := carries.broadcast order _ sent
  turn carries i := by
    cases i with
    | connect dialler acceptor expected =>
        refine ⟨Mesh.sound_connect carries.sound dialler acceptor expected, ?_⟩
        show ∀ l ∈ (Mesh.connect b _ _ _ _).posted, _
        rw [Mesh.posted_connect]
        exact carries.sent
    | removePeer node peer => exact ⟨Mesh.sound_removePeer carries.sound node peer, carries.sent⟩
    | perform link direction operation =>
        refine ⟨Mesh.sound_perform lawful carries.sound link direction operation, ?_⟩
        show ∀ l ∈ (Mesh.perform b eof _ _ _ _).posted, _
        rw [Mesh.posted_perform]
        exact carries.sent
  receive carries _ here _ _ _ received := by
    obtain ⟨letter, next, same⟩ := Option.map_eq_some_iff.mp received
    cases same
    exact ⟨carries.inbox here (List.mem_of_getElem? next), carries⟩

/-- TCP refines the network of a cluster: whatever the members do over their connections, and
wherever these break, there is a run of the cluster with the same inputs, the same engines and
the same history. -/
theorem tcp_refines_cluster {SM : Type} [StateMachine SM] {b : Bincode} (lawful : b.Lawful)
    (eof : MessageFrame.Eof) (members : List NodeId) (config : NodeId → RabiaConfig)
    (stateMachine : NodeId → SM) (actions : List (Deployment.Action (transport b eof))) :
    ∃ actions' : List Action,
      actions'.filterMap Action.input = actions.filterMap (Deployment.Action.input members) ∧
        (run (Deployment.step (transport b eof) members)
          (Deployment.start members config stateMachine new) actions).toWorld =
            Cluster.world members config stateMachine actions' :=
  Deployment.exists_cluster_run (honest lawful eof members) (fun _ => Mesh.carries_empty) config
    stateMachine actions

/-- Two engines connect, and the heartbeat of one reaches the other. -/
def heartbeatRun : List (Deployment.Action (transport Mesh.bincode ⟨"eof", "eof"⟩)) :=
  [.turn (.connect ⟨1⟩ ⟨2⟩ ⟨2⟩), .turn (.perform 0 .forth (.arrive 28)),
    .turn (.perform 0 .forth .read), .turn (.perform 0 .back (.arrive 28)),
    .turn (.perform 0 .back .read), .atNode ⟨1⟩ [] { now := 7 } .heartbeat,
    .turn (.perform 0 .forth .write), .turn (.perform 0 .forth (.arrive 82)),
    .turn (.perform 0 .forth .read), .receive ⟨2⟩ [] { now := 8 }]

theorem tcp_refines_cluster_heartbeat :
    let d := run (Deployment.step (transport Mesh.bincode ⟨"eof", "eof"⟩) [⟨1⟩, ⟨2⟩])
      (Deployment.start [⟨1⟩, ⟨2⟩] newConfig emptyLog new) heartbeatRun
    d.transport.taken ⟨2⟩ = 1 ∧
      ∃ actions', actions'.filterMap Action.input = [(⟨1⟩, .heartbeat)] ∧
        d.toWorld = Cluster.world [⟨1⟩, ⟨2⟩] newConfig emptyLog actions' := by
  intro d
  refine ⟨by decide +kernel, ?_⟩
  exact tcp_refines_cluster Mesh.bincode_lawful ⟨"eof", "eof"⟩ [⟨1⟩, ⟨2⟩] newConfig emptyLog
    heartbeatRun

end TcpTransport

end Rabia
