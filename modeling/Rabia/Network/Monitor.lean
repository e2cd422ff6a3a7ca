import Rabia.Engine.Handlers
import Rabia.Lib.Conservation

/-!
# The network monitor

`rabia-core/src/network.rs`: the monitor compares the set of connected nodes it
is given with the last one and reports the differences as events. An observer
who replays the events sees the monitor's own state.
-/

namespace Rabia

open Rabia.Lib

inductive NetworkEvent where
  | nodeConnected (node : NodeId)
  | nodeDisconnected (node : NodeId)
  | networkPartition (activeNodes : Finset NodeId)
  | quorumLost
  | quorumRestored (activeNodes : Finset NodeId)
deriving DecidableEq

/-- `has_quorum` of a `ClusterConfig`. -/
def ClusterConfig.hasQuorum (config : ClusterConfig) (activeNodes : Finset NodeId) : Bool :=
  config.quorumSize ≤ activeNodes.card

structure NetworkMonitor where
  config : ClusterConfig
  connectedNodes : Finset NodeId
  hasQuorum : Bool

/-- A call of `update_connected_nodes`, with the orders in which its two difference
sets are walked. -/
structure NodesUpdate where
  nodes : Finset NodeId
  connectedOrder : List NodeId := []
  disconnectedOrder : List NodeId := []

namespace NetworkMonitor

/-- `NetworkMonitor::new`: all nodes count as connected. -/
def new (config : ClusterConfig) : NetworkMonitor where
  config := config
  connectedNodes := config.allNodes
  hasQuorum := config.hasQuorum config.allNodes

/-- `update_connected_nodes`: the events, and the monitor afterwards. -/
def updateConnectedNodes (update : NodesUpdate) (monitor : NetworkMonitor) :
    List NetworkEvent × NetworkMonitor :=
  let nodes := update.nodes
  let newlyConnected := nodes \ monitor.connectedNodes
  let newlyDisconnected := monitor.connectedNodes \ nodes
  let connections := (iterate update.connectedOrder newlyConnected).map .nodeConnected
  let disconnections := (iterate update.disconnectedOrder newlyDisconnected).map .nodeDisconnected
  let newHasQuorum := monitor.config.hasQuorum nodes
  let edge :=
    if monitor.hasQuorum && !newHasQuorum then [.quorumLost]
    else if !monitor.hasQuorum && newHasQuorum then [.quorumRestored nodes]
    else []
  let partition :=
    if newlyConnected ≠ ∅ ∨ newlyDisconnected ≠ ∅ then [.networkPartition nodes] else []
  (connections ++ disconnections ++ edge ++ partition,
    { monitor with connectedNodes := nodes, hasQuorum := newHasQuorum })

def events (monitor : NetworkMonitor) (update : NodesUpdate) : List NetworkEvent :=
  (monitor.updateConnectedNodes update).1

def step (monitor : NetworkMonitor) (update : NodesUpdate) : NetworkMonitor :=
  (monitor.updateConnectedNodes update).2

@[simp] theorem step_connectedNodes (monitor : NetworkMonitor) (update : NodesUpdate) :
    (monitor.step update).connectedNodes = update.nodes := rfl

@[simp] theorem step_config (monitor : NetworkMonitor) (update : NodesUpdate) :
    (monitor.step update).config = monitor.config := rfl

@[simp] theorem step_hasQuorum (monitor : NetworkMonitor) (update : NodesUpdate) :
    (monitor.step update).hasQuorum = monitor.config.hasQuorum update.nodes := rfl

end NetworkMonitor

/-! ## Replaying events -/

/-- What an observer of the events knows. -/
structure Connectivity where
  connected : Finset NodeId
  quorum : Bool

namespace Connectivity

def apply (known : Connectivity) : NetworkEvent → Connectivity
  | .nodeConnected node => { known with connected := insert node known.connected }
  | .nodeDisconnected node => { known with connected := known.connected.erase node }
  | .networkPartition _ => known
  | .quorumLost => { known with quorum := false }
  | .quorumRestored _ => { known with quorum := true }

/-- The event tells the observer something. -/
def News (known : Connectivity) : NetworkEvent → Prop
  | .nodeConnected node => node ∉ known.connected
  | .nodeDisconnected node => node ∈ known.connected
  | .networkPartition _ => True
  | .quorumLost => known.quorum = true
  | .quorumRestored _ => known.quorum = false

theorem replay_connected (nodes : List NodeId) (known : Connectivity) (distinct : nodes.Nodup)
    (unknown : ∀ node ∈ nodes, node ∉ known.connected) :
    Along apply News known (nodes.map .nodeConnected) ∧
      run apply known (nodes.map .nodeConnected) =
        { known with connected := known.connected ∪ nodes.toFinset } := by
  induction nodes generalizing known with
  | nil => simp [Along, run]
  | cons node nodes ih =>
      obtain ⟨notLater, distinct⟩ := List.nodup_cons.mp distinct
      obtain ⟨fresh, unknown⟩ := List.forall_mem_cons.mp unknown
      obtain ⟨news, replayed⟩ := ih (known.apply (.nodeConnected node)) distinct (by
        intro other member seen
        rcases Finset.mem_insert.mp seen with rfl | seen
        · exact notLater member
        · exact unknown other member seen)
      refine ⟨⟨fresh, news⟩, ?_⟩
      rw [List.map_cons, run_cons, replayed, List.toFinset_cons]
      simp [apply]

theorem replay_disconnected (nodes : List NodeId) (known : Connectivity) (distinct : nodes.Nodup)
    (present : ∀ node ∈ nodes, node ∈ known.connected) :
    Along apply News known (nodes.map .nodeDisconnected) ∧
      run apply known (nodes.map .nodeDisconnected) =
        { known with connected := known.connected \ nodes.toFinset } := by
  induction nodes generalizing known with
  | nil => simp [Along, run]
  | cons node nodes ih =>
      obtain ⟨notLater, distinct⟩ := List.nodup_cons.mp distinct
      obtain ⟨here, present⟩ := List.forall_mem_cons.mp present
      obtain ⟨news, replayed⟩ := ih (known.apply (.nodeDisconnected node)) distinct (by
        intro other member
        refine Finset.mem_erase.mpr ⟨?_, present other member⟩
        rintro rfl
        exact notLater member)
      refine ⟨⟨here, news⟩, ?_⟩
      rw [List.map_cons, run_cons, replayed, List.toFinset_cons]
      simp [apply, Finset.erase_sdiff_comm, Finset.sdiff_insert]

end Connectivity

namespace NetworkMonitor

/-- What an observer of the events is to know. -/
def connectivity (monitor : NetworkMonitor) : Connectivity where
  connected := monitor.connectedNodes
  quorum := monitor.hasQuorum

/-- Replaying the events of a call tells the observer nothing twice, and leaves it with the
monitor's state. -/
theorem replay_events (monitor : NetworkMonitor) (update : NodesUpdate) :
    Along Connectivity.apply Connectivity.News monitor.connectivity (monitor.events update) ∧
      run Connectivity.apply monitor.connectivity (monitor.events update) =
        (monitor.step update).connectivity := by
  obtain ⟨nodes, connectedOrder, disconnectedOrder⟩ := update
  obtain ⟨config, connected, quorum⟩ := monitor
  obtain ⟨gained, grown⟩ := Connectivity.replay_connected
    (iterate connectedOrder (nodes \ connected)) ⟨connected, quorum⟩ (nodup_iterate _ _) (by
      intro node member
      rw [mem_iterate] at member
      exact (Finset.mem_sdiff.mp member).2)
  rw [toFinset_iterate] at grown
  obtain ⟨lost, shrunk⟩ := Connectivity.replay_disconnected
    (iterate disconnectedOrder (connected \ nodes)) ⟨connected ∪ nodes \ connected, quorum⟩
    (nodup_iterate _ _) (by
      intro node member
      rw [mem_iterate] at member
      exact Finset.mem_union_left _ (Finset.mem_sdiff.mp member).1)
  rw [toFinset_iterate] at shrunk
  have reached : (connected ∪ nodes \ connected) \ (connected \ nodes) = nodes := by
    ext node
    simp only [Finset.mem_sdiff, Finset.mem_union]
    tauto
  simp only [reached] at shrunk
  refine along_run_append (b := ⟨nodes, config.hasQuorum nodes⟩)
    (along_run_append (along_run_append ⟨gained, grown⟩ ⟨lost, shrunk⟩) ?_) ?_
  · -- an edge is reported against the cached flag
    cases quorum <;> cases config.hasQuorum nodes <;>
      exact ⟨by simp [Along, Connectivity.News], rfl⟩
  · split <;> exact ⟨by simp [Along, Connectivity.News], rfl⟩

/-- A call reports a partition exactly when it changes the set. -/
theorem networkPartition_mem_events (monitor : NetworkMonitor) (update : NodesUpdate)
    (activeNodes : Finset NodeId) :
    .networkPartition activeNodes ∈ monitor.events update ↔
      activeNodes = update.nodes ∧
        (monitor.step update).connectedNodes ≠ monitor.connectedNodes := by
  have changed : (update.nodes \ monitor.connectedNodes ≠ ∅ ∨
      monitor.connectedNodes \ update.nodes ≠ ∅) ↔ update.nodes ≠ monitor.connectedNodes := by
    rw [← not_and_or, not_iff_not, Finset.sdiff_eq_empty_iff_subset,
      Finset.sdiff_eq_empty_iff_subset]
    exact ⟨fun both => both.1.antisymm both.2, fun same => ⟨same.subset, same.symm.subset⟩⟩
  rw [step_connectedNodes, ← changed]
  simp only [events, updateConnectedNodes, List.mem_append]
  constructor
  · rintro (((member | member) | member) | member)
    · simp at member
    · simp at member
    · split at member <;> [skip; split at member] <;> simp at member
    · split at member
      · exact ⟨by simpa using member, ‹_›⟩
      · simp at member
  · rintro ⟨rfl, differs⟩
    right
    rw [if_pos differs]
    exact List.mem_singleton.mpr rfl

end NetworkMonitor

/-! ## Quorum edges -/

/-- The events at which the quorum goes and comes. -/
inductive QuorumEdge where
  | lost
  | restored
deriving DecidableEq

def NetworkEvent.quorumEdge : NetworkEvent → Option QuorumEdge
  | .quorumLost => some .lost
  | .quorumRestored _ => some .restored
  | _ => none

/-- The edge that can come next. -/
def QuorumEdge.next (quorum : Bool) : QuorumEdge := if quorum then .lost else .restored

/-- Events that are news report the two edges in turn. -/
theorem edges_alternate {events : List NetworkEvent} {known : Connectivity}
    (news : Along Connectivity.apply Connectivity.News known events) :
    (events.filterMap NetworkEvent.quorumEdge).IsChain (· ≠ ·) ∧
      ∀ first ∈ (events.filterMap NetworkEvent.quorumEdge).head?,
        first = QuorumEdge.next known.quorum := by
  induction events generalizing known with
  | nil => simp
  | cons event events ih =>
      obtain ⟨alternate, first⟩ := ih news.2
      cases event with
      | nodeConnected node => exact ⟨alternate, first⟩
      | nodeDisconnected node => exact ⟨alternate, first⟩
      | networkPartition activeNodes => exact ⟨alternate, first⟩
      | quorumLost =>
          have held : known.quorum = true := news.1
          refine ⟨List.IsChain.cons alternate ?_, ?_⟩
          · intro next later
            rw [first next later]
            show QuorumEdge.lost ≠ QuorumEdge.restored
            decide
          · intro here same
            cases same
            rw [held]
            rfl
      | quorumRestored activeNodes =>
          have missing : known.quorum = false := news.1
          refine ⟨List.IsChain.cons alternate ?_, ?_⟩
          · intro next later
            rw [first next later]
            show QuorumEdge.restored ≠ QuorumEdge.lost
            decide
          · intro here same
            cases same
            rw [missing]
            rfl

/-! ## Histories -/

namespace NetworkMonitor

/-- The events of a history of updates. -/
def reported (monitor : NetworkMonitor) (updates : List NodesUpdate) : List NetworkEvent :=
  collect step events monitor updates

/-- The cached flag is what the quorum check says of the cached set. -/
def FlagCurrent (monitor : NetworkMonitor) : Prop :=
  monitor.hasQuorum = monitor.config.hasQuorum monitor.connectedNodes

theorem run_config (monitor : NetworkMonitor) (updates : List NodesUpdate) :
    (run step monitor updates).config = monitor.config := by
  induction updates generalizing monitor with
  | nil => rfl
  | cons update updates ih => exact ih (monitor.step update)

theorem flagCurrent_run (config : ClusterConfig) (updates : List NodesUpdate) :
    FlagCurrent (run step (new config) updates) := by
  have start : FlagCurrent (new config) := rfl
  refine run_of_kept (I := FlagCurrent) ?_ start updates
  intro monitor update _
  show (monitor.step update).hasQuorum = _
  rfl

end NetworkMonitor

/-- A configuration of at least one node starts with its quorum. -/
theorem ClusterConfig.hasQuorum_new (nodeId : NodeId) {nodes : Finset NodeId}
    (some_node : nodes.Nonempty) : (ClusterConfig.new nodeId nodes).hasQuorum nodes = true := by
  have count := Finset.card_pos.mpr some_node
  refine decide_eq_true ?_
  show nodes.card / 2 + 1 ≤ nodes.card
  omega

/-- The events of a monitor tell all it knows and nothing twice: replaying them over the
initial nodes gives its connected nodes and its quorum flag after every history, the quorum
events alternate from the state at the start on, the flag is the quorum of the connected
nodes, and a call reports a partition exactly when it changes the set. -/
theorem network_events_faithful (config : ClusterConfig) (updates : List NodesUpdate) :
    let start := NetworkMonitor.new config
    let monitor := run NetworkMonitor.step start updates
    let events := start.reported updates
    let edges := events.filterMap NetworkEvent.quorumEdge
    run Connectivity.apply ⟨config.allNodes, config.hasQuorum config.allNodes⟩ events =
        ⟨monitor.connectedNodes, monitor.hasQuorum⟩ ∧
      Along Connectivity.apply Connectivity.News
        ⟨config.allNodes, config.hasQuorum config.allNodes⟩ events ∧
      edges.IsChain (· ≠ ·) ∧
      (∀ first ∈ edges.head?,
        first = QuorumEdge.next (config.hasQuorum config.allNodes)) ∧
      (∀ nodeId nodes, nodes.Nonempty → config = ClusterConfig.new nodeId nodes →
        ∀ first ∈ edges.head?, first = .lost) ∧
      (monitor.hasQuorum = true ↔ config.quorumSize ≤ monitor.connectedNodes.card) ∧
      Along NetworkMonitor.step (fun monitor update =>
          ∀ activeNodes, .networkPartition activeNodes ∈ monitor.events update ↔
            activeNodes = update.nodes ∧
              (monitor.step update).connectedNodes ≠ monitor.connectedNodes)
        start updates := by
  intro start monitor events edges
  obtain ⟨news, replayed⟩ :=
    replay_collect NetworkMonitor.connectivity NetworkMonitor.events
      NetworkMonitor.replay_events start updates
  obtain ⟨alternate, first⟩ := edges_alternate news
  refine ⟨replayed, news, alternate, first, ?_, ?_, ?_⟩
  · rintro nodeId nodes some_node rfl edge isFirst
    rw [first edge isFirst]
    show QuorumEdge.next ((ClusterConfig.new nodeId nodes).hasQuorum nodes) = .lost
    rw [ClusterConfig.hasQuorum_new nodeId some_node]
    rfl
  · have current : monitor.hasQuorum = monitor.config.hasQuorum monitor.connectedNodes :=
      NetworkMonitor.flagCurrent_run config updates
    rw [current, NetworkMonitor.run_config]
    exact decide_eq_true_iff
  · exact along_of_forall NetworkMonitor.networkPartition_mem_events start updates

end Rabia
