import Rabia.Engine.Run
import Rabia.Network.Connections

/-!
# Starting an engine

How `initialize` ends (`initialize_cases`), and what the quorum flag says once it has gone
through. `update_active_nodes` compares the number of connected nodes with the quorum size,
whether or not the transport counts the node itself among them: the flag means a majority
unless the node is missing there and its peers make up exactly half of the cluster, rounded
down (`quorum_flag_iff`).
-/

namespace Rabia

open Rabia.Lib Rabia.Lib.Proc

/-- The counters that `initialize` restores. -/
def EngineState.restoreCounters (persisted : PersistedState) (st : EngineState) : EngineState :=
  { st with
    currentPhase := persisted.currentPhase
    lastCommittedPhase := persisted.lastCommittedPhase }

namespace Engine

variable {SM : Type} [StateMachine SM]

/-- The engine that `initialize` has when it has restored all that is persisted. -/
inductive Restored (e : RabiaEngine SM) : RabiaEngine SM → Prop
  | nothing : e.persistence = none → Restored e e
  | counters {persisted} : e.persistence = some persisted → persisted.snapshot = none →
      Restored e (e.mapState (EngineState.restoreCounters persisted))
  | snapshot {persisted snapshot sm} : e.persistence = some persisted →
      persisted.snapshot = some snapshot →
      StateMachine.restoreSnapshot e.stateMachine snapshot = (.ok (), sm) →
      Restored e { e.mapState (EngineState.restoreCounters persisted) with stateMachine := sm }

/-- How `initialize` ends. -/
inductive Startup (env : Env) (e : RabiaEngine SM) :
    Outcome RabiaError (RabiaEngine SM) Effect Unit → Prop
  | unread {err} : env.load = .error err → Startup env e ⟨.error err, e, []⟩
  /-- The counters are restored, and stay so. -/
  | refused {persisted snapshot err sm} : env.load = .ok () → e.persistence = some persisted →
      persisted.snapshot = some snapshot →
      StateMachine.restoreSnapshot e.stateMachine snapshot = (.error err, sm) →
      Startup env e ⟨.error err,
        { e.mapState (EngineState.restoreCounters persisted) with stateMachine := sm }, []⟩
  | unconnected {e' err} : env.load = .ok () → Restored e e' → env.connectedNodes = .error err →
      Startup env e ⟨.error err, e', []⟩
  | started {e' nodes} : env.load = .ok () → Restored e e' → env.connectedNodes = .ok nodes →
      Startup env e ⟨.ok (), e'.mapState (EngineState.updateActiveNodes nodes), []⟩

/-- The end of `initialize`, from the engine restored so far. -/
theorem startup_of_restored {env : Env} {e e' : RabiaEngine SM} (load : env.load = .ok ())
    (restored : Restored e e') :
    Startup env e ((ofExcept env.connectedNodes >>= fun connectedNodes =>
      modifyState (EngineState.updateActiveNodes connectedNodes) : EngineM SM Unit) e') := by
  cases connected : env.connectedNodes with
  | error err => exact .unconnected load restored connected
  | ok nodes => exact .started load restored connected

theorem restorePersisted_apply (persisted : PersistedState) (e : RabiaEngine SM) :
    restorePersisted persisted e =
      match persisted.snapshot with
      | some snapshot =>
        ⟨(StateMachine.restoreSnapshot e.stateMachine snapshot).1,
          { e.mapState (EngineState.restoreCounters persisted) with
            stateMachine := (StateMachine.restoreSnapshot e.stateMachine snapshot).2 }, []⟩
      | none => ⟨.ok (), e.mapState (EngineState.restoreCounters persisted), []⟩ := by
  unfold restorePersisted
  rw [modifyState, modify_bind]
  cases persisted.snapshot with
  | some snapshot => rfl
  | none => rfl

theorem initialize_cases (env : Env) (e : RabiaEngine SM) :
    Startup env e (initializeEngine env e) := by
  unfold initializeEngine
  cases load : env.load with
  | error err => exact .unread load
  | ok _ =>
      rw [bind_ok (ofExcept_apply _ _), after_nil, read_bind]
      cases persistence : e.persistence with
      | none => exact startup_of_restored load (.nothing persistence)
      | some persisted =>
          have restores := restorePersisted_apply persisted e
          dsimp only
          cases attached : persisted.snapshot with
          | none =>
              rw [attached] at restores
              rw [bind_ok restores]
              exact startup_of_restored load (.counters persistence attached)
          | some snapshot =>
              rw [attached] at restores
              dsimp only at restores
              cases tried : StateMachine.restoreSnapshot e.stateMachine snapshot with
              | mk result sm =>
                  rw [tried] at restores
                  cases result with
                  | ok _ =>
                      rw [bind_ok restores]
                      exact startup_of_restored load (.snapshot persistence attached tried)
                  | error err =>
                      rw [bind_error restores]
                      exact .refused load persistence attached tried

end Engine

/-! ## The quorum flag -/

namespace EngineState

@[simp] theorem setActive_isActive (active : Bool) (st : EngineState) :
    (st.setActive active).isActive = active := by
  unfold setActive
  split_ifs with differs
  · rfl
  · exact not_not.mp differs

@[simp] theorem setActive_hasQuorum (active : Bool) (st : EngineState) :
    (st.setActive active).hasQuorum = st.hasQuorum := by
  unfold setActive
  split_ifs <;> rfl

@[simp] theorem setActive_activeNodes (active : Bool) (st : EngineState) :
    (st.setActive active).activeNodes = st.activeNodes := by
  unfold setActive
  split_ifs <;> rfl

@[simp] theorem setQuorum_hasQuorum (hasQuorum : Bool) (st : EngineState) :
    (st.setQuorum hasQuorum).hasQuorum = hasQuorum := by
  unfold setQuorum
  split_ifs with differs
  · rfl
  · exact not_not.mp differs

@[simp] theorem setQuorum_activeNodes (hasQuorum : Bool) (st : EngineState) :
    (st.setQuorum hasQuorum).activeNodes = st.activeNodes := by
  unfold setQuorum
  split_ifs <;> rfl

@[simp] theorem updateActiveNodes_hasQuorum (nodes : Finset NodeId) (st : EngineState) :
    (st.updateActiveNodes nodes).hasQuorum = decide (st.quorumSize ≤ nodes.card) := by
  simp [updateActiveNodes]

@[simp] theorem updateActiveNodes_isActive (nodes : Finset NodeId) (st : EngineState) :
    (st.updateActiveNodes nodes).isActive = decide (st.quorumSize ≤ nodes.card) := by
  simp [updateActiveNodes]

@[simp] theorem updateActiveNodes_activeNodes (nodes : Finset NodeId) (st : EngineState) :
    (st.updateActiveNodes nodes).activeNodes = nodes := by
  simp only [updateActiveNodes, setActive_activeNodes, setQuorum_activeNodes]
  split_ifs with differs
  · rfl
  · exact not_not.mp differs

end EngineState

/-- What supplies `get_connected_nodes`: the connection table of a `TcpNetwork`, or the
nodes that a `SimulatedNetwork` was told to connect to. -/
inductive Transport where
  | tcp (network : TcpNetwork)
  | simulated (connectedNodes : Finset NodeId)

/-- `get_connected_nodes`. -/
def Transport.getConnectedNodes : Transport → Finset NodeId
  | .tcp network => network.getConnectedNodes
  | .simulated connectedNodes => connectedNodes

/-- The other nodes that `node` is connected to. -/
def Transport.peers (node : NodeId) (transport : Transport) : Finset NodeId :=
  transport.getConnectedNodes.erase node

/-- The quorum flag is set exactly when the node and its peers are a majority. -/
def MeansMajority (allNodes : Finset NodeId) (node : NodeId) (transport : Transport)
    (st : EngineState) : Prop :=
  st.hasQuorum = true ↔ allNodes.card / 2 + 1 ≤ (insert node (transport.peers node)).card

/-- How many nodes the transport reports. -/
theorem Transport.card_getConnectedNodes (node : NodeId) (transport : Transport) :
    transport.getConnectedNodes.card =
      if node ∈ transport.getConnectedNodes then (transport.peers node).card + 1
      else (transport.peers node).card := by
  unfold peers
  split_ifs with present
  · exact (Finset.card_erase_add_one present).symm
  · rw [Finset.erase_eq_of_notMem present]

namespace Engine

variable {SM : Type} [StateMachine SM]

/-- The flag that a successful `initialize` leaves. -/
theorem initialize_hasQuorum {env : Env} {e : RabiaEngine SM} {nodes : Finset NodeId}
    (connected : env.connectedNodes = .ok nodes)
    (started : (initializeEngine env e).result = .ok ()) :
    (initializeEngine env e).state.engineState.hasQuorum =
      decide (e.engineState.quorumSize ≤ nodes.card) := by
  have startup := initialize_cases env e
  generalize initializeEngine env e = outcome at startup started ⊢
  cases startup with
  | unread | refused | unconnected => cases started
  | @started e' nodes' load restored connected' =>
      cases Except.ok.inj (connected'.symm.trans connected)
      have size : e'.engineState.quorumSize = e.engineState.quorumSize := by
        cases restored with
        | nothing | counters | snapshot => rfl
      rw [← size]
      exact EngineState.updateActiveNodes_hasQuorum nodes e'.engineState

/-- After `initialize` the flag means a majority exactly when the transport counts the node
itself, or its peers are not half of the cluster, rounded down. -/
theorem quorum_flag_iff (allNodes : Finset NodeId) (node : NodeId) (transport : Transport)
    (config : RabiaConfig) (stateMachine : SM) (persistence : Option PersistedState) {env : Env}
    (supplied : env.connectedNodes = .ok transport.getConnectedNodes)
    (started : (initializeEngine env (RabiaEngine.new node config
      (ClusterConfig.new node allNodes) stateMachine persistence)).result = .ok ()) :
    MeansMajority allNodes node transport (initializeEngine env (RabiaEngine.new node config
        (ClusterConfig.new node allNodes) stateMachine persistence)).state.engineState ↔
      node ∈ transport.getConnectedNodes ∨ (transport.peers node).card ≠ allNodes.card / 2 := by
  have flag := initialize_hasQuorum supplied started
  have count := transport.card_getConnectedNodes node
  have self : (insert node (transport.peers node)).card = (transport.peers node).card + 1 :=
    Finset.card_insert_of_notMem (Finset.notMem_erase node _)
  unfold MeansMajority
  rw [flag, decide_eq_true_iff, self, count]
  show (allNodes.card / 2 + 1 ≤ _ ↔ _) ↔ _
  by_cases present : node ∈ transport.getConnectedNodes
  · simp [present]
  · simp only [present, if_false, false_or]
    omega

/-- A network of node 0 that is connected to node 1 only. -/
def onePeer : TcpNetwork := (TcpNetwork.new 5 ∅).register ⟨1⟩ "127.0.0.1:9001" true

theorem quorum_flag_iff_onePeer :
    let env : Env := { connectedNodes := .ok {⟨0⟩, ⟨1⟩} }
    MeansMajority {⟨0⟩, ⟨1⟩, ⟨2⟩} ⟨0⟩ (.simulated {⟨0⟩, ⟨1⟩})
      (initializeEngine env (threeNodes 0)).state.engineState := by
  intro env
  have started : (initializeEngine env (threeNodes 0)).result = .ok () := by decide +kernel
  have supplied : env.connectedNodes = .ok (Transport.simulated {⟨0⟩, ⟨1⟩}).getConnectedNodes :=
    rfl
  have flag := quorum_flag_iff {⟨0⟩, ⟨1⟩, ⟨2⟩} ⟨0⟩ (.simulated {⟨0⟩, ⟨1⟩}) ⟨10⟩
    (⟨[]⟩ : ByteLog) none supplied started
  exact flag.mpr (Or.inl (Finset.mem_insert_self _ _))

/-- Nodes 0 and 1 are two of three, and node 0 reports no quorum. -/
theorem onePeer_no_quorum :
    let env : Env := { connectedNodes := .ok (Transport.tcp onePeer).getConnectedNodes }
    (initializeEngine env (threeNodes 0)).result = .ok () ∧
      ¬ MeansMajority {⟨0⟩, ⟨1⟩, ⟨2⟩} ⟨0⟩ (.tcp onePeer)
        (initializeEngine env (threeNodes 0)).state.engineState := by
  refine ⟨by decide +kernel, fun means => ?_⟩
  have flag := means.mpr (by decide +kernel)
  revert flag
  decide +kernel

end Engine

end Rabia
