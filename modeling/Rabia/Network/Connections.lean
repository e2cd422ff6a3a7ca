import Rabia.Core.Types
import Rabia.Lib.Runs
import Rabia.Lib.Table

/-!
# The connection table

`TcpNetwork` of `rabia-engine/src/network/tcp.rs`: the table of connections by peer, and
the connection handlers that run beside it. A handler that ends leaves the table as it
is, and whoever asks to connect is told by the table; so the table tracks the live
connections only while no handler ends that was the last of a peer in the table
(`tracked_along_iff`).
-/

namespace Rabia

open Rabia.Lib

/-- A socket address, as its text. -/
abbrev SocketAddr := String

/-- `ConnectionInfo`. Two connections are told apart by the order in which they were made. -/
structure ConnectionInfo where
  serial : Nat
  nodeId : NodeId
  addr : SocketAddr
  isOutbound : Bool
deriving DecidableEq, Repr

/-- `TcpNetwork`, with the connections whose handler is running. -/
structure TcpNetwork where
  /-- `retry_config.max_attempts`. -/
  maxAttempts : Nat
  peerAddresses : Table NodeId SocketAddr
  connections : Table NodeId ConnectionInfo
  handlers : List ConnectionInfo
  /-- The number of connections made so far. -/
  made : Nat

/-- What comes of one attempt to connect. -/
inductive Attempt where
  | connected
  | handshakeFailed
  | refused
  | timedOut
deriving DecidableEq, Repr

namespace TcpNetwork

/-- `TcpNetwork::new`, before it connects to anyone. -/
def new (maxAttempts : Nat) (peerAddresses : Table NodeId SocketAddr) : TcpNetwork :=
  ⟨maxAttempts, peerAddresses, ∅, [], 0⟩

/-- Register a connection and start its handler. -/
def register (peer : NodeId) (addr : SocketAddr) (isOutbound : Bool) (s : TcpNetwork) :
    TcpNetwork :=
  let connection : ConnectionInfo := ⟨s.made, peer, addr, isOutbound⟩
  -- the handler of a connection that loses its entry here runs on
  { s with
    connections := s.connections.insert peer connection
    handlers := s.handlers ++ [connection]
    made := s.made + 1 }

/-- `handle_inbound_connection`, with the outcome of the handshake. -/
def handleInboundConnection (addr : SocketAddr) (handshake : Except RabiaError NodeId)
    (s : TcpNetwork) : Except RabiaError Unit × TcpNetwork :=
  match handshake with
  | .ok peer => (.ok (), s.register peer addr false)
  | .error err => (.error err, s)

/-- The loop of `connect_to_peer`: the attempts that are left and those made so far. It ends
with a connection, or with the number of attempts. -/
def retry (outcome : Nat → Attempt) : Nat → Nat → Except Nat Unit
  | 0, attempts => .error attempts
  | left + 1, attempts =>
    match outcome attempts with
    | .connected => .ok ()
    | .handshakeFailed | .refused | .timedOut => retry outcome left (attempts + 1)

/-- `connect_to_peer`. -/
def connectToPeer (peer : NodeId) (addr : SocketAddr) (outcome : Nat → Attempt)
    (s : TcpNetwork) : Except RabiaError Unit × TcpNetwork :=
  -- an entry is taken for a connection, whether or not its handler is still running
  if peer ∈ s.connections then
    (.ok (), s)
  else
    match retry outcome s.maxAttempts 0 with
    | .ok () => (.ok (), s.register peer addr true)
    | .error attempts =>
      (.error (.network s!"Failed to connect to {addr} after {attempts} attempts"), s)

/-- `add_peer`, with the result that it logs. -/
def addPeer (peer : NodeId) (addr : SocketAddr) (outcome : Nat → Attempt) (s : TcpNetwork) :
    Except RabiaError Unit × TcpNetwork :=
  connectToPeer peer addr outcome { s with peerAddresses := s.peerAddresses.insert peer addr }

/-- `remove_peer`. -/
def removePeer (peer : NodeId) (s : TcpNetwork) : TcpNetwork :=
  { s with
    peerAddresses := s.peerAddresses.erase peer
    connections := s.connections.erase peer }

/-- The loop of `reconnect`, with the results that it logs. -/
def reconnectTo (outcome : NodeId → Nat → Attempt) :
    List (NodeId × SocketAddr) → TcpNetwork → List (NodeId × Except RabiaError Unit) × TcpNetwork
  | [], s => ([], s)
  | (peer, addr) :: peers, s =>
    let (result, s) := connectToPeer peer addr (outcome peer) s
    let (results, s) := reconnectTo outcome peers s
    ((peer, result) :: results, s)

/-- `reconnect`, when the known peers are walked in the order of `order`. -/
def reconnect (order : List NodeId) (outcome : NodeId → Nat → Attempt) (s : TcpNetwork) :
    List (NodeId × Except RabiaError Unit) × TcpNetwork :=
  reconnectTo outcome (Table.walk order s.peerAddresses) s

/-- `get_connected_nodes`. -/
def getConnectedNodes (s : TcpNetwork) : Finset NodeId := s.connections.keys

/-- `is_connected`. -/
def isConnected (peer : NodeId) (s : TcpNetwork) : Bool := peer ∈ s.connections

/-- The handler of a connection ends. -/
def handlerEnds (connection : ConnectionInfo) (s : TcpNetwork) : TcpNetwork :=
  { s with handlers := s.handlers.erase connection }

/-! ## Runs -/

/-- What happens to a network. -/
inductive Event where
  | inbound (addr : SocketAddr) (handshake : Except RabiaError NodeId)
  | connectToPeer (peer : NodeId) (addr : SocketAddr) (outcome : Nat → Attempt)
  | addPeer (peer : NodeId) (addr : SocketAddr) (outcome : Nat → Attempt)
  | reconnect (order : List NodeId) (outcome : NodeId → Nat → Attempt)
  | removePeer (peer : NodeId)
  | handlerEnds (connection : ConnectionInfo)

/-- The network after an event. -/
def step (s : TcpNetwork) : Event → TcpNetwork
  | .inbound addr handshake => (s.handleInboundConnection addr handshake).2
  | .connectToPeer peer addr outcome => (s.connectToPeer peer addr outcome).2
  | .addPeer peer addr outcome => (s.addPeer peer addr outcome).2
  | .reconnect order outcome => (s.reconnect order outcome).2
  | .removePeer peer => s.removePeer peer
  | .handlerEnds connection => s.handlerEnds connection

/-- Some handler of the peer is running. -/
def Served (s : TcpNetwork) (peer : NodeId) : Prop := ∃ c ∈ s.handlers, c.nodeId = peer

/-- Every peer that the network reports as connected has a running handler. -/
def Tracks (s : TcpNetwork) : Prop :=
  ∀ peer, peer ∈ s.getConnectedNodes ∨ s.isConnected peer → s.Served peer

/-- The connection of the peer has ended, and the table still has it. -/
def Ended (s : TcpNetwork) (peer : NodeId) : Prop :=
  ∃ c, s.connections.lookup peer = some c ∧ c ∉ s.handlers

/-- A connection to the peer was opened between the two. -/
def Opened (s s' : TcpNetwork) (peer : NodeId) : Prop :=
  ∃ c ∈ s'.handlers, c.nodeId = peer ∧ c ∉ s.handlers

/-- Whoever connects to a peer whose connection has ended, and is told that this went
well, has a new connection. -/
def Reopens (s : TcpNetwork) : Event → Prop
  | .connectToPeer peer addr outcome =>
    s.Ended peer → (s.connectToPeer peer addr outcome).1 = .ok () →
      s.Opened (s.connectToPeer peer addr outcome).2 peer
  | .addPeer peer addr outcome =>
    s.Ended peer → (s.addPeer peer addr outcome).1 = .ok () →
      s.Opened (s.addPeer peer addr outcome).2 peer
  | .reconnect order outcome =>
    ∀ peer, s.Ended peer → (peer, .ok ()) ∈ (s.reconnect order outcome).1 →
      s.Opened (s.reconnect order outcome).2 peer
  | .inbound _ _ | .removePeer _ | .handlerEnds _ => True

/-- A handler that ends is not the last of a peer in the table, and nobody connects to a
peer whose connection in the table has ended. -/
def Spared (s : TcpNetwork) : Event → Prop
  | .handlerEnds connection =>
    connection ∈ s.handlers → connection.nodeId ∈ s.connections →
      ∃ c ∈ s.handlers.erase connection, c.nodeId = connection.nodeId
  | .connectToPeer peer _ _ | .addPeer peer _ _ => ¬ s.Ended peer
  | .reconnect _ _ => ∀ peer ∈ s.peerAddresses, ¬ s.Ended peer
  | .inbound _ _ | .removePeer _ => True

/-! ## Steps -/

theorem tracks_iff {s : TcpNetwork} :
    s.Tracks ↔ ∀ peer ∈ s.connections, s.Served peer := by
  unfold Tracks getConnectedNodes isConnected
  simp [Finmap.mem_keys]

theorem tracks_register {s : TcpNetwork} (tracks : s.Tracks) (peer : NodeId)
    (addr : SocketAddr) (isOutbound : Bool) : (s.register peer addr isOutbound).Tracks := by
  rw [tracks_iff] at tracks ⊢
  intro p present
  by_cases same : p = peer
  · subst same
    exact ⟨_, List.mem_append_right _ (List.mem_singleton_self _), rfl⟩
  · have before := (Finmap.mem_insert.mp present).resolve_left same
    obtain ⟨c, running, served⟩ := tracks p before
    exact ⟨c, List.mem_append_left _ running, served⟩

theorem connectToPeer_present {peer : NodeId} {s : TcpNetwork} (present : peer ∈ s.connections)
    (addr : SocketAddr) (outcome : Nat → Attempt) :
    s.connectToPeer peer addr outcome = (.ok (), s) := if_pos present

/-- A call of `connect_to_peer` registers one connection or does nothing. -/
theorem connectToPeer_cases (peer : NodeId) (addr : SocketAddr) (outcome : Nat → Attempt)
    (s : TcpNetwork) :
    (s.connectToPeer peer addr outcome).2 = s ∨
      peer ∉ s.connections ∧
        (s.connectToPeer peer addr outcome).2 = s.register peer addr true := by
  unfold connectToPeer
  by_cases present : peer ∈ s.connections
  · rw [if_pos present]
    exact .inl rfl
  · rw [if_neg present]
    cases retry outcome s.maxAttempts 0 with
    | ok _ => exact .inr ⟨present, rfl⟩
    | error attempts => exact .inl rfl

theorem tracks_connectToPeer {s : TcpNetwork} (tracks : s.Tracks) (peer : NodeId)
    (addr : SocketAddr) (outcome : Nat → Attempt) :
    (s.connectToPeer peer addr outcome).2.Tracks := by
  rcases connectToPeer_cases peer addr outcome s with same | ⟨-, registered⟩
  · rw [same]
    exact tracks
  · rw [registered]
    exact tracks_register tracks peer addr true

theorem tracks_reconnectTo (outcome : NodeId → Nat → Attempt)
    (peers : List (NodeId × SocketAddr)) {s : TcpNetwork} (tracks : s.Tracks) :
    (reconnectTo outcome peers s).2.Tracks := by
  induction peers generalizing s with
  | nil => exact tracks
  | cons first peers ih => exact ih (tracks_connectToPeer tracks first.1 first.2 _)

/-- A peer with an entry keeps it, and gets no other handler. -/
theorem connectToPeer_keeps {s : TcpNetwork} {peer : NodeId} (present : peer ∈ s.connections)
    (other : NodeId) (addr : SocketAddr) (outcome : Nat → Attempt) :
    peer ∈ (s.connectToPeer other addr outcome).2.connections ∧
      ∀ c ∈ (s.connectToPeer other addr outcome).2.handlers, c.nodeId = peer → c ∈ s.handlers := by
  rcases connectToPeer_cases other addr outcome s with same | ⟨absent, registered⟩
  · rw [same]
    exact ⟨present, fun c running _ => running⟩
  · rw [registered]
    refine ⟨Finmap.mem_insert.mpr (.inr present), fun c running served => ?_⟩
    rcases List.mem_append.mp running with running | fresh
    · exact running
    · -- only a peer without an entry gets a handler
      cases List.mem_singleton.mp fresh
      subst served
      exact absurd present absent

theorem reconnectTo_keeps (outcome : NodeId → Nat → Attempt)
    (peers : List (NodeId × SocketAddr)) {s : TcpNetwork} {peer : NodeId}
    (present : peer ∈ s.connections) :
    ∀ c ∈ (reconnectTo outcome peers s).2.handlers, c.nodeId = peer → c ∈ s.handlers := by
  induction peers generalizing s with
  | nil =>
      intro c running _
      exact running
  | cons first peers ih =>
      intro c running served
      obtain ⟨kept, unchanged⟩ := connectToPeer_keeps present first.1 first.2 (outcome first.1)
      exact unchanged c (ih kept c running served) served

/-- A known peer with an entry is told that it is connected. -/
theorem reconnectTo_present (outcome : NodeId → Nat → Attempt)
    {peers : List (NodeId × SocketAddr)} {s : TcpNetwork} {peer : NodeId} {addr : SocketAddr}
    (known : (peer, addr) ∈ peers) (present : peer ∈ s.connections) :
    (peer, .ok ()) ∈ (reconnectTo outcome peers s).1 := by
  induction peers generalizing s with
  | nil => cases known
  | cons first peers ih =>
      rcases List.mem_cons.mp known with rfl | later
      · have told := connectToPeer_present present addr (outcome peer)
        show (peer, Except.ok ()) ∈ (peer, (s.connectToPeer peer addr (outcome peer)).1) :: _
        rw [told]
        exact List.mem_cons_self
      · have kept := (connectToPeer_keeps present first.1 first.2 (outcome first.1)).1
        exact List.mem_cons_of_mem _ (ih later kept)

/-- `reconnect` connects to known peers only. -/
theorem reconnectTo_known (outcome : NodeId → Nat → Attempt)
    {peers : List (NodeId × SocketAddr)} {s : TcpNetwork} {peer : NodeId}
    {result : Except RabiaError Unit} (member : (peer, result) ∈ (reconnectTo outcome peers s).1) :
    ∃ addr, (peer, addr) ∈ peers := by
  induction peers generalizing s with
  | nil => cases member
  | cons first peers ih =>
      rcases List.mem_cons.mp member with told | later
      · cases told
        exact ⟨first.2, List.mem_cons_self⟩
      · obtain ⟨addr, known⟩ := ih later
        exact ⟨addr, List.mem_cons_of_mem first known⟩

theorem present_of_ended {s : TcpNetwork} {peer : NodeId} (ended : s.Ended peer) :
    peer ∈ s.connections := by
  obtain ⟨c, found, -⟩ := ended
  exact Finmap.mem_of_lookup_eq_some found

/-- Nothing was opened if every handler of the peer was running before. -/
theorem not_opened {s s' : TcpNetwork} {peer : NodeId}
    (unchanged : ∀ c ∈ s'.handlers, c.nodeId = peer → c ∈ s.handlers) : ¬ s.Opened s' peer := by
  rintro ⟨c, running, served, fresh⟩
  exact fresh (unchanged c running served)

/-- Connecting to a peer whose connection has ended opens none: its entry is there. -/
theorem reopens_connect_iff {s : TcpNetwork} (peer : NodeId) (addr : SocketAddr)
    (outcome : Nat → Attempt) :
    (s.Ended peer → (s.connectToPeer peer addr outcome).1 = .ok () →
        s.Opened (s.connectToPeer peer addr outcome).2 peer) ↔ ¬ s.Ended peer := by
  constructor
  · intro reopens ended
    have told := connectToPeer_present (present_of_ended ended) addr outcome
    have opened := reopens ended (congrArg Prod.fst told)
    rw [told] at opened
    exact not_opened (fun c running _ => running) opened
  · intro spared ended
    exact absurd ended spared

theorem reopens_reconnect_iff {s : TcpNetwork} (order : List NodeId)
    (outcome : NodeId → Nat → Attempt) :
    s.Reopens (.reconnect order outcome) ↔ ∀ peer ∈ s.peerAddresses, ¬ s.Ended peer := by
  constructor
  · intro reopens peer known ended
    obtain ⟨addr, found⟩ := Finmap.mem_iff.mp known
    have present := present_of_ended ended
    have walked : (peer, addr) ∈ Table.walk order s.peerAddresses := Table.mem_walk.mpr found
    have told := reconnectTo_present outcome walked present
    exact not_opened (reconnectTo_keeps outcome _ present) (reopens peer ended told)
  · intro spared peer ended told
    obtain ⟨addr, walked⟩ := reconnectTo_known outcome told
    have known := Finmap.mem_of_lookup_eq_some (Table.mem_walk.mp walked)
    exact absurd ended (spared peer known)

theorem tracks_handlerEnds_iff {s : TcpNetwork} (tracks : s.Tracks) (connection : ConnectionInfo) :
    (s.handlerEnds connection).Tracks ↔ s.Spared (.handlerEnds connection) := by
  rw [tracks_iff] at tracks ⊢
  constructor
  · intro tracks' _ present
    exact tracks' connection.nodeId present
  · intro spared peer present
    obtain ⟨c, running, served⟩ := tracks peer present
    by_cases same : c = connection
    · -- the handler that served the peer ends, so another has to
      subst same
      obtain ⟨c', running', served'⟩ := spared running (served ▸ present)
      exact ⟨c', running', served'.trans served⟩
    · exact ⟨c, (List.mem_erase_of_ne same).mpr running, served⟩

/-- What a step keeps and what it breaks. -/
theorem step_tracks_iff {s : TcpNetwork} (tracks : s.Tracks) (event : Event) :
    (s.step event).Tracks ∧ s.Reopens event ↔ s.Spared event := by
  cases event with
  | inbound addr handshake =>
      refine iff_of_true ⟨?_, trivial⟩ trivial
      cases handshake with
      | ok peer => exact tracks_register tracks peer addr false
      | error err => exact tracks
  | connectToPeer peer addr outcome =>
      exact (and_iff_right (tracks_connectToPeer tracks peer addr outcome)).trans
        (reopens_connect_iff peer addr outcome)
  | addPeer peer addr outcome =>
      -- `add_peer` connects after it has noted the address, which the table does not hold
      let known : TcpNetwork := { s with peerAddresses := s.peerAddresses.insert peer addr }
      have kept : known.Tracks := tracks
      exact (and_iff_right (tracks_connectToPeer kept peer addr outcome)).trans
        (reopens_connect_iff (s := known) peer addr outcome)
  | reconnect order outcome =>
      exact (and_iff_right (tracks_reconnectTo outcome _ tracks)).trans
        (reopens_reconnect_iff order outcome)
  | removePeer peer =>
      refine iff_of_true ⟨?_, trivial⟩ trivial
      rw [tracks_iff] at tracks ⊢
      intro p present
      exact tracks p (Finmap.mem_erase.mp present).2
  | handlerEnds connection =>
      rw [← tracks_handlerEnds_iff tracks connection]
      exact and_iff_left trivial

/-- In a run of a new network, the table tracks the live connections in every state, and every
call that connects opens a connection where the old one has ended, exactly when every step of
the run is spared. -/
theorem tracked_along_iff (maxAttempts : Nat) (peerAddresses : Table NodeId SocketAddr)
    (events : List Event) :
    Along step (fun s event => (s.step event).Tracks ∧ s.Reopens event)
        (new maxAttempts peerAddresses) events ↔
      Along step Spared (new maxAttempts peerAddresses) events := by
  have start : (new maxAttempts peerAddresses).Tracks := by
    rw [tracks_iff]
    intro peer present
    exact absurd present Finmap.notMem_empty
  refine along_congr_of_kept (I := Tracks) ?_ ?_ start events
  · intro s event tracks
    exact step_tracks_iff tracks event
  · intro s event _ good
    exact good.1

/-- A peer whose only connection has ended is still reported, and connecting to it again
does nothing. -/
theorem dead_peer_reported :
    ¬ Along step (fun s event => (s.step event).Tracks ∧ s.Reopens event) (new 5 ∅)
      [.connectToPeer ⟨1⟩ "10.0.0.1:7000" fun _ => .connected,
        .handlerEnds ⟨0, ⟨1⟩, "10.0.0.1:7000", true⟩,
        .connectToPeer ⟨1⟩ "10.0.0.1:7000" fun _ => .connected] := by
  rintro ⟨-, ⟨tracks, -⟩, -⟩
  obtain ⟨c, running, -⟩ := tracks ⟨1⟩ (.inr rfl)
  exact List.not_mem_nil running

end TcpNetwork

end Rabia
