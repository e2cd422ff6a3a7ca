import Rabia.Core.Serialization
import Rabia.Lib.Fifo
import Mathlib.Data.List.TakeWhile
import Mathlib.Data.Rat.Defs

/-!
# The network simulator

`rabia-testing/src/network_sim.rs`: messages between the nodes of a test are queued in
the order in which they are sent, each with the time at which it is due, and a periodic
call hands over those at the front that are. Times and durations are in nanoseconds.
-/

namespace Rabia

open Rabia.Lib

structure NetworkConditions where
  latencyMin : Nat
  latencyMax : Nat
  packetLossRate : ℚ
deriving DecidableEq

/-- `Duration::from_millis`. -/
def fromMillis (millis : Nat) : Nat := millis * 1000000

/-- `as_millis`. -/
def asMillis (duration : Nat) : Nat := duration / 1000000

/-- `NetworkConditions::default`. -/
def NetworkConditions.default : NetworkConditions where
  latencyMin := fromMillis 1
  latencyMax := fromMillis 10
  packetLossRate := 0

structure NetworkPartition where
  partitionedNodes : Finset NodeId
  duration : Nat
  startedAt : Nat
deriving DecidableEq

/-- `from` and `to` are `sender` and `recipient` here. -/
structure PendingMessage where
  sender : NodeId
  recipient : NodeId
  message : ProtocolMessage
  deliverAt : Nat
  sizeBytes : Nat
deriving DecidableEq

/-- The counts of messages are natural numbers here (`Simulation.stats_fit` has
their range). -/
structure NetworkStats where
  messagesSent : Nat := 0
  messagesDelivered : Nat := 0
  messagesDropped : Nat := 0
  totalLatency : Nat := 0
  totalBytes : Nat := 0
deriving DecidableEq

/-- The channel to a node: what was sent into it, and whether its receiver is still there. -/
structure NodeChannel where
  received : List (NodeId × ProtocolMessage)
  isOpen : Bool
deriving DecidableEq

structure NetworkSimulator where
  nodes : Table NodeId NodeChannel
  conditions : NetworkConditions
  partitions : List NetworkPartition
  pendingMessages : List PendingMessage
  messageStats : NetworkStats

/-- What `send_message` draws: the number it compares with the loss rate, and the source of
its latency. -/
structure Draws where
  loss : ℚ
  latency : Nat
deriving DecidableEq

/-- `gen_range(low..=high)`, which panics on an empty range. -/
def genRange (low high source : Nat) : Option Nat :=
  if low ≤ high then some (low + source % (high - low + 1)) else none

/-- When a message that is sent at `now` is due. The milliseconds are cast to a `u64`. -/
def NetworkConditions.deliverAt (conditions : NetworkConditions) (now source : Nat) : Option Nat :=
  (genRange (asMillis conditions.latencyMin) (asMillis conditions.latencyMax) source).map
    fun millis => now + fromMillis (millis % u64Size)

/-- The partition separates the two nodes: exactly one of them is in it. -/
def NetworkPartition.separates (partition : NetworkPartition) (now : Nat) (node1 node2 : NodeId) :
    Bool :=
  decide (now < partition.startedAt + partition.duration) &&
    (decide (node1 ∈ partition.partitionedNodes) != decide (node2 ∈ partition.partitionedNodes))

/-- What `deliver_pending_messages` asks of the message at the front. -/
def isDue (now : Nat) (msg : PendingMessage) : Bool := decide (msg.deliverAt ≤ now)

theorem deliverAt_le_of_mem_takeWhile {now : Nat} {pending : List PendingMessage}
    {msg : PendingMessage} (taken : msg ∈ pending.takeWhile (isDue now)) :
    msg.deliverAt ≤ now := by
  have due : isDue now msg = true := List.mem_takeWhile_imp taken
  exact of_decide_eq_true due

namespace NetworkSimulator

/-- `NetworkSimulator::new`. -/
def new : NetworkSimulator where
  nodes := ∅
  conditions := .default
  partitions := []
  pendingMessages := []
  messageStats := {}

def addNode (node : NodeId) (s : NetworkSimulator) : NetworkSimulator :=
  { s with nodes := s.nodes.insert node ⟨[], true⟩ }

def removeNode (node : NodeId) (s : NetworkSimulator) : NetworkSimulator :=
  { s with nodes := s.nodes.erase node }

/-- The receiver that `add_node` returned is dropped. -/
def dropReceiver (node : NodeId) (s : NetworkSimulator) : NetworkSimulator :=
  { s with nodes := Table.update node (fun channel => { channel with isOpen := false }) s.nodes }

def updateConditions (conditions : NetworkConditions) (s : NetworkSimulator) : NetworkSimulator :=
  { s with conditions := conditions }

def createPartition (now : Nat) (nodes : Finset NodeId) (duration : Nat) (s : NetworkSimulator) :
    NetworkSimulator :=
  { s with partitions := s.partitions ++ [⟨nodes, duration, now⟩] }

def healPartitions (s : NetworkSimulator) : NetworkSimulator := { s with partitions := [] }

def areNodesPartitioned (now : Nat) (node1 node2 : NodeId) (s : NetworkSimulator) : Bool :=
  s.partitions.any fun partition => partition.separates now node1 node2

/-- `estimate_message_size` of the simulator. -/
def estimateMessageSize (message : ProtocolMessage) : Nat :=
  SizeEstimate.size { base := 64, decided := 32, command := 128, phase := 32 } message

def countSent (s : NetworkSimulator) : NetworkSimulator :=
  { s with messageStats.messagesSent := s.messageStats.messagesSent + 1 }

def countDropped (s : NetworkSimulator) : NetworkSimulator :=
  { s with messageStats.messagesDropped := s.messageStats.messagesDropped + 1 }

@[simp] theorem countSent_conditions (s : NetworkSimulator) :
    s.countSent.conditions = s.conditions := rfl

@[simp] theorem countSent_pendingMessages (s : NetworkSimulator) :
    s.countSent.pendingMessages = s.pendingMessages := rfl

@[simp] theorem countDropped_pendingMessages (s : NetworkSimulator) :
    s.countDropped.pendingMessages = s.pendingMessages := rfl

@[simp] theorem areNodesPartitioned_countSent (now : Nat) (node1 node2 : NodeId)
    (s : NetworkSimulator) :
    s.countSent.areNodesPartitioned now node1 node2 = s.areNodesPartitioned now node1 node2 := rfl

/-- `send_message` at `now`. -/
def sendMessage (now : Nat) (draws : Draws) (sender recipient : NodeId)
    (message : ProtocolMessage) (s : NetworkSimulator) : NetworkSimulator :=
  let s := s.countSent
  if s.areNodesPartitioned now sender recipient then s.countDropped
  else if draws.loss < s.conditions.packetLossRate then s.countDropped
  else
    match s.conditions.deliverAt now draws.latency with
    -- The range of latencies is empty: the caller's task ends in the draw.
    | none => s
    | some deliverAt =>
      let pending : PendingMessage :=
        { sender, recipient, message, deliverAt, sizeBytes := estimateMessageSize message }
      { s with pendingMessages := s.pendingMessages ++ [pending] }

@[simp] theorem sendMessage_nodes (now : Nat) (draws : Draws) (sender recipient : NodeId)
    (message : ProtocolMessage) (s : NetworkSimulator) :
    (s.sendMessage now draws sender recipient message).nodes = s.nodes := by
  unfold sendMessage
  dsimp only
  split
  · rfl
  · split
    · rfl
    · split <;> rfl

/-- The message is handed to its target, when there is one that still listens. -/
def handOver (now : Nat) (s : NetworkSimulator) (msg : PendingMessage) : NetworkSimulator :=
  match s.nodes.lookup msg.recipient with
  | none => s
  | some channel =>
    if channel.isOpen then
      { s with
        nodes := s.nodes.insert msg.recipient
          { channel with received := channel.received ++ [(msg.sender, msg.message)] }
        messageStats :=
          { s.messageStats with
            messagesDelivered := s.messageStats.messagesDelivered + 1
            totalLatency := s.messageStats.totalLatency + (now - msg.deliverAt)
            totalBytes := (s.messageStats.totalBytes + msg.sizeBytes) % u64Size } }
    else s

/-- The loop of `deliver_pending_messages` on the queue that it holds locked. -/
def deliverDue (now : Nat) :
    List PendingMessage → NetworkSimulator → List PendingMessage × NetworkSimulator
  | [], s => ([], s)
  | msg :: pending, s =>
    if msg.deliverAt ≤ now then deliverDue now pending (s.handOver now msg)
    -- What is further back is not looked at.
    else (msg :: pending, s)

/-- `deliver_pending_messages` at `now`. -/
def deliverPendingMessages (now : Nat) (s : NetworkSimulator) : NetworkSimulator :=
  let (pending, s) := deliverDue now s.pendingMessages s
  { s with pendingMessages := pending }

/-- `cleanup_expired_partitions` at `now`. -/
def cleanupExpiredPartitions (now : Nat) (s : NetworkSimulator) : NetworkSimulator :=
  { s with
    partitions := s.partitions.filter fun partition =>
      !decide (partition.startedAt + partition.duration ≤ now) }

/-! ### What the calls do to the queue and to the channels -/

/-- What was sent into the channel of a node. -/
def receivedBy (s : NetworkSimulator) (node : NodeId) : List (NodeId × ProtocolMessage) :=
  ((s.nodes.lookup node).map NodeChannel.received).getD []

@[simp] theorem handOver_pendingMessages (now : Nat) (s : NetworkSimulator)
    (msg : PendingMessage) : (s.handOver now msg).pendingMessages = s.pendingMessages := by
  unfold handOver
  split
  · rfl
  · split <;> rfl

theorem deliverDue_eq (now : Nat) (pending : List PendingMessage) (s : NetworkSimulator) :
    deliverDue now pending s =
      (pending.dropWhile (isDue now), (pending.takeWhile (isDue now)).foldl (handOver now) s) := by
  induction pending generalizing s with
  | nil => rfl
  | cons msg pending ih =>
      unfold deliverDue
      by_cases due : msg.deliverAt ≤ now
      · rw [if_pos due, ih, List.dropWhile_cons_of_pos (by simpa [isDue] using due),
          List.takeWhile_cons_of_pos (by simpa [isDue] using due), List.foldl_cons]
      · rw [if_neg due, List.dropWhile_cons_of_neg (by simpa [isDue] using due),
          List.takeWhile_cons_of_neg (by simpa [isDue] using due), List.foldl_nil]

@[simp] theorem deliverPendingMessages_pendingMessages (now : Nat) (s : NetworkSimulator) :
    (s.deliverPendingMessages now).pendingMessages = s.pendingMessages.dropWhile (isDue now) := by
  unfold deliverPendingMessages
  rw [deliverDue_eq]

/-- The node has a channel whose receiver is still there. -/
def listens (s : NetworkSimulator) (node : NodeId) : Bool :=
  ((s.nodes.lookup node).map NodeChannel.isOpen).getD false

/-- Those of the messages that reach the node. -/
def reaching (s : NetworkSimulator) (node : NodeId) (messages : List PendingMessage) :
    List PendingMessage :=
  messages.filter fun msg => decide (msg.recipient = node) && s.listens node

@[simp] theorem listens_handOver (now : Nat) (s : NetworkSimulator) (msg : PendingMessage)
    (node : NodeId) : (s.handOver now msg).listens node = s.listens node := by
  unfold handOver
  cases found : s.nodes.lookup msg.recipient with
  | none => rfl
  | some channel =>
      by_cases listening : channel.isOpen
      · simp only [listening, if_true, listens, Table.lookup_insert]
        by_cases same : node = msg.recipient
        · subst same
          simp [found, listening]
        · simp [same]
      · simp only [listening]
        rfl

/-- Only the target gets anything, and only if it listens. -/
theorem receivedBy_handOver (now : Nat) (s : NetworkSimulator) (msg : PendingMessage)
    (node : NodeId) :
    (s.handOver now msg).receivedBy node =
      s.receivedBy node ++ (s.reaching node [msg]).map fun m => (m.sender, m.message) := by
  unfold handOver
  cases found : s.nodes.lookup msg.recipient with
  | none =>
      have deaf : s.listens msg.recipient = false := by simp [listens, found]
      by_cases same : msg.recipient = node
      · subst same
        simp [reaching, deaf]
      · simp [reaching, same]
  | some channel =>
      have listening : s.listens msg.recipient = channel.isOpen := by simp [listens, found]
      by_cases same : msg.recipient = node
      · subst same
        cases isOpen : channel.isOpen <;> simp [reaching, receivedBy, found, listening, isOpen]
      · cases isOpen : channel.isOpen <;>
          simp [reaching, receivedBy, same, Ne.symm same, isOpen]

theorem receivedBy_foldl_handOver (now : Nat) (messages : List PendingMessage)
    (s : NetworkSimulator) (node : NodeId) :
    (messages.foldl (handOver now) s).receivedBy node =
      s.receivedBy node ++ (s.reaching node messages).map fun m => (m.sender, m.message) := by
  induction messages generalizing s with
  | nil => simp [reaching]
  | cons msg messages ih =>
      have later : (s.handOver now msg).reaching node messages = s.reaching node messages := by
        unfold reaching
        rw [listens_handOver]
      have both : s.reaching node (msg :: messages) =
          s.reaching node [msg] ++ s.reaching node messages := by
        unfold reaching
        rw [← List.filter_append, List.singleton_append]
      rw [List.foldl_cons, ih, receivedBy_handOver, later, both, List.map_append,
        List.append_assoc]

/-- A node that listens receives the messages for it among those at the front that are due,
in the order in which they were sent. -/
theorem receivedBy_deliverPendingMessages (now : Nat) (s : NetworkSimulator) (node : NodeId) :
    (s.deliverPendingMessages now).receivedBy node =
      s.receivedBy node ++ (s.reaching node (s.pendingMessages.takeWhile (isDue now))).map
        fun m => (m.sender, m.message) := by
  rw [← receivedBy_foldl_handOver now]
  unfold deliverPendingMessages
  rw [deliverDue_eq]
  rfl

end NetworkSimulator

/-! ## Simulations -/

inductive SimulatorCall where
  | addNode (node : NodeId)
  | removeNode (node : NodeId)
  | dropReceiver (node : NodeId)
  | updateConditions (conditions : NetworkConditions)
  | createPartition (nodes : Finset NodeId) (duration : Nat)
  | healPartitions
  | sendMessage (draws : Draws) (sender recipient : NodeId) (message : ProtocolMessage)
  | deliverPendingMessages
  | cleanupExpiredPartitions
deriving DecidableEq

/-- A call, and the time since the one before. -/
structure TimedCall where
  elapsed : Nat
  call : SimulatorCall

namespace NetworkSimulator

/-- The simulator after a call at `now`. -/
def serve (now : Nat) (s : NetworkSimulator) : SimulatorCall → NetworkSimulator
  | .addNode node => s.addNode node
  | .removeNode node => s.removeNode node
  | .dropReceiver node => s.dropReceiver node
  | .updateConditions conditions => s.updateConditions conditions
  | .createPartition nodes duration => s.createPartition now nodes duration
  | .healPartitions => s.healPartitions
  | .sendMessage draws sender recipient message => s.sendMessage now draws sender recipient message
  | .deliverPendingMessages => s.deliverPendingMessages now
  | .cleanupExpiredPartitions => s.cleanupExpiredPartitions now

/-- The messages that a call queues: one that is sent, unless it is lost on the way. -/
def queues (now : Nat) (s : NetworkSimulator) : SimulatorCall → List PendingMessage
  | .sendMessage draws sender recipient message =>
    if s.areNodesPartitioned now sender recipient ∨ draws.loss < s.conditions.packetLossRate then
      []
    else
      (s.conditions.deliverAt now draws.latency).toList.map fun deliverAt =>
        { sender, recipient, message, deliverAt, sizeBytes := estimateMessageSize message }
  | _ => []

/-- A call of `deliver_pending_messages` apart, the calls put at the end of the queue what
they queue. -/
theorem serve_pendingMessages (now : Nat) (s : NetworkSimulator) {call : SimulatorCall}
    (other : call ≠ .deliverPendingMessages) :
    (s.serve now call).pendingMessages = s.pendingMessages ++ s.queues now call := by
  cases call with
  | sendMessage draws sender recipient message =>
      show (s.sendMessage now draws sender recipient message).pendingMessages = _
      by_cases apart : s.areNodesPartitioned now sender recipient
      · simp [sendMessage, queues, apart]
      · by_cases lost : draws.loss < s.conditions.packetLossRate
        · simp [sendMessage, queues, apart, lost]
        · cases due : s.conditions.deliverAt now draws.latency <;>
            simp [sendMessage, queues, apart, lost, due]
  | deliverPendingMessages => exact absurd rfl other
  | _ => exact (List.append_nil _).symm

/-- The same calls hand nothing over: a channel stays as it is, or is new or gone. -/
theorem serve_receivedBy (now : Nat) (s : NetworkSimulator) {call : SimulatorCall}
    (other : call ≠ .deliverPendingMessages) (node : NodeId) :
    (s.serve now call).receivedBy node = s.receivedBy node ∨
      (s.serve now call).receivedBy node = [] := by
  cases call with
  | addNode added =>
      show ((Finmap.lookup node (s.nodes.insert added _)).map _).getD [] = _ ∨
        ((Finmap.lookup node (s.nodes.insert added _)).map _).getD [] = _
      rw [Table.lookup_insert]
      by_cases same : node = added
      · exact Or.inr (by rw [if_pos same]; rfl)
      · exact Or.inl (by rw [if_neg same]; rfl)
  | removeNode removed =>
      show ((Finmap.lookup node (s.nodes.erase removed)).map _).getD [] = _ ∨
        ((Finmap.lookup node (s.nodes.erase removed)).map _).getD [] = _
      rw [Table.lookup_erase]
      by_cases same : node = removed
      · exact Or.inr (by rw [if_pos same]; rfl)
      · exact Or.inl (by rw [if_neg same]; rfl)
  | dropReceiver dropped =>
      refine Or.inl ?_
      show ((Finmap.lookup node (Table.update dropped _ s.nodes)).map _).getD [] = _
      rw [Table.lookup_update]
      by_cases same : node = dropped
      · rw [if_pos same, Option.map_map, same]
        rfl
      · rw [if_neg same]
        rfl
  | sendMessage draws sender recipient message =>
      refine Or.inl ?_
      show (s.sendMessage now draws sender recipient message).receivedBy node = _
      unfold receivedBy
      rw [sendMessage_nodes]
  | deliverPendingMessages => exact absurd rfl other
  | _ => exact Or.inl rfl

end NetworkSimulator

/-- A simulator at a time, with all the messages that were ever queued in it, in the order
in which they were sent. -/
structure Simulation where
  clock : Nat
  simulator : NetworkSimulator
  queued : List PendingMessage

namespace Simulation

def start (now : Nat) : Simulation := ⟨now, .new, []⟩

def step (s : Simulation) (next : TimedCall) : Simulation :=
  let now := s.clock + next.elapsed
  { clock := now
    simulator := s.simulator.serve now next.call
    queued := s.queued ++ s.simulator.queues now next.call }

/-- After a call of `deliver_pending_messages` no message that is due is left pending. -/
def NoneDueLeft (s : Simulation) (next : TimedCall) : Prop :=
  next.call = .deliverPendingMessages →
    ∀ msg ∈ (s.step next).simulator.pendingMessages, (s.step next).clock < msg.deliverAt

/-- Whatever a call adds to what a node received are pending messages for it that are due. -/
def NeverEarly (s : Simulation) (next : TimedCall) : Prop :=
  ∀ node, ∃ handed : List PendingMessage,
    (∀ msg ∈ handed, msg ∈ s.simulator.pendingMessages ∧ msg.recipient = node ∧
      msg.deliverAt ≤ (s.step next).clock) ∧
    ((s.step next).simulator.receivedBy node =
        s.simulator.receivedBy node ++ handed.map (fun msg => (msg.sender, msg.message)) ∨
      (s.step next).simulator.receivedBy node = [])

def OnTime (s : Simulation) (next : TimedCall) : Prop := NoneDueLeft s next ∧ NeverEarly s next

/-- At a call of `deliver_pending_messages`, of two messages that were queued so far the
one that was sent later is not due when the other is not. -/
def DueInOrder (s : Simulation) (next : TimedCall) : Prop :=
  next.call = .deliverPendingMessages →
    s.queued.Pairwise fun sent later =>
      later.deliverAt ≤ s.clock + next.elapsed → sent.deliverAt ≤ s.clock + next.elapsed

/-- What was queued and is no longer pending was due. -/
def Sound (s : Simulation) : Prop :=
  ∃ gone : List PendingMessage, (∀ msg ∈ gone, msg.deliverAt ≤ s.clock) ∧
    s.queued = gone ++ s.simulator.pendingMessages

theorem sound_start (now : Nat) : (start now).Sound := ⟨[], by simp, rfl⟩

theorem Sound.step {s : Simulation} (sound : s.Sound) (next : TimedCall) :
    (s.step next).Sound := by
  obtain ⟨gone, due, queued⟩ := sound
  have stillDue : ∀ msg ∈ gone, msg.deliverAt ≤ s.clock + next.elapsed :=
    fun msg member => (due msg member).trans (Nat.le_add_right _ _)
  by_cases delivers : next.call = .deliverPendingMessages
  · -- what the loop takes from the front is due, and goes with what has gone before
    refine ⟨gone ++ s.simulator.pendingMessages.takeWhile (isDue (s.clock + next.elapsed)),
      fun msg member => ?_, ?_⟩
    · rcases List.mem_append.mp member with before | taken
      · exact stillDue msg before
      · exact deliverAt_le_of_mem_takeWhile taken
    · show s.queued ++ s.simulator.queues _ next.call =
        _ ++ (s.simulator.serve _ next.call).pendingMessages
      rw [delivers, queued]
      show (gone ++ _) ++ [] = _ ++ (s.simulator.deliverPendingMessages _).pendingMessages
      rw [NetworkSimulator.deliverPendingMessages_pendingMessages, List.append_nil,
        List.append_assoc, List.takeWhile_append_dropWhile]
  · refine ⟨gone, stillDue, ?_⟩
    show s.queued ++ _ = gone ++ (s.simulator.serve _ next.call).pendingMessages
    rw [NetworkSimulator.serve_pendingMessages _ _ delivers, queued, List.append_assoc]

theorem noneDueLeft_iff {s : Simulation} (sound : s.Sound) (next : TimedCall) :
    NoneDueLeft s next ↔ DueInOrder s next := by
  obtain ⟨gone, due, queued⟩ := sound
  obtain ⟨elapsed, call⟩ := next
  refine imp_congr_right fun delivers => ?_
  subst delivers
  set now := s.clock + elapsed
  -- what has gone counts as in order, whatever is still pending
  have left : ∀ msg ∈ gone, isDue now msg = true := fun msg member =>
    decide_eq_true ((due msg member).trans (Nat.le_add_right _ _))
  calc (∀ msg ∈ (s.simulator.deliverPendingMessages now).pendingMessages, now < msg.deliverAt)
      ↔ ∀ msg ∈ s.simulator.pendingMessages.dropWhile (isDue now), isDue now msg = false := by
        rw [NetworkSimulator.deliverPendingMessages_pendingMessages]
        simp [isDue]
    _ ↔ ReadyInOrder (isDue now) s.simulator.pendingMessages := forall_dropWhile_iff _
    _ ↔ ReadyInOrder (isDue now) s.queued := by rw [queued, readyInOrder_append left]
    _ ↔ _ := by simp [ReadyInOrder, isDue]

theorem neverEarly (s : Simulation) (next : TimedCall) : NeverEarly s next := by
  intro node
  by_cases delivers : next.call = .deliverPendingMessages
  · refine ⟨s.simulator.reaching node (s.simulator.pendingMessages.takeWhile
      (isDue (s.clock + next.elapsed))), fun msg member => ?_, Or.inl ?_⟩
    · obtain ⟨taken, reached⟩ := List.mem_filter.mp member
      refine ⟨(List.takeWhile_sublist _).subset taken, ?_, deliverAt_le_of_mem_takeWhile taken⟩
      exact of_decide_eq_true (Bool.and_eq_true_iff.mp reached).1
    · show (s.simulator.serve _ next.call).receivedBy node = _
      rw [delivers]
      exact NetworkSimulator.receivedBy_deliverPendingMessages _ _ node
  · refine ⟨[], by simp, ?_⟩
    rw [List.map_nil, List.append_nil]
    exact NetworkSimulator.serve_receivedBy _ _ delivers node

end Simulation

open Simulation in
/-- Along every sequence of calls, whatever the latencies, the simulator delivers on time
exactly when every call of `deliver_pending_messages` finds that of two messages the one
that was sent later is not due alone. No message is ever early. -/
theorem on_time_iff (now : Nat) (calls : List TimedCall) :
    (Along step OnTime (start now) calls ↔ Along step DueInOrder (start now) calls) ∧
      Along step NeverEarly (start now) calls := by
  refine ⟨?_, along_of_forall neverEarly _ _⟩
  refine along_congr_of_kept (I := Sound) ?_ (fun s next sound _ => sound.step next)
    (sound_start now) calls
  intro s next sound
  rw [OnTime, and_iff_left (neverEarly s next)]
  exact noneDueLeft_iff sound next

open Simulation in
/-- Under the default conditions a message that takes 10 ms keeps one that takes 1 ms
waiting: at 5 ms the second is due, and is still behind the first. -/
theorem delivers_late :
    ¬ ∀ (now : Nat) (calls : List TimedCall), Along step OnTime (start now) calls := by
  intro always
  let target : NodeId := ⟨1⟩
  let message : ProtocolMessage :=
    ⟨⟨0⟩, some target, 0, .heartBeat ⟨0, 0, true⟩⟩
  let send (latency : Nat) : TimedCall := ⟨0, .sendMessage ⟨0, latency⟩ ⟨0⟩ target message⟩
  have late := (always 0 [⟨0, .addNode target⟩, send 9, send 0,
    ⟨fromMillis 5, .deliverPendingMessages⟩]).2.2.2.1.1 rfl
  have early := late
    ⟨⟨0⟩, target, message, fromMillis 1, NetworkSimulator.estimateMessageSize message⟩
    (by decide)
  exact absurd early (by decide)

end Rabia
