import Rabia.Testing.NetworkSim

/-!
# What becomes of the messages of a simulation

The simulator counts the messages that are sent, delivered and dropped. A message that is
due is taken from the queue whether its target listens or not, and the branches of
`deliver_pending_messages` where it does not count nothing.

The counts are `u64`s in the source: they are what they are here in every run of fewer than
`2 ^ 64` calls (`Simulation.stats_fit`).
-/

namespace Rabia

open Rabia.Lib

/-- The counts of messages are those that a `u64` holds. -/
structure NetworkStats.Fits (stats : NetworkStats) : Prop where
  messagesSent : stats.messagesSent < u64Size
  messagesDelivered : stats.messagesDelivered < u64Size
  messagesDropped : stats.messagesDropped < u64Size

namespace NetworkSimulator

/-- Every message that was sent was delivered or dropped, or is pending. -/
def Accounted (s : NetworkSimulator) : Prop :=
  s.messageStats.messagesSent =
    s.messageStats.messagesDelivered + s.messageStats.messagesDropped + s.pendingMessages.length

instance (s : NetworkSimulator) : Decidable s.Accounted := inferInstanceAs (Decidable (_ = _))

/-- How many more messages were sent than were delivered, dropped or are pending. -/
def unaccounted (s : NetworkSimulator) : Int :=
  s.messageStats.messagesSent -
    (s.messageStats.messagesDelivered + s.messageStats.messagesDropped + s.pendingMessages.length)

@[simp] theorem unaccounted_countSent (s : NetworkSimulator) :
    s.countSent.unaccounted = s.unaccounted + 1 := by
  simp only [unaccounted, countSent]
  omega

@[simp] theorem unaccounted_countDropped (s : NetworkSimulator) :
    s.countDropped.unaccounted = s.unaccounted - 1 := by
  simp only [unaccounted, countDropped]
  omega

/-- How many of the messages reach a target that listens. -/
def heard (s : NetworkSimulator) (messages : List PendingMessage) : Nat :=
  messages.countP fun msg => s.listens msg.recipient

theorem handOver_messageStats (now : Nat) (s : NetworkSimulator) (msg : PendingMessage) :
    (s.handOver now msg).messageStats.messagesSent = s.messageStats.messagesSent ∧
      (s.handOver now msg).messageStats.messagesDropped = s.messageStats.messagesDropped ∧
      (s.handOver now msg).messageStats.messagesDelivered =
        s.messageStats.messagesDelivered + s.heard [msg] := by
  unfold handOver heard listens
  cases found : s.nodes.lookup msg.recipient with
  | none => simp [found]
  | some channel => cases isOpen : channel.isOpen <;> simp [found, isOpen]

theorem foldl_handOver_messageStats (now : Nat) (messages : List PendingMessage)
    (s : NetworkSimulator) :
    (messages.foldl (handOver now) s).messageStats.messagesSent = s.messageStats.messagesSent ∧
      (messages.foldl (handOver now) s).messageStats.messagesDropped =
        s.messageStats.messagesDropped ∧
      (messages.foldl (handOver now) s).messageStats.messagesDelivered =
        s.messageStats.messagesDelivered + s.heard messages := by
  induction messages generalizing s with
  | nil => exact ⟨rfl, rfl, rfl⟩
  | cons msg messages ih =>
      obtain ⟨sent, dropped, delivered⟩ := ih (s.handOver now msg)
      obtain ⟨sentNow, droppedNow, deliveredNow⟩ := handOver_messageStats now s msg
      -- handing over one message makes no node deaf to the next
      have later : (s.handOver now msg).heard messages = s.heard messages := by
        unfold heard
        simp only [listens_handOver]
      have both : s.heard (msg :: messages) = s.heard [msg] + s.heard messages := by
        unfold heard
        rw [← List.countP_append, List.singleton_append]
      rw [List.foldl_cons]
      refine ⟨sent.trans sentNow, dropped.trans droppedNow, ?_⟩
      rw [delivered, deliveredNow, later, both, Nat.add_assoc]

/-- Where a message that is sent goes. -/
theorem sendMessage_eq (now : Nat) (draws : Draws) (sender recipient : NodeId)
    (message : ProtocolMessage) (s : NetworkSimulator) :
    s.sendMessage now draws sender recipient message =
      if s.areNodesPartitioned now sender recipient ∨ draws.loss < s.conditions.packetLossRate then
        s.countSent.countDropped
      else
        match s.conditions.deliverAt now draws.latency with
        | none => s.countSent
        | some deliverAt =>
          let pending : PendingMessage :=
            { sender, recipient, message, deliverAt, sizeBytes := estimateMessageSize message }
          { s.countSent with pendingMessages := s.pendingMessages ++ [pending] } := by
  unfold sendMessage
  by_cases apart : s.areNodesPartitioned now sender recipient
  · rw [if_pos (Or.inl apart)]
    exact if_pos apart
  · by_cases lost : draws.loss < s.conditions.packetLossRate
    · rw [if_pos (Or.inr lost)]
      exact (if_neg apart).trans (if_pos lost)
    · rw [if_neg (not_or.mpr ⟨apart, lost⟩)]
      exact (if_neg apart).trans (if_neg lost)

/-- The messages that a call takes out of the simulation without counting them. -/
def vanishing (now : Nat) (s : NetworkSimulator) : SimulatorCall → Nat
  | .deliverPendingMessages =>
    (s.pendingMessages.takeWhile (isDue now)).countP fun msg => !s.listens msg.recipient
  | .sendMessage draws sender recipient _ =>
    if s.areNodesPartitioned now sender recipient ∨ draws.loss < s.conditions.packetLossRate then
      0
    else if (s.conditions.deliverAt now draws.latency).isNone then 1
    else 0
  | _ => 0

theorem unaccounted_sendMessage (now : Nat) (draws : Draws) (sender recipient : NodeId)
    (message : ProtocolMessage) (s : NetworkSimulator) :
    (s.sendMessage now draws sender recipient message).unaccounted =
      s.unaccounted + s.vanishing now (.sendMessage draws sender recipient message) := by
  show _ = s.unaccounted + ((ite _ _ (ite _ _ _) : Nat) : Int)
  rw [sendMessage_eq]
  by_cases dropped : s.areNodesPartitioned now sender recipient ∨
      draws.loss < s.conditions.packetLossRate
  · rw [if_pos dropped, if_pos dropped, unaccounted_countDropped, unaccounted_countSent]
    omega
  · rw [if_neg dropped, if_neg dropped]
    cases s.conditions.deliverAt now draws.latency with
    | none => exact unaccounted_countSent s
    | some deliverAt =>
        simp [unaccounted, countSent]
        omega

theorem unaccounted_deliverPendingMessages (now : Nat) (s : NetworkSimulator) :
    (s.deliverPendingMessages now).unaccounted =
      s.unaccounted + s.vanishing now .deliverPendingMessages := by
  obtain ⟨sent, dropped, delivered⟩ :=
    foldl_handOver_messageStats now (s.pendingMessages.takeWhile (isDue now)) s
  have stats : (s.deliverPendingMessages now).messageStats =
      ((s.pendingMessages.takeWhile (isDue now)).foldl (handOver now) s).messageStats := by
    unfold deliverPendingMessages
    rw [deliverDue_eq]
  -- what is taken from the queue is heard or vanishes
  have taken : (s.pendingMessages.takeWhile (isDue now)).length =
      s.heard (s.pendingMessages.takeWhile (isDue now)) +
        s.vanishing now .deliverPendingMessages := by
    rw [List.length_eq_countP_add_countP fun msg => s.listens msg.recipient]
    unfold heard vanishing
    simp
  have parts : s.pendingMessages.length =
      (s.pendingMessages.takeWhile (isDue now)).length +
        (s.pendingMessages.dropWhile (isDue now)).length := by
    rw [← List.length_append, List.takeWhile_append_dropWhile]
  unfold unaccounted
  rw [stats, sent, dropped, delivered, deliverPendingMessages_pendingMessages]
  omega

/-- What is not accounted for grows by what a call lets vanish, and by nothing else. -/
theorem unaccounted_serve (now : Nat) (s : NetworkSimulator) (call : SimulatorCall) :
    (s.serve now call).unaccounted = s.unaccounted + s.vanishing now call := by
  cases call with
  | sendMessage draws sender recipient message =>
      exact unaccounted_sendMessage now draws sender recipient message s
  | deliverPendingMessages => exact unaccounted_deliverPendingMessages now s
  | _ => exact (Int.add_zero _).symm

/-- No more than `n` messages were sent, and no fewer than were counted otherwise. -/
structure CountsTo (n : Nat) (s : NetworkSimulator) : Prop where
  sent : s.messageStats.messagesSent ≤ n
  unaccounted : 0 ≤ s.unaccounted

theorem messagesSent_sendMessage (now : Nat) (draws : Draws) (sender recipient : NodeId)
    (message : ProtocolMessage) (s : NetworkSimulator) :
    (s.sendMessage now draws sender recipient message).messageStats.messagesSent =
      s.messageStats.messagesSent + 1 := by
  rw [sendMessage_eq]
  split_ifs
  · rfl
  · cases s.conditions.deliverAt now draws.latency <;> rfl

theorem messagesSent_deliverPendingMessages (now : Nat) (s : NetworkSimulator) :
    (s.deliverPendingMessages now).messageStats.messagesSent = s.messageStats.messagesSent := by
  unfold deliverPendingMessages
  rw [deliverDue_eq]
  exact (foldl_handOver_messageStats now _ s).1

theorem messagesSent_serve_le (now : Nat) (s : NetworkSimulator) (call : SimulatorCall) :
    (s.serve now call).messageStats.messagesSent ≤ s.messageStats.messagesSent + 1 := by
  cases call with
  | sendMessage draws sender recipient message =>
      exact (messagesSent_sendMessage now draws sender recipient message s).le
  | deliverPendingMessages =>
      exact Nat.le_succ_of_le (messagesSent_deliverPendingMessages now s).le
  | _ => exact Nat.le_succ _

theorem countsTo_serve {n : Nat} {s : NetworkSimulator} (counts : CountsTo n s) (now : Nat)
    (call : SimulatorCall) : CountsTo (n + 1) (s.serve now call) := by
  refine ⟨(messagesSent_serve_le now s call).trans (Nat.succ_le_succ counts.sent), ?_⟩
  rw [unaccounted_serve]
  exact Int.add_nonneg counts.unaccounted (Int.natCast_nonneg _)

theorem CountsTo.fits {n : Nat} {s : NetworkSimulator} (counts : CountsTo n s)
    (few : n < u64Size) : s.messageStats.Fits := by
  obtain ⟨sent, rest⟩ := counts
  -- what was delivered or dropped was sent before
  unfold NetworkSimulator.unaccounted at rest
  exact ⟨by omega, by omega, by omega⟩

end NetworkSimulator

/-- In a run of fewer than `2 ^ 64` calls no count of the source wraps around. -/
theorem Simulation.stats_fit (now : Nat) {calls : List TimedCall} (few : calls.length < u64Size) :
    (run step (start now) calls).simulator.messageStats.Fits := by
  have kept : ∀ n (s : Simulation) next, s.simulator.CountsTo n →
      (s.step next).simulator.CountsTo (n + 1) := fun _ s next counts =>
    NetworkSimulator.countsTo_serve counts (s.clock + next.elapsed) next.call
  have begun : (start now).simulator.CountsTo 0 := ⟨Nat.le_refl 0, Int.le_refl 0⟩
  have counts := run_counted (I := fun n (s : Simulation) => s.simulator.CountsTo n) kept begun
    calls
  exact counts.fits ((Nat.zero_add _).trans_lt few)

end Rabia
