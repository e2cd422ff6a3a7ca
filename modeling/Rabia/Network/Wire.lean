import Rabia.Core.Messages
import Rabia.Network.Frame

/-!
# One direction of a connection

What `rabia-engine/src/network/tcp.rs` sends over a connection in one direction: the end that
sends names itself in a handshake, its writer task turns what is queued into frames, the
bytes arrive in pieces, and the reader task of the other end turns them back into messages.

A wire holds what its sender queued and what is on its way; `greeting`, `sent` and
`delivered` are its history. Both ends run this code, bytes are neither altered nor
reordered, and a connection may break at any time. `Wire.Faithful` is what every step
keeps.
-/

namespace Rabia

open Rabia.Lib

/-- `bincode` on what goes over a connection. -/
structure Bincode where
  serialize : ProtocolMessage → Except RabiaError Bytes
  deserialize : Bytes → Except RabiaError ProtocolMessage
  serializeId : NodeId → Except RabiaError Bytes
  deserializeId : Bytes → Except RabiaError NodeId

namespace Bincode

/-- What was serialized is deserialized. -/
structure Lawful (b : Bincode) : Prop where
  message : ∀ m payload, b.serialize m = .ok payload → b.deserialize payload = .ok m
  nodeId : ∀ id payload, b.serializeId id = .ok payload → b.deserializeId payload = .ok id

/-- The frame of a payload, if there is one and it makes a frame. -/
def frame : Except RabiaError Bytes → Option MessageFrame
  | .ok payload => (MessageFrame.new payload).toOption
  | .error _ => none

variable (b : Bincode)

/-- The frame that the writer task writes for a message, if it writes one. -/
def frameOf (m : ProtocolMessage) : Option MessageFrame := frame (b.serialize m)

/-- The frame that an end sends in its handshake. -/
def greeting (id : NodeId) : Option MessageFrame := frame (b.serializeId id)

/-- The writer task does not skip the message. -/
def sendable (m : ProtocolMessage) : Bool := (b.frameOf m).isSome

theorem frame_eq_some {payload : Except RabiaError Bytes} {made : MessageFrame}
    (h : frame payload = some made) : made.Valid ∧ payload = .ok made.payload := by
  cases payload with
  | error err => cases h
  | ok bytes =>
      have framed : MessageFrame.new bytes = .ok made := by
        cases new : MessageFrame.new bytes with
        | error err =>
            rw [frame, new] at h
            cases h
        | ok other =>
            rw [frame, new] at h
            cases h
            rfl
      obtain ⟨valid, same⟩ := MessageFrame.new_eq_ok_iff.mp framed
      exact ⟨valid, by rw [same]⟩

variable {b}

theorem Lawful.deserialize_frame (lawful : b.Lawful) {m : ProtocolMessage} {made : MessageFrame}
    (h : b.frameOf m = some made) : b.deserialize made.payload = .ok m :=
  lawful.message m _ (frame_eq_some h).2

theorem Lawful.deserialize_greeting (lawful : b.Lawful) {id : NodeId} {made : MessageFrame}
    (h : b.greeting id = some made) : b.deserializeId made.payload = .ok id :=
  lawful.nodeId id _ (frame_eq_some h).2

/-- The frames of messages that are written are valid. -/
theorem valid_of_mem {messages : List ProtocolMessage} {made : MessageFrame}
    (member : made ∈ messages.filterMap b.frameOf) : made.Valid := by
  obtain ⟨m, -, framed⟩ := List.mem_filterMap.mp member
  exact (frame_eq_some framed).1

/-- The first frame of messages that are written is that of the first message. -/
theorem head_of_filterMap {messages : List ProtocolMessage} {made : MessageFrame}
    {frames : List MessageFrame} (written : ∀ m ∈ messages, b.sendable m = true)
    (h : messages.filterMap b.frameOf = made :: frames) :
    ∃ m later, messages = m :: later ∧ b.frameOf m = some made ∧
      later.filterMap b.frameOf = frames := by
  cases messages with
  | nil => cases h
  | cons m later =>
      obtain ⟨own, framed⟩ := Option.isSome_iff_exists.mp (written m List.mem_cons_self)
      rw [List.filterMap_cons, framed] at h
      cases h
      exact ⟨m, later, rfl, framed, rfl⟩

end Bincode

/-- The frame at the front of what has arrived is the first that was written. -/
theorem MessageFrame.head_of_part {eof : MessageFrame.Eof} {unread rest written : Bytes}
    {frame : MessageFrame} {frames : List MessageFrame} (valid : ∀ f ∈ frames, f.Valid)
    (read : MessageFrame.fromStream eof unread = .ok (frame, rest))
    (within : unread ++ written <+: frames.flatMap MessageFrame.toBytes) :
    ∃ frames', frames = frame :: frames' ∧
      rest ++ written <+: frames'.flatMap MessageFrame.toBytes ∧
      (unread ++ written = frames.flatMap MessageFrame.toBytes →
        rest ++ written = frames'.flatMap MessageFrame.toBytes) := by
  lift frames to List { f : MessageFrame // f.Valid } using valid
  have decoded : (codec eof).decode unread =
      .ok (⟨frame, (toBytes_fromStream eof read).1⟩, rest) := by
    unfold codec
    dsimp only
    split
    · rename_i frame' rest' h
      rw [read] at h
      cases h
      rfl
    · rename_i err h
      rw [read] at h
      cases h
  simp only [← flatMap_encode eof] at within ⊢
  obtain ⟨frames', rfl, later, whole⟩ := (codec eof).head_of_part decoded within
  refine ⟨frames'.map Subtype.val, rfl, ?_⟩
  rw [← flatMap_encode eof]
  exact ⟨later, whole⟩

/-! ## Wires -/

/-- One direction of a connection. -/
structure Wire where
  sender : NodeId
  receiver : NodeId
  /-- The name that the receiving end has for the sender, once the handshake gave it one. -/
  label : Option NodeId
  /-- The outbound queue. -/
  outbound : List ProtocolMessage
  /-- Bytes on their way. -/
  written : Bytes
  /-- Bytes that arrived and were not read. -/
  unread : Bytes
  /-- Nothing that is written from now on gets through. -/
  broken : Bool
  /-- The writer task has ended. -/
  mute : Bool
  /-- The receiving end reads no more. -/
  deaf : Bool
  /-- The frame of the handshake that was sent and not yet read. -/
  greeting : Option MessageFrame
  /-- What was put into the outbound queue. -/
  sent : List ProtocolMessage
  /-- What the reader task passed on. -/
  delivered : List ProtocolMessage
deriving DecidableEq

namespace Wire

/-- A wire on which nothing has happened. -/
def new (sender receiver : NodeId) : Wire where
  sender := sender
  receiver := receiver
  label := none
  outbound := []
  written := []
  unread := []
  broken := false
  mute := false
  deaf := false
  greeting := none
  sent := []
  delivered := []

/-- The handshake of the sending end was sent. -/
def greeted (c : Wire) : Bool := c.label.isSome || c.greeting.isSome

/-- `outbound_queue.send`. -/
def send (m : ProtocolMessage) (c : Wire) : Wire :=
  { c with outbound := c.outbound ++ [m], sent := c.sent ++ [m] }

/-- A turn of the writer task: skip a message that makes no frame, leave when a write
fails. -/
def write (b : Bincode) (c : Wire) : Wire :=
  if c.mute then c
  else
    match c.outbound with
    | [] => c
    | m :: rest =>
      match b.frameOf m with
      | none => { c with outbound := rest }
      | some frame =>
        if c.broken then { c with outbound := rest, mute := true }
        else { c with outbound := rest, written := c.written ++ frame.toBytes }

/-- Bytes arrive. -/
def arrive (count : Nat) (c : Wire) : Wire :=
  { c with unread := c.unread ++ c.written.take count, written := c.written.drop count }

/-- The connection breaks behind the first `count` bytes on their way. -/
def breakOff (count : Nat) (c : Wire) : Wire :=
  { c with written := c.written.take count, broken := true }

/-- The sending end writes its name. -/
def greet (frame : MessageFrame) (c : Wire) : Wire :=
  { c with written := c.written ++ frame.toBytes, greeting := some frame }

/-- The receiving end has a name for the sender. -/
def register (peer : NodeId) (c : Wire) : Wire :=
  { c with label := some peer, greeting := none }

/-- The receiving end stops reading. -/
def hangUp (c : Wire) : Wire := { c with deaf := true }

/-- The writer task ends: a write failed halfway, or nobody can queue anything any more. -/
def quit (c : Wire) : Wire := { c with mute := true }

/-- The receiving end waits for a frame, and takes it off the stream once it is there. -/
def nextFrame (eof : MessageFrame.Eof) (c : Wire) : Option (MessageFrame × Wire) :=
  match MessageFrame.fromStream eof c.unread with
  | .ok (frame, rest) => some (frame, { c with unread := rest })
  | .error _ => none

/-- A turn of the reader task: what it passes on, and what is left. It skips a payload that
is no message. -/
def read (b : Bincode) (eof : MessageFrame.Eof) (c : Wire) :
    Option ProtocolMessage × Wire :=
  match c.nextFrame eof with
  | none => (none, c)
  | some (frame, c') =>
    match b.deserialize frame.payload with
    | .ok m => (some m, { c' with delivered := c'.delivered ++ [m] })
    | .error _ => (none, c')

/-! ## What every wire keeps -/

/-- The frames whose bytes are on their way or unread, when the messages `transit` are. -/
def frames (b : Bincode) (c : Wire) (transit : List ProtocolMessage) : List MessageFrame :=
  c.greeting.toList ++ transit.filterMap b.frameOf

/-- What was sent is delivered, in transit, lost or queued, in this order, but for messages
that make no frame; what is in transit is on its way in full unless the connection broke, and
nothing else is; and a name that the receiving end has is the sender's. -/
structure Holds (b : Bincode) (c : Wire) (transit lost : List ProtocolMessage) : Prop where
  account : c.sent.filter b.sendable =
    c.delivered ++ transit ++ lost ++ c.outbound.filter b.sendable
  carried : c.unread ++ c.written <+: (c.frames b transit).flatMap MessageFrame.toBytes
  intact : c.broken = false → lost = [] ∧
    c.unread ++ c.written = (c.frames b transit).flatMap MessageFrame.toBytes
  greets : ∀ frame, c.greeting = some frame → b.greeting c.sender = some frame
  named : ∀ peer, c.label = some peer → peer = c.sender ∧ c.greeting = none
  silent : c.greeted = false → c.sent = []

def Faithful (b : Bincode) (c : Wire) : Prop := ∃ transit lost, c.Holds b transit lost

variable {b : Bincode} {eof : MessageFrame.Eof} {c : Wire} {transit lost : List ProtocolMessage}

theorem Holds.faithful (holds : c.Holds b transit lost) : c.Faithful b := ⟨transit, lost, holds⟩

theorem faithful_new (sender receiver : NodeId) : (new sender receiver).Faithful b := by
  refine ⟨[], [], rfl, List.prefix_refl _, fun _ => ⟨rfl, rfl⟩, ?_, ?_, fun _ => rfl⟩
  · intro frame h
    cases h
  · intro peer h
    cases h

/-! ### The sending end -/

theorem faithful_send (faithful : c.Faithful b) (greeted : c.greeted = true)
    (m : ProtocolMessage) : (c.send m).Faithful b := by
  obtain ⟨transit, lost, holds⟩ := faithful
  refine ⟨transit, lost, ?_, holds.carried, holds.intact, holds.greets, holds.named, ?_⟩
  · show (c.sent ++ [m]).filter b.sendable =
      c.delivered ++ transit ++ lost ++ (c.outbound ++ [m]).filter b.sendable
    rw [List.filter_append, List.filter_append, holds.account, List.append_assoc]
  · intro ungreeted
    exact absurd greeted (by rw [show c.greeted = false from ungreeted]; decide)

/-- The writer task takes a message off its queue: it skips it, loses it, or writes it. -/
theorem faithful_write (faithful : c.Faithful b) : (c.write b).Faithful b := by
  obtain ⟨transit, lost, holds⟩ := faithful
  unfold write
  by_cases ended : c.mute = true
  · rw [if_pos ended]
    exact holds.faithful
  · rw [if_neg ended]
    split
    · exact holds.faithful
    · rename_i m rest queued
      have account := holds.account
      rw [queued] at account
      split
      · rename_i unframed
        have skipped : b.sendable m = false := by rw [Bincode.sendable, unframed]; rfl
        rw [List.filter_cons_of_neg (by rw [skipped]; decide)] at account
        exact ⟨transit, lost, account, holds.carried, holds.intact, holds.greets, holds.named,
          holds.silent⟩
      · rename_i frame framed
        have kept : b.sendable m = true := by rw [Bincode.sendable, framed]; rfl
        rw [List.filter_cons_of_pos kept] at account
        split
        · rename_i broken
          refine ⟨transit, lost ++ [m], ?_, holds.carried, ?_, holds.greets, holds.named,
            holds.silent⟩
          · show c.sent.filter b.sendable = _
            rw [account]
            simp
          · intro whole
            rw [show c.broken = false from whole] at broken
            cases broken
        · rename_i unbroken
          obtain ⟨none_lost, whole⟩ := holds.intact (by simpa using unbroken)
          subst none_lost
          have onward : c.unread ++ (c.written ++ frame.toBytes) =
              (c.frames b (transit ++ [m])).flatMap MessageFrame.toBytes := by
            rw [← List.append_assoc, whole]
            simp [frames, framed]
          refine ⟨transit ++ [m], [], ?_, ?_, fun _ => ⟨rfl, onward⟩, holds.greets, holds.named,
            holds.silent⟩
          · show c.sent.filter b.sendable = _
            rw [account]
            simp
          · show c.unread ++ (c.written ++ frame.toBytes) <+: _
            rw [onward]
            exact List.prefix_refl _

theorem faithful_arrive (faithful : c.Faithful b) (count : Nat) :
    (c.arrive count).Faithful b := by
  obtain ⟨transit, lost, holds⟩ := faithful
  have moved : c.unread ++ c.written.take count ++ c.written.drop count =
      c.unread ++ c.written := by
    rw [List.append_assoc, List.take_append_drop]
  refine ⟨transit, lost, holds.account, ?_, ?_, holds.greets, holds.named, holds.silent⟩
  · show c.unread ++ c.written.take count ++ c.written.drop count <+: _
    rw [moved]
    exact holds.carried
  · show _ → _ ∧ c.unread ++ c.written.take count ++ c.written.drop count = _
    rw [moved]
    exact holds.intact

theorem faithful_breakOff (faithful : c.Faithful b) (count : Nat) :
    (c.breakOff count).Faithful b := by
  obtain ⟨transit, lost, holds⟩ := faithful
  refine ⟨transit, lost, holds.account, ?_, ?_, holds.greets, holds.named, holds.silent⟩
  · have fewer : c.unread ++ c.written.take count <+: c.unread ++ c.written :=
      (List.prefix_append_right_inj _).mpr ( List.take_prefix _ _)
    exact fewer.trans holds.carried
  · intro whole
    cases whole

theorem faithful_hangUp (faithful : c.Faithful b) : c.hangUp.Faithful b := by
  obtain ⟨transit, lost, holds⟩ := faithful
  exact ⟨transit, lost, holds.account, holds.carried, holds.intact, holds.greets, holds.named,
    holds.silent⟩

theorem faithful_quit (faithful : c.Faithful b) : c.quit.Faithful b := by
  obtain ⟨transit, lost, holds⟩ := faithful
  exact ⟨transit, lost, holds.account, holds.carried, holds.intact, holds.greets, holds.named,
    holds.silent⟩

/-- Before the sending end has written its name, nothing is on the wire. -/
theorem Holds.bare (holds : c.Holds b transit lost) (ungreeted : c.greeted = false) :
    c.greeting = none ∧ c.label = none ∧ c.sent = [] ∧ c.delivered = [] ∧ transit = [] ∧
      c.unread = [] ∧ c.written = [] := by
  obtain ⟨unnamed, unspoken⟩ : c.label = none ∧ c.greeting = none := by
    simpa [greeted] using ungreeted
  have account := holds.account
  rw [holds.silent ungreeted] at account
  simp only [List.filter_nil, List.nil_eq, List.append_eq_nil_iff] at account
  obtain ⟨⟨⟨undelivered, still⟩, -⟩, -⟩ := account
  have carried := holds.carried
  rw [frames, unspoken, still] at carried
  obtain ⟨none_unread, none_written⟩ := List.append_eq_nil_iff.mp (List.prefix_nil.mp carried)
  exact ⟨unspoken, unnamed, holds.silent ungreeted, undelivered, still, none_unread, none_written⟩

theorem faithful_greet (faithful : c.Faithful b) (ungreeted : c.greeted = false)
    {frame : MessageFrame} (own : b.greeting c.sender = some frame) :
    (c.greet frame).Faithful b := by
  obtain ⟨transit, lost, holds⟩ := faithful
  obtain ⟨-, unnamed, silent, undelivered, rfl, none_unread, none_written⟩ := holds.bare ungreeted
  have whole : c.unread ++ (c.written ++ frame.toBytes) =
      ((c.greet frame).frames b []).flatMap MessageFrame.toBytes := by
    rw [none_unread, none_written]
    simp [frames, greet]
  refine ⟨[], lost, holds.account, ?_, ?_, ?_, ?_, fun _ => silent⟩
  · show c.unread ++ (c.written ++ frame.toBytes) <+: _
    rw [whole]
  · intro unbroken
    exact ⟨(holds.intact unbroken).1, whole⟩
  · intro other h
    cases h
    exact own
  · intro peer h
    cases unnamed.symm.trans h

/-! ### The receiving end -/

theorem Holds.valid (holds : c.Holds b transit lost) : ∀ f ∈ c.frames b transit, f.Valid := by
  intro f member
  rcases List.mem_append.mp member with hello | written
  · have own := holds.greets f (Option.mem_toList.mp hello)
    exact (Bincode.frame_eq_some own).1
  · exact Bincode.valid_of_mem written

/-- The first frame that the receiving end of a wire without a label takes off the stream
is the name of the sender. -/
theorem faithful_register (lawful : b.Lawful) (faithful : c.Faithful b) (unnamed : c.label = none)
    {frame : MessageFrame} {c' : Wire} (next : c.nextFrame eof = some (frame, c')) :
    b.deserializeId frame.payload = .ok c.sender ∧ c.greeted = true ∧
      (c'.register c.sender).Faithful b := by
  obtain ⟨transit, lost, holds⟩ := faithful
  unfold nextFrame at next
  split at next
  · rename_i frame rest decoded
    cases next
    obtain ⟨frames', split, later, whole⟩ :=
      MessageFrame.head_of_part holds.valid decoded holds.carried
    cases spoken : c.greeting with
    | none =>
        obtain ⟨-, -, -, -, -, none_unread, -⟩ :=
          holds.bare (by rw [greeted, unnamed, spoken]; rfl)
        rw [none_unread] at decoded
        cases decoded
    | some hello =>
        rw [frames, spoken] at split
        cases split
        have own := holds.greets frame spoken
        refine ⟨lawful.deserialize_greeting own, ?_, transit, lost, holds.account, later, ?_, ?_,
          ?_, ?_⟩
        · rw [greeted, spoken]
          exact Bool.or_true _
        · intro unbroken
          exact ⟨(holds.intact unbroken).1, whole (holds.intact unbroken).2⟩
        · intro other h
          cases h
        · intro peer h
          cases h
          exact ⟨rfl, rfl⟩
        · intro h
          cases h
  · cases next

/-- What the reader task passes on is the next message that was sent. -/
theorem faithful_read (lawful : b.Lawful) (faithful : c.Faithful b) {peer : NodeId}
    (named : c.label = some peer) : (c.read b eof).2.Faithful b := by
  obtain ⟨transit, lost, holds⟩ := faithful
  have heard := (holds.named peer named).2
  unfold read nextFrame
  cases decoded : MessageFrame.fromStream eof c.unread with
  | error err => exact holds.faithful
  | ok taken =>
      obtain ⟨frame, rest⟩ := taken
      obtain ⟨frames', split, later, whole⟩ :=
        MessageFrame.head_of_part holds.valid decoded holds.carried
      rw [frames, heard] at split
      have sent : ∀ m ∈ transit, b.sendable m = true := by
        intro m member
        have among : m ∈ c.sent.filter b.sendable := by
          rw [holds.account]
          simp [member]
        exact (List.mem_filter.mp among).2
      obtain ⟨m, transit', rfl, framed, rfl⟩ := Bincode.head_of_filterMap sent split
      have understood := lawful.deserialize_frame framed
      dsimp only
      rw [understood]
      refine ⟨transit', lost, ?_, ?_, ?_, holds.greets, holds.named, holds.silent⟩
      · show c.sent.filter b.sendable = _
        rw [holds.account]
        simp
      · rw [frames, show c.greeting = none from heard]
        exact later
      · intro unbroken
        rw [frames, show c.greeting = none from heard]
        exact ⟨(holds.intact unbroken).1, whole (holds.intact unbroken).2⟩

theorem nextFrame_eq_some {frame : MessageFrame} {c' : Wire}
    (next : c.nextFrame eof = some (frame, c')) : ∃ rest, c' = { c with unread := rest } := by
  unfold nextFrame at next
  split at next
  · rename_i frame rest _
    cases next
    exact ⟨rest, rfl⟩
  · cases next

/-- A turn of the reader task leaves what it does not read or deliver. -/
theorem read_eq (b : Bincode) (eof : MessageFrame.Eof) (c : Wire) :
    ∃ rest heard, (c.read b eof).2 = { c with unread := rest, delivered := heard } := by
  unfold read
  cases next : c.nextFrame eof with
  | none => exact ⟨_, _, rfl⟩
  | some taken =>
      obtain ⟨rest, left⟩ := nextFrame_eq_some next
      dsimp only
      rw [left]
      cases b.deserialize taken.1.payload with
      | error err => exact ⟨_, _, rfl⟩
      | ok m => exact ⟨_, _, rfl⟩

/-- What was passed on is delivered. -/
theorem delivered_read (c : Wire) :
    (c.read b eof).2.delivered = c.delivered ++ (c.read b eof).1.toList := by
  unfold read nextFrame
  cases MessageFrame.fromStream eof c.unread with
  | error err => exact (List.append_nil _).symm
  | ok taken =>
      dsimp only
      cases b.deserialize taken.1.payload with
      | error err => exact (List.append_nil _).symm
      | ok m => rfl

theorem named_eq (faithful : c.Faithful b) {peer : NodeId} (named : c.label = some peer) :
    peer = c.sender := by
  obtain ⟨transit, lost, holds⟩ := faithful
  exact (holds.named peer named).1

/-- Messages arrive in the order in which they were sent, and none that was not. -/
theorem delivered_inOrder (faithful : c.Faithful b) :
    c.delivered <+: c.sent.filter b.sendable := by
  obtain ⟨transit, lost, holds⟩ := faithful
  rw [holds.account, List.append_assoc, List.append_assoc]
  exact List.prefix_append _ _

/-- If the wire did not break, then all messages have arrived when no end has anything
left to do. -/
theorem delivered_all (faithful : c.Faithful b) (unbroken : c.broken = false)
    (none_queued : c.outbound = []) (none_written : c.written = [])
    (waits : c.nextFrame eof = none) : c.delivered = c.sent.filter b.sendable := by
  obtain ⟨transit, lost, holds⟩ := faithful
  obtain ⟨none_lost, whole⟩ := holds.intact unbroken
  have account := holds.account
  rw [none_lost, none_queued] at account
  rw [none_written, List.append_nil] at whole
  have still : c.frames b transit = [] := by
    cases on_way : c.frames b transit with
    | nil => rfl
    | cons f later =>
        have front : f ∈ c.frames b transit := by
          rw [on_way]
          exact List.mem_cons_self
        have read := MessageFrame.fromStream_toBytes eof (holds.valid f front)
          (later.flatMap MessageFrame.toBytes)
        rw [← List.flatMap_cons, ← on_way, ← whole] at read
        rw [nextFrame, read] at waits
        cases waits
  have none_left : transit = [] := by
    rw [List.eq_nil_iff_forall_not_mem]
    intro m member
    have among : m ∈ c.sent.filter b.sendable := by
      rw [account]
      simp [member]
    obtain ⟨own, framed⟩ := Option.isSome_iff_exists.mp (List.mem_filter.mp among).2
    have inside : own ∈ c.frames b transit :=
      List.mem_append_right _ (List.mem_filterMap.mpr ⟨m, member, framed⟩)
    rw [still] at inside
    cases inside
  rw [account, none_left]
  simp

end Wire

end Rabia
