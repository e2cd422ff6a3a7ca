import Rabia.Network.Wire

/-!
# Connections

A connection of `rabia-engine/src/network/tcp.rs` is a `Link` of two wires. Its ends
exchange their names in the handshake: the dialler sends its own first and compares the
answer with whom it wants to reach; the acceptor takes the name that it is told.
`Link.outcome_perform` says what comes of every turn of the tasks at both ends.
-/

namespace Rabia

/-- The second wire has the ends of the first, and takes back no greeting. -/
structure Wire.Joins (c c' : Wire) : Prop where
  sender : c'.sender = c.sender
  receiver : c'.receiver = c.receiver
  greeted : c.greeted = true → c'.greeted = true

/-- What a task does to a wire: it queues nothing. -/
structure Wire.Continues (c c' : Wire) : Prop extends Wire.Joins c c' where
  sent : c'.sent = c.sent

theorem Wire.Continues.refl (c : Wire) : Wire.Continues c c := ⟨⟨rfl, rfl, id⟩, rfl⟩

/-- The directions of a link: from the end that dialled, and from the end that accepted. -/
inductive Direction where
  | forth
  | back
deriving DecidableEq, Repr

def Direction.opposite : Direction → Direction
  | .forth => .back
  | .back => .forth

/-- A connection. -/
structure Link where
  /-- Whom the dialler wants to reach. -/
  expected : NodeId
  forth : Wire
  back : Wire
deriving DecidableEq

/-- What the tasks at the two ends of a link, and the line between them, do in a
direction. -/
inductive Operation where
  | write
  | arrive (count : Nat)
  /-- The receiving end goes on with its handshake, or its reader task with its loop. -/
  | read
  | breakOff (count : Nat)
  | hangUp
  | quit
deriving DecidableEq

namespace Link

/-- A dialled connection: the dialler has sent its name. -/
def dialled (dialler acceptor expected : NodeId) (frame : MessageFrame) : Link where
  expected := expected
  forth := (Wire.new dialler acceptor).greet frame
  back := Wire.new acceptor dialler

def wire (link : Link) : Direction → Wire
  | .forth => link.forth
  | .back => link.back

/-- The link with one of its wires replaced. -/
def replace (c : Wire) (link : Link) : Direction → Link
  | .forth => { link with forth := c }
  | .back => { link with back := c }

/-- `perform_inbound_handshake`: read the name of the peer, then answer with one's own. -/
def performInboundHandshake (b : Bincode) (eof : MessageFrame.Eof) (link : Link) : Link :=
  match link.forth.nextFrame eof with
  | none => link
  | some (frame, forth) =>
    match b.deserializeId frame.payload, b.greeting link.back.sender with
    | .ok peer, some answer =>
      if link.back.broken then { link with forth := link.forth.hangUp }
      else { link with forth := forth.register peer, back := link.back.greet answer }
    | _, _ => { link with forth := link.forth.hangUp }

/-- `perform_outbound_handshake` from where it waits: the answer must name the expected
peer. -/
def performOutboundHandshake (b : Bincode) (eof : MessageFrame.Eof) (link : Link) : Link :=
  match link.back.nextFrame eof with
  | none => link
  | some (frame, back) =>
    match b.deserializeId frame.payload with
    | .ok peer =>
      if peer = link.expected then { link with back := back.register peer }
      else { link with back := link.back.hangUp }
    | .error _ => { link with back := link.back.hangUp }

/-- A turn of the end that receives in this direction. What its reader task passes on goes
with its name for the sender. -/
def read (b : Bincode) (eof : MessageFrame.Eof) (link : Link) (direction : Direction) :
    Option (NodeId × ProtocolMessage) × Link :=
  if (link.wire direction).deaf then (none, link)
  else
    match (link.wire direction).label with
    | some peer =>
      let (message, c) := (link.wire direction).read b eof
      (message.map fun m => (peer, m), link.replace c direction)
    | none =>
      match direction with
      | .forth => (none, link.performInboundHandshake b eof)
      | .back => (none, link.performOutboundHandshake b eof)

/-- What an operation passes on, and what it leaves. -/
def perform (b : Bincode) (eof : MessageFrame.Eof) (link : Link) (direction : Direction) :
    Operation → Option (NodeId × ProtocolMessage) × Link
  | .write => (none, link.replace ((link.wire direction).write b) direction)
  | .arrive count => (none, link.replace ((link.wire direction).arrive count) direction)
  | .read => link.read b eof direction
  | .breakOff count => (none, link.replace ((link.wire direction).breakOff count) direction)
  | .hangUp => (none, link.replace (link.wire direction).hangUp direction)
  | .quit => (none, link.replace (link.wire direction).quit direction)

/-! ### What every link keeps -/

/-- Both wires are faithful and join the same two ends, and an end that has a name for its
peer has sent its own. -/
structure Faithful (b : Bincode) (link : Link) : Prop where
  wires : ∀ direction, (link.wire direction).Faithful b
  crossed : link.back.sender = link.forth.receiver ∧ link.back.receiver = link.forth.sender
  dials : link.forth.greeted = true
  answers : link.back.greeted = link.forth.label.isSome

variable {b : Bincode} {eof : MessageFrame.Eof} {link : Link} {direction : Direction}

@[simp] theorem wire_replace_self (c : Wire) (link : Link) (direction : Direction) :
    (link.replace c direction).wire direction = c := by
  cases direction <;> rfl

theorem wire_replace_of_ne (c : Wire) (link : Link) {direction other : Direction}
    (ne : other ≠ direction) : (link.replace c direction).wire other = link.wire other := by
  cases direction <;> cases other <;> first | rfl | exact absurd rfl ne

/-- One wire changes, and nobody gets a name. -/
theorem faithful_replace {c : Wire} (faithful : link.Faithful b) (kept : c.Faithful b)
    (joins : Wire.Joins (link.wire direction) c)
    (named : c.label = (link.wire direction).label)
    (greeted : c.greeted = (link.wire direction).greeted) :
    (link.replace c direction).Faithful b := by
  cases direction with
  | forth =>
      refine ⟨?_, ?_, greeted.trans faithful.dials, ?_⟩
      · rintro (_ | _)
        · exact kept
        · exact faithful.wires .back
      · exact ⟨faithful.crossed.1.trans joins.receiver.symm,
          faithful.crossed.2.trans joins.sender.symm⟩
      · show link.back.greeted = c.label.isSome
        rw [named]
        exact faithful.answers
  | back =>
      refine ⟨?_, ?_, faithful.dials, greeted.trans faithful.answers⟩
      · rintro (_ | _)
        · exact faithful.wires .forth
        · exact kept
      · exact ⟨joins.sender.trans faithful.crossed.1,
          joins.receiver.trans faithful.crossed.2⟩

/-- What comes of an operation: the link stays faithful, and what is passed on is what is
newly delivered, with the name of the sender. -/
structure Outcome (b : Bincode) (link : Link) (direction : Direction)
    (o : Option (NodeId × ProtocolMessage) × Link) : Prop where
  faithful : o.2.Faithful b
  continues : ∀ d, Wire.Continues (link.wire d) (o.2.wire d)
  delivered : (o.2.wire direction).delivered =
    (link.wire direction).delivered ++ (o.1.map Prod.snd).toList
  others : ∀ d ≠ direction, (o.2.wire d).delivered = (link.wire d).delivered
  labelled : ∀ passed, o.1 = some passed → passed.1 = (link.wire direction).sender

/-- An operation on a wire that passes nothing on. -/
theorem outcome_replace {c : Wire} (faithful : link.Faithful b) (kept : c.Faithful b)
    (continues : Wire.Continues (link.wire direction) c)
    (named : c.label = (link.wire direction).label)
    (greeted : c.greeted = (link.wire direction).greeted)
    (delivered : c.delivered = (link.wire direction).delivered) :
    Outcome b link direction (none, link.replace c direction) where
  faithful := faithful_replace faithful kept continues.toJoins named greeted
  continues d := by
    by_cases same : d = direction
    · subst same
      rw [wire_replace_self]
      exact continues
    · rw [wire_replace_of_ne _ _ same]
      exact .refl _
  delivered := by
    rw [wire_replace_self, delivered]
    exact (List.append_nil _).symm
  others d ne := by rw [wire_replace_of_ne _ _ ne]
  labelled _ h := nomatch h

theorem outcome_none (faithful : link.Faithful b) (direction : Direction) :
    Outcome b link direction (none, link) where
  faithful := faithful
  continues _ := .refl _
  delivered := (List.append_nil _).symm
  others _ _ := rfl
  labelled _ h := nomatch h

theorem outcome_hangUp (faithful : link.Faithful b) (direction : Direction) :
    Outcome b link direction (none, link.replace (link.wire direction).hangUp direction) :=
  outcome_replace faithful (Wire.faithful_hangUp (faithful.wires direction))
    ⟨⟨rfl, rfl, id⟩, rfl⟩ rfl rfl rfl

theorem outcome_write (faithful : link.Faithful b) (direction : Direction) :
    Outcome b link direction
      (none, link.replace ((link.wire direction).write b) direction) := by
  have same : Wire.Continues (link.wire direction) ((link.wire direction).write b) ∧
      ((link.wire direction).write b).label = (link.wire direction).label ∧
      ((link.wire direction).write b).greeted = (link.wire direction).greeted ∧
      ((link.wire direction).write b).delivered = (link.wire direction).delivered := by
    unfold Wire.write
    repeat' split
    all_goals exact ⟨⟨⟨rfl, rfl, id⟩, rfl⟩, rfl, rfl, rfl⟩
  obtain ⟨continues, named, greeted, delivered⟩ := same
  exact outcome_replace faithful (Wire.faithful_write (faithful.wires direction)) continues
    named greeted delivered

theorem outcome_register (lawful : b.Lawful) (faithful : link.Faithful b) {frame : MessageFrame}
    {c' : Wire} (unnamed : link.back.label = none)
    (next : link.back.nextFrame eof = some (frame, c')) :
    b.deserializeId frame.payload = .ok link.back.sender ∧
      Outcome b link .back (none, { link with back := c'.register link.back.sender }) := by
  obtain ⟨own, greeted, kept⟩ :=
    Wire.faithful_register lawful (faithful.wires .back) unnamed next
  obtain ⟨rest, rfl⟩ := Wire.nextFrame_eq_some next
  refine ⟨own, ⟨?_, faithful.crossed, faithful.dials, ?_⟩, ?_, ?_, ?_, ?_⟩
  · rintro (_ | _)
    · exact faithful.wires .forth
    · exact kept
  · exact (show true = link.back.greeted from greeted.symm).trans faithful.answers
  · rintro (_ | _)
    · exact .refl _
    · exact ⟨⟨rfl, rfl, fun _ => rfl⟩, rfl⟩
  · exact (List.append_nil _).symm
  · rintro (_ | _) ne
    · rfl
    · exact absurd rfl ne
  · intro passed h
    cases h

theorem outcome_outbound (lawful : b.Lawful) (faithful : link.Faithful b)
    (unnamed : link.back.label = none) :
    Outcome b link .back (none, link.performOutboundHandshake b eof) := by
  unfold performOutboundHandshake
  cases next : link.back.nextFrame eof with
  | none => exact outcome_none faithful .back
  | some taken =>
      obtain ⟨own, outcome⟩ := outcome_register lawful faithful unnamed next
      dsimp only
      rw [own]
      dsimp only
      by_cases same : link.back.sender = link.expected
      · rw [if_pos same]
        exact outcome
      · rw [if_neg same]
        exact outcome_hangUp faithful .back

/-- The acceptor learns the name of the dialler and answers with its own. -/
theorem outcome_answer (faithful : link.Faithful b)
    {answer : MessageFrame} (own : b.greeting link.back.sender = some answer) {rest : Bytes}
    (kept : (Wire.register link.forth.sender { link.forth with unread := rest }).Faithful b)
    (ungreeted : link.back.greeted = false) :
    Outcome b link .forth
      (none, { link with
        forth := Wire.register link.forth.sender { link.forth with unread := rest }
        back := link.back.greet answer }) := by
  have greets := Wire.faithful_greet (faithful.wires .back) ungreeted own
  refine ⟨⟨?_, faithful.crossed, rfl, ?_⟩, ?_, ?_, ?_, ?_⟩
  · rintro (_ | _)
    · exact kept
    · exact greets
  · simp [Wire.greet, Wire.greeted, Wire.register]
  · rintro (_ | _)
    · exact ⟨⟨rfl, rfl, fun _ => rfl⟩, rfl⟩
    · refine ⟨⟨rfl, rfl, fun _ => ?_⟩, rfl⟩
      simp [wire, Wire.greet, Wire.greeted]
  · exact (List.append_nil _).symm
  · rintro (_ | _) ne
    · exact absurd rfl ne
    · rfl
  · intro passed h
    cases h

theorem outcome_inbound (lawful : b.Lawful) (faithful : link.Faithful b)
    (unnamed : link.forth.label = none) :
    Outcome b link .forth (none, link.performInboundHandshake b eof) := by
  unfold performInboundHandshake
  cases next : link.forth.nextFrame eof with
  | none => exact outcome_none faithful .forth
  | some taken =>
      obtain ⟨frame, c'⟩ := taken
      obtain ⟨own, -, kept⟩ :=
        Wire.faithful_register lawful (faithful.wires .forth) unnamed next
      obtain ⟨rest, rfl⟩ := Wire.nextFrame_eq_some next
      dsimp only
      rw [own]
      cases answers : b.greeting link.back.sender with
      | none => exact outcome_hangUp faithful .forth
      | some answer =>
          dsimp only
          split
          · exact outcome_hangUp faithful .forth
          · have ungreeted : link.back.greeted = false := by
              rw [faithful.answers, unnamed]
              rfl
            exact outcome_answer faithful answers kept ungreeted

theorem outcome_read (lawful : b.Lawful) (faithful : link.Faithful b) (direction : Direction) :
    Outcome b link direction (link.read b eof direction) := by
  unfold read
  split
  · exact outcome_none faithful direction
  · cases named : (link.wire direction).label with
    | some peer =>
        have own := Wire.named_eq (faithful.wires direction) named
        have kept : (((link.wire direction).read b eof).2).Faithful b :=
          Wire.faithful_read lawful (faithful.wires direction) named
        have delivered := @Wire.delivered_read b eof (link.wire direction)
        obtain ⟨rest, heard, left⟩ := Wire.read_eq b eof (link.wire direction)
        have continues : Wire.Continues (link.wire direction)
            ((link.wire direction).read b eof).2 := by
          rw [left]
          exact ⟨⟨rfl, rfl, id⟩, rfl⟩
        refine ⟨faithful_replace faithful kept continues.toJoins (by rw [left]) (by rw [left]; rfl),
          ?_, ?_, ?_, ?_⟩
        · intro d
          by_cases same : d = direction
          · subst same
            rw [wire_replace_self]
            exact continues
          · rw [wire_replace_of_ne _ _ same]
            exact .refl _
        · rw [wire_replace_self, delivered]
          simp [Function.comp_def]
        · intro d ne
          rw [wire_replace_of_ne _ _ ne]
        · intro passed h
          obtain ⟨m, -, rfl⟩ := Option.map_eq_some_iff.mp h
          exact own
    | none =>
        cases direction with
        | forth => exact outcome_inbound lawful faithful named
        | back => exact outcome_outbound lawful faithful named

theorem outcome_perform (lawful : b.Lawful) (faithful : link.Faithful b) (direction : Direction)
    (operation : Operation) :
    Outcome b link direction (link.perform b eof direction operation) := by
  have kept := faithful.wires direction
  cases operation with
  | write => exact outcome_write faithful direction
  | arrive count =>
      exact outcome_replace faithful (Wire.faithful_arrive kept count) ⟨⟨rfl, rfl, id⟩, rfl⟩ rfl
        rfl rfl
  | read => exact outcome_read lawful faithful direction
  | breakOff count =>
      exact outcome_replace faithful (Wire.faithful_breakOff kept count) ⟨⟨rfl, rfl, id⟩, rfl⟩ rfl
        rfl rfl
  | hangUp => exact outcome_hangUp faithful direction
  | quit =>
      exact outcome_replace faithful (Wire.faithful_quit kept) ⟨⟨rfl, rfl, id⟩, rfl⟩ rfl rfl
        rfl

/-- An end that has a name for its peer can send to it. -/
theorem Faithful.answered (faithful : link.Faithful b) {peer : NodeId}
    (named : (link.wire direction).label = some peer) :
    (link.wire direction.opposite).sender = (link.wire direction).receiver ∧
      (link.wire direction.opposite).receiver = peer ∧
      (link.wire direction.opposite).greeted = true := by
  have own := Wire.named_eq (faithful.wires direction) named
  cases direction with
  | forth =>
      refine ⟨faithful.crossed.1, faithful.crossed.2.trans own.symm, ?_⟩
      have told : link.forth.label.isSome = true := by
        rw [show link.forth.label = some peer from named]
        rfl
      exact faithful.answers.trans told
  | back => exact ⟨faithful.crossed.2.symm, faithful.crossed.1.symm.trans own.symm, faithful.dials⟩

end Link

end Rabia
