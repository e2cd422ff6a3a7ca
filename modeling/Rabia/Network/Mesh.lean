import Rabia.Lib.Fifo
import Rabia.Lib.Runs
import Rabia.Lib.Table
import Rabia.Network.Links

/-!
# A network of connections

All nodes that run the `TcpNetwork` of `rabia-engine/src/network/tcp.rs`, with all
connections that were ever dialled between them. A node sends through its table of
connections, which the handshakes fill. `posted` and `arrived` are the history of the mesh:
what the outbound queues took, and what the reader tasks passed on to `receive`.
-/

namespace Rabia

open Rabia.Lib

/-- A direction of one of the links of a mesh. -/
abbrev Way := Nat × Direction

/-- A message on its way, with the names of its sender and its receiver. -/
structure Letter where
  way : Way
  sender : NodeId
  receiver : NodeId
  message : ProtocolMessage
deriving DecidableEq

structure Mesh where
  links : List Link
  /-- `connections` of every node: by the name of a peer, the way to it. -/
  connections : NodeId → Table NodeId Way
  posted : List Letter
  arrived : List Letter

namespace Mesh

/-- Nobody has dialled. -/
def empty : Mesh := ⟨[], fun _ => ∅, [], []⟩

/-- What happens in a mesh. -/
inductive Action where
  /-- An attempt of `connect_to_peer` finds somebody listening, not necessarily whom it
  expects. -/
  | connect (dialler acceptor expected : NodeId)
  | sendTo (node target : NodeId) (message : ProtocolMessage)
  | broadcast (node : NodeId) (order : List NodeId) (exclude : Option NodeId)
    (message : ProtocolMessage)
  | removePeer (node peer : NodeId)
  | perform (link : Nat) (direction : Direction) (operation : Operation)
deriving DecidableEq

/-- `outbound_queue.send`, which fails once the writer task has ended. -/
def post (node target : NodeId) (m : ProtocolMessage) (way : Way) (s : Mesh) : Mesh :=
  match s.links[way.1]? with
  | none => s
  | some link =>
    if (link.wire way.2).mute then s
    else
      { s with
        links := s.links.set way.1 (link.replace ((link.wire way.2).send m) way.2)
        posted := s.posted ++ [⟨way, node, target, m⟩] }

/-- `send_to`. -/
def sendTo (node target : NodeId) (m : ProtocolMessage) (s : Mesh) : Mesh :=
  match (s.connections node).lookup target with
  | none => s
  | some way => s.post node target m way

/-- `broadcast`, when the table is walked in the order of `order`. -/
def broadcast (node : NodeId) (order : List NodeId) (exclude : Option NodeId)
    (m : ProtocolMessage) (s : Mesh) : Mesh :=
  (Table.walk order (s.connections node)).foldl
    (fun s entry =>
      if some entry.1 ≠ exclude ∧ entry.1 ≠ node then s.post node entry.1 m entry.2 else s) s

/-- `remove_peer`, as far as the table goes. -/
def removePeer (node peer : NodeId) (s : Mesh) : Mesh :=
  { s with
    connections := Function.update s.connections node ((s.connections node).erase peer) }

/-- `connections.insert`. -/
def register (node peer : NodeId) (way : Way) (s : Mesh) : Mesh :=
  { s with
    connections := Function.update s.connections node ((s.connections node).insert peer way) }

/-- A task of a link takes a turn. An end that learns the name of its peer registers the
connection, and an end that passes a message on puts it into `message_tx`. -/
def perform (b : Bincode) (eof : MessageFrame.Eof) (i : Nat) (direction : Direction)
    (operation : Operation) (s : Mesh) : Mesh :=
  match s.links[i]? with
  | none => s
  | some link =>
    let (passed, link') := link.perform b eof direction operation
    let receiver := (link.wire direction).receiver
    let s' : Mesh :=
      { s with
        links := s.links.set i link'
        arrived := s.arrived ++
          passed.toList.map fun p => ⟨(i, direction), p.1, receiver, p.2⟩ }
    match (link.wire direction).label, (link'.wire direction).label with
    | none, some peer => s'.register receiver peer (i, direction.opposite)
    | _, _ => s'

/-- `perform_outbound_handshake` up to where it waits. -/
def connect (b : Bincode) (dialler acceptor expected : NodeId) (s : Mesh) : Mesh :=
  match b.greeting dialler with
  | none => s
  | some frame => { s with links := s.links ++ [.dialled dialler acceptor expected frame] }

/-- The mesh after an action. -/
def step (b : Bincode) (eof : MessageFrame.Eof) (s : Mesh) : Action → Mesh
  | .connect dialler acceptor expected => s.connect b dialler acceptor expected
  | .sendTo node target m => s.sendTo node target m
  | .broadcast node order exclude m => s.broadcast node order exclude m
  | .removePeer node peer => s.removePeer node peer
  | .perform i direction operation => s.perform b eof i direction operation

/-! ## What every mesh keeps -/

/-- The wire that a way names. -/
def wire? (links : List Link) (way : Way) : Option Wire :=
  links[way.1]?.map fun link => link.wire way.2

/-- Messages of a wire as letters. -/
def letters (way : Way) (messages : Wire → List ProtocolMessage) : Option Wire → List Letter
  | none => []
  | some c => (messages c).map fun m => ⟨way, c.sender, c.receiver, m⟩

/-- The letters are those of all wires, with the names of their ends. -/
def Records (messages : Wire → List ProtocolMessage) (history : List Letter)
    (links : List Link) : Prop :=
  ∀ way, history.filter (fun l => l.way = way) = letters way messages (wire? links way)

/-- The links are faithful, every entry of a table is a way from its node to its peer, and the
history of the mesh is that of its wires. -/
structure Sound (b : Bincode) (s : Mesh) : Prop where
  links : ∀ link ∈ s.links, link.Faithful b
  tables : ∀ node peer way, (s.connections node).lookup peer = some way →
    ∃ c, wire? s.links way = some c ∧ c.sender = node ∧ c.receiver = peer ∧ c.greeted = true
  posted : Records Wire.sent s.posted s.links
  arrived : Records Wire.delivered s.arrived s.links

variable {b : Bincode} {eof : MessageFrame.Eof} {s : Mesh} {links : List Link} {i : Nat}
  {link link' : Link}

theorem wire?_of_getElem (found : links[i]? = some link) (d : Direction) :
    wire? links (i, d) = some (link.wire d) := by
  rw [wire?, found]
  rfl

theorem wire?_set_self (found : links[i]? = some link) (link' : Link) (d : Direction) :
    wire? (links.set i link') (i, d) = some (link'.wire d) := by
  apply wire?_of_getElem
  exact List.getElem?_set_self (List.getElem?_eq_some_iff.mp found).1

theorem wire?_set_of_ne (links : List Link) (link' : Link) {way : Way} (ne : way.1 ≠ i) :
    wire? (links.set i link') way = wire? links way := by
  rw [wire?, List.getElem?_set_ne ne.symm]
  rfl

/-- A link changes, and the history with it. -/
theorem records_set {messages : Wire → List ProtocolMessage} {history more : List Letter}
    (records : Records messages history links) (found : links[i]? = some link)
    (own : ∀ l ∈ more, l.way.1 = i)
    (grown : ∀ d, letters (i, d) messages (some (link'.wire d)) =
      letters (i, d) messages (some (link.wire d)) ++ more.filter (fun l => l.way = (i, d))) :
    Records messages (history ++ more) (links.set i link') := by
  rintro ⟨j, d⟩
  rw [List.filter_append, records]
  by_cases same : j = i
  · subst same
    rw [wire?_set_self found, wire?_of_getElem found, grown]
  · have none_here : more.filter (fun l => l.way = (j, d)) = [] := by
      refine List.filter_eq_nil_iff.mpr fun l member named => ?_
      rw [decide_eq_true_eq] at named
      exact same ((congrArg Prod.fst named).symm.trans (own l member))
    rw [wire?_set_of_ne _ _ same, none_here, List.append_nil]

/-- A link changes, and the history does not. -/
theorem records_set_same {messages : Wire → List ProtocolMessage} {history : List Letter}
    (records : Records messages history links) (found : links[i]? = some link)
    (same : ∀ d, letters (i, d) messages (some (link'.wire d)) =
      letters (i, d) messages (some (link.wire d))) :
    Records messages history (links.set i link') := by
  have grown : Records messages (history ++ []) (links.set i link') :=
    records_set records found (by simp) fun d => by
      rw [List.filter_nil, List.append_nil]
      exact same d
  rwa [List.append_nil] at grown

/-- What stays of the ends of wires keeps the tables. -/
theorem wire?_joins (found : links[i]? = some link)
    (joins : ∀ d, (link.wire d).Joins (link'.wire d)) {way : Way} {c : Wire}
    (there : wire? links way = some c) :
    ∃ c', wire? (links.set i link') way = some c' ∧ c.Joins c' := by
  obtain ⟨j, d⟩ := way
  by_cases same : j = i
  · subst same
    cases (wire?_of_getElem found d).symm.trans there
    exact ⟨_, wire?_set_self found link' d, joins d⟩
  · exact ⟨c, (wire?_set_of_ne _ _ same).trans there, rfl, rfl, id⟩

theorem sound_set (sound : s.Sound b) (found : s.links[i]? = some link)
    (faithful : link'.Faithful b) (joins : ∀ d, (link.wire d).Joins (link'.wire d))
    {posted arrived : List Letter} (posts : Records Wire.sent posted (s.links.set i link'))
    (arrives : Records Wire.delivered arrived (s.links.set i link')) :
    Sound b { s with links := s.links.set i link', posted := posted, arrived := arrived } := by
  refine ⟨?_, ?_, posts, arrives⟩
  · intro l member
    rcases List.mem_or_eq_of_mem_set member with old | rfl
    · exact sound.links l old
    · exact faithful
  · intro node peer way known
    obtain ⟨c, there, own, other, greeted⟩ := sound.tables node peer way known
    obtain ⟨c', there', joined⟩ := wire?_joins found joins there
    exact ⟨c', there', joined.sender.trans own, joined.receiver.trans other,
      joined.greeted greeted⟩

/-- The wire of one direction grows, the other stays, and so do the letters. -/
theorem letters_grown {messages : Wire → List ProtocolMessage} {direction : Direction}
    {m : List ProtocolMessage} (joins : (link.wire direction).Joins (link'.wire direction))
    (grown : messages (link'.wire direction) = messages (link.wire direction) ++ m)
    (others : ∀ d ≠ direction, letters (i, d) messages (some (link'.wire d)) =
      letters (i, d) messages (some (link.wire d))) (d : Direction) :
    letters (i, d) messages (some (link'.wire d)) =
      letters (i, d) messages (some (link.wire d)) ++
        (m.map fun m => (⟨(i, direction), (link.wire direction).sender,
          (link.wire direction).receiver, m⟩ : Letter)).filter (fun l => l.way = (i, d)) := by
  by_cases same : d = direction
  · subst same
    simp [letters, grown, joins.sender, joins.receiver, List.filter_map, Function.comp_def]
  · rw [others d same]
    simp [List.filter_map, Function.comp_def, Ne.symm same]

theorem sound_post (sound : s.Sound b) {node target : NodeId} {way : Way}
    (known : ∃ c, wire? s.links way = some c ∧ c.sender = node ∧ c.receiver = target ∧
      c.greeted = true) (m : ProtocolMessage) : (s.post node target m way).Sound b := by
  obtain ⟨i, direction⟩ := way
  obtain ⟨c, there, rfl, rfl, greeted⟩ := known
  obtain ⟨link, found, rfl⟩ := Option.map_eq_some_iff.mp there
  have member : link ∈ s.links := List.mem_of_getElem? found
  have faithful := sound.links link member
  unfold post
  dsimp only at found ⊢
  rw [found]
  dsimp only
  split
  · exact sound
  · have sends := Wire.faithful_send (faithful.wires direction) greeted m
    have joins : ∀ d, (link.wire d).Joins
        ((link.replace ((link.wire direction).send m) direction).wire d) := by
      intro d
      by_cases same : d = direction
      · subst same
        rw [Link.wire_replace_self]
        exact ⟨rfl, rfl, id⟩
      · rw [Link.wire_replace_of_ne _ _ same]
        exact ⟨rfl, rfl, id⟩
    have kept := Link.faithful_replace faithful sends ⟨rfl, rfl, id⟩ rfl rfl
    refine sound_set sound found kept joins ?_ ?_
    · refine records_set sound.posted found (by simp) ?_
      refine letters_grown (m := [m]) (joins direction) ?_ ?_
      · rw [Link.wire_replace_self]
        rfl
      · intro d ne
        rw [Link.wire_replace_of_ne _ _ ne]
    · refine records_set_same sound.arrived found fun d => ?_
      by_cases same : d = direction
      · subst same
        rw [Link.wire_replace_self]
        rfl
      · rw [Link.wire_replace_of_ne _ _ same]

theorem connections_post (node target : NodeId) (m : ProtocolMessage) (way : Way) (s : Mesh) :
    (s.post node target m way).connections = s.connections := by
  unfold post
  repeat' split
  all_goals rfl

theorem sound_sendTo (sound : s.Sound b) (node target : NodeId) (m : ProtocolMessage) :
    (s.sendTo node target m).Sound b := by
  unfold sendTo
  cases known : (s.connections node).lookup target with
  | none => exact sound
  | some way => exact sound_post sound (sound.tables node target way known) m

/-- The table does not change while it is walked. -/
theorem sound_broadcast (sound : s.Sound b) (node : NodeId) (order : List NodeId)
    (exclude : Option NodeId) (m : ProtocolMessage) :
    (s.broadcast node order exclude m).Sound b := by
  let Good (t : Mesh) : Prop := t.Sound b ∧ t.connections = s.connections
  suffices all : Good (s.broadcast node order exclude m) from all.1
  refine List.foldlRecOn (motive := Good) _ _ ⟨sound, rfl⟩ ?_
  rintro t ⟨kept, same⟩ ⟨peer, way⟩ member
  have known : (t.connections node).lookup peer = some way := by
    rw [same]
    exact Table.mem_walk.mp member
  dsimp only
  split
  · refine ⟨sound_post kept (kept.tables node peer way known) m, ?_⟩
    rw [connections_post, same]
  · exact ⟨kept, same⟩

theorem sound_removePeer (sound : s.Sound b) (node peer : NodeId) :
    (s.removePeer node peer).Sound b := by
  refine ⟨sound.links, fun node' peer' way known => ?_, sound.posted, sound.arrived⟩
  refine sound.tables node' peer' way ?_
  unfold removePeer at known
  dsimp only at known
  by_cases same : node' = node
  · subst same
    rw [Function.update_self] at known
    by_cases gone : peer' = peer
    · subst gone
      rw [Finmap.lookup_erase] at known
      cases known
    · rwa [Finmap.lookup_erase_ne gone] at known
  · rwa [Function.update_of_ne same] at known

theorem sound_register (sound : s.Sound b) {node peer : NodeId} {way : Way}
    (leads : ∃ c, wire? s.links way = some c ∧ c.sender = node ∧ c.receiver = peer ∧
      c.greeted = true) : (s.register node peer way).Sound b := by
  refine ⟨sound.links, fun node' peer' way' known => ?_, sound.posted, sound.arrived⟩
  unfold register at known ⊢
  dsimp only at known ⊢
  by_cases same : node' = node
  · subst same
    rw [Function.update_self] at known
    by_cases own : peer' = peer
    · subst own
      rw [Finmap.lookup_insert] at known
      cases known
      exact leads
    · rw [Finmap.lookup_insert_of_ne _ own] at known
      exact sound.tables node' peer' way' known
  · rw [Function.update_of_ne same] at known
    exact sound.tables node' peer' way' known

/-- What a turn leaves of the links and of the history. -/
theorem sound_turn (sound : s.Sound b) {direction : Direction}
    {o : Option (NodeId × ProtocolMessage) × Link} (found : s.links[i]? = some link)
    (outcome : Link.Outcome b link direction o) :
    Sound b { s with
      links := s.links.set i o.2
      arrived := s.arrived ++ o.1.toList.map fun p =>
        ⟨(i, direction), p.1, (link.wire direction).receiver, p.2⟩ } := by
  have joins d := (outcome.continues d).toJoins
  have labelled : (o.1.toList.map fun p =>
      (⟨(i, direction), p.1, (link.wire direction).receiver, p.2⟩ : Letter)) =
        (o.1.map Prod.snd).toList.map fun m =>
          ⟨(i, direction), (link.wire direction).sender, (link.wire direction).receiver, m⟩ := by
    cases passed : o.1 with
    | none => rfl
    | some p =>
        have own := outcome.labelled p passed
        show [Letter.mk _ p.1 _ _] = _
        rw [own]
        rfl
  refine sound_set sound found outcome.faithful joins ?_ ?_
  · refine records_set_same sound.posted found fun d => ?_
    simp only [letters, (outcome.continues d).sent, (joins d).sender, (joins d).receiver]
  · rw [labelled]
    refine records_set sound.arrived found ?_ (letters_grown (joins direction) ?_ ?_)
    · intro l member
      obtain ⟨m, -, rfl⟩ := List.mem_map.mp member
      rfl
    · exact outcome.delivered
    · intro d ne
      simp only [letters, outcome.others d ne, (joins d).sender, (joins d).receiver]

theorem sound_perform (lawful : b.Lawful) (sound : s.Sound b) (i : Nat) (direction : Direction)
    (operation : Operation) : (s.perform b eof i direction operation).Sound b := by
  unfold perform
  cases found : s.links[i]? with
  | none => exact sound
  | some link =>
      have faithful := sound.links link (List.mem_of_getElem? found)
      have outcome : Link.Outcome b link direction (link.perform b eof direction operation) :=
        Link.outcome_perform lawful faithful direction operation
      have kept := sound_turn sound found outcome
      dsimp only
      split
      · rename_i peer _ named
        obtain ⟨own, other, greeted⟩ := outcome.faithful.answered named
        refine sound_register kept ⟨_, wire?_set_self found _ direction.opposite, ?_, other,
          greeted⟩
        exact own.trans (outcome.continues direction).receiver
      · exact kept

/-- A dialled link has nothing on it but a greeting. -/
theorem faithful_dialled {dialler : NodeId} (acceptor expected : NodeId) {frame : MessageFrame}
    (own : b.greeting dialler = some frame) :
    (Link.dialled dialler acceptor expected frame).Faithful b := by
  refine ⟨?_, ⟨rfl, rfl⟩, rfl, rfl⟩
  rintro (_ | _)
  · exact Wire.faithful_greet (Wire.faithful_new dialler acceptor) rfl own
  · exact Wire.faithful_new acceptor dialler

theorem wire?_append (links : List Link) (link : Link) {way : Way} (ne : way.1 ≠ links.length) :
    wire? (links ++ [link]) way = wire? links way := by
  unfold wire?
  rcases Nat.lt_or_gt_of_ne ne with old | beyond
  · rw [List.getElem?_append_left old]
  · rw [List.getElem?_eq_none (by simp; omega), List.getElem?_eq_none (by omega)]

/-- Nothing was sent over a new link. -/
theorem records_append {messages : Wire → List ProtocolMessage} {history : List Letter}
    (records : Records messages history links) (bare : ∀ d, messages (link.wire d) = []) :
    Records messages history (links ++ [link]) := by
  rintro ⟨j, d⟩
  rw [records]
  by_cases fresh : j = links.length
  · subst fresh
    have before : wire? links (links.length, d) = none := by simp [wire?]
    have after : wire? (links ++ [link]) (links.length, d) = some (link.wire d) :=
      wire?_of_getElem (by simp) d
    rw [before, after]
    simp [letters, bare]
  · rw [wire?_append _ _ fresh]

theorem sound_connect (sound : s.Sound b) (dialler acceptor expected : NodeId) :
    (s.connect b dialler acceptor expected).Sound b := by
  unfold connect
  cases own : b.greeting dialler with
  | none => exact sound
  | some frame =>
      refine ⟨?_, ?_, records_append sound.posted ?_, records_append sound.arrived ?_⟩
      · intro link member
        rcases List.mem_append.mp member with old | fresh
        · exact sound.links link old
        · rw [List.mem_singleton.mp fresh]
          exact faithful_dialled acceptor expected own
      · intro node peer way known
        obtain ⟨c, there, ends⟩ := sound.tables node peer way known
        refine ⟨c, ?_, ends⟩
        rw [wire?_append, there]
        intro fresh
        rw [wire?, fresh, List.getElem?_length] at there
        cases there
      · rintro (_ | _) <;> rfl
      · rintro (_ | _) <;> rfl

theorem sound_step (lawful : b.Lawful) (s : Mesh) (action : Action) (sound : s.Sound b) :
    (s.step b eof action).Sound b := by
  cases action with
  | connect dialler acceptor expected => exact sound_connect sound dialler acceptor expected
  | sendTo node target m => exact sound_sendTo sound node target m
  | broadcast node order exclude m => exact sound_broadcast sound node order exclude m
  | removePeer node peer => exact sound_removePeer sound node peer
  | perform i direction operation => exact sound_perform lawful sound i direction operation

theorem sound_empty : empty.Sound b := by
  refine ⟨?_, ?_, fun way => rfl, fun way => rfl⟩
  · intro link member
    cases member
  · intro node peer way known
    cases known

theorem sound_run (lawful : b.Lawful) (eof : MessageFrame.Eof) (actions : List Action) :
    (run (step b eof) empty actions).Sound b :=
  run_of_kept (sound_step lawful) sound_empty actions

/-! ## Delivery -/

/-- The letters that were posted over a way and not skipped by its writer task. -/
def mail (b : Bincode) (s : Mesh) (way : Way) : List Letter :=
  s.posted.filter fun l => l.way = way ∧ b.sendable l.message = true

/-- The letters that arrived over a way. -/
def received (s : Mesh) (way : Way) : List Letter := s.arrived.filter fun l => l.way = way

/-- The tasks of a way have nothing left to do, and it did not break. -/
def Idle (eof : MessageFrame.Eof) (s : Mesh) (way : Way) : Prop :=
  ∀ c, wire? s.links way = some c →
    c.broken = false ∧ c.outbound = [] ∧ c.written = [] ∧ c.nextFrame eof = none

theorem mail_eq (sound : s.Sound b) (way : Way) :
    s.mail b way =
      letters way (fun c => c.sent.filter b.sendable) (wire? s.links way) := by
  have along : s.mail b way = (s.posted.filter fun l => l.way = way).filter
      fun l => b.sendable l.message := by
    rw [List.filter_filter]
    refine List.filter_congr fun l _ => ?_
    simp [Bool.and_comm]
  rw [along, sound.posted]
  cases wire? s.links way with
  | none => rfl
  | some c => simp [letters, List.filter_map, Function.comp_def]

theorem received_inOrder (sound : s.Sound b) (way : Way) : s.received way <+: s.mail b way := by
  rw [mail_eq sound, received, sound.arrived]
  cases there : wire? s.links way with
  | none => exact List.prefix_refl _
  | some c =>
      obtain ⟨link, found, rfl⟩ := Option.map_eq_some_iff.mp there
      have faithful := (sound.links link (List.mem_of_getElem? found)).wires way.2
      exact (Wire.delivered_inOrder faithful).map _

theorem received_all (sound : s.Sound b) {way : Way} (idle : s.Idle eof way) :
    s.received way = s.mail b way := by
  rw [mail_eq sound, received, sound.arrived]
  cases there : wire? s.links way with
  | none => rfl
  | some c =>
      obtain ⟨unbroken, none_queued, none_written, waits⟩ := idle c there
      obtain ⟨link, found, rfl⟩ := Option.map_eq_some_iff.mp there
      have faithful := (sound.links link (List.mem_of_getElem? found)).wires way.2
      have all := Wire.delivered_all faithful unbroken none_queued none_written waits
      unfold letters
      dsimp only
      rw [all]

theorem arrived_subperm (sound : s.Sound b) : s.arrived.Subperm s.posted := by
  refine subperm_of_filter_sublist Letter.way fun way => ?_
  refine (received_inOrder sound way).sublist.trans ?_
  exact List.monotone_filter_right _ fun l among => by simp_all

/-- The connections deliver. In every run of the mesh, whatever the nodes do and wherever
connections break: over every way, what arrives is what was posted to it, in this order and each
message once, up to some point, but for messages that make no frame; all of it arrives if the
way does not break and its tasks come to rest; and no message arrives at a node, under the name
of a peer, more often than that peer posted it to that node. -/
theorem connections_deliver (lawful : b.Lawful) (eof : MessageFrame.Eof) (actions : List Action) :
    let s := run (step b eof) empty actions
    (∀ way, s.received way <+: s.mail b way) ∧
      (∀ way, s.Idle eof way → s.received way = s.mail b way) ∧
      s.arrived.Subperm s.posted := by
  intro s
  have sound : s.Sound b := sound_run lawful eof actions
  exact ⟨received_inOrder sound, fun way idle => received_all sound idle, arrived_subperm sound⟩

/-- The heartbeat of a new engine, and what `bincode` makes of it when its id is nil: lengths and
numbers in eight bytes, the variant of the message in four. -/
def heartbeat : ProtocolMessage := ⟨⟨1⟩, none, 7, .heartBeat ⟨0, 0, true⟩⟩

def uuidBytes (uuid : Nat) : Bytes := toLE 8 16 ++ (toLE 16 uuid).reverse

def heartbeatBytes : Bytes :=
  uuidBytes 0 ++ uuidBytes 1 ++ [0] ++ toLE 8 7 ++ toLE 4 7 ++ toLE 8 0 ++ toLE 8 0 ++ [1]

/-- `bincode` on identifiers and on that heartbeat. -/
def bincode : Bincode where
  serialize m := if m = heartbeat then .ok heartbeatBytes else .error (.internal "other message")
  deserialize payload :=
    if payload = heartbeatBytes then .ok heartbeat else .error (.internal "other payload")
  serializeId id := if id.uuid < 256 ^ 16 then .ok (uuidBytes id.uuid) else .error (.internal "id")
  deserializeId payload :=
    if payload.take 8 = toLE 8 16 ∧ payload.length = 24 then .ok ⟨ofLE (payload.drop 8).reverse⟩
    else .error (.internal "id")

theorem bincode_lawful : bincode.Lawful := by
  constructor
  · intro m payload h
    unfold bincode at h ⊢
    dsimp only at h ⊢
    split at h
    · rename_i same
      cases h
      rw [if_pos rfl, same]
    · cases h
  · intro id payload h
    unfold bincode at h ⊢
    dsimp only at h ⊢
    split at h
    · rename_i fits
      cases h
      have front : (uuidBytes id.uuid).take 8 = toLE 8 16 := List.take_left' (length_toLE 8 16)
      have back : (uuidBytes id.uuid).drop 8 = (toLE 16 id.uuid).reverse :=
        List.drop_left' (length_toLE 8 16)
      have long : (uuidBytes id.uuid).length = 24 := by simp [uuidBytes]
      rw [if_pos ⟨front, long⟩, back, List.reverse_reverse, ofLE_toLE fits]
    · cases h

/-- Two nodes connect, and one sends the other two heartbeats, of which the second is still on
its way. -/
theorem connections_deliver_heartbeats :
    let actions : List Action :=
      [.connect ⟨1⟩ ⟨2⟩ ⟨2⟩, .perform 0 .forth (.arrive 5), .perform 0 .forth (.arrive 30),
        .perform 0 .forth .read, .perform 0 .back (.arrive 28), .perform 0 .back .read,
        .sendTo ⟨1⟩ ⟨2⟩ heartbeat, .broadcast ⟨1⟩ [] none heartbeat, .perform 0 .forth .write,
        .perform 0 .forth .write, .perform 0 .forth (.arrive 100), .perform 0 .forth .read,
        .perform 0 .forth .read]
    let s := run (step bincode ⟨"eof", "eof"⟩) empty actions
    s.posted.length = 2 ∧ s.arrived = [⟨(0, .forth), ⟨1⟩, ⟨2⟩, heartbeat⟩] ∧
      ((∀ way, s.received way <+: s.mail bincode way) ∧
        (∀ way, s.Idle ⟨"eof", "eof"⟩ way → s.received way = s.mail bincode way) ∧
        s.arrived.Subperm s.posted) := by
  intro actions s
  exact ⟨by decide +kernel, by decide +kernel,
    connections_deliver bincode_lawful ⟨"eof", "eof"⟩ actions⟩

end Mesh

end Rabia
