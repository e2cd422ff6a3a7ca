import Rabia.Cluster.Model

/-!
# The cluster on a transport

The engines of a cluster on an implementation of the `NetworkTransport` trait of
`rabia-core/src/network.rs`: what an engine sends goes into the transport, and the messages
that it handles are those that its `receive` returns. A transport is `Honest` if it hands a
message only to whom it was sent, under the name of its sender; it may reorder, delay, lose
or double messages. `Deployment.exists_cluster_run` says that on an honest transport the
engines do what those of a `Cluster` do in some run, so that whatever holds of the world in
every run of a cluster holds of them.
-/

namespace Rabia

open Rabia.Lib

/-! ## Transports -/

/-- The transports of all nodes, as one. `get_connected_nodes` is asked at the start of an
engine only, and nothing asks for the other methods. -/
structure NetworkTransport (τ : Type) where
  /-- The readings and draws that a call depends on. -/
  Luck : Type
  /-- What happens in the transport between the calls. -/
  Turn : Type
  sendTo : Luck → NodeId → NodeId → ProtocolMessage → τ → τ
  broadcast : Luck → NodeId → Option NodeId → ProtocolMessage → τ → τ
  /-- What `send_to` and, at `none`, `broadcast` return to a node. -/
  answer : τ → NodeId → Option NodeId → Except RabiaError Unit
  /-- The message that `receive` returns to a node, if one is there. -/
  receive : NodeId → τ → Option ((NodeId × ProtocolMessage) × τ)
  turn : Turn → τ → τ

namespace NetworkTransport

variable {τ : Type} (t : NetworkTransport τ)

/-- The network calls of a handler, in their order. -/
def transmit (luck : t.Luck) (node : NodeId) (effects : List Effect) (s : τ) : τ :=
  effects.foldl
    (fun s effect =>
      match effect with
      | .sendTo target message => t.sendTo luck node target message s
      | .broadcast message => t.broadcast luck node (some node) message s
      | .decide _ _ | .applyBatch _ _ | .respond _ _ | .statistics _ _ => s) s

/-- A member receives only what was sent to it: `Carries Sent s` says that all that the
transport still holds was sent. -/
structure Honest (members : List NodeId) (Carries : (Packet → Prop) → τ → Prop) : Prop where
  mono : ∀ {Sent Sent' : Packet → Prop} {s}, Carries Sent s →
    (∀ packet, Sent packet → Sent' packet) → Carries Sent' s
  sendTo : ∀ {Sent s}, Carries Sent s → ∀ luck {node target m}, Sent ⟨node, target, m⟩ →
    Carries Sent (t.sendTo luck node target m s)
  broadcast : ∀ {Sent s}, Carries Sent s → ∀ luck {node m},
    (∀ other ∈ members, other ≠ node → Sent ⟨node, other, m⟩) →
    Carries Sent (t.broadcast luck node (some node) m s)
  turn : ∀ {Sent s}, Carries Sent s → ∀ i, Carries Sent (t.turn i s)
  receive : ∀ {Sent s}, Carries Sent s → ∀ {node}, node ∈ members → ∀ {sender m s'},
    t.receive node s = some ((sender, m), s') → Sent ⟨sender, node, m⟩ ∧ Carries Sent s'

variable {t} {members : List NodeId} {Carries : (Packet → Prop) → τ → Prop}

/-- What a handler sends is carried when its packets are sent. -/
theorem Honest.transmit (honest : t.Honest members Carries) {Sent : Packet → Prop} {s : τ}
    (carries : Carries Sent s) (luck : t.Luck) (node : NodeId) {effects : List Effect}
    (sent : ∀ x ∈ effects, ∀ packet ∈ x.packets members node, Sent packet) :
    Carries Sent (t.transmit luck node effects s) := by
  refine List.foldlRecOn (motive := Carries Sent) _ _ carries ?_
  intro s kept x member
  have admitted := sent x member
  cases x with
  | sendTo target m => exact honest.sendTo kept luck (admitted _ (List.mem_singleton_self _))
  | broadcast m =>
      refine honest.broadcast kept luck fun other here ne => admitted _ ?_
      refine List.mem_map.mpr ⟨other, List.mem_filter.mpr ⟨here, ?_⟩, rfl⟩
      exact decide_eq_true ne
  | decide _ _ | applyBatch _ _ | respond _ _ | statistics _ _ => exact kept

end NetworkTransport

/-! ## Deployments -/

/-- The input of an action of the cluster. -/
def Action.input : Action → Option (NodeId × Event)
  | .atNode node _ event => some (node, event)
  | .deliver _ _ | .duplicate _ | .lose _ => none

structure Deployment (SM τ : Type) extends World SM where
  transport : τ

namespace Deployment

/-- One step of a deployment. -/
inductive Action {τ : Type} (t : NetworkTransport τ) where
  /-- An event other than a message happens at a member. -/
  | atNode (node : NodeId) (luck : t.Luck) (env : Env) (event : Event)
  /-- The engine of a member handles the message that `receive` returns, if one is there. -/
  | receive (node : NodeId) (luck : t.Luck) (env : Env)
  | turn (i : t.Turn)

/-- The input of an action of a deployment: what happens at a member and is not a message. -/
def Action.input {τ : Type} {t : NetworkTransport τ} (members : List NodeId) :
    Action t → Option (NodeId × Event)
  | .atNode node _ _ event =>
    if node ∈ members ∧ event.isMessage = false then some (node, event) else none
  | .receive _ _ _ | .turn _ => none

variable {SM τ : Type}

/-- Engines made by `RabiaEngine::new`, on a transport. -/
def start (members : List NodeId) (config : NodeId → RabiaConfig) (stateMachine : NodeId → SM)
    (transport : τ) : Deployment SM τ where
  toWorld := (Cluster.start members config stateMachine).toWorld
  transport := transport

variable [StateMachine SM] (t : NetworkTransport τ)

/-- What the engine is given when it calls its transport. -/
def envAt (d : Deployment SM τ) (node : NodeId) (env : Env) : Env :=
  { env with send := t.answer d.transport node }

/-- An event at one engine, which calls its transport. -/
def act (d : Deployment SM τ) (node : NodeId) (luck : t.Luck) (env : Env) (event : Event) :
    Deployment SM τ where
  toWorld := d.toWorld.act node (d.envAt t node env) event
  transport := t.transmit luck node
    (Engine.handle (d.envAt t node env) event (d.engines node)).effects d.transport

def step (members : List NodeId) (d : Deployment SM τ) : Action t → Deployment SM τ
  | .atNode node luck env event =>
    if node ∈ members ∧ event.isMessage = false then d.act t node luck env event else d
  | .receive node luck env =>
    match t.receive node d.transport with
    | none => d
    | some ((sender, message), transport) =>
      if node ∈ members then
        { d with transport := transport }.act t node luck env (.message sender message)
      else d
  | .turn i => { d with transport := t.turn i d.transport }

/-! ## The refinement -/

variable {t} {members : List NodeId} {Carries : (Packet → Prop) → τ → Prop}
  {d : Deployment SM τ} {c : Cluster SM}

/-- The engines are alike, what the transport carries was sent, and whatever was sent is in
flight in the cluster. -/
structure Related (members : List NodeId) (Carries : (Packet → Prop) → τ → Prop)
    (d : Deployment SM τ) (c : Cluster SM) : Prop where
  world : c.toWorld = d.toWorld
  carries : Carries (d.toWorld.Sent members) d.transport
  flies : ∀ packet, d.toWorld.Sent members packet → packet ∈ c.network

omit [StateMachine SM] in
theorem sender_of_mem_packets {node : NodeId} {x : Effect} {packet : Packet}
    (among : packet ∈ x.packets members node) : packet.sender = node := by
  cases x with
  | sendTo target message => rw [List.mem_singleton.mp among]
  | broadcast message =>
      obtain ⟨other, -, rfl⟩ := List.mem_map.mp among
      rfl
  | decide _ _ | applyBatch _ _ | respond _ _ | statistics _ _ => cases among

/-- An event does the same at both levels. -/
theorem related_act (honest : t.Honest members Carries) (related : Related members Carries d c)
    (node : NodeId) (luck : t.Luck) (env : Env) (event : Event) :
    Related members Carries (d.act t node luck env event)
      (c.act members node (d.envAt t node env) event) := by
  obtain ⟨same, carries, flies⟩ := related
  refine ⟨?_, ?_, ?_⟩
  · show c.toWorld.act node _ event = d.toWorld.act node _ event
    rw [same]
  · have before : Carries ((d.act t node luck env event).toWorld.Sent members) d.transport :=
      honest.mono carries fun packet sent => by
        obtain ⟨x, member, among⟩ := sent
        exact ⟨x, List.mem_append_left _ member, among⟩
    refine honest.transmit before luck node fun x member packet among => ?_
    have own := sender_of_mem_packets among
    refine ⟨x, List.mem_append_right _ ?_, ?_⟩
    · rw [own]
      exact List.mem_map_of_mem member
    · rw [own]
      exact among
  · rintro packet ⟨x, member, among⟩
    rcases List.mem_append.mp member with old | new
    · exact List.mem_append_left _ (flies packet ⟨x, old, among⟩)
    · obtain ⟨x', member', pair⟩ := List.mem_map.mp new
      cases pair
      refine List.mem_append_right _ (List.mem_flatMap.mpr ⟨x, ?_, among⟩)
      rw [same]
      exact member'

/-- A copy of a message in flight can be delivered. -/
theorem related_deliver (honest : t.Honest members Carries)
    (related : Related members Carries d c) {sender node : NodeId} {message : ProtocolMessage}
    (here : node ∈ members) (sent : d.toWorld.Sent members ⟨sender, node, message⟩)
    (luck : t.Luck) (env : Env) :
    ∃ actions, actions.filterMap Rabia.Action.input = [] ∧
      Related members Carries (d.act t node luck env (.message sender message))
        (run (Cluster.step members) c actions) := by
  obtain ⟨k, found⟩ := List.mem_iff_getElem?.mp (related.flies _ sent)
  have within : k < c.network.length := (List.getElem?_eq_some_iff.mp found).1
  let packet : Packet := ⟨sender, node, message⟩
  let moved : Cluster SM := { c with network := (c.network ++ [packet]).eraseIdx k }
  have still : Related members Carries d moved := by
    refine ⟨related.world, related.carries, fun other flying => ?_⟩
    show other ∈ (c.network ++ [packet]).eraseIdx k
    rw [List.eraseIdx_append_of_lt_length within]
    obtain ⟨j, place⟩ := List.mem_iff_getElem?.mp (related.flies other flying)
    by_cases taken : j = k
    · subst taken
      cases found.symm.trans place
      exact List.mem_append_right _ (List.mem_singleton_self _)
    · refine List.mem_append_left _ ?_
      exact List.mem_eraseIdx_iff_getElem?.mpr ⟨j, taken, place⟩
  refine ⟨[.duplicate k, .deliver k (d.envAt t node env)], rfl, ?_⟩
  have doubled : Cluster.step members c (.duplicate k) =
      { c with network := c.network ++ [packet] } := by
    simp only [Cluster.step, Cluster.occurrence, Cluster.transport, found]
    rfl
  have front : (c.network ++ [packet])[k]? = some packet := by
    rw [List.getElem?_append_left within, found]
  have delivered : Cluster.step members { c with network := c.network ++ [packet] }
      (.deliver k (d.envAt t node env)) =
        moved.act members node (d.envAt t node env) (.message sender message) := by
    simp only [Cluster.step, Cluster.occurrence, Cluster.transport, front, packet, here, if_true]
    rfl
  rw [run_cons, doubled, run_cons, delivered]
  exact related_act honest still node luck env (.message sender message)

theorem related_step (honest : t.Honest members Carries) (action : Action t)
    (related : Related members Carries d c) :
    ∃ actions, actions.filterMap Rabia.Action.input = (action.input members).toList ∧
      Related members Carries (d.step t members action)
        (run (Cluster.step members) c actions) := by
  have idle : ∃ actions, actions.filterMap Rabia.Action.input = [] ∧
      Related members Carries d (run (Cluster.step members) c actions) := ⟨[], rfl, related⟩
  cases action with
  | atNode node luck env event =>
      unfold step Action.input
      dsimp only
      split
      · rename_i here
        refine ⟨[.atNode node (d.envAt t node env) event], rfl, ?_⟩
        rw [run_cons]
        simp only [Cluster.step, Cluster.occurrence, Cluster.transport, here, and_self, if_true]
        exact related_act honest related node luck env event
      · exact idle
  | receive node luck env =>
      unfold step
      dsimp only
      split
      · exact idle
      · rename_i sender message transport received
        split
        · rename_i here
          obtain ⟨sent, carries⟩ := honest.receive related.carries here received
          have taken : Related members Carries { d with transport := transport } c :=
            ⟨related.world, carries, related.flies⟩
          exact related_deliver honest taken here sent luck env
        · exact idle
  | turn i => exact ⟨[], rfl, related.world, honest.turn related.carries i, related.flies⟩

/-- On an honest transport that carries nothing yet, the engines do what they do in some run of
the cluster with the same inputs, and have the same history. -/
theorem exists_cluster_run (honest : t.Honest members Carries) {transport : τ}
    (bare : ∀ Sent, Carries Sent transport) (config : NodeId → RabiaConfig)
    (stateMachine : NodeId → SM) (actions : List (Action t)) :
    ∃ actions' : List Rabia.Action,
      actions'.filterMap Rabia.Action.input = actions.filterMap (Action.input members) ∧
        (run (step t members) (start members config stateMachine transport) actions).toWorld =
          Cluster.world members config stateMachine actions' := by
  have begins : Related members Carries (start members config stateMachine transport)
      (Cluster.start members config stateMachine) := by
    refine ⟨rfl, bare _, ?_⟩
    rintro packet ⟨x, member, -⟩
    cases member
  obtain ⟨actions', same, related⟩ := exists_run_of_simulation
    (fun d c action related => related_step honest action related) begins actions
  exact ⟨actions', same, related.world.symm⟩

end Deployment

end Rabia
