import Rabia.Engine.Aside
import Rabia.Engine.Run

/-!
# The cluster

The engines of a cluster and the messages between them. A message in flight
can be delivered at any time and in any order, be duplicated, or be lost; every
other event can happen at any member at any time, with any outcome of the
random draws.

A `World` is what the engines are and did: `history` records every effect of
every engine, so that a result can speak of what was ever sent, decided or
applied. A `Cluster` adds the messages in flight. `Cluster.invariant` is the
induction for properties of the world: a message that an engine handles is one
that its sender sent.
-/

namespace Rabia

open Rabia.Lib

/-! ## Messages in flight -/

structure Packet where
  sender : NodeId
  recipient : NodeId
  message : ProtocolMessage
deriving DecidableEq

/-- The messages an effect of `node` puts into flight. -/
def Effect.packets (members : List NodeId) (node : NodeId) : Effect → List Packet
  | .sendTo target message => [⟨node, target, message⟩]
  | .broadcast message => (members.filter (· ≠ node)).map fun other => ⟨node, other, message⟩
  | _ => []

/-! ## The world -/

structure World (SM : Type) where
  engines : NodeId → RabiaEngine SM
  history : List (NodeId × Effect)

namespace World

variable {SM : Type}

/-- What everyone said, in order. -/
def utterances (w : World SM) : List (NodeId × Utterance) :=
  w.history.filterMap fun entry => entry.2.utterance.map fun u => (entry.1, u)

/-- The node said it at some time. -/
def Said (w : World SM) (node : NodeId) (u : Utterance) : Prop := (node, u) ∈ w.utterances

instance (w : World SM) (node : NodeId) (u : Utterance) : Decidable (w.Said node u) :=
  inferInstanceAs (Decidable (_ ∈ _))

theorem said_iff {w : World SM} {node : NodeId} {u : Utterance} :
    w.Said node u ↔ ∃ x, (node, x) ∈ w.history ∧ x.utterance = some u := by
  unfold Said utterances
  rw [List.mem_filterMap]
  constructor
  · rintro ⟨⟨node', x⟩, member, same⟩
    obtain ⟨u', uttered, pair⟩ := Option.map_eq_some_iff.mp same
    cases pair
    exact ⟨x, member, uttered⟩
  · rintro ⟨x, member, uttered⟩
    exact ⟨(node, x), member, by rw [uttered]; rfl⟩

/-- The packet comes from an effect of its sender. -/
def Sent (members : List NodeId) (w : World SM) (packet : Packet) : Prop :=
  ∃ x, (packet.sender, x) ∈ w.history ∧ packet ∈ x.packets members packet.sender

/-- If the event is a message, then its sender sent it to `node`. -/
def Genuine (members : List NodeId) (w : World SM) (node : NodeId) (event : Event) : Prop :=
  ∀ sender message, event = .message sender message → w.Sent members ⟨sender, node, message⟩

/-- A message in flight says what its sender said. -/
theorem Sent.said {members : List NodeId} {w : World SM} {packet : Packet}
    (sent : w.Sent members packet) {u : Utterance}
    (uttered : packet.message.messageType.utterance = some u) : w.Said packet.sender u := by
  obtain ⟨sender, recipient, message⟩ := packet
  obtain ⟨x, member, among⟩ := sent
  refine said_iff.mpr ⟨x, member, ?_⟩
  cases x with
  | sendTo target sent =>
      cases List.mem_singleton.mp among
      exact uttered
  | broadcast sent =>
      obtain ⟨other, -, same⟩ := List.mem_map.mp among
      cases same
      exact uttered
  | decide _ _ | applyBatch _ _ | respond _ _ | statistics _ _ => cases among

variable [StateMachine SM]

/-- An event at one engine. -/
def act (w : World SM) (node : NodeId) (env : Env) (event : Event) : World SM :=
  let o := Engine.handle env event (w.engines node)
  { engines := Function.update w.engines node o.state
    history := w.history ++ o.effects.map fun effect => (node, effect) }

theorem act_engines_self (w : World SM) (node : NodeId) (env : Env) (event : Event) :
    (w.act node env event).engines node = (Engine.handle env event (w.engines node)).state :=
  Function.update_self ..

theorem act_engines_of_ne (w : World SM) {node other : NodeId} (env : Env) (event : Event)
    (h : other ≠ node) : (w.act node env event).engines other = w.engines other :=
  Function.update_of_ne h ..

/-- What was said before is still said. -/
theorem Said.act {w : World SM} {node : NodeId} {u : Utterance} (h : w.Said node u)
    (actor : NodeId) (env : Env) (event : Event) : (w.act actor env event).Said node u := by
  obtain ⟨x, member, uttered⟩ := said_iff.mp h
  exact said_iff.mpr ⟨x, List.mem_append_left _ member, uttered⟩

/-- What an engine says in an event is said. -/
theorem said_of_effect {w : World SM} {node : NodeId} {env : Env} {event : Event} {x : Effect}
    {u : Utterance} (hx : x ∈ (Engine.handle env event (w.engines node)).effects)
    (uttered : x.utterance = some u) : (w.act node env event).Said node u :=
  said_iff.mpr ⟨x, List.mem_append_right _ (List.mem_map_of_mem hx), uttered⟩

/-- Whatever is said was said before, or is said by the acting engine now. -/
theorem said_act {w : World SM} {actor node : NodeId} {env : Env} {event : Event}
    {u : Utterance} (h : (w.act actor env event).Said node u) :
    w.Said node u ∨ node = actor ∧
      ∃ x ∈ (Engine.handle env event (w.engines actor)).effects, x.utterance = some u := by
  obtain ⟨x, member, uttered⟩ := said_iff.mp h
  rcases List.mem_append.mp member with old | new
  · exact Or.inl (said_iff.mpr ⟨x, old, uttered⟩)
  · obtain ⟨x', member', pair⟩ := List.mem_map.mp new
    cases pair
    exact Or.inr ⟨rfl, x, member', uttered⟩

end World

/-! ## The cluster -/

structure Cluster (SM : Type) extends World SM where
  network : List Packet

/-- One step of the cluster. -/
inductive Action where
  /-- An event other than a message happens at a member. -/
  | atNode (node : NodeId) (env : Env) (event : Event)
  /-- The message at an index of the network is handled by its recipient. -/
  | deliver (index : Nat) (env : Env)
  | duplicate (index : Nat)
  | lose (index : Nat)

def Event.isMessage : Event → Bool
  | .message _ _ => true
  | _ => false

namespace Cluster

variable {SM : Type}

/-- Engines made by `RabiaEngine::new`, nothing in flight. -/
def start (members : List NodeId) (config : NodeId → RabiaConfig) (stateMachine : NodeId → SM) :
    Cluster SM where
  engines := fun node =>
    RabiaEngine.new node (config node) (ClusterConfig.new node members.toFinset)
      (stateMachine node) none
  network := []
  history := []

variable [StateMachine SM]

/-- An event at one engine, whose messages go into flight. -/
def act (members : List NodeId) (c : Cluster SM) (node : NodeId) (env : Env) (event : Event) :
    Cluster SM where
  toWorld := c.toWorld.act node env event
  network := c.network ++
    (Engine.handle env event (c.engines node)).effects.flatMap (Effect.packets members node)

/-- The event that an action makes happen, and where. -/
def occurrence (members : List NodeId) (c : Cluster SM) :
    Action → Option (NodeId × Env × Event)
  | .atNode node env event =>
    if node ∈ members ∧ event.isMessage = false then some (node, env, event) else none
  | .deliver index env =>
    match c.network[index]? with
    | some packet =>
      if packet.recipient ∈ members then
        some (packet.recipient, env, .message packet.sender packet.message)
      else none
    | none => none
  | .duplicate _ | .lose _ => none

/-- The network once an action has taken its message out, doubled or lost it. -/
def transport (c : Cluster SM) : Action → List Packet
  | .atNode _ _ _ => c.network
  | .deliver index _ | .lose index => c.network.eraseIdx index
  | .duplicate index =>
    match c.network[index]? with
    | some packet => c.network ++ [packet]
    | none => c.network

def step (members : List NodeId) (c : Cluster SM) (action : Action) : Cluster SM :=
  let moved := { c with network := c.transport action }
  match c.occurrence members action with
  | some (node, env, event) => moved.act members node env event
  | none => moved

/-! ## Invariants of the world -/

/-- The event that the action makes happen, if any, meets `ok`. -/
def Each (members : List NodeId) (ok : World SM → NodeId → Env → Event → Prop)
    (c : Cluster SM) (action : Action) : Prop :=
  ∀ o ∈ c.occurrence members action, ok c.toWorld o.1 o.2.1 o.2.2

instance (members : List NodeId) (ok : World SM → NodeId → Env → Event → Prop)
    [∀ w node env event, Decidable (ok w node env event)] (c : Cluster SM) (action : Action) :
    Decidable (Each members ok c action) :=
  inferInstanceAs (Decidable (∀ o ∈ c.occurrence members action, _))

/-- A run from new engines in which every event meets `ok`. -/
def Meets (members : List NodeId) (config : NodeId → RabiaConfig) (stateMachine : NodeId → SM)
    (ok : World SM → NodeId → Env → Event → Prop) (actions : List Action) : Prop :=
  Along (step members) (Each members ok) (start members config stateMachine) actions

instance (members : List NodeId) (config : NodeId → RabiaConfig) (stateMachine : NodeId → SM)
    (ok : World SM → NodeId → Env → Event → Prop)
    [∀ w node env event, Decidable (ok w node env event)] (actions : List Action) :
    Decidable (Meets members config stateMachine ok actions) :=
  inferInstanceAs (Decidable (Along _ _ _ _))

/-- The world at the end of a run from new engines. -/
def world (members : List NodeId) (config : NodeId → RabiaConfig) (stateMachine : NodeId → SM)
    (actions : List Action) : World SM :=
  (run (step members) (start members config stateMachine) actions).toWorld

/-- Every message in flight was sent. -/
def Carried (members : List NodeId) (c : Cluster SM) : Prop :=
  ∀ packet ∈ c.network, c.toWorld.Sent members packet

omit [StateMachine SM] in
theorem mem_of_mem_transport {c : Cluster SM} {action : Action} {packet : Packet}
    (h : packet ∈ c.transport action) : packet ∈ c.network := by
  cases action with
  | atNode node env event => exact h
  | deliver index env => exact List.mem_of_mem_eraseIdx h
  | lose index => exact List.mem_of_mem_eraseIdx h
  | duplicate index =>
      unfold transport at h
      dsimp only at h
      cases found : c.network[index]? with
      | none =>
          rw [found] at h
          exact h
      | some original =>
          rw [found] at h
          rcases List.mem_append.mp h with h | h
          · exact h
          · rw [List.mem_singleton.mp h]
            exact List.mem_of_getElem? found

theorem carried_act {members : List NodeId} {c : Cluster SM} (carried : c.Carried members)
    (node : NodeId) (env : Env) (event : Event) :
    (c.act members node env event).Carried members := by
  intro packet hp
  rcases List.mem_append.mp hp with old | new
  · obtain ⟨x, member, among⟩ := carried packet old
    exact ⟨x, List.mem_append_left _ member, among⟩
  · obtain ⟨x, member, among⟩ := List.mem_flatMap.mp new
    have from_node : packet.sender = node := by
      cases x with
      | sendTo target message => rw [List.mem_singleton.mp among]
      | broadcast message =>
          obtain ⟨other, -, rfl⟩ := List.mem_map.mp among
          rfl
      | decide _ _ | applyBatch _ _ | respond _ _ | statistics _ _ => cases among
    rw [← from_node] at among member
    refine ⟨x, List.mem_append_right _ ?_, among⟩
    rw [from_node] at member ⊢
    exact List.mem_map_of_mem member

theorem carried_step {members : List NodeId} {c : Cluster SM} (carried : c.Carried members)
    (action : Action) : (c.step members action).Carried members := by
  have moved : ({ c with network := c.transport action } : Cluster SM).Carried members :=
    fun packet hp => carried packet (mem_of_mem_transport hp)
  unfold step
  cases c.occurrence members action with
  | none => exact moved
  | some o => exact carried_act moved o.1 o.2.1 o.2.2

omit [StateMachine SM] in
/-- What happens, happens at a member, and messages are genuine. -/
theorem genuine_occurrence {members : List NodeId} {c : Cluster SM}
    (carried : c.Carried members) {action : Action} {node : NodeId} {env : Env} {event : Event}
    (h : c.occurrence members action = some (node, env, event)) :
    node ∈ members ∧ c.toWorld.Genuine members node event := by
  cases action with
  | atNode node' env' event' =>
      unfold occurrence at h
      dsimp only at h
      by_cases here : node' ∈ members ∧ event'.isMessage = false
      · rw [if_pos here] at h
        cases h
        refine ⟨here.1, fun sender message same => ?_⟩
        rw [same] at here
        cases here.2
      · rw [if_neg here] at h
        cases h
  | deliver index env' =>
      unfold occurrence at h
      dsimp only at h
      cases found : c.network[index]? with
      | none =>
          rw [found] at h
          cases h
      | some packet =>
          rw [found] at h
          dsimp only at h
          by_cases here : packet.recipient ∈ members
          · rw [if_pos here] at h
            cases h
            refine ⟨here, fun sender message same => ?_⟩
            cases same
            exact carried packet (List.mem_of_getElem? found)
          · rw [if_neg here] at h
            cases h
  | duplicate index => cases h
  | lose index => cases h

section Invariant

variable {members : List NodeId} {ok : World SM → NodeId → Env → Event → Prop}
  {I : World SM → Prop}
  (preserved : ∀ w node env event, node ∈ members → w.Genuine members node event → I w →
    ok w node env event → I (w.act node env event))

include preserved

theorem invariant_step (c : Cluster SM) (action : Action) (holds : c.Carried members ∧ I c.toWorld)
    (admissible : Each members ok c action) :
    (c.step members action).Carried members ∧ I (c.step members action).toWorld := by
  refine ⟨carried_step holds.1 action, ?_⟩
  unfold step
  cases h : c.occurrence members action with
  | none => exact holds.2
  | some o =>
      obtain ⟨here, genuine⟩ := genuine_occurrence holds.1 h
      exact preserved c.toWorld o.1 o.2.1 o.2.2 here genuine holds.2 (admissible o h)

/-- A property of the world that every admissible event preserves holds along
every admissible run. -/
theorem invariant {c : Cluster SM} {actions : List Action} (carried : c.Carried members)
    (start : I c.toWorld) (admissible : Along (step members) (Each members ok) c actions) :
    I (run (step members) c actions).toWorld :=
  (run_invariant (I := fun c => c.Carried members ∧ I c.toWorld) (invariant_step preserved)
    ⟨carried, start⟩ admissible).2

/-- What every admissible event does to a world that has the property, every step of
an admissible run does. -/
theorem along_events {Q : World SM → World SM → Prop} (still : ∀ w, Q w w)
    (does : ∀ w node env event, node ∈ members → w.Genuine members node event → I w →
      ok w node env event → Q w (w.act node env event))
    {c : Cluster SM} {actions : List Action} (carried : c.Carried members)
    (start : I c.toWorld) (admissible : Along (step members) (Each members ok) c actions) :
    Along (step members) (fun c action => Q c.toWorld (c.step members action).toWorld) c
      actions := by
  refine along_of_invariant (I := fun c => c.Carried members ∧ I c.toWorld)
    (invariant_step preserved) ?_ ⟨carried, start⟩ admissible
  intro c action holds fine
  unfold step
  cases h : c.occurrence members action with
  | none => exact still _
  | some o =>
      obtain ⟨here, genuine⟩ := genuine_occurrence holds.1 h
      exact does c.toWorld o.1 o.2.1 o.2.2 here genuine holds.2 (fine o h)

end Invariant

/-- Where, in a world with the property `I`, an event leaves a world that meets `Q` exactly
when the event meets `ok`, every world along a run meets `Q` exactly when every event
meets `ok`. -/
theorem along_events_iff {members : List NodeId} {ok : World SM → NodeId → Env → Event → Prop}
    {I Q : World SM → Prop} (still : ∀ w, I w → Q w)
    (same : ∀ w node env event, w.Genuine members node event → I w →
      (Q (w.act node env event) ↔ ok w node env event))
    (preserved : ∀ w node env event, w.Genuine members node event → I w →
      ok w node env event → I (w.act node env event))
    {c : Cluster SM} (carried : c.Carried members) (start : I c.toWorld)
    (actions : List Action) :
    Along (step members) (fun c action => Q (c.step members action).toWorld) c actions ↔
      Along (step members) (Each members ok) c actions := by
  have each : ∀ c action, c.Carried members ∧ I c.toWorld →
      (Q (c.step members action).toWorld ↔ Each members ok c action) := by
    intro c action holds
    unfold step Each
    cases h : c.occurrence members action with
    | none => exact iff_of_true (still _ holds.2) (fun o impossible => nomatch impossible)
    | some o =>
        obtain ⟨-, genuine⟩ := genuine_occurrence holds.1 h
        refine (same c.toWorld o.1 o.2.1 o.2.2 genuine holds.2).trans ?_
        exact ⟨fun fine o' known => Option.mem_some_iff.mp known ▸ fine, fun all => all o rfl⟩
  refine along_congr_of_kept (I := fun c => c.Carried members ∧ I c.toWorld) each ?_
    ⟨carried, start⟩ actions
  intro c action holds met
  exact invariant_step (fun w node env event _ => preserved w node env event) c action holds
    ((each c action holds).mp met)

end Cluster

end Rabia
