import Rabia.Cluster.InMemory
import Rabia.Cluster.Intake
import Rabia.Engine.Restart
import Rabia.Engine.Startup

/-!
# A cluster whose processes end

The nodes of a `Fleet` live as in `Life`: their processes end at any moment, in the middle of a
handler too, and are started again on what they persisted. Messages are in flight as in a
`Cluster`, and may outlive the process that they were sent by or to.

A new process has lost its records and its votes. What it holds still comes from somewhere: from
clients, from messages, and from what was persisted (`fleet_upholds`).
-/

namespace Rabia

open Rabia.Lib Rabia.Lib.Proc Engine

/-! ## Occurrences and what they send -/

namespace Occurrence

variable {SM : Type}

/-- The event that the process handles, to its end or not. -/
def event : Occurrence SM → Option Event
  | .launch _ _ => none
  | .happens _ event | .crash _ event _ _ => some event

/-- The event, handled until the process ends if it does. -/
def handling (env : Env) (event : Event) : Option (Nat × Bool) → Occurrence SM
  | none => .happens env event
  | some (sent, saved) => .crash env event sent saved

theorem event_handling (env : Env) (event : Event) (ending : Option (Nat × Bool)) :
    (handling env event ending : Occurrence SM).event = some event := by
  cases ending <;> rfl

end Occurrence

namespace Life

variable {SM : Type} [StateMachine SM]

/-- The effects that an occurrence gets out. -/
def sent (l : Life SM) : Occurrence SM → List Effect
  | .launch env stateMachine => (initializeEngine env (relaunched l.engine stateMachine)).effects
  | .happens env event => if l.up = true then (handle env event l.engine).effects else []
  | .crash env event sent _ =>
    if l.up = true then (handle env event l.engine).effects.take sent else []

theorem trace_step (l : Life SM) (o : Occurrence SM) : (l.step o).trace = l.trace ++ l.sent o := by
  cases o with
  | launch env stateMachine => rfl
  | happens env event =>
      unfold step sent
      split_ifs
      · rfl
      · exact (List.append_nil _).symm
  | crash env event sent saved =>
      unfold step Life.sent
      split_ifs
      · rfl
      · exact (List.append_nil _).symm

end Life

/-! ## One life -/

section OneLife

variable {SM : Type} [StateMachine SM] {C : CommandBatch → Prop} {J : SM → Prop}

/-- What the occurrence brings to the node is good. -/
structure Occurrence.Good (C : CommandBatch → Prop) (J : SM → Prop) (o : Occurrence SM) : Prop where
  event : ∀ event, o.event = some event → event.Good C J
  launched : ∀ env stateMachine, o = .launch env stateMachine → J stateMachine

/-- The new engine on what is persisted holds nothing but that and its state machine. -/
theorem Stocked.relaunched {e : RabiaEngine SM} (stocked : Stocked C J e) {stateMachine : SM}
    (start : J stateMachine) : Stocked C J (Life.relaunched e stateMachine) where
  machine := start
  saved := stocked.saved
  recorded _ _ _ present := nomatch present
  stored _ _ found := nomatch found

/-- `initialize` restores nothing but what was persisted. -/
theorem Stocked.started (upheld : Upheld C J) {e : RabiaEngine SM} (stocked : Stocked C J e)
    (env : Env) : Stocked C J (initializeEngine env e).state ∧
      (initializeEngine env e).effects = [] := by
  have restoring : ∀ persisted, Stocked C J (e.mapState (EngineState.restoreCounters persisted)) :=
    fun _ => ⟨⟨stocked.machine, stocked.saved⟩, stocked.recorded, stocked.stored⟩
  have restored : ∀ {persisted snapshot}, e.persistence = some persisted →
      persisted.snapshot = some snapshot →
      Stocked C J { e.mapState (EngineState.restoreCounters persisted) with
        stateMachine := (StateMachine.restoreSnapshot e.stateMachine snapshot).2 } := by
    intro persisted snapshot written attached
    obtain ⟨source, held, made⟩ := stocked.saved persisted snapshot written attached
    exact ⟨⟨upheld.restores _ source snapshot stocked.machine held made, stocked.saved⟩,
      stocked.recorded, stocked.stored⟩
  have taken : ∀ {e'}, Restored e e' → Stocked C J e' := by
    intro e' from_persisted
    cases from_persisted with
    | nothing => exact stocked
    | counters written attached => exact restoring _
    | snapshot written attached tried =>
        have held := restored written attached
        rw [tried] at held
        exact held
  have startup := initialize_cases env e
  generalize initializeEngine env e = outcome at startup ⊢
  cases startup with
  | unread failed => exact ⟨stocked, rfl⟩
  | refused loaded written attached tried =>
      have held := restored written attached
      rw [tried] at held
      exact ⟨held, rfl⟩
  | unconnected loaded from_persisted refused => exact ⟨taken from_persisted, rfl⟩
  | @started e' nodes loaded from_persisted connected =>
      have held := taken from_persisted
      refine ⟨⟨⟨held.machine, held.saved⟩, fun p phase batch present => ?_,
        fun j response found => ?_⟩, rfl⟩
      · refine held.recorded p phase batch ?_
        rw [← present]
        exact ((EngineState.keeps_updateActiveNodes nodes e'.engineState).getPhase p).symm
      · have same : (e'.engineState.updateActiveNodes nodes).syncResponses =
            e'.engineState.syncResponses :=
          syncResponses_of_mutator (.updateActiveNodes nodes) e'.engineState
        exact held.stored j response (same ▸ found)

/-- Whatever happens to a node, starts and ends of its process among it, what it holds and what
it sends is good. -/
theorem Stocked.life (upheld : Upheld C J) {l : Life SM} (stocked : Stocked C J l.engine)
    {o : Occurrence SM} (good : o.Good C J) :
    Stocked C J (l.step o).engine ∧ ∀ x ∈ l.sent o, x.Good C J := by
  cases o with
  | launch env stateMachine =>
      obtain ⟨held, silent⟩ :=
        (stocked.relaunched (good.launched env stateMachine rfl)).started upheld env
      refine ⟨held, fun x hx => ?_⟩
      have among : x ∈ (initializeEngine env (Life.relaunched l.engine stateMachine)).effects := hx
      rw [silent] at among
      cases among
  | happens env event =>
      obtain ⟨held, sent⟩ := stocked.handle upheld env (good.event event rfl)
      unfold Life.step Life.sent
      split_ifs with up
      · exact ⟨held, sent⟩
      · exact ⟨stocked, fun _ impossible => absurd impossible List.not_mem_nil⟩
  | crash env event count saved =>
      obtain ⟨held, sent⟩ := stocked.handle upheld env (good.event event rfl)
      unfold Life.step Life.sent
      split_ifs with up
      · refine ⟨⟨⟨stocked.machine, ?_⟩, stocked.recorded, stocked.stored⟩, fun x hx => ?_⟩
        · -- the process ended after the save or before it
          cases saved with
          | true => exact held.saved
          | false => exact stocked.saved
        · exact sent x (List.mem_of_mem_take hx)
      · exact ⟨stocked, fun _ impossible => absurd impossible List.not_mem_nil⟩

end OneLife

/-! ## The fleet -/

/-- The nodes of a cluster over their lives, and the messages in flight. -/
structure Fleet (SM : Type) where
  lives : NodeId → Life SM
  network : List Packet

namespace Fleet

variable {SM : Type}

/-- One step of a fleet. -/
inductive Action (SM : Type) where
  /-- Something other than the arrival of a message occurs at a member. -/
  | atNode (node : NodeId) (occurrence : Occurrence SM)
  /-- The message at an index of the network reaches its recipient, whose process ends
  while it handles it, or does not. -/
  | deliver (index : Nat) (env : Env) (ending : Option (Nat × Bool))
  | duplicate (index : Nat)
  | lose (index : Nat)

/-- All nodes before their first start. -/
def start (members : List NodeId) (config : NodeId → RabiaConfig) (stateMachine : NodeId → SM) :
    Fleet SM where
  lives node :=
    Life.new node (config node) (ClusterConfig.new node members.toFinset) (stateMachine node)
  network := []

variable [StateMachine SM]

/-- Something occurs at a node, and what it sends goes into flight. -/
def act (members : List NodeId) (f : Fleet SM) (node : NodeId) (o : Occurrence SM) : Fleet SM where
  lives := Function.update f.lives node ((f.lives node).step o)
  network := f.network ++ ((f.lives node).sent o).flatMap (Effect.packets members node)

/-- What an action makes occur, and where. -/
def occurrence (members : List NodeId) (f : Fleet SM) : Action SM → Option (NodeId × Occurrence SM)
  | .atNode node o =>
    if node ∈ members ∧ ∀ event ∈ o.event, event.isMessage = false then some (node, o) else none
  | .deliver index env ending =>
    match f.network[index]? with
    | some packet =>
      if packet.recipient ∈ members then
        some (packet.recipient,
          .handling env (.message packet.sender packet.message) ending)
      else none
    | none => none
  | .duplicate _ | .lose _ => none

/-- The network once an action has taken its message out, doubled or lost it. -/
def transport (f : Fleet SM) : Action SM → List Packet
  | .atNode _ _ => f.network
  | .deliver index _ _ | .lose index => f.network.eraseIdx index
  | .duplicate index =>
    match f.network[index]? with
    | some packet => f.network ++ [packet]
    | none => f.network

def step (members : List NodeId) (f : Fleet SM) (action : Action SM) : Fleet SM :=
  let moved := { f with network := f.transport action }
  match f.occurrence members action with
  | some (node, o) => moved.act members node o
  | none => moved

/-- A client submitted the batch to a running process, whether or not it lived to propose it. -/
def Submitted (actions : List (Action SM)) (batch : CommandBatch) : Prop :=
  ∃ node o request, .atNode node o ∈ actions ∧
    o.event = some (.command (.processBatch request)) ∧ request.batch = batch

/-- A process was started with the state machine. -/
def Launched (actions : List (Action SM)) (stateMachine : SM) : Prop :=
  ∃ node env, .atNode node (.launch env stateMachine) ∈ actions

/-- All that the nodes hold, and all that they ran and sent in all their lives, is good. -/
structure Holds (C : CommandBatch → Prop) (J : SM → Prop) (f : Fleet SM) : Prop where
  engine : ∀ i, Stocked C J (f.lives i).engine
  trace : ∀ i, ∀ x ∈ (f.lives i).trace, x.Good C J
  network : ∀ packet ∈ f.network, packet.message.messageType.Good C J

section Steps

variable {C : CommandBatch → Prop} {J : SM → Prop} {f : Fleet SM}

theorem Holds.act (upheld : Upheld C J) (holds : f.Holds C J) (members : List NodeId)
    (node : NodeId) {o : Occurrence SM} (good : o.Good C J) :
    (f.act members node o).Holds C J := by
  obtain ⟨held, sent⟩ := (holds.engine node).life upheld good
  refine ⟨fun i => ?_, fun i x hx => ?_, fun packet flies => ?_⟩
  · by_cases same : i = node
    · subst same
      show Stocked C J (Function.update f.lives i _ i).engine
      rw [Function.update_self]
      exact held
    · show Stocked C J (Function.update f.lives node _ i).engine
      rw [Function.update_of_ne same]
      exact holds.engine i
  · by_cases same : i = node
    · subst same
      have among : x ∈ (Function.update f.lives i ((f.lives i).step o) i).trace := hx
      rw [Function.update_self, Life.trace_step] at among
      rcases List.mem_append.mp among with old | new
      · exact holds.trace i x old
      · exact sent x new
    · have among : x ∈ (Function.update f.lives node ((f.lives node).step o) i).trace := hx
      rw [Function.update_of_ne same] at among
      exact holds.trace i x among
  · rcases List.mem_append.mp flies with old | new
    · exact holds.network packet old
    · obtain ⟨x, hx, among⟩ := List.mem_flatMap.mp new
      exact (sent x hx).packet among

omit [StateMachine SM] in
theorem mem_of_mem_transport {action : Action SM} {packet : Packet}
    (flies : packet ∈ f.transport action) : packet ∈ f.network := by
  cases action with
  | atNode node o => exact flies
  | deliver index env ending => exact List.mem_of_mem_eraseIdx flies
  | lose index => exact List.mem_of_mem_eraseIdx flies
  | duplicate index =>
      unfold transport at flies
      dsimp only at flies
      split at flies
      · next original found =>
          rcases List.mem_append.mp flies with old | new
          · exact old
          · rw [List.mem_singleton.mp new]
            exact List.mem_of_getElem? found
      · exact flies

/-- What a step brings from outside is good. -/
def Action.Good (C : CommandBatch → Prop) (J : SM → Prop) : Action SM → Prop
  | .atNode _ o => (∀ event, o.event = some event → event.Submits C) ∧
      ∀ env stateMachine, o = .launch env stateMachine → J stateMachine
  | _ => True

/-- What occurs is good, if what comes from outside is. -/
theorem Holds.occurs (holds : f.Holds C J) {members : List NodeId} {action : Action SM}
    (good : action.Good C J) {node : NodeId} {o : Occurrence SM}
    (occurs : f.occurrence members action = some (node, o)) : o.Good C J := by
  cases action with
  | atNode node' o' =>
      unfold occurrence at occurs
      dsimp only at occurs
      split_ifs at occurs with here
      cases occurs
      refine ⟨fun event same => ⟨?_, good.1 event same⟩, good.2⟩
      rintro sender message rfl
      cases here.2 _ same
  | deliver index env ending =>
      unfold occurrence at occurs
      dsimp only at occurs
      split at occurs
      · next packet found =>
          split_ifs at occurs
          cases occurs
          refine ⟨fun event same => ?_, fun env' stateMachine same => ?_⟩
          · rw [Occurrence.event_handling] at same
            cases same
            refine ⟨?_, nofun⟩
            rintro sender message ⟨⟩
            exact holds.network packet (List.mem_of_getElem? found)
          · cases ending <;> cases same
      · cases occurs
  | duplicate index => cases occurs
  | lose index => cases occurs

theorem Holds.step (upheld : Upheld C J) (members : List NodeId) (f : Fleet SM)
    (action : Action SM) (holds : f.Holds C J) (good : action.Good C J) :
    (f.step members action).Holds C J := by
  have moved : Holds C J { f with network := f.transport action } :=
    ⟨holds.engine, holds.trace,
      fun packet flies => holds.network packet (mem_of_mem_transport flies)⟩
  unfold Fleet.step
  cases occurs : f.occurrence members action with
  | none => exact moved
  | some o => exact moved.act upheld members o.1 (holds.occurs good occurs)

end Steps

/-- Processes may end and start anew as they like: if the batches that clients submit meet `C`
and the state machines that processes are started with have `J`, then every batch that any
process records, proposes, announces or runs meets `C`, and every state machine, every snapshot
that is persisted and every one that is sent has `J`. -/
theorem fleet_upholds {C : CommandBatch → Prop} {J : SM → Prop} (upheld : Upheld C J)
    (members : List NodeId) (config : NodeId → RabiaConfig) {stateMachine : NodeId → SM}
    {actions : List (Action SM)} (start : ∀ i, J (stateMachine i))
    (launched : ∀ stateMachine, Launched actions stateMachine → J stateMachine)
    (clients : ∀ batch, Submitted actions batch → C batch) :
    (run (step members) (Fleet.start members config stateMachine) actions).Holds C J := by
  have good : ∀ action ∈ actions, action.Good C J := by
    intro action member
    cases action with
    | atNode node o =>
        refine ⟨fun event same request submits => ?_, fun env stateMachine same => ?_⟩
        · subst submits
          exact clients request.batch ⟨node, o, request, member, same, rfl⟩
        · subst same
          exact launched stateMachine ⟨node, env, member⟩
    | deliver _ _ _ | duplicate _ | lose _ => trivial
  refine run_invariant (fun f action holds good => holds.step upheld members f action good)
    ⟨fun i => ?_, fun i x hx => absurd hx List.not_mem_nil,
      fun packet flies => absurd flies List.not_mem_nil⟩ (along_of_mem good)
  exact ⟨⟨start i, fun _ _ written => nomatch written⟩, (fun _ _ _ present => nomatch present),
    fun _ _ found => nomatch found⟩

section Maps

open InMemoryStateMachine (entryCodecs entryCodecs_lawful Serves)

/-- The process of a node is started, with an empty map and all three nodes connected. -/
def launching (node : Nat) : Action (InMemoryStateMachine entryCodecs) :=
  .atNode ⟨node⟩ (.launch { connectedNodes := .ok (nodesBelow 3).toFinset } (.new []))

/-- An action of a cluster, in which no process ends. -/
def Action.plain {SM : Type} : Rabia.Action → Action SM
  | .atNode node env event => .atNode node (.happens env event)
  | .deliver index env => .deliver index env none
  | .duplicate index => .duplicate index
  | .lose index => .lose index

/-- Three nodes are started, and two propose the command `SET k v`. Node 0 runs it, and its
process ends after the save and before anything is sent. It is started again. -/
def endsAfterSave : List (Action (InMemoryStateMachine entryCodecs)) :=
  (List.range 3).map launching ++
    (((List.range 3).map creating ++ [InMemoryStateMachine.settingEntry 0,
      InMemoryStateMachine.settingEntry 1]) ++ List.replicate 10 (delivering 0 true)).map .plain ++
    [.deliver 0 { draw := true } (some (0, true))] ++ [launching 0]

/-- After the restart the entry is in the map of node 0, which never announced it. -/
theorem fleet_upholds_ends_after_save :
    let f :=
      run (step (nodesBelow 3)) (start (nodesBelow 3) newConfig fun _ => .new []) endsAfterSave
    (f.lives ⟨0⟩).engine.stateMachine.state.lookup "k" = some [118] ∧
      (f.lives ⟨0⟩).trace.length = 3 ∧
      f.Holds (Submitted endsAfterSave) (Serves (Submitted endsAfterSave)) := by
  intro f
  refine ⟨by decide +kernel, by decide +kernel, ?_⟩
  have empty : Serves (Submitted endsAfterSave) (.new [] : InMemoryStateMachine entryCodecs) :=
    ⟨[], fun _ impossible => absurd impossible List.not_mem_nil,
      InMemoryStateMachine.represents_new []⟩
  refine fleet_upholds (InMemoryStateMachine.upheld_serves entryCodecs_lawful _) (nodesBelow 3)
    newConfig (fun _ => empty) ?_ fun _ submitted => submitted
  rintro stateMachine ⟨node, env, member⟩
  have fresh : stateMachine = .new [] := by
    rcases List.mem_append.mp member with member | last
    · rcases List.mem_append.mp member with member | crashed
      · rcases List.mem_append.mp member with first | rest
        · obtain ⟨i, -, same⟩ := List.mem_map.mp first
          cases same
          rfl
        · obtain ⟨action, -, same⟩ := List.mem_map.mp rest
          cases action <;> cases same
      · cases List.mem_singleton.mp crashed
    · cases List.mem_singleton.mp last
      rfl
  rw [fresh]
  exact empty

end Maps

end Fleet

end Rabia
