import Rabia.Cluster.Integrity
import Rabia.Core.InMemory

/-!
# Clusters of maps

A cluster whose engines run `InMemoryStateMachine`. By whatever batches and snapshots the map
of an engine came about, it is one that some sequence of submitted batches leaves
(`maps_serve_clients`).
-/

namespace Rabia

open Rabia.Lib Engine
open Rabia.Lib.Text (Word encode)

namespace InMemoryStateMachine

variable {codecs : InMemoryCodecs} {sm target : InMemoryStateMachine codecs} {r : Reference}

theorem applyCommand_succeeds (sm : InMemoryStateMachine codecs) (command : Command) :
    ∃ response, (applyCommand sm command).1 = .ok response := by
  unfold applyCommand
  repeat' split
  all_goals exact ⟨_, rfl⟩

/-- A batch is served command by command. -/
theorem Represents.runs (represents : Represents sm r) (batch : CommandBatch) :
    Represents (execute sm batch) (leave Reference.serve r batch.commands) := by
  have all : execute sm batch =
      leave (fun command sm => applyCommand sm command) sm batch.commands := by
    show (defaultApplyCommands applyCommand sm batch.commands).2 = _
    rw [defaultApplyCommands_state, attempted_eq_self applyCommand_succeeds]
    rfl
  rw [all]
  exact (answers_eq_of_simulation (R := @Represents codecs)
    (fun command sm r represents => represents.apply command) represents batch.commands).2

/-- A snapshot brings the entries of the machine that it was made from. -/
theorem Represents.restores (lawful : codecs.Lawful) (represents : Represents sm r)
    {snapshot : Snapshot} (made : createSnapshot sm = .ok snapshot) :
    Represents (restoreSnapshot target snapshot).2 r := by
  unfold createSnapshot at made
  cases written : codecs.toVec sm.order sm.state with
  | error err => rw [written] at made; cases made
  | ok serialized =>
      rw [written] at made
      cases made
      have genuine : (Snapshot.new codecs sm.version serialized).verifyChecksum codecs = true :=
        decide_eq_true rfl
      unfold InMemoryStateMachine.restoreSnapshot
      rw [if_pos genuine]
      have read : codecs.fromSlice (Snapshot.new codecs sm.version serialized).data =
        .ok sm.state := lawful.roundTrip written
      rw [read]
      exact ⟨represents.entry, represents.keys, represents.version⟩

/-- The map is what a sequence of batches that meet `C` leaves. -/
def Serves (C : CommandBatch → Prop) (sm : InMemoryStateMachine codecs) : Prop :=
  ∃ batches : List CommandBatch, (∀ batch ∈ batches, C batch) ∧
    Represents sm (leave Reference.serve {} (batches.flatMap CommandBatch.commands))

theorem upheld_serves (lawful : codecs.Lawful) (C : CommandBatch → Prop) :
    Upheld C (@Serves codecs C) where
  runs sm batch := by
    rintro ⟨batches, all, represents⟩ meets
    refine ⟨batches ++ [batch], ?_, ?_⟩
    · intro other member
      rcases List.mem_append.mp member with old | new
      · exact all other old
      · rw [List.mem_singleton.mp new]
        exact meets
    · rw [List.flatMap_append, List.flatMap_singleton, leave, run_append]
      exact represents.runs batch
  restores sm source snapshot := by
    rintro - ⟨batches, all, represents⟩ made
    exact ⟨batches, all, represents.restores lawful made⟩

theorem Serves.mono {C C' : CommandBatch → Prop} (serves : Serves C sm)
    (more : ∀ batch, C batch → C' batch) : Serves C' sm := by
  obtain ⟨batches, all, represents⟩ := serves
  exact ⟨batches, fun batch member => more batch (all batch member), represents⟩

/-- In every run, the map of every engine is what some sequence of submitted batches leaves. -/
theorem serves_submitted (lawful : codecs.Lawful) (members : List NodeId)
    (config : NodeId → RabiaConfig) (order : NodeId → List String) (actions : List Action)
    (i : NodeId) :
    Serves (Submitted actions)
      ((Cluster.world members config (fun i => (new (order i) : InMemoryStateMachine codecs))
        actions).engines i).stateMachine :=
  ((upheld_serves lawful (Submitted actions)).circulates members config
    (fun i => ⟨[], (fun _ impossible => absurd impossible List.not_mem_nil),
      represents_new (order i)⟩) fun _ submitted => submitted).engine i

/-- An entry was there before, or it is set. -/
theorem Reference.entry_serve {command : Command} {key value : Word}
    (found : (Reference.serve command r).2.entry key = some value) :
    r.entry key = some value ∨ Request.read command.data = .ok (.set key value) := by
  unfold Reference.serve at found
  cases asked : Request.read command.data with
  | error message =>
      rw [asked] at found
      exact Or.inl found
  | ok request =>
      rw [asked] at found
      cases request with
      | set key' value' =>
          simp only [Reference.step, Reference.entry_put] at found
          split at found
          · next same =>
              cases found
              rw [same]
              exact Or.inr rfl
          · exact Or.inl found
      | get key' =>
          simp only [Reference.step] at found
          split at found <;> exact Or.inl found
      | del key' =>
          simp only [Reference.step] at found
          split at found
          · simp only [Reference.entry_put] at found
            split at found
            · cases found
            · exact Or.inl found
          · exact Or.inl found

/-- Every entry was set. -/
theorem set_of_entry {commands : List Command} {key value : Word}
    (found : (leave Reference.serve {} commands).entry key = some value) :
    ∃ command ∈ commands, Request.read command.data = .ok (.set key value) := by
  induction commands using List.reverseRecOn with
  | nil => cases found
  | append_singleton commands command ih =>
      rw [leave, run_append] at found
      rcases Reference.entry_serve found with old | asked
      · obtain ⟨earlier, member, asked⟩ := ih old
        exact ⟨earlier, List.mem_append_left _ member, asked⟩
      · exact ⟨command, List.mem_append_right _ List.mem_cons_self, asked⟩

/-- In every run, the map of every engine is what some sequence of submitted batches leaves, and
each of its entries was set by a command that a client submitted. -/
theorem maps_serve_clients (lawful : codecs.Lawful) (members : List NodeId)
    (config : NodeId → RabiaConfig) (order : NodeId → List String) (actions : List Action)
    (i : NodeId) :
    let sm : InMemoryStateMachine codecs :=
      ((Cluster.world members config (fun i => new (order i)) actions).engines i).stateMachine
    Serves (Submitted actions) sm ∧
      ∀ k v, sm.state.lookup k = some v →
        ∃ batch, Submitted actions batch ∧ ∃ command ∈ batch.commands, ∃ key value : Word,
          Request.read command.data = .ok (.set key value) ∧ k = key.text ∧
            v = encode value.text := by
  intro sm
  have serves : Serves (Submitted actions) sm :=
    serves_submitted lawful members config order actions i
  refine ⟨serves, ?_⟩
  intro k v found
  obtain ⟨batches, all, represents⟩ := serves
  obtain ⟨key, rfl⟩ := represents.keys k v found
  rw [represents.entry key, Option.map_eq_some_iff] at found
  obtain ⟨value, entry, rfl⟩ := found
  obtain ⟨command, member, asked⟩ := set_of_entry entry
  obtain ⟨batch, among, inside⟩ := List.mem_flatMap.mp member
  exact ⟨batch, all batch among, command, inside, key, value, asked, rfl, rfl⟩

/-- A client submits, at a node, the command `SET k v`. -/
def settingEntry (node : Nat) : Action :=
  .atNode ⟨node⟩ {} (.command (.processBatch ⟨⟨⟨1⟩, [⟨1, encode "SET k v"⟩], 0⟩, 0⟩))

/-- Two of three nodes propose it in phase 1, and messages arrive in the order in which they
were sent. -/
def twoSetters : List Action :=
  (List.range 3).map creating ++ [settingEntry 0, settingEntry 1] ++
    List.replicate 20 (delivering 0 true)

/-- `serde_json` and `crc32fast` on the map with the entry of `k`. -/
def entryCodecs : InMemoryCodecs where
  toVec _ map :=
    if map = Finmap.singleton "k" [118] then .ok (encode "\x7b\"k\":[118]\x7d")
    else .error (.internal "not this map")
  fromSlice data :=
    if data = encode "\x7b\"k\":[118]\x7d" then .ok (Finmap.singleton "k" [118])
    else .error (.internal "expected value")
  hash data := if data = encode "\x7b\"k\":[118]\x7d" then 756833166 else 0

theorem entryCodecs_lawful : entryCodecs.Lawful where
  roundTrip {order map bytes} h := by
    unfold entryCodecs at h ⊢
    dsimp only at h ⊢
    split at h
    · next same =>
        cases h
        rw [if_pos rfl, same]
    · cases h

/-- The entry that two clients set is in the map of node 2. -/
theorem maps_serve_clients_entry :
    let sm : InMemoryStateMachine entryCodecs :=
      ((Cluster.world (nodesBelow 3) newConfig (fun _ => new []) twoSetters).engines
        ⟨2⟩).stateMachine
    sm.state.lookup "k" = some [118] ∧ sm.version = 3 ∧ Serves (Submitted twoSetters) sm := by
  intro sm
  refine ⟨by decide +kernel, by decide +kernel, ?_⟩
  exact (maps_serve_clients entryCodecs_lawful (nodesBelow 3) newConfig (fun _ => []) twoSetters
    ⟨2⟩).1

end InMemoryStateMachine

end Rabia
