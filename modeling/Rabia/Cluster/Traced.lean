import Rabia.Cluster.Model
import Rabia.Engine.Reasons
import Rabia.Lib.Quorum

/-!
# Everything in the cluster has a source

`Traced` holds of every reachable world, whatever is proposed, drawn, lost or
delivered twice: a recorded vote was sent by the node it is recorded for, a batch
in a record, in a decision or at a state machine was proposed, every proposal is
V1 and no round-1 vote is V0, and behind a decision stands a majority of round-2
votes for it.
-/

namespace Rabia

open Rabia.Lib Engine

variable {SM : Type}

/-- The batch was proposed in the phase. -/
def World.Proposed (w : World SM) (p : PhaseId) (batch : CommandBatch) : Prop :=
  ∃ node, w.Said node (.proposal p .v1 (some batch))

structure Traced (members : List NodeId) (w : World SM) : Prop where
  /-- An engine goes by its own name. -/
  identity : ∀ i, (w.engines i).nodeId = i
  /-- An engine asks for a majority of the members. -/
  quorum : ∀ i, (w.engines i).engineState.quorumSize = majority members.toFinset
  /-- Only members speak. -/
  member : ∀ i u, w.Said i u → i ∈ members
  /-- Only round-1 votes go to a single node. -/
  direct : ∀ i target message u, (i, Effect.sendTo target message) ∈ w.history →
    message.messageType.utterance = some u → ∃ p v, u = .round1 p v
  /-- Only V1 is proposed. -/
  proposal : ∀ i p v batch, w.Said i (.proposal p v batch) → v = .v1
  /-- A recorded value is V1. -/
  value : ∀ i p phase v, (w.engines i).getPhase p = some phase →
    phase.proposedValue = some v → v = .v1
  /-- No one votes V0 in round 1. -/
  round1 : ∀ i p v, w.Said i (.round1 p v) → v ≠ .v0
  /-- A recorded round-1 vote was sent. -/
  recorded1 : ∀ i p phase j v, (w.engines i).getPhase p = some phase →
    phase.round1Votes.lookup j = some v → w.Said j (.round1 p v)
  /-- A recorded round-2 vote was sent. -/
  recorded2 : ∀ i p phase j v, (w.engines i).getPhase p = some phase →
    phase.round2Votes.lookup j = some v → w.Said j (.round2 p v)
  /-- A recorded batch was proposed. -/
  batch : ∀ i p phase batch, (w.engines i).getPhase p = some phase →
    phase.batch = some batch → w.Proposed p batch
  /-- A batch sent with a decision was proposed. -/
  decision : ∀ i p d batch, w.Said i (.decision p d (some batch)) → w.Proposed p batch
  /-- A batch at a state machine was proposed. -/
  applied : ∀ i p batch, w.Said i (.applied p batch) → w.Proposed p batch
  /-- A majority stands behind a decision. -/
  decided : ∀ i p d, w.Said i (.decided p d) →
    Backed members.toFinset (fun j v => w.Said j (.round2 p v)) d

theorem World.Proposed.act [StateMachine SM] {w : World SM} {p : PhaseId}
    {batch : CommandBatch} (h : w.Proposed p batch) (node : NodeId) (env : Env)
    (event : Event) : (w.act node env event).Proposed p batch := by
  obtain ⟨i, said⟩ := h
  exact ⟨i, said.act node env event⟩

theorem traced_start (members : List NodeId) (config : NodeId → RabiaConfig)
    (stateMachine : NodeId → SM) :
    Traced members (Cluster.start members config stateMachine).toWorld where
  identity _ := rfl
  quorum _ := rfl
  member _ _ said := absurd said List.not_mem_nil
  direct _ _ _ _ sent := absurd sent List.not_mem_nil
  proposal _ _ _ _ said := absurd said List.not_mem_nil
  value _ _ _ _ present := nomatch present
  round1 _ _ _ said := absurd said List.not_mem_nil
  recorded1 _ _ _ _ _ present := nomatch present
  recorded2 _ _ _ _ _ present := nomatch present
  batch _ _ _ _ present := nomatch present
  decision _ _ _ _ said := absurd said List.not_mem_nil
  applied _ _ _ said := absurd said List.not_mem_nil
  decided _ _ _ said := absurd said List.not_mem_nil

/-! ## One event -/

section Act

variable [StateMachine SM] {members : List NodeId} {w : World SM} {node : NodeId} {env : Env}
  {event : Event}

/-- Something newly said has a reason. -/
theorem reason_of_said {i : NodeId} {u : Utterance} (said : (w.act node env event).Said i u) :
    w.Said i u ∨ i = node ∧ Reason env (w.engines node) event u := by
  rcases World.said_act said with old | ⟨same, x, hx, uttered⟩
  · exact Or.inl old
  · exact Or.inr ⟨same, reason_of_deed (deed_of_handle env event (w.engines node)) hx uttered⟩

/-- A record of the acting engine has a revision; the others keep theirs. -/
theorem revision_of_act {i : NodeId} {p : PhaseId} {phase : PhaseData}
    (present : ((w.act node env event).engines i).getPhase p = some phase) :
    (w.engines i).getPhase p = some phase ∨
      i = node ∧ Revision env (w.engines node) p (handle env event (w.engines node)).effects
        event phase := by
  by_cases same : i = node
  · subst same
    rw [World.act_engines_self] at present
    exact Or.inr ⟨rfl, revision_of_deed (deed_of_handle env event (w.engines i)) present⟩
  · rw [World.act_engines_of_ne w env event same] at present
    exact Or.inl present

omit [StateMachine SM] in
/-- What a received message says was said by its sender. -/
theorem said_of_received {sender : NodeId} {message : ProtocolMessage} {payload : MessageType}
    (genuine : w.Genuine members node (.message sender message))
    (received : Received env sender message payload) {u : Utterance}
    (uttered : payload.utterance = some u) : w.Said sender u := by
  have sent := genuine sender message rfl
  exact sent.said (received.payload ▸ uttered)

omit [StateMachine SM] in
/-- A tally in which every vote was cast names only values that a majority cast. -/
theorem backed_of_tally {votes : Table NodeId StateValue} {cast : NodeId → StateValue → Prop}
    {quorumSize : Nat} (enough : quorumSize = majority members.toFinset)
    (voted : ∀ j v, votes.lookup j = some v → j ∈ members ∧ cast j v) {v : StateValue}
    (named : PhaseData.countVotes votes quorumSize = some v) :
    Backed members.toFinset cast v := by
  refine ⟨Table.holders votes v, fun j hj => ?_, ?_, fun j hj => ?_⟩
  · exact List.mem_toFinset.mpr (voted j v (Table.mem_holders.mp hj)).1
  · rw [← enough]
    exact PhaseData.countVotes_eq_some named
  · exact (voted j v (Table.mem_holders.mp hj)).2

omit [StateMachine SM] in
/-- Every vote in the tally of a received round-1 vote was sent. -/
theorem Traced.tally1 (traced : Traced members w) {sender : NodeId} {message : ProtocolMessage}
    {m : VoteRound1Message} (genuine : w.Genuine members node (.message sender message))
    (received : Received env sender message (.voteRound1 m)) {phase : PhaseData}
    (present : (w.engines node).getPhase m.phaseId = some phase) {j : NodeId} {v : StateValue}
    (counted : (phase.addRound1Vote sender m.vote).round1Votes.lookup j = some v) :
    w.Said j (.round1 m.phaseId v) := by
  rcases lookup_insert_cases counted with ⟨rfl, rfl⟩ | old
  · exact said_of_received genuine received rfl
  · exact traced.recorded1 node m.phaseId phase j v present old

omit [StateMachine SM] in
/-- Every vote in the tally of a received round-2 vote was sent. -/
theorem Traced.tally2 (traced : Traced members w) {sender : NodeId} {message : ProtocolMessage}
    {m : VoteRound2Message} (genuine : w.Genuine members node (.message sender message))
    (received : Received env sender message (.voteRound2 m)) {phase : PhaseData}
    (present : (w.engines node).getPhase m.phaseId = some phase) {j : NodeId} {v : StateValue}
    (counted : (phase.addRound2Vote sender m.vote).round2Votes.lookup j = some v) :
    w.Said j (.round2 m.phaseId v) := by
  rcases lookup_insert_cases counted with ⟨rfl, rfl⟩ | old
  · exact said_of_received genuine received rfl
  · exact traced.recorded2 node m.phaseId phase j v present old

omit [StateMachine SM] in
/-- A majority cast the round-2 vote that the tally of a received vote names. -/
theorem Traced.named2 (traced : Traced members w) {sender : NodeId} {message : ProtocolMessage}
    {m : VoteRound2Message} (genuine : w.Genuine members node (.message sender message))
    (received : Received env sender message (.voteRound2 m)) {phase : PhaseData}
    (present : (w.engines node).getPhase m.phaseId = some phase) {d : StateValue}
    (named : (phase.addRound2Vote sender m.vote).hasRound2Majority
      (w.engines node).engineState.quorumSize = some d) :
    Backed members.toFinset (fun j v => w.Said j (.round2 m.phaseId v)) d := by
  refine backed_of_tally (traced.quorum node) (fun j v counted => ?_) named
  have said := traced.tally2 genuine received present counted
  exact ⟨traced.member j _ said, said⟩

omit [StateMachine SM] in
/-- An engine that knows only V1 never answers a proposal of V1 with V0. -/
theorem determineRound1Vote_ne_v0 {draw : Bool} {phase : Option PhaseData} {m : ProposeMessage}
    (value : m.value = .v1) : determineRound1Vote draw phase m ≠ .v0 := by
  unfold determineRound1Vote randomizedVote
  rw [value]
  split
  · split
    · split
      · exact StateValue.noConfusion
      · exact StateValue.noConfusion
    · dsimp only
      split
      · exact StateValue.noConfusion
      · exact StateValue.noConfusion
  · dsimp only
    split
    · exact StateValue.noConfusion
    · exact StateValue.noConfusion

/-- Every event keeps the world traced. -/
theorem traced_act (here : node ∈ members) (genuine : w.Genuine members node event)
    (traced : Traced members w) : Traced members (w.act node env event) where
  identity i := by
    by_cases same : i = node
    · subst same
      rw [World.act_engines_self,
        (deed_steady (deed_of_handle env event (w.engines i))).1]
      exact traced.identity i
    · rw [World.act_engines_of_ne w env event same]
      exact traced.identity i
  quorum i := by
    by_cases same : i = node
    · subst same
      rw [World.act_engines_self,
        (deed_steady (deed_of_handle env event (w.engines i))).2]
      exact traced.quorum i
    · rw [World.act_engines_of_ne w env event same]
      exact traced.quorum i
  member i u said := by
    rcases World.said_act said with old | ⟨rfl, -⟩
    · exact traced.member i u old
    · exact here
  direct i target message u sent uttered := by
    rcases List.mem_append.mp sent with old | new
    · exact traced.direct i target message u old uttered
    · obtain ⟨x, member, same⟩ := List.mem_map.mp new
      cases same
      exact direct_of_deed (deed_of_handle env event (w.engines node)) member uttered
  proposal i p v batch said := by
    rcases reason_of_said said with old | ⟨rfl, reason⟩
    · exact traced.proposal i p v batch old
    · cases reason
      rfl
  value i p phase v present recorded := by
    rcases revision_of_act present with old | ⟨rfl, revision⟩
    · exact traced.value i p phase v old recorded
    -- every proposal, own or received, is for V1
    rcases revision.proposedValue recorded with
      ⟨before, present', recorded'⟩ | ⟨sender, message, m, rfl, received, about, same⟩ | same
    · exact traced.value i p before v present' recorded'
    · rw [← same]
      exact traced.proposal sender m.phaseId m.value m.batch
        (said_of_received genuine received rfl)
    · exact same
  round1 i p v said := by
    rcases reason_of_said said with old | ⟨rfl, reason⟩
    · exact traced.round1 i p v old
    · cases reason with
      | round1 received quorum =>
          exact determineRound1Vote_ne_v0
            (traced.proposal _ _ _ _ (said_of_received genuine received rfl))
  recorded1 i p phase j v present recorded := by
    rcases revision_of_act present with old | ⟨rfl, revision⟩
    · exact (traced.recorded1 i p phase j v old recorded).act node env event
    rcases revision.round1 recorded with
      ⟨before, present', recorded'⟩ | ⟨message, m, rfl, received, rfl, rfl⟩
    · exact (traced.recorded1 i p before j v present' recorded').act i env event
    · exact (said_of_received genuine received rfl).act i env _
  recorded2 i p phase j v present recorded := by
    rcases revision_of_act present with old | ⟨rfl, revision⟩
    · exact (traced.recorded2 i p phase j v old recorded).act node env event
    rcases revision.round2 recorded with
      ⟨before, present', recorded'⟩ | ⟨message, m, rfl, received, rfl, rfl⟩ |
        ⟨self, x, hx, uttered⟩
    · exact (traced.recorded2 i p before j v present' recorded').act i env event
    · exact (said_of_received genuine received rfl).act i env _
    · -- the engine's own vote is recorded in the step that broadcasts it
      rw [self, traced.identity i]
      exact World.said_of_effect hx uttered
  batch i p phase batch present recorded := by
    rcases revision_of_act present with old | ⟨rfl, revision⟩
    · exact (traced.batch i p phase batch old recorded).act node env event
    rcases revision.batch recorded with
      ⟨before, present', recorded'⟩ | ⟨sender, message, m, rfl, received, rfl, carried⟩ |
        ⟨sender, message, m, rfl, received, rfl, carried⟩ | ⟨x, hx, uttered⟩
    · exact (traced.batch i p before batch present' recorded').act i env event
    · have said := said_of_received genuine received rfl
      have value := traced.proposal _ _ _ _ said
      rw [value, carried] at said
      exact ⟨sender, said.act i env _⟩
    · have said := said_of_received genuine received rfl
      rw [carried] at said
      exact (traced.decision _ _ _ _ said).act i env _
    · exact ⟨i, World.said_of_effect hx uttered⟩
  decision i p d batch said := by
    rcases reason_of_said said with old | ⟨rfl, reason⟩
    · exact (traced.decision i p d batch old).act node env event
    · generalize carried : some batch = stored at reason
      cases reason with
      | decision received present majority =>
          exact (traced.batch _ _ _ batch present carried.symm).act i env _
  applied i p batch said := by
    rcases reason_of_said said with old | ⟨rfl, reason⟩
    · exact (traced.applied i p batch old).act node env event
    · cases reason with
      | executed received present majority stored =>
          exact (traced.batch _ _ _ batch present stored).act i env _
      -- the batch came with the decision of an engine that had it on record
      | adopted received accepted carried above =>
          have said := said_of_received genuine received rfl
          rw [carried] at said
          exact (traced.decision _ _ _ _ said).act i env _
  decided i p d said := by
    rcases reason_of_said said with old | ⟨rfl, reason⟩
    · exact (traced.decided i p d old).mono fun j voted => voted.act node env event
    · cases reason with
      | decided received present majority =>
          exact (traced.named2 genuine received present majority).mono
            fun j voted => voted.act i env _

end Act

/-- A property of the world that every admissible event of a traced world preserves
holds, with `Traced`, along every admissible run from new engines. -/
theorem traced_invariant [StateMachine SM] {members : List NodeId}
    {config : NodeId → RabiaConfig} {stateMachine : NodeId → SM}
    {ok : World SM → NodeId → Env → Event → Prop} {I : World SM → Prop}
    (preserved : ∀ w node env event, Traced members w → Traced members (w.act node env event) →
      w.Genuine members node event → I w → ok w node env event → I (w.act node env event))
    (start : I (Cluster.start members config stateMachine).toWorld) {actions : List Action}
    (admissible : Cluster.Meets members config stateMachine ok actions) :
    Traced members (Cluster.world members config stateMachine actions) ∧
      I (Cluster.world members config stateMachine actions) := by
  refine Cluster.invariant (I := fun w => Traced members w ∧ I w) ?_
    (fun packet inFlight => nomatch inFlight) ⟨traced_start members config stateMachine, start⟩
    admissible
  intro w node env event here genuine ⟨traced, holds⟩ fine
  have traced' : Traced members (w.act node env event) := traced_act here genuine traced
  exact ⟨traced', preserved w node env event traced traced' genuine holds fine⟩

/-- What every admissible event does to a traced world with the property, every step
of an admissible run from new engines does. -/
theorem traced_along [StateMachine SM] {members : List NodeId}
    {config : NodeId → RabiaConfig} {stateMachine : NodeId → SM}
    {ok : World SM → NodeId → Env → Event → Prop} {I : World SM → Prop}
    {Q : World SM → World SM → Prop}
    (preserved : ∀ w node env event, Traced members w → Traced members (w.act node env event) →
      w.Genuine members node event → I w → ok w node env event → I (w.act node env event))
    (still : ∀ w, Q w w)
    (does : ∀ w node env event, Traced members w → Traced members (w.act node env event) →
      w.Genuine members node event → I w → I (w.act node env event) → ok w node env event →
      Q w (w.act node env event))
    (start : I (Cluster.start members config stateMachine).toWorld) {actions : List Action}
    (admissible : Cluster.Meets members config stateMachine ok actions) :
    Along (Cluster.step members)
      (fun c action => Q c.toWorld (c.step members action).toWorld)
      (Cluster.start members config stateMachine) actions := by
  refine Cluster.along_events (I := fun w => Traced members w ∧ I w) ?_ still ?_
    (fun packet inFlight => nomatch inFlight) ⟨traced_start members config stateMachine, start⟩
    admissible
  · intro w node env event here genuine ⟨traced, holds⟩ fine
    have traced' : Traced members (w.act node env event) := traced_act here genuine traced
    exact ⟨traced', preserved w node env event traced traced' genuine holds fine⟩
  · intro w node env event here genuine ⟨traced, holds⟩ fine
    have traced' : Traced members (w.act node env event) := traced_act here genuine traced
    exact does w node env event traced traced' genuine holds
      (preserved w node env event traced traced' genuine holds fine) fine

/-- Every reachable world is traced. -/
theorem traced_run [StateMachine SM] (members : List NodeId) (config : NodeId → RabiaConfig)
    (stateMachine : NodeId → SM) (actions : List Action) :
    Traced members (Cluster.world members config stateMachine actions) :=
  (traced_invariant (I := fun _ => True) (fun _ _ _ _ _ _ _ _ (_ : True) => trivial) trivial
    (along_of_forall (fun _ _ _ _ => trivial) _ _)).1

end Rabia
