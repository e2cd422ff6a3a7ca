import Rabia.Cluster.Traced

/-!
# The values that occur

Of the three values of `StateValue`, each message of the voting uses fewer: a
proposal is V1, a round-1 vote is never V0, a round-2 vote and a decision are
never `?`. One round's clause rests on that of the round before, and the draws
keep within it.
-/

namespace Rabia

open Rabia.Lib Engine

variable {SM : Type}

/-! ## The domain -/

/-- The values that an utterance may carry. -/
def Utterance.InDomain : Utterance → Prop
  | .proposal _ value _ => value = .v1
  | .round1 _ vote => vote ≠ .v0
  | .round2 _ vote => vote ≠ .vQuestion
  | .decision _ d _ | .decided _ d => d ≠ .vQuestion
  | .applied _ _ => True

/-- The values that a record may hold. -/
structure PhaseData.InDomain (phase : PhaseData) : Prop where
  proposedValue : ∀ v, phase.proposedValue = some v → v = .v1
  round1Votes : ∀ j v, phase.round1Votes.lookup j = some v → v ≠ .v0
  round2Votes : ∀ j v, phase.round2Votes.lookup j = some v → v ≠ .vQuestion
  decision : phase.decision ≠ some .vQuestion

/-! ## Round 2 -/

/-- A draw turns `?` into V0 or V1. -/
theorem round2VoteFor_ne_vQuestion (draw : Bool) (votes : Table NodeId StateValue)
    (result : StateValue) : round2VoteFor draw votes result ≠ .vQuestion := by
  intro question
  have repeats := repeats_iff.mpr question
  cases result with
  | v0 => cases repeats
  | v1 => cases repeats
  | vQuestion => exact repeats

/-- No round-2 vote, decision or recorded decision is `?`. -/
structure Settled (w : World SM) : Prop where
  round2 : ∀ i p v, w.Said i (.round2 p v) → v ≠ .vQuestion
  decided : ∀ i p d, w.Said i (.decided p d) → d ≠ .vQuestion
  decision : ∀ i p d batch, w.Said i (.decision p d batch) → d ≠ .vQuestion
  recorded : ∀ i p phase, (w.engines i).getPhase p = some phase →
    phase.decision ≠ some .vQuestion

theorem settled_start (members : List NodeId) (config : NodeId → RabiaConfig)
    (stateMachine : NodeId → SM) :
    Settled (Cluster.start members config stateMachine).toWorld where
  round2 _ _ _ said := absurd said List.not_mem_nil
  decided _ _ _ said := absurd said List.not_mem_nil
  decision _ _ _ _ said := absurd said List.not_mem_nil
  recorded _ _ _ present := nomatch present

variable [StateMachine SM] {members : List NodeId} {w : World SM} {node : NodeId} {env : Env}
  {event : Event}

omit [StateMachine SM] in
/-- A round-2 tally never names `?`, for a majority is not empty and voted V0 or V1. -/
theorem Settled.tally (settled : Settled w) (traced : Traced members w) {sender : NodeId}
    {message : ProtocolMessage} {m : VoteRound2Message}
    (genuine : w.Genuine members node (.message sender message))
    (received : Received env sender message (.voteRound2 m)) {phase : PhaseData}
    (present : (w.engines node).getPhase m.phaseId = some phase) {d : StateValue}
    (majority : (phase.addRound2Vote sender m.vote).hasRound2Majority
      (w.engines node).engineState.quorumSize = some d) : d ≠ .vQuestion := by
  obtain ⟨j, -, said⟩ := (traced.named2 genuine received present majority).exists
  exact settled.round2 j m.phaseId d said

theorem settled_act (traced : Traced members w) (genuine : w.Genuine members node event)
    (settled : Settled w) : Settled (w.act node env event) := by
  have decided : ∀ i p d, (w.act node env event).Said i (.decided p d) → d ≠ .vQuestion := by
    intro i p d said
    rcases reason_of_said said with old | ⟨rfl, reason⟩
    · exact settled.decided i p d old
    · cases reason with
      | decided received present majority =>
          exact settled.tally traced genuine received present majority
  refine ⟨?_, decided, ?_, ?_⟩
  · intro i p v said
    rcases reason_of_said said with old | ⟨rfl, reason⟩
    · exact settled.round2 i p v old
    · cases reason with
      | round2 received present reached => exact round2VoteFor_ne_vQuestion _ _ _
  · intro i p d batch said
    rcases reason_of_said said with old | ⟨rfl, reason⟩
    · exact settled.decision i p d batch old
    · cases reason with
      | decision received present majority =>
          exact settled.tally traced genuine received present majority
  · intro i p phase' present
    by_cases same : i = node
    · subst same
      rw [World.act_engines_self] at present
      cases ruling_of_deed (deed_of_handle env event (w.engines i)) present with
      | kept before decision _ =>
          rw [decision]
          exact settled.recorded i p _ before
      | fresh absent => exact fun question => nomatch question
      | tallied before said ruled =>
          have clear := decided i p _ (World.said_of_effect said rfl)
          rw [ruled.decision]
          exact fun question => clear (Option.some.inj question)
      | learned before received about ruled =>
          have clear := settled.decision _ _ _ _ (said_of_received genuine received rfl)
          rw [ruled.decision]
          exact fun question => clear (Option.some.inj question)
    · rw [World.act_engines_of_ne w env event same] at present
      exact settled.recorded i p phase' present

/-! ## The result -/

/-- Every message, sent or in flight, and every record keeps to the domain. -/
structure Cluster.InDomain (c : Cluster SM) : Prop where
  said : ∀ i u, c.toWorld.Said i u → u.InDomain
  inFlight : ∀ packet ∈ c.network, ∀ u ∈ packet.message.messageType.utterance, u.InDomain
  recorded : ∀ i p phase, (c.engines i).getPhase p = some phase → phase.InDomain

omit [StateMachine SM] in
theorem said_inDomain (traced : Traced members w) (settled : Settled w) {i : NodeId}
    {u : Utterance} (said : w.Said i u) : u.InDomain := by
  cases u with
  | proposal p value batch => exact traced.proposal i p value batch said
  | round1 p vote =>
      intro zero
      exact traced.round1 i p vote said zero
  | round2 p vote => exact settled.round2 i p vote said
  | decision p d batch => exact settled.decision i p d batch said
  | decided p d => exact settled.decided i p d said
  | applied p batch => trivial

omit [StateMachine SM] in
theorem recorded_inDomain (traced : Traced members w) (settled : Settled w) {i : NodeId}
    {p : PhaseId} {phase : PhaseData} (present : (w.engines i).getPhase p = some phase) :
    phase.InDomain where
  proposedValue v recorded := traced.value i p phase v present recorded
  round1Votes j v recorded :=
    said_inDomain traced settled (traced.recorded1 i p phase j v present recorded)
  round2Votes j v recorded :=
    said_inDomain traced settled (traced.recorded2 i p phase j v present recorded)
  decision := settled.recorded i p phase present

/-- In every reachable state of the cluster, all values are in their domain. -/
theorem values_in_domain (members : List NodeId) (config : NodeId → RabiaConfig)
    (stateMachine : NodeId → SM) (actions : List Action) :
    (run (Cluster.step members) (Cluster.start members config stateMachine) actions).InDomain := by
  obtain ⟨traced, settled⟩ := traced_invariant (I := Settled)
    (fun w node env event traced _ genuine settled (_ : True) =>
      settled_act traced genuine settled)
    (settled_start members config stateMachine)
    (along_of_forall (fun _ _ _ _ => trivial) _ actions)
  have carried : (run (Cluster.step members) (Cluster.start members config stateMachine)
      actions).Carried members :=
    run_of_kept (I := Cluster.Carried members) (s := Cluster.start members config stateMachine)
      (fun c action carried => Cluster.carried_step carried action)
      (fun packet inFlight => nomatch inFlight) actions
  refine ⟨?_, ?_, ?_⟩
  · intro i u said
    exact said_inDomain traced settled said
  · intro packet inFlight u uttered
    exact said_inDomain traced settled ((carried packet inFlight).said uttered)
  · intro i p phase present
    exact recorded_inDomain traced settled present

end Rabia
