import Rabia.Engine.Counters
import Rabia.Engine.Reasons

/-!
# After a lost quorum

`on_quorum_lost` says that it stops the consensus operations. It clears `is_active`,
which nothing but the heartbeat reads. Requests and proposals look at `has_quorum`,
which only a report of the active nodes changes, and votes and decisions look at
neither. `Stirs` lists what still makes the engine act, and `inactive_iff` says that
the engine keeps still over a lost quorum exactly when none of it comes in.
-/

namespace Rabia

open Rabia.Lib Engine

/-- An engine, with whether the quorum was lost since the last report of active nodes. -/
structure Watched (SM : Type) where
  engine : RabiaEngine SM
  lost : Bool

namespace Watched

variable {SM : Type} [StateMachine SM]

/-- The quorum is lost from `on_quorum_lost` to the next report of active nodes. -/
def lostAfter (lost : Bool) : Event → Bool
  | .quorumLost => true
  | .networkPartition _ | .quorumRestored _ | .clusterMembership _ => false
  | .message _ _ | .command _ | .cleanup | .heartbeat | .createPhase _ => lost

def step (w : Watched SM) (input : Env × Event) : Watched SM :=
  ⟨(handle input.1 input.2 w.engine).state, lostAfter w.lost input.2⟩

/-- The engine proposes, votes, decides or applies a batch. -/
def Acts (w : List Effect) : Prop := ∃ x ∈ w, x.utterance ≠ none

/-- With the quorum lost the engine does not act. -/
def Inactive (w : Watched SM) (input : Env × Event) : Prop :=
  w.lost = true → ¬ Acts (handle input.1 input.2 w.engine).effects

/-- A message with this payload makes the engine act. -/
def StirredBy (e : RabiaEngine SM) (sender : NodeId) : MessageType → Prop
  | .propose _ => e.engineState.hasQuorum = true
  | .voteRound1 m => ∃ phase, e.getPhase m.phaseId = some phase ∧
      round1Result e.engineState.quorumSize (phase.addRound1Vote sender m.vote) ≠ none
  | .voteRound2 m => ∃ phase, e.getPhase m.phaseId = some phase ∧
      (phase.addRound2Vote sender m.vote).hasRound2Majority e.engineState.quorumSize ≠ none
  | .decision m => decisionBatch e m ≠ none
  | _ => False

/-- What makes the engine act: a request or a proposal while `has_quorum` is set, a vote
that completes a tally on a record, a decision to run a batch above the commit mark. -/
def Stirs (e : RabiaEngine SM) (input : Env × Event) : Prop :=
  match input.2 with
  | .command (.processBatch _) => e.engineState.hasQuorum = true
  | event => ∃ sender payload, arrival input.1 event = some (sender, payload) ∧
      StirredBy e sender payload

/-! ## What makes the engine act -/

omit [StateMachine SM] in
/-- Whatever the engine utters has one of these causes. -/
theorem stirs_of_reason {env : Env} {e : RabiaEngine SM} {event : Event} {u : Utterance}
    (reason : Reason env e event u) : Stirs e (env, event) := by
  have message : ∀ {sender : NodeId} {message : ProtocolMessage} {payload : MessageType},
      Received env sender message payload → StirredBy e sender payload →
        Stirs e (env, .message sender message) :=
    fun received stirred => ⟨_, _, arrival_of_received received, stirred⟩
  cases reason with
  | proposal quorum => exact quorum
  | round1 received quorum => exact message received quorum
  | round2 received present reached => exact message received ⟨_, present, by simp [reached]⟩
  | decided received present majority => exact message received ⟨_, present, by simp [majority]⟩
  | decision received present majority => exact message received ⟨_, present, by simp [majority]⟩
  | executed received present majority _ =>
      exact message received ⟨_, present, by simp [majority]⟩
  | adopted received accepted carried above =>
      refine message received ?_
      have runs := decisionBatch_eq_some.mpr ⟨⟨accepted, above⟩, carried⟩
      simp [StirredBy, runs]

theorem acts_cons {x : Effect} {u : Utterance} (uttered : x.utterance = some u)
    (w : List Effect) : Acts (x :: w) :=
  ⟨x, List.mem_cons_self, by simp [uttered]⟩

/-- A payload that stirs the engine makes it act. -/
theorem acts_of_stirredBy (env : Env) {e : RabiaEngine SM} {sender : NodeId}
    {payload : MessageType} (stirred : StirredBy e sender payload) :
    Acts (dispatch env sender payload e).effects := by
  cases payload with
  | propose m =>
      show Acts (handlePropose env sender m e).effects
      rw [handlePropose_effects, if_pos (show e.engineState.hasQuorum = true from stirred)]
      exact acts_cons rfl _
  | voteRound1 m =>
      obtain ⟨phase, present, reached⟩ := stirred
      obtain ⟨result, reached⟩ := Option.ne_none_iff_exists'.mp reached
      show Acts (handleVoteRound1 env sender m e).effects
      rw [handleVoteRound1_effects, present, Option.map_some]
      dsimp only
      rw [reached]
      exact acts_cons rfl _
  | voteRound2 m =>
      obtain ⟨phase, present, majority⟩ := stirred
      obtain ⟨decision, majority⟩ := Option.ne_none_iff_exists'.mp majority
      show Acts (handleVoteRound2 env sender m e).effects
      rw [handleVoteRound2_apply, present, Option.map_some, Option.bind_some, majority]
      dsimp only
      -- the decision is recorded before the batch is run
      rw [makeDecision_eq]
      exact acts_cons rfl _
  | decision m =>
      obtain ⟨batch, runs⟩ := Option.ne_none_iff_exists'.mp stirred
      show Acts (handleDecision env sender m e).effects
      rw [handleDecision_effects, runs]
      exact acts_cons rfl _
  | syncRequest _ | syncResponse _ | newBatch _ | heartBeat _ | quorumNotification _ =>
      exact stirred.elim

/-- An event makes the engine act exactly when it stirs it. -/
theorem acts_iff (e : RabiaEngine SM) (input : Env × Event) :
    Acts (handle input.1 input.2 e).effects ↔ Stirs e input := by
  obtain ⟨env, event⟩ := input
  constructor
  · rintro ⟨x, hx, uttered⟩
    obtain ⟨u, uttered⟩ := Option.ne_none_iff_exists'.mp uttered
    exact stirs_of_reason (reason_of_deed (deed_of_handle env event e) hx uttered)
  · intro stirs
    cases event with
    | message sender message =>
        obtain ⟨sender', payload, arrived, stirred⟩ := stirs
        by_cases received : Received env sender message message.messageType
        · rw [arrival_of_received received] at arrived
          cases arrived
          show Acts (handle env (.message sender message) e).effects
          rw [handle_of_received received]
          exact acts_of_stirredBy env stirred
        · rw [arrival_of_not_received received] at arrived
          cases arrived
    | command command =>
        cases command with
        | processBatch request =>
            have said := (processBatchRequest_spec env request stirs).2.2.2
            show Acts (processBatchRequest env request e).effects
            rw [said]
            exact acts_cons rfl _
        | shutdown | forcePhaseAdvance | triggerSync | getStatistics _ =>
            obtain ⟨_, _, arrived, -⟩ := stirs
            cases arrived
    | cleanup | heartbeat | networkPartition _ | quorumLost | quorumRestored _
    | clusterMembership _ | createPhase _ =>
        obtain ⟨_, _, arrived, -⟩ := stirs
        cases arrived

/-! ## Runs -/

/-- Nothing that makes the engine act comes in while the quorum is lost. -/
def Unstirred (w : Watched SM) (input : Env × Event) : Prop :=
  w.lost = true → ¬ Stirs w.engine input

/-- In a run the engine keeps still over every lost quorum exactly when nothing that
makes it act comes in there. -/
theorem inactive_iff (e : RabiaEngine SM) (inputs : List (Env × Event)) :
    Along step Inactive ⟨e, false⟩ inputs ↔ Along step Unstirred ⟨e, false⟩ inputs := by
  have same : ∀ (w : Watched SM) (input : Env × Event), Inactive w input ↔ Unstirred w input :=
    fun w input => imp_congr_right fun _ => not_congr (acts_iff w.engine input)
  exact ⟨Along.mono fun w input => (same w input).mp, Along.mono fun w input => (same w input).mpr⟩

section ThreeNodes

/-- An engine that lost its quorum still proposes. -/
theorem proposes_without_quorum :
    ¬ Along step Inactive ⟨threeNodes 0, false⟩ [({}, .quorumLost), submission] := by
  intro inactive
  exact inactive.2.1 rfl (acts_cons rfl [])

end ThreeNodes

end Watched

end Rabia
