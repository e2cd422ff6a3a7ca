import Rabia.Engine.Apply
import Rabia.Engine.Aside
import Rabia.Engine.Run

/-!
# What one event can do

`Deed env e event e' w` lists, constructor by constructor, everything that an
event can do to the phase records of an engine `e` and everything it can then
say: the state `e'` it leaves and the effects `w` it emits. `deed_of_handle`
is the inversion of all handlers at once; no later proof about votes, batches
or decisions unfolds a handler again.

* `Touches p f` — the record of `p`, if there is one, went through `f`.
* `Lands p batch` — the batch ran, and the commit mark followed or did not.
-/

namespace Rabia.Engine

open Rabia.Lib Rabia.Lib.Proc

variable {SM : Type}

/-! ## What happens to the records -/

/-- Identity, quorum and records stayed. -/
structure Frame (e e' : RabiaEngine SM) : Prop where
  nodeId : e'.nodeId = e.nodeId
  quorumSize : e'.engineState.quorumSize = e.engineState.quorumSize
  phases : e'.engineState.phases = e.engineState.phases

/-- The commit mark stayed. -/
def SameMark (e e' : RabiaEngine SM) : Prop :=
  e'.engineState.lastCommittedPhase = e.engineState.lastCommittedPhase

/-- The record of `p`, if there is one, went through `f`; everything else the
voting reads stayed. -/
structure Touches (p : PhaseId) (f : PhaseData → PhaseData) (e e' : RabiaEngine SM) : Prop where
  nodeId : e'.nodeId = e.nodeId
  quorumSize : e'.engineState.quorumSize = e.engineState.quorumSize
  getPhase : ∀ q, e'.getPhase q = if q = p then (e.getPhase p).map f else e.getPhase q

theorem Aside.frame {e e' : RabiaEngine SM} {w : List Effect} (h : Aside e w e') : Frame e e' :=
  ⟨h.nodeId, h.state.quorumSize, h.state.phases⟩

theorem frame_mapState {f : EngineState → EngineState} (h : ∀ st, EngineState.Keeps st (f st))
    (e : RabiaEngine SM) : Frame e (e.mapState f) :=
  ⟨rfl, (h e.engineState).quorumSize, (h e.engineState).phases⟩

theorem touches_updatePhase (p : PhaseId) (f : PhaseData → PhaseData) (e : RabiaEngine SM) :
    Touches p f e (e.mapState (EngineState.updatePhase p f)) :=
  ⟨rfl, EngineState.updatePhase_quorumSize p f e.engineState,
    fun q => EngineState.getPhase_updatePhase p q f e.engineState⟩

theorem sameMark_updatePhase (p : PhaseId) (f : PhaseData → PhaseData) (e : RabiaEngine SM) :
    SameMark e (e.mapState (EngineState.updatePhase p f)) :=
  EngineState.updatePhase_lastCommittedPhase p f e.engineState

theorem Frame.getPhase {e e' : RabiaEngine SM} (h : Frame e e') (q : PhaseId) :
    e'.getPhase q = e.getPhase q := by
  unfold RabiaEngine.getPhase EngineState.getPhase
  rw [h.phases]

theorem Frame.trans {e e' e'' : RabiaEngine SM} (h : Frame e e') (h' : Frame e' e'') :
    Frame e e'' :=
  ⟨h'.nodeId.trans h.nodeId, h'.quorumSize.trans h.quorumSize, h'.phases.trans h.phases⟩

theorem Frame.touches {e e' e'' : RabiaEngine SM} {p : PhaseId} {f : PhaseData → PhaseData}
    (h : Frame e e') (h' : Touches p f e' e'') : Touches p f e e'' := by
  refine ⟨h'.nodeId.trans h.nodeId, h'.quorumSize.trans h.quorumSize, fun q => ?_⟩
  rw [h'.getPhase q, h.getPhase p, h.getPhase q]

theorem Touches.frame {e e' e'' : RabiaEngine SM} {p : PhaseId} {f : PhaseData → PhaseData}
    (h : Touches p f e e') (h' : Frame e' e'') : Touches p f e e'' := by
  refine ⟨h'.nodeId.trans h.nodeId, h'.quorumSize.trans h.quorumSize, fun q => ?_⟩
  rw [h'.getPhase q, h.getPhase q]

theorem Touches.comp {e e' e'' : RabiaEngine SM} {p : PhaseId} {f g : PhaseData → PhaseData}
    (h : Touches p f e e') (h' : Touches p g e' e'') : Touches p (g ∘ f) e e'' := by
  refine ⟨h'.nodeId.trans h.nodeId, h'.quorumSize.trans h.quorumSize, fun q => ?_⟩
  rw [h'.getPhase q, h.getPhase p, h.getPhase q, if_pos rfl, Option.map_map]
  by_cases hq : q = p
  · rw [if_pos hq, if_pos hq]
  · rw [if_neg hq, if_neg hq, if_neg hq]

theorem Touches.at_self {e e' : RabiaEngine SM} {p : PhaseId} {f : PhaseData → PhaseData}
    (h : Touches p f e e') : e'.getPhase p = (e.getPhase p).map f := by
  rw [h.getPhase p, if_pos rfl]

/-- A record that is there once `p` has one is new, or was there before. -/
theorem record_of_created {now : Nat} {p q : PhaseId} {e e' : RabiaEngine SM}
    (getPhase : ∀ q, e'.getPhase q =
      if q = p then some ((e.getPhase p).getD (PhaseData.new p now)) else e.getPhase q)
    {phase' : PhaseData} (present : e'.getPhase q = some phase') :
    e.getPhase q = some phase' ∨
      q = p ∧ e.getPhase p = none ∧ phase' = PhaseData.new p now := by
  rw [getPhase q] at present
  by_cases same : q = p
  · subst same
    rw [if_pos rfl] at present
    cases before : e.getPhase q with
    | none =>
        rw [before] at present
        exact Or.inr ⟨rfl, rfl, (Option.some.inj present).symm⟩
    | some phase =>
        rw [before] at present
        exact Or.inl present
  · rw [if_neg same] at present
    exact Or.inl present

/-- A record that a cleanup leaves was there before. -/
theorem record_of_cleaned {cutoff q : PhaseId} {e e' : RabiaEngine SM}
    (getPhase : ∀ q, e'.getPhase q = if cutoff ≤ q then e.getPhase q else none)
    {phase' : PhaseData} (present : e'.getPhase q = some phase') :
    e.getPhase q = some phase' := by
  rw [getPhase q] at present
  by_cases recent : cutoff ≤ q
  · rw [if_pos recent] at present
    exact present
  · rw [if_neg recent] at present
    cases present

/-! ## What happens when a batch runs -/

section Lands

variable [StateMachine SM]

/-- The batch of `p` ran on the state machine of `e`. The mark is raised when
every command succeeded and `p` is not ahead of the current phase, and only then. -/
structure Lands (p : PhaseId) (batch : CommandBatch) (e e' : RabiaEngine SM) : Prop where
  stateMachine : e'.stateMachine = execute e.stateMachine batch
  currentPhase : e'.engineState.currentPhase = e.engineState.currentPhase
  committed : CommandsSucceed e batch → p ≤ e.engineState.currentPhase →
    e'.engineState.lastCommittedPhase = max e.engineState.lastCommittedPhase p
  dropped : ¬ (CommandsSucceed e batch ∧ p ≤ e.engineState.currentPhase) → SameMark e e'

theorem withBatch_keeps (batch : CommandBatch) (e : RabiaEngine SM) :
    Frame e (withBatch batch e) ∧ SameMark e (withBatch batch e) := by
  have kept := EngineState.keeps_removePendingBatch batch.id e.engineState
  exact ⟨⟨rfl, kept.quorumSize, kept.phases⟩, kept.lastCommittedPhase⟩

/-- The shared block says one thing, the application, and lands the batch. -/
theorem lands_applyAndCommit (env : Env) (p : PhaseId) (batch : CommandBatch)
    (e : RabiaEngine SM) :
    (applyAndCommit env p batch e).effects = [.applyBatch p batch] ∧
      Frame e (applyAndCommit env p batch e).state ∧
      Lands p batch e (applyAndCommit env p batch e).state := by
  rcases applyAndCommit_cases env p batch e with
    ⟨err, failed, same⟩ | ⟨succeed, ahead, err, same⟩ | ⟨succeed, behind, persisted, same⟩
  · rw [same]
    refine ⟨rfl, ⟨rfl, rfl, rfl⟩, rfl, rfl, fun succeed => ?_, fun _ => rfl⟩
    obtain ⟨responses, ok⟩ := succeed
    rw [ok] at failed
    cases failed
  · rw [same]
    obtain ⟨frame, mark⟩ := withBatch_keeps batch e
    refine ⟨rfl, frame, rfl, withBatch_currentPhase batch e, fun _ behind => ?_, fun _ => mark⟩
    exact absurd behind (Nat.not_le.mpr ahead)
  · rw [same]
    obtain ⟨frame, mark⟩ := withBatch_keeps batch e
    have phase := withBatch_currentPhase batch e
    refine ⟨rfl, ⟨frame.nodeId, ?_, ?_⟩, rfl, ?_, fun _ _ => ?_, fun failed => ?_⟩
    · exact (EngineState.commitPhase_quorumSize p _).trans frame.quorumSize
    · exact (EngineState.commitPhase_phases p _).trans frame.phases
    · exact (EngineState.commitPhase_currentPhase p _).trans phase
    · rw [← mark]
      exact (EngineState.commitPhase_of_le (phase ▸ behind)).2
    · exact absurd ⟨succeed, behind⟩ failed

/-- Writing into a record first makes no difference to how a batch lands. -/
theorem Lands.of_updatePhase {p q : PhaseId} {batch : CommandBatch} {f : PhaseData → PhaseData}
    {e e' : RabiaEngine SM} (h : Lands p batch (e.mapState (EngineState.updatePhase q f)) e') :
    Lands p batch e e' := by
  have phase : (e.mapState (EngineState.updatePhase q f)).engineState.currentPhase =
      e.engineState.currentPhase := EngineState.updatePhase_currentPhase q f e.engineState
  have mark := sameMark_updatePhase q f e
  refine ⟨h.stateMachine, h.currentPhase.trans phase, ?_, ?_⟩
  · intro succeed behind
    rw [← mark]
    exact h.committed succeed (phase ▸ behind)
  · intro failed
    exact (h.dropped (phase ▸ failed)).trans mark

end Lands

/-! ## The deeds -/

/-- The value that `handle_vote_round1` enters round 2 with, once it does. -/
def round1Result (quorumSize : Nat) (phase : PhaseData) : Option StateValue :=
  match phase.hasRound1Majority quorumSize with
  | some majorityVote => some majorityVote
  | none => if quorumSize ≤ Table.size phase.round1Votes then some .vQuestion else none

/-- Entering with V0 or V1 means a majority for it. -/
theorem majority_of_round1Result {quorumSize : Nat} {phase : PhaseData} {result : StateValue}
    (reached : round1Result quorumSize phase = some result) (conclusive : result ≠ .vQuestion) :
    phase.hasRound1Majority quorumSize = some result := by
  unfold round1Result at reached
  cases tally : phase.hasRound1Majority quorumSize with
  | some majorityVote =>
      rw [tally] at reached
      exact reached
  | none =>
      rw [tally] at reached
      dsimp only at reached
      split at reached
      · cases reached
        exact absurd rfl conclusive
      · cases reached

/-- Entering round 2 with this tally, this outcome of round 1 and this draw comes
out with the vote `v`. Without an outcome, a draw that succeeds favours the value
that leads the tally, V1 when none does. -/
def Repeats (draw : Bool) (votes : Table NodeId StateValue) (result v : StateValue) : Prop :=
  match result, v with
  | .vQuestion, .v0 => draw = decide (Table.count votes .v1 < Table.count votes .v0)
  | .vQuestion, .v1 => draw = decide (Table.count votes .v0 ≤ Table.count votes .v1)
  | .vQuestion, .vQuestion => False
  | result, v => result = v

instance (draw : Bool) (votes : Table NodeId StateValue) :
    ∀ result v : StateValue, Decidable (Repeats draw votes result v)
  | .vQuestion, .v0 => inferInstanceAs (Decidable (_ = _))
  | .vQuestion, .v1 => inferInstanceAs (Decidable (_ = _))
  | .vQuestion, .vQuestion => inferInstanceAs (Decidable False)
  | .v0, _ => inferInstanceAs (Decidable (_ = _))
  | .v1, _ => inferInstanceAs (Decidable (_ = _))

/-- `Repeats` is what `proceed_to_round2` computes. -/
theorem repeats_iff {draw : Bool} {votes : Table NodeId StateValue} {result v : StateValue} :
    Repeats draw votes result v ↔ round2VoteFor draw votes result = v := by
  cases result with
  | v0 => cases v <;> exact Iff.rfl
  | v1 => cases v <;> exact Iff.rfl
  | vQuestion =>
      show Repeats draw votes .vQuestion v ↔ determineRound2VoteForQuestion draw votes = v
      unfold determineRound2VoteForQuestion Repeats
      rcases Nat.lt_trichotomy (Table.count votes .v0) (Table.count votes .v1) with h | h | h
      · cases draw <;> cases v <;> simp [h, h.le, h.not_gt]
      · cases draw <;> cases v <;> simp [h]
      · cases draw <;> cases v <;> simp [h, h.not_ge, h.not_gt]

/-- The phase that the next `propose_batch` of the engine is about. -/
def nextPhase (e : RabiaEngine SM) : PhaseId := e.engineState.advancePhase.1

/-- The broadcast of `propose_batch`. -/
def proposal (env : Env) (e : RabiaEngine SM) (batch : CommandBatch) : Effect :=
  .broadcast <| ProtocolMessage.propose e.nodeId env.now
    { phaseId := nextPhase e, batchId := batch.id, value := .v1, batch := some batch }

/-- The answer of `handle_propose`. -/
def answer (env : Env) (e : RabiaEngine SM) (sender : NodeId) (m : ProposeMessage) : Effect :=
  .sendTo sender <| ProtocolMessage.voteRound1 e.nodeId sender env.now
    { phaseId := m.phaseId
      batchId := m.batchId
      vote := determineRound1Vote env.draw (e.getPhase m.phaseId) m
      voterId := e.nodeId }

/-- The broadcast of `proceed_to_round2` on the record `phase`. -/
def ballot (env : Env) (e : RabiaEngine SM) (p : PhaseId) (phase : PhaseData)
    (vote : StateValue) : Effect :=
  .broadcast <| ProtocolMessage.voteRound2 e.nodeId e.nodeId env.now
    { phaseId := p
      batchId := phase.batchId.getD ⟨env.uuid⟩
      vote
      voterId := e.nodeId
      round1Votes := phase.round1Votes }

/-- The broadcast of `make_decision` on the record `phase`. -/
def verdict (env : Env) (e : RabiaEngine SM) (p : PhaseId) (phase : PhaseData)
    (decision : StateValue) : Effect :=
  .broadcast <| ProtocolMessage.decision e.nodeId env.now
    { phaseId := p
      batchId := phase.batchId.getD ⟨env.uuid⟩
      decision
      batch := phase.batch }

/-- The event has nothing to do with the voting. -/
def Foreign : Event → Prop
  | .message _ message => message.messageType.utterance = none
  | .command (.processBatch _) | .cleanup | .createPhase _ => False
  | _ => True

/-- Why an event leaves the voting alone. -/
inductive Ignores (env : Env) (e : RabiaEngine SM) : Event → Prop where
  | foreign {event} (foreign : Foreign event) : Ignores env e event
  | rejected {sender message} (rejected : ¬ Received env sender message message.messageType) :
      Ignores env e (.message sender message)
  | unheard {sender message m} (received : Received env sender message (.propose m))
      (noQuorum : ¬ e.engineState.hasQuorum = true) : Ignores env e (.message sender message)
  | declined {request} (noQuorum : ¬ e.engineState.hasQuorum = true) :
      Ignores env e (.command (.processBatch request))

/-- What an event can do to the engine `e`, and what it then says. -/
inductive Deed [StateMachine SM] (env : Env) (e : RabiaEngine SM) :
    Event → RabiaEngine SM → List Effect → Prop where
  /-- Nothing that belongs to the voting. -/
  | aside {event e' w} (ignores : Ignores env e event) (aside : Aside e w e') :
      Deed env e event e' w
  | created {p e'} (nodeId : e'.nodeId = e.nodeId)
      (quorumSize : e'.engineState.quorumSize = e.engineState.quorumSize)
      (getPhase : ∀ q, e'.getPhase q =
        if q = p then some ((e.getPhase p).getD (PhaseData.new p env.now)) else e.getPhase q)
      (mark : SameMark e e') : Deed env e (.createPhase p) e' []
  | cleaned {e'} (nodeId : e'.nodeId = e.nodeId)
      (quorumSize : e'.engineState.quorumSize = e.engineState.quorumSize)
      (getPhase : ∀ q, e'.getPhase q =
        if e.engineState.cutoffPhase e.config.maxPhaseHistory ≤ q then e.getPhase q else none)
      (mark : SameMark e e') : Deed env e .cleanup e' []
  | proposed {request e'} (quorum : e.engineState.hasQuorum = true)
      (touches : Touches (nextPhase e) (ownProposal request.batch.id request.batch) e e')
      (mark : SameMark e e') :
      Deed env e (.command (.processBatch request)) e' [proposal env e request.batch]
  | answered {sender message m e'} (received : Received env sender message (.propose m))
      (quorum : e.engineState.hasQuorum = true)
      (touches : Touches m.phaseId (receivedProposal m) e e') (mark : SameMark e e') :
      Deed env e (.message sender message) e' [answer env e sender m]
  /-- A round-1 vote that does not lead on to round 2. -/
  | counted {sender message m e'} (received : Received env sender message (.voteRound1 m))
      (waiting : ∀ phase, e.getPhase m.phaseId = some phase →
        round1Result e.engineState.quorumSize (phase.addRound1Vote sender m.vote) = none)
      (touches : Touches m.phaseId (·.addRound1Vote sender m.vote) e e') (mark : SameMark e e') :
      Deed env e (.message sender message) e' []
  /-- A round-1 vote that does. -/
  | cast {sender message m phase result vote e'}
      (received : Received env sender message (.voteRound1 m))
      (present : e.getPhase m.phaseId = some phase)
      (reached : round1Result e.engineState.quorumSize
        (phase.addRound1Vote sender m.vote) = some result)
      (drawn : vote =
        round2VoteFor env.draw (phase.addRound1Vote sender m.vote).round1Votes result)
      (touches : Touches m.phaseId
        (fun phase => (phase.addRound1Vote sender m.vote).addRound2Vote e.nodeId vote) e e')
      (mark : SameMark e e') :
      Deed env e (.message sender message) e'
        [ballot env e m.phaseId (phase.addRound1Vote sender m.vote) vote]
  /-- A round-2 vote that does not decide. -/
  | tallied {sender message m e'} (received : Received env sender message (.voteRound2 m))
      (waiting : ∀ phase, e.getPhase m.phaseId = some phase →
        (phase.addRound2Vote sender m.vote).hasRound2Majority e.engineState.quorumSize = none)
      (touches : Touches m.phaseId (·.addRound2Vote sender m.vote) e e') (mark : SameMark e e') :
      Deed env e (.message sender message) e' []
  /-- A round-2 vote that decides without running a batch. -/
  | decided {sender message m phase decision e'}
      (received : Received env sender message (.voteRound2 m))
      (present : e.getPhase m.phaseId = some phase)
      (majority : (phase.addRound2Vote sender m.vote).hasRound2Majority
        e.engineState.quorumSize = some decision)
      (idle : decision = .v1 → phase.batch = none)
      (touches : Touches m.phaseId
        (fun phase => (phase.addRound2Vote sender m.vote).setDecision decision) e e')
      (mark : SameMark e e') :
      Deed env e (.message sender message) e'
        [.decide m.phaseId decision, verdict env e m.phaseId phase decision]
  /-- A round-2 vote that decides V1 and runs the batch of the record. -/
  | executed {sender message m phase batch e' w}
      (received : Received env sender message (.voteRound2 m))
      (present : e.getPhase m.phaseId = some phase)
      (majority : (phase.addRound2Vote sender m.vote).hasRound2Majority
        e.engineState.quorumSize = some .v1)
      (stored : phase.batch = some batch)
      (touches : Touches m.phaseId
        (fun phase => (phase.addRound2Vote sender m.vote).setDecision .v1) e e')
      (lands : Lands m.phaseId batch e e')
      (said : w = [.decide m.phaseId .v1, .applyBatch m.phaseId batch] ∨
        w = [.decide m.phaseId .v1, .applyBatch m.phaseId batch,
          verdict env e m.phaseId phase .v1]) :
      Deed env e (.message sender message) e' w
  /-- A decision that runs nothing. -/
  | learned {sender message m e'} (received : Received env sender message (.decision m))
      (idle : m.decision = .v1 → ∀ batch, m.batch = some batch →
        m.phaseId ≤ e.engineState.lastCommittedPhase)
      (touches : Touches m.phaseId (receivedDecision m) e e') (mark : SameMark e e') :
      Deed env e (.message sender message) e' []
  /-- A decision that runs its batch. -/
  | adopted {sender message m batch e'} (received : Received env sender message (.decision m))
      (accepted : m.decision = .v1) (carried : m.batch = some batch)
      (above : e.engineState.lastCommittedPhase < m.phaseId)
      (touches : Touches m.phaseId (receivedDecision m) e e')
      (lands : Lands m.phaseId batch e e') :
      Deed env e (.message sender message) e' [.applyBatch m.phaseId batch]

/-! ## Every handler does a deed -/

section Inversion

theorem addPendingBatch_keeps (batch : CommandBatch) (originator : NodeId) (now : Nat)
    (e : RabiaEngine SM) :
    Frame e (e.mapState (EngineState.addPendingBatch batch originator now)) ∧
      SameMark e (e.mapState (EngineState.addPendingBatch batch originator now)) :=
  ⟨frame_mapState (EngineState.keeps_addPendingBatch batch originator now) e, rfl⟩

variable [StateMachine SM]

theorem deed_processBatchRequest (env : Env) (request : CommandRequest) (e : RabiaEngine SM) :
    Deed env e (.command (.processBatch request)) (processBatchRequest env request e).state
      (processBatchRequest env request e).effects := by
  unfold processBatchRequest
  rw [readState, read_bind]
  by_cases quorum : e.engineState.hasQuorum = true
  · rw [if_pos quorum]
    have pending := (addPendingBatch_keeps request.batch e.nodeId env.now e).1
    have advanced := pending.trans (frame_mapState EngineState.keeps_advancePhase _)
    refine Deed.proposed quorum (advanced.touches (touches_updatePhase _ _ _)) ?_
    exact sameMark_updatePhase _ _ _
  · rw [if_neg quorum]
    refine Deed.aside (Ignores.declined quorum) ⟨rfl, EngineState.Keeps.refl _, fun x hx => ?_⟩
    rw [List.mem_singleton.mp hx]
    rfl

omit [StateMachine SM] in
/-- Without quorum a proposal is not heard. -/
theorem handlePropose_unheard (env : Env) (sender : NodeId) (m : ProposeMessage)
    {e : RabiaEngine SM} (noQuorum : ¬ e.engineState.hasQuorum = true) :
    handlePropose env sender m e = ⟨.ok (), e, []⟩ := by
  unfold handlePropose
  rw [readState, read_bind, if_neg noQuorum]
  rfl

omit [StateMachine SM] in
theorem handlePropose_effects (env : Env) (sender : NodeId) (m : ProposeMessage)
    (e : RabiaEngine SM) :
    (handlePropose env sender m e).effects =
      if e.engineState.hasQuorum = true then [answer env e sender m] else [] := by
  by_cases quorum : e.engineState.hasQuorum = true
  · unfold handlePropose
    rw [readState, read_bind, if_pos quorum, if_pos quorum]
    cases m.batch <;> rfl
  · rw [handlePropose_unheard env sender m quorum, if_neg quorum]

omit [StateMachine SM] in
/-- With quorum it goes into the record of its phase. -/
theorem touches_handlePropose (env : Env) (sender : NodeId) (m : ProposeMessage)
    {e : RabiaEngine SM} (quorum : e.engineState.hasQuorum = true) :
    Touches m.phaseId (receivedProposal m) e (handlePropose env sender m e).state ∧
      SameMark e (handlePropose env sender m e).state := by
  unfold handlePropose
  rw [readState, read_bind, if_pos quorum]
  cases m.batch with
  | some batch =>
      have pending := (addPendingBatch_keeps batch sender env.now e).1
      exact ⟨pending.touches (touches_updatePhase _ _ _), sameMark_updatePhase _ _ _⟩
  | none => exact ⟨touches_updatePhase _ _ _, sameMark_updatePhase _ _ _⟩

theorem deed_handlePropose (env : Env) {sender : NodeId} {message : ProtocolMessage}
    {m : ProposeMessage} (e : RabiaEngine SM)
    (received : Received env sender message (.propose m)) :
    Deed env e (.message sender message) (handlePropose env sender m e).state
      (handlePropose env sender m e).effects := by
  by_cases quorum : e.engineState.hasQuorum = true
  · obtain ⟨touches, mark⟩ := touches_handlePropose env sender m quorum
    rw [handlePropose_effects, if_pos quorum]
    exact Deed.answered received quorum touches mark
  · rw [handlePropose_unheard env sender m quorum]
    exact Deed.aside (Ignores.unheard received quorum) (aside_path.nil e)

omit [StateMachine SM] in
/-- `proceed_to_round2` records the vote and broadcasts it. -/
theorem proceedToRound2_spec (env : Env) {p : PhaseId} (result : StateValue)
    {phase : PhaseData} {e : RabiaEngine SM} (present : e.getPhase p = some phase) :
    (proceedToRound2 env p result phase.round1Votes e).state =
        e.mapState (EngineState.updatePhase p
          (·.addRound2Vote e.nodeId (round2VoteFor env.draw phase.round1Votes result))) ∧
      (proceedToRound2 env p result phase.round1Votes e).effects =
        [ballot env e p phase (round2VoteFor env.draw phase.round1Votes result)] := by
  refine ⟨rfl, ?_⟩
  have recorded := (touches_updatePhase p
    (·.addRound2Vote e.nodeId (round2VoteFor env.draw phase.round1Votes result)) e).at_self
  rw [present] at recorded
  unfold ballot
  rw [show phase.batchId = ((e.mapState (EngineState.updatePhase p
    (·.addRound2Vote e.nodeId (round2VoteFor env.draw phase.round1Votes result)))).getPhase
      p).bind (·.batchId) by rw [recorded]; rfl]
  rfl

omit [StateMachine SM] in
/-- `handle_vote_round1` once the vote is recorded. -/
theorem handleVoteRound1_apply (env : Env) (sender : NodeId) (m : VoteRound1Message)
    (e : RabiaEngine SM) :
    handleVoteRound1 env sender m e =
      match (e.getPhase m.phaseId).map (·.addRound1Vote sender m.vote) with
      | some phase =>
        match round1Result e.engineState.quorumSize phase with
        | some result => proceedToRound2 env m.phaseId result phase.round1Votes
            (e.mapState (EngineState.updatePhase m.phaseId (·.addRound1Vote sender m.vote)))
        | none => ⟨.ok (),
            e.mapState (EngineState.updatePhase m.phaseId (·.addRound1Vote sender m.vote)), []⟩
      | none => ⟨.ok (),
          e.mapState (EngineState.updatePhase m.phaseId (·.addRound1Vote sender m.vote)), []⟩ := by
  have touched := touches_updatePhase m.phaseId (·.addRound1Vote sender m.vote) e
  rw [← touched.at_self, ← touched.quorumSize]
  unfold handleVoteRound1
  rw [updatePhase, modifyState, modify_bind, readState, read_bind, Engine.getPhase, readState,
    read_bind]
  cases present : RabiaEngine.getPhase m.phaseId (e.mapState
      (EngineState.updatePhase m.phaseId (·.addRound1Vote sender m.vote))) with
  | none =>
      rw [show EngineState.getPhase _ _ = _ from present]
      rfl
  | some phase =>
      rw [show EngineState.getPhase _ _ = _ from present]
      dsimp only
      unfold round1Result
      cases phase.hasRound1Majority _ with
      | some majorityVote => rfl
      | none =>
          dsimp only
          split <;> rfl

omit [StateMachine SM] in
theorem handleVoteRound1_effects (env : Env) (sender : NodeId) (m : VoteRound1Message)
    (e : RabiaEngine SM) :
    (handleVoteRound1 env sender m e).effects =
      match (e.getPhase m.phaseId).map (·.addRound1Vote sender m.vote) with
      | some phase =>
        match round1Result e.engineState.quorumSize phase with
        | some result => [ballot env e m.phaseId phase
            (round2VoteFor env.draw phase.round1Votes result)]
        | none => []
      | none => [] := by
  have recorded := (touches_updatePhase m.phaseId (·.addRound1Vote sender m.vote) e).at_self
  rw [handleVoteRound1_apply]
  cases present : (e.getPhase m.phaseId).map (·.addRound1Vote sender m.vote) with
  | none => rfl
  | some phase =>
      dsimp only
      rw [present] at recorded
      cases round1Result e.engineState.quorumSize phase with
      | none => rfl
      | some result => exact (proceedToRound2_spec env result recorded).2

theorem deed_handleVoteRound1 (env : Env) {sender : NodeId} {message : ProtocolMessage}
    {m : VoteRound1Message} (e : RabiaEngine SM)
    (received : Received env sender message (.voteRound1 m)) :
    Deed env e (.message sender message) (handleVoteRound1 env sender m e).state
      (handleVoteRound1 env sender m e).effects := by
  have touched := touches_updatePhase m.phaseId (·.addRound1Vote sender m.vote) e
  have mark := sameMark_updatePhase m.phaseId (·.addRound1Vote sender m.vote) e
  rw [handleVoteRound1_apply]
  cases present : e.getPhase m.phaseId with
  | none =>
      -- `update_phase` succeeds without a record, and the vote is gone
      refine Deed.counted received (fun phase h => ?_) touched mark
      rw [present] at h
      cases h
  | some phase =>
      dsimp only [Option.map_some]
      cases reached : round1Result e.engineState.quorumSize
          (phase.addRound1Vote sender m.vote) with
      | none =>
          refine Deed.counted received (fun phase' h => ?_) touched mark
          rw [present] at h
          cases h
          exact reached
      | some result =>
          have recorded := touched.at_self
          rw [present] at recorded
          obtain ⟨state, effects⟩ := proceedToRound2_spec env result recorded
          rw [state, effects]
          have voted := touches_updatePhase m.phaseId (·.addRound2Vote e.nodeId
            (round2VoteFor env.draw (phase.addRound1Vote sender m.vote).round1Votes result))
            (e.mapState (EngineState.updatePhase m.phaseId (·.addRound1Vote sender m.vote)))
          exact Deed.cast received present reached rfl (touched.comp voted)
            ((sameMark_updatePhase _ _ _).trans mark)

omit [StateMachine SM] in
theorem getPhase_bind {β : Type} (p : PhaseId) (f : Option PhaseData → EngineM SM β)
    (e : RabiaEngine SM) : (Engine.getPhase p >>= f) e = f (e.getPhase p) e := rfl

/-- The middle of `make_decision`: run the batch of the record. -/
def runStored (env : Env) (p : PhaseId) : EngineM SM Unit := do
  match (← Engine.getPhase p).bind (·.batch) with
  | some batch => applyAndCommit env p batch
  | none => pure ()

/-- The end of `make_decision`. -/
def announce (env : Env) (p : PhaseId) (decision : StateValue) : EngineM SM Unit := do
  match ← Engine.getPhase p with
  | some phase =>
    let nodeId ← read (·.nodeId)
    broadcast env <| ProtocolMessage.decision nodeId env.now
      { phaseId := p, batchId := phase.batchId.getD ⟨env.uuid⟩, decision, batch := phase.batch }
  | none => throw (.internal s!"Phase {p} not found for decision broadcast")

omit [StateMachine SM] in
theorem announce_spec (env : Env) {p : PhaseId} (decision : StateValue) {phase : PhaseData}
    {e : RabiaEngine SM} (present : e.getPhase p = some phase) :
    (announce env p decision e).state = e ∧
      (announce env p decision e).effects = [verdict env e p phase decision] := by
  unfold announce
  rw [getPhase_bind, present]
  exact ⟨rfl, rfl⟩

theorem makeDecision_eq (env : Env) (p : PhaseId) (decision : StateValue)
    (e : RabiaEngine SM) :
    makeDecision env p decision e =
      (((if decision = .v1 then runStored env p else pure ()) >>= fun _ =>
        announce env p decision)
          (e.mapState (EngineState.updatePhase p (·.setDecision decision)))).after
            [.decide p decision] := rfl

/-- `make_decision` without a batch to run. -/
theorem makeDecision_idle (env : Env) {p : PhaseId} {decision : StateValue}
    {phase : PhaseData} {e : RabiaEngine SM} (present : e.getPhase p = some phase)
    (idle : decision = .v1 → phase.batch = none) :
    (makeDecision env p decision e).state =
        e.mapState (EngineState.updatePhase p (·.setDecision decision)) ∧
      (makeDecision env p decision e).effects =
        [.decide p decision, verdict env e p phase decision] := by
  have recorded := (touches_updatePhase p (·.setDecision decision) e).at_self
  rw [present] at recorded
  obtain ⟨state, effects⟩ := announce_spec env decision recorded
  have nothing : (if decision = .v1 then runStored env p else pure ())
      (e.mapState (EngineState.updatePhase p (·.setDecision decision))) =
        (⟨.ok (), e.mapState (EngineState.updatePhase p (·.setDecision decision)), []⟩ :
          Outcome RabiaError (RabiaEngine SM) Effect Unit) := by
    by_cases accepted : decision = .v1
    · rw [if_pos accepted, runStored, getPhase_bind, recorded, Option.map_some,
        Option.bind_some, PhaseData.setDecision_batch, idle accepted]
      rfl
    · rw [if_neg accepted]
      rfl
  rw [makeDecision_eq, bind_ok nothing, after_nil, after_state, after_effects, state, effects]
  exact ⟨rfl, rfl⟩

/-- `make_decision` V1 with a batch to run: the batch lands, and the decision is
broadcast when it was applied and committed. -/
theorem makeDecision_runs (env : Env) {p : PhaseId} {phase : PhaseData} {batch : CommandBatch}
    {e : RabiaEngine SM} (present : e.getPhase p = some phase)
    (stored : phase.batch = some batch) :
    Touches p (·.setDecision .v1) e (makeDecision env p .v1 e).state ∧
      Lands p batch e (makeDecision env p .v1 e).state ∧
      (makeDecision env p .v1 e).effects = .decide p .v1 :: .applyBatch p batch ::
        if CommandsSucceed e batch ∧ p ≤ e.engineState.currentPhase
          then [verdict env e p phase .v1] else [] := by
  have touched := touches_updatePhase p (·.setDecision .v1) e
  have recorded := touched.at_self
  rw [present] at recorded
  obtain ⟨said, frame, lands⟩ := lands_applyAndCommit env p batch
    (e.mapState (EngineState.updatePhase p (·.setDecision .v1)))
  have succeeds := applyAndCommit_succeeds_iff env p batch
    (e.mapState (EngineState.updatePhase p (·.setDecision .v1)))
  have phase_same : (e.mapState (EngineState.updatePhase p
      (·.setDecision .v1))).engineState.currentPhase = e.engineState.currentPhase :=
    EngineState.updatePhase_currentPhase p _ e.engineState
  rw [phase_same] at succeeds
  have middle : runStored env p (e.mapState (EngineState.updatePhase p (·.setDecision .v1))) =
      applyAndCommit env p batch
        (e.mapState (EngineState.updatePhase p (·.setDecision .v1))) := by
    rw [runStored, getPhase_bind, recorded, Option.map_some, Option.bind_some,
      PhaseData.setDecision_batch, stored]
  rw [makeDecision_eq, if_pos rfl]
  cases outcome : applyAndCommit env p batch
      (e.mapState (EngineState.updatePhase p (·.setDecision .v1))) with
  | mk result e' w =>
      rw [outcome] at said frame lands middle succeeds
      have decided : Touches p (·.setDecision .v1) e e' := touched.frame frame
      cases result with
      | error err =>
          -- nothing is taken back, and the decision is not broadcast
          have failed : ¬ (CommandsSucceed e batch ∧ p ≤ e.engineState.currentPhase) :=
            fun committed => nomatch succeeds.mpr committed
          rw [bind_error middle, if_neg failed]
          refine ⟨decided, lands.of_updatePhase, ?_⟩
          exact congrArg (Effect.decide p .v1 :: ·) said
      | ok _ =>
          have present' := frame.getPhase p
          rw [recorded] at present'
          obtain ⟨state, effects⟩ := announce_spec env .v1 present'
          have committed : CommandsSucceed e batch ∧ p ≤ e.engineState.currentPhase :=
            succeeds.mp rfl
          rw [bind_ok middle, after_state, after_state, after_effects, after_effects, state,
            effects, if_pos committed]
          refine ⟨decided, lands.of_updatePhase, ?_⟩
          rw [show w = [.applyBatch p batch] from said]
          unfold verdict
          rw [decided.nodeId]
          rfl

/-- `handle_vote_round2` once the vote is recorded. -/
theorem handleVoteRound2_apply (env : Env) (sender : NodeId) (m : VoteRound2Message)
    (e : RabiaEngine SM) :
    handleVoteRound2 env sender m e =
      match ((e.getPhase m.phaseId).map (·.addRound2Vote sender m.vote)).bind
        (·.hasRound2Majority e.engineState.quorumSize) with
      | some decision => makeDecision env m.phaseId decision
          (e.mapState (EngineState.updatePhase m.phaseId (·.addRound2Vote sender m.vote)))
      | none => ⟨.ok (),
          e.mapState (EngineState.updatePhase m.phaseId (·.addRound2Vote sender m.vote)), []⟩ := by
  have touched := touches_updatePhase m.phaseId (·.addRound2Vote sender m.vote) e
  unfold handleVoteRound2
  rw [updatePhase, modifyState, modify_bind, readState, read_bind, touched.quorumSize,
    getPhase_bind, touched.at_self]
  cases ((e.getPhase m.phaseId).map (·.addRound2Vote sender m.vote)).bind
      (·.hasRound2Majority e.engineState.quorumSize) with
  | none => rfl
  | some decision => rfl

theorem deed_handleVoteRound2 (env : Env) {sender : NodeId} {message : ProtocolMessage}
    {m : VoteRound2Message} (e : RabiaEngine SM)
    (received : Received env sender message (.voteRound2 m)) :
    Deed env e (.message sender message) (handleVoteRound2 env sender m e).state
      (handleVoteRound2 env sender m e).effects := by
  have touched := touches_updatePhase m.phaseId (·.addRound2Vote sender m.vote) e
  have mark := sameMark_updatePhase m.phaseId (·.addRound2Vote sender m.vote) e
  have recorded := touched.at_self
  rw [handleVoteRound2_apply]
  cases present : e.getPhase m.phaseId with
  | none =>
      refine Deed.tallied received (fun phase h => ?_) touched mark
      rw [present] at h
      cases h
  | some phase =>
      rw [present] at recorded
      rw [Option.map_some, Option.bind_some]
      cases majority : (phase.addRound2Vote sender m.vote).hasRound2Majority
          e.engineState.quorumSize with
      | none =>
          refine Deed.tallied received (fun phase' h => ?_) touched mark
          rw [present] at h
          cases h
          exact majority
      | some decision =>
          by_cases runs : decision = .v1 ∧ ∃ batch, phase.batch = some batch
          · -- `make_decision` runs again at every vote that finds a majority
            obtain ⟨rfl, batch, stored⟩ := runs
            obtain ⟨decided, lands, effects⟩ := makeDecision_runs env recorded stored
            refine Deed.executed received present majority stored (touched.comp decided)
              lands.of_updatePhase ?_
            dsimp only
            rw [effects]
            split
            · exact Or.inr rfl
            · exact Or.inl rfl
          · have idle : decision = .v1 → phase.batch = none := by
              intro accepted
              by_contra stored
              exact runs ⟨accepted, Option.ne_none_iff_exists'.mp stored⟩
            obtain ⟨state, said⟩ := makeDecision_idle env recorded idle
            dsimp only
            rw [state, said]
            have deed := Deed.decided received present majority idle
              (touched.comp (touches_updatePhase m.phaseId (·.setDecision decision) _))
              ((sameMark_updatePhase _ _ _).trans mark)
            exact deed

theorem handleDecision_effects (env : Env) (sender : NodeId) (m : DecisionMessage)
    (e : RabiaEngine SM) :
    (handleDecision env sender m e).effects =
      match decisionBatch e m with
      | some batch => [.applyBatch m.phaseId batch]
      | none => [] := by
  rw [handleDecision_apply]
  cases decisionBatch e m with
  | none => rfl
  | some batch => exact (lands_applyAndCommit env m.phaseId batch _).1

theorem deed_handleDecision (env : Env) {sender : NodeId} {message : ProtocolMessage}
    {m : DecisionMessage} (e : RabiaEngine SM)
    (received : Received env sender message (.decision m)) :
    Deed env e (.message sender message) (handleDecision env sender m e).state
      (handleDecision env sender m e).effects := by
  have touched := touches_updatePhase m.phaseId (receivedDecision m) e
  have mark := sameMark_updatePhase m.phaseId (receivedDecision m) e
  rw [handleDecision_apply]
  cases runs : decisionBatch e m with
  | none =>
      refine Deed.learned received (fun accepted batch carried => ?_) touched mark
      by_contra above
      have some := decisionBatch_eq_some.mpr ⟨⟨accepted, Nat.not_le.mp above⟩, carried⟩
      rw [runs] at some
      cases some
  | some batch =>
      obtain ⟨⟨accepted, above⟩, carried⟩ := decisionBatch_eq_some.mp runs
      obtain ⟨said, frame, lands⟩ := lands_applyAndCommit env m.phaseId batch
        (e.mapState (EngineState.updatePhase m.phaseId (receivedDecision m)))
      dsimp only
      rw [said]
      exact Deed.adopted received accepted carried above (touched.frame frame)
        lands.of_updatePhase

theorem deed_dispatch (env : Env) {sender : NodeId} {message : ProtocolMessage}
    (e : RabiaEngine SM) (received : Received env sender message message.messageType) :
    Deed env e (.message sender message) (dispatch env sender message.messageType e).state
      (dispatch env sender message.messageType e).effects := by
  have foreign : message.messageType.utterance = none →
      Ignores env e (.message sender message) := fun foreign => Ignores.foreign foreign
  cases payload : message.messageType with
  | propose m => exact deed_handlePropose env e (payload ▸ received)
  | voteRound1 m => exact deed_handleVoteRound1 env e (payload ▸ received)
  | voteRound2 m => exact deed_handleVoteRound2 env e (payload ▸ received)
  | decision m => exact deed_handleDecision env e (payload ▸ received)
  | syncRequest m =>
      exact Deed.aside (foreign (payload ▸ rfl)) (within_handleSyncRequest env sender m e)
  | syncResponse m =>
      exact Deed.aside (foreign (payload ▸ rfl)) (within_handleSyncResponse env sender m e)
  | newBatch m =>
      exact Deed.aside (foreign (payload ▸ rfl))
        (within_modifyState (EngineState.keeps_addPendingBatch m.batch m.originator env.now) e)
  | heartBeat m => exact Deed.aside (foreign (payload ▸ rfl)) (aside_path.nil e)
  | quorumNotification m => exact Deed.aside (foreign (payload ▸ rfl)) (aside_path.nil e)

theorem deed_message (env : Env) (sender : NodeId) (message : ProtocolMessage)
    (e : RabiaEngine SM) :
    Deed env e (.message sender message) (handle env (.message sender message) e).state
      (handle env (.message sender message) e).effects := by
  by_cases received : Received env sender message message.messageType
  · rw [handle_of_received received]
    exact deed_dispatch env e received
  · obtain ⟨state, effects⟩ := handle_of_not_received received e
    rw [state, effects]
    exact Deed.aside (Ignores.rejected received) (aside_path.nil e)

theorem deed_handleCommand (env : Env) (command : EngineCommand) (e : RabiaEngine SM) :
    Deed env e (.command command) (handleCommand env command e).state
      (handleCommand env command e).effects := by
  cases command with
  | processBatch request => exact deed_processBatchRequest env request e
  | shutdown => exact Deed.aside (Ignores.foreign trivial) (aside_path.nil e)
  | forcePhaseAdvance => exact Deed.aside (Ignores.foreign trivial) (within_advanceToNextPhase e)
  | triggerSync => exact Deed.aside (Ignores.foreign trivial) (within_initiateSync env e)
  | getStatistics responseTx =>
      refine Deed.aside (Ignores.foreign trivial) ⟨rfl, EngineState.Keeps.refl _, fun x hx => ?_⟩
      rw [List.mem_singleton.mp hx]
      rfl

/-- Whatever happens to an engine is one of the deeds. -/
theorem deed_of_handle (env : Env) (event : Event) (e : RabiaEngine SM) :
    Deed env e event (handle env event e).state (handle env event e).effects := by
  cases event with
  | message sender message => exact deed_message env sender message e
  | command command => exact deed_handleCommand env command e
  | cleanup =>
      have pending := EngineState.keeps_cleanupOldPendingBatches 300 env.now
        (e.engineState.cleanupOldPhases e.config.maxPhaseHistory env.now)
      refine Deed.cleaned rfl ?_ (fun q => ?_) ?_
      · exact pending.quorumSize.trans (EngineState.cleanupOldPhases_quorumSize _ _ _)
      · exact (pending.getPhase q).trans (EngineState.getPhase_cleanupOldPhases _ _ _ q)
      · exact pending.lastCommittedPhase.trans
          (EngineState.cleanupOldPhases_lastCommittedPhase _ _ _)
  | heartbeat => exact Deed.aside (Ignores.foreign trivial) (within_sendHeartbeat env e)
  | networkPartition activeNodes =>
      exact Deed.aside (Ignores.foreign trivial)
        (within_modifyState (EngineState.keeps_updateActiveNodes activeNodes) e)
  | quorumLost =>
      exact Deed.aside (Ignores.foreign trivial)
        (within_modifyState (EngineState.keeps_setActive false) e)
  | quorumRestored activeNodes =>
      exact Deed.aside (Ignores.foreign trivial) (Within.bind aside_path
        (within_modifyState (EngineState.keeps_updateActiveNodes activeNodes))
        (fun _ => within_modifyState (EngineState.keeps_setActive true)) e)
  | clusterMembership nodes =>
      exact Deed.aside (Ignores.foreign trivial)
        (Within.bind aside_path (within_updateClusterMembership nodes)
          (fun _ => Within.pure aside_path _) e)
  | createPhase p =>
      exact Deed.created rfl (EngineState.getOrCreatePhase_quorumSize p env.now e.engineState)
        (fun q => EngineState.getPhase_getOrCreatePhase p q env.now e.engineState)
        (EngineState.getOrCreatePhase_lastCommittedPhase p env.now e.engineState)

/-- No event renames an engine or changes its quorum. -/
theorem deed_steady {env : Env} {e e' : RabiaEngine SM} {event : Event} {effects : List Effect}
    (deed : Deed env e event e' effects) :
    e'.nodeId = e.nodeId ∧ e'.engineState.quorumSize = e.engineState.quorumSize := by
  cases deed with
  | aside _ aside => exact ⟨aside.nodeId, aside.state.quorumSize⟩
  | created nodeId quorumSize _ _ => exact ⟨nodeId, quorumSize⟩
  | cleaned nodeId quorumSize _ _ => exact ⟨nodeId, quorumSize⟩
  | proposed _ touches _ => exact ⟨touches.nodeId, touches.quorumSize⟩
  | answered _ _ touches _ => exact ⟨touches.nodeId, touches.quorumSize⟩
  | counted _ _ touches _ => exact ⟨touches.nodeId, touches.quorumSize⟩
  | cast _ _ _ _ touches _ => exact ⟨touches.nodeId, touches.quorumSize⟩
  | tallied _ _ touches _ => exact ⟨touches.nodeId, touches.quorumSize⟩
  | decided _ _ _ _ touches _ => exact ⟨touches.nodeId, touches.quorumSize⟩
  | executed _ _ _ _ touches _ _ => exact ⟨touches.nodeId, touches.quorumSize⟩
  | learned _ _ touches _ => exact ⟨touches.nodeId, touches.quorumSize⟩
  | adopted _ _ _ _ touches _ => exact ⟨touches.nodeId, touches.quorumSize⟩

end Inversion

end Rabia.Engine
