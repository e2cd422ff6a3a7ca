import Rabia.Engine.Deeds

/-!
# Why something was said, and where a record comes from

Two readings of `Deed`, one for each direction in which a proof about the voting
goes: `Reason` tells, for one utterance of an event, what made the engine say it;
`Revision` tells, for one record after the event, what it was before.
-/

namespace Rabia.Engine

open Rabia.Lib

variable {SM : Type}

/-! ## Utterances -/

/-- Why the engine `e` uttered an utterance when an event happens. -/
inductive Reason (env : Env) (e : RabiaEngine SM) : Event → Utterance → Prop where
  | proposal {request} (quorum : e.engineState.hasQuorum = true) :
      Reason env e (.command (.processBatch request))
        (.proposal (nextPhase e) .v1 (some request.batch))
  | round1 {sender message m} (received : Received env sender message (.propose m))
      (quorum : e.engineState.hasQuorum = true) :
      Reason env e (.message sender message)
        (.round1 m.phaseId (determineRound1Vote env.draw (e.getPhase m.phaseId) m))
  | round2 {sender message m phase result}
      (received : Received env sender message (.voteRound1 m))
      (present : e.getPhase m.phaseId = some phase)
      (reached : round1Result e.engineState.quorumSize
        (phase.addRound1Vote sender m.vote) = some result) :
      Reason env e (.message sender message)
        (.round2 m.phaseId
          (round2VoteFor env.draw (phase.addRound1Vote sender m.vote).round1Votes result))
  | decided {sender message m phase decision}
      (received : Received env sender message (.voteRound2 m))
      (present : e.getPhase m.phaseId = some phase)
      (majority : (phase.addRound2Vote sender m.vote).hasRound2Majority
        e.engineState.quorumSize = some decision) :
      Reason env e (.message sender message) (.decided m.phaseId decision)
  | decision {sender message m phase decision}
      (received : Received env sender message (.voteRound2 m))
      (present : e.getPhase m.phaseId = some phase)
      (majority : (phase.addRound2Vote sender m.vote).hasRound2Majority
        e.engineState.quorumSize = some decision) :
      Reason env e (.message sender message) (.decision m.phaseId decision phase.batch)
  | executed {sender message m phase batch}
      (received : Received env sender message (.voteRound2 m))
      (present : e.getPhase m.phaseId = some phase)
      (majority : (phase.addRound2Vote sender m.vote).hasRound2Majority
        e.engineState.quorumSize = some .v1)
      (stored : phase.batch = some batch) :
      Reason env e (.message sender message) (.applied m.phaseId batch)
  | adopted {sender message m batch} (received : Received env sender message (.decision m))
      (accepted : m.decision = .v1) (carried : m.batch = some batch)
      (above : e.engineState.lastCommittedPhase < m.phaseId) :
      Reason env e (.message sender message) (.applied m.phaseId batch)

/-- Running a batch says the decision, the application and perhaps the verdict. -/
theorem mem_executed {env : Env} {e : RabiaEngine SM} {p : PhaseId} {phase : PhaseData}
    {batch : CommandBatch} {w : List Effect}
    (said : w = [.decide p .v1, .applyBatch p batch] ∨
      w = [.decide p .v1, .applyBatch p batch, verdict env e p phase .v1])
    {x : Effect} (hx : x ∈ w) :
    x = .decide p .v1 ∨ x = .applyBatch p batch ∨ x = verdict env e p phase .v1 := by
  rcases said with rfl | rfl
  · rcases List.mem_cons.mp hx with h | hx
    · exact Or.inl h
    · exact Or.inr (Or.inl (List.mem_singleton.mp hx))
  · rcases List.mem_cons.mp hx with h | hx
    · exact Or.inl h
    rcases List.mem_cons.mp hx with h | hx
    · exact Or.inr (Or.inl h)
    · exact Or.inr (Or.inr (List.mem_singleton.mp hx))

/-- Everything said has its reason. -/
theorem reason_of_deed [StateMachine SM] {env : Env} {e e' : RabiaEngine SM}
    {event : Event} {w : List Effect} (deed : Deed env e event e' w)
    {x : Effect} (hx : x ∈ w) {u : Utterance}
    (uttered : x.utterance = some u) : Reason env e event u := by
  cases deed with
  | aside _ aside =>
      rw [aside.effects x hx] at uttered
      cases uttered
  | created _ _ _ _ => cases hx
  | cleaned _ _ _ _ => cases hx
  | proposed quorum _ _ =>
      rw [List.mem_singleton.mp hx] at uttered
      cases uttered
      exact Reason.proposal quorum
  | answered received quorum _ _ =>
      rw [List.mem_singleton.mp hx] at uttered
      cases uttered
      exact Reason.round1 received quorum
  | counted _ _ _ _ => cases hx
  | cast received present reached drawn _ _ =>
      rw [List.mem_singleton.mp hx] at uttered
      cases uttered
      rw [drawn]
      exact Reason.round2 received present reached
  | tallied _ _ _ _ => cases hx
  | decided received present majority _ _ _ =>
      rcases List.mem_cons.mp hx with rfl | hx
      · cases uttered
        exact Reason.decided received present majority
      · rw [List.mem_singleton.mp hx] at uttered
        cases uttered
        exact Reason.decision received present majority
  | executed received present majority stored _ _ said =>
      rcases mem_executed said hx with rfl | rfl | rfl
      · cases uttered
        exact Reason.decided received present majority
      · cases uttered
        exact Reason.executed received present majority stored
      · cases uttered
        exact Reason.decision received present majority
  | learned _ _ _ _ => cases hx
  | adopted received accepted carried above _ _ =>
      rw [List.mem_singleton.mp hx] at uttered
      cases uttered
      exact Reason.adopted received accepted carried above

/-- Only round-1 votes are sent to a single node. -/
theorem direct_of_deed [StateMachine SM] {env : Env} {e e' : RabiaEngine SM}
    {event : Event} {w : List Effect} (deed : Deed env e event e' w)
    {target : NodeId} {message : ProtocolMessage}
    (sent : .sendTo target message ∈ w) {u : Utterance}
    (uttered : message.messageType.utterance = some u) : ∃ p v, u = .round1 p v := by
  cases deed with
  | aside _ aside =>
      have silent := aside.effects _ sent
      cases uttered.symm.trans silent
  | created _ _ _ _ => cases sent
  | cleaned _ _ _ _ => cases sent
  | proposed _ _ _ => cases List.mem_singleton.mp sent
  | answered _ _ _ _ =>
      cases List.mem_singleton.mp sent
      cases uttered
      exact ⟨_, _, rfl⟩
  | counted _ _ _ _ => cases sent
  | cast _ _ _ _ _ _ => cases List.mem_singleton.mp sent
  | tallied _ _ _ _ => cases sent
  | decided _ _ _ _ _ _ =>
      rcases List.mem_cons.mp sent with h | h
      · cases h
      · cases List.mem_singleton.mp h
  | executed _ _ _ _ _ _ said =>
      rcases mem_executed said sent with h | h | h
      · cases h
      · cases h
      · cases h
  | learned _ _ _ _ => cases sent
  | adopted _ _ _ _ _ _ => cases List.mem_singleton.mp sent

/-- What the record of an engine shows of a vote that it cast: of a round-1 vote
that a value was proposed, of a round-2 vote the vote. -/
def Remembers (e : RabiaEngine SM) : Utterance → Prop
  | .round1 p _ => ∀ phase, e.getPhase p = some phase → phase.proposedValue ≠ none
  | .round2 p v => ∀ phase, e.getPhase p = some phase →
      phase.round2Votes.lookup e.nodeId = some v
  | _ => True

/-- An engine remembers the vote that it casts. -/
theorem remembers_of_deed [StateMachine SM] {env : Env} {e e' : RabiaEngine SM} {event : Event}
    {w : List Effect} (deed : Deed env e event e' w) {x : Effect} (hx : x ∈ w) {u : Utterance}
    (uttered : x.utterance = some u) : Remembers e' u := by
  cases deed with
  | aside _ aside => cases uttered.symm.trans (aside.effects x hx)
  | created _ _ _ _ | cleaned _ _ _ _ | counted _ _ _ _ | tallied _ _ _ _ | learned _ _ _ _ =>
      cases hx
  | proposed _ _ _ =>
      cases List.mem_singleton.mp hx
      cases uttered
      trivial
  | answered received quorum touches _ =>
      cases List.mem_singleton.mp hx
      cases uttered
      intro phase' present forgotten
      rw [touches.at_self] at present
      obtain ⟨phase, -, rfl⟩ := Option.map_eq_some_iff.mp present
      rw [receivedProposal_proposedValue] at forgotten
      exact Option.some_ne_none _ (Option.or_eq_none_iff.mp forgotten).2
  | cast received before reached drawn touches _ =>
      cases List.mem_singleton.mp hx
      cases uttered
      intro phase' present
      rw [touches.at_self, before] at present
      cases present
      rw [touches.nodeId]
      exact Finmap.lookup_insert _
  | decided _ _ _ _ _ _ =>
      rcases List.mem_cons.mp hx with rfl | hx
      · cases uttered
        trivial
      · cases List.mem_singleton.mp hx
        cases uttered
        trivial
  | executed _ _ _ _ _ _ said =>
      rcases mem_executed said hx with rfl | rfl | rfl
      · cases uttered
        trivial
      · cases uttered
        trivial
      · cases uttered
        trivial
  | adopted _ _ _ _ _ _ =>
      cases List.mem_singleton.mp hx
      cases uttered
      trivial

/-! ## Records -/

/-- What the record `phase'` of `q` was before an event with the effects `w`. -/
inductive Revision (env : Env) (e : RabiaEngine SM) (q : PhaseId) (w : List Effect) :
    Event → PhaseData → Prop where
  | kept {event phase} (present : e.getPhase q = some phase) : Revision env e q w event phase
  | fresh (absent : e.getPhase q = none) :
      Revision env e q w (.createPhase q) (PhaseData.new q env.now)
  | proposed {request phase} (present : e.getPhase q = some phase) (next : nextPhase e = q)
      (said : proposal env e request.batch ∈ w) :
      Revision env e q w (.command (.processBatch request))
        (ownProposal request.batch.id request.batch phase)
  | answered {sender message m phase} (received : Received env sender message (.propose m))
      (present : e.getPhase q = some phase) (about : m.phaseId = q) :
      Revision env e q w (.message sender message) (receivedProposal m phase)
  | counted {sender message m phase} (received : Received env sender message (.voteRound1 m))
      (present : e.getPhase q = some phase) (about : m.phaseId = q) :
      Revision env e q w (.message sender message) (phase.addRound1Vote sender m.vote)
  | cast {sender message m phase vote} (received : Received env sender message (.voteRound1 m))
      (present : e.getPhase q = some phase) (about : m.phaseId = q)
      (said : ballot env e q (phase.addRound1Vote sender m.vote) vote ∈ w) :
      Revision env e q w (.message sender message)
        ((phase.addRound1Vote sender m.vote).addRound2Vote e.nodeId vote)
  | tallied {sender message m phase} (received : Received env sender message (.voteRound2 m))
      (present : e.getPhase q = some phase) (about : m.phaseId = q) :
      Revision env e q w (.message sender message) (phase.addRound2Vote sender m.vote)
  | decided {sender message m phase decision}
      (received : Received env sender message (.voteRound2 m))
      (present : e.getPhase q = some phase) (about : m.phaseId = q) :
      Revision env e q w (.message sender message)
        ((phase.addRound2Vote sender m.vote).setDecision decision)
  | learned {sender message m phase} (received : Received env sender message (.decision m))
      (present : e.getPhase q = some phase) (about : m.phaseId = q) :
      Revision env e q w (.message sender message) (receivedDecision m phase)

/-- A record after `Touches` is untouched, or the touched one. -/
theorem Touches.before {p q : PhaseId} {f : PhaseData → PhaseData} {e e' : RabiaEngine SM}
    (h : Touches p f e e') {phase' : PhaseData} (present : e'.getPhase q = some phase') :
    e.getPhase q = some phase' ∨
      p = q ∧ ∃ phase, e.getPhase q = some phase ∧ phase' = f phase := by
  rw [h.getPhase q] at present
  by_cases hq : q = p
  · right
    rw [if_pos hq] at present
    obtain ⟨phase, before, rfl⟩ := Option.map_eq_some_iff.mp present
    subst hq
    exact ⟨rfl, phase, before, rfl⟩
  · left
    rw [if_neg hq] at present
    exact present

/-- Every record has its revision. -/
theorem revision_of_deed [StateMachine SM] {env : Env} {e e' : RabiaEngine SM}
    {event : Event} {w : List Effect} (deed : Deed env e event e' w)
    {q : PhaseId} {phase' : PhaseData}
    (present : e'.getPhase q = some phase') : Revision env e q w event phase' := by
  cases deed with
  | aside _ aside =>
      rw [aside.frame.getPhase q] at present
      exact Revision.kept present
  | created _ _ getPhase _ =>
      rcases record_of_created getPhase present with kept | ⟨rfl, absent, rfl⟩
      · exact Revision.kept kept
      · exact Revision.fresh absent
  | cleaned _ _ getPhase _ => exact Revision.kept (record_of_cleaned getPhase present)
  | proposed quorum touches _ =>
      rcases touches.before present with kept | ⟨next, phase, before, rfl⟩
      · exact Revision.kept kept
      · exact Revision.proposed before next (List.mem_singleton.mpr rfl)
  | answered received _ touches _ =>
      rcases touches.before present with kept | ⟨about, phase, before, rfl⟩
      · exact Revision.kept kept
      · exact Revision.answered received before about
  | counted received _ touches _ =>
      rcases touches.before present with kept | ⟨about, phase, before, rfl⟩
      · exact Revision.kept kept
      · exact Revision.counted received before about
  | cast received before' reached drawn touches _ =>
      rcases touches.before present with kept | ⟨rfl, phase, before, rfl⟩
      · exact Revision.kept kept
      · cases before.symm.trans before'
        exact Revision.cast received before rfl (List.mem_singleton.mpr rfl)
  | tallied received _ touches _ =>
      rcases touches.before present with kept | ⟨about, phase, before, rfl⟩
      · exact Revision.kept kept
      · exact Revision.tallied received before about
  | decided received _ _ _ touches _ =>
      rcases touches.before present with kept | ⟨about, phase, before, rfl⟩
      · exact Revision.kept kept
      · exact Revision.decided received before about
  | executed received _ _ _ touches _ _ =>
      rcases touches.before present with kept | ⟨about, phase, before, rfl⟩
      · exact Revision.kept kept
      · exact Revision.decided received before about
  | learned received _ touches _ =>
      rcases touches.before present with kept | ⟨about, phase, before, rfl⟩
      · exact Revision.kept kept
      · exact Revision.learned received before about
  | adopted received _ _ _ touches _ =>
      rcases touches.before present with kept | ⟨about, phase, before, rfl⟩
      · exact Revision.kept kept
      · exact Revision.learned received before about

/-! ## Where the fields of a record come from -/

section Origin

variable {env : Env} {e : RabiaEngine SM} {q : PhaseId} {w : List Effect} {event : Event}
  {phase' : PhaseData}

/-- A vote added to a tally is the new one or an old one. -/
theorem lookup_insert_cases {votes : Table NodeId StateValue} {voter node : NodeId}
    {vote v : StateValue} (h : (votes.insert voter vote).lookup node = some v) :
    node = voter ∧ vote = v ∨ votes.lookup node = some v := by
  rw [Table.lookup_insert] at h
  by_cases same : node = voter
  · rw [if_pos same] at h
    cases h
    exact Or.inl ⟨same, rfl⟩
  · rw [if_neg same] at h
    exact Or.inr h

/-- A recorded round-1 vote was recorded before or is being received. -/
theorem Revision.round1 (rev : Revision env e q w event phase') {node : NodeId} {v : StateValue}
    (recorded : phase'.round1Votes.lookup node = some v) :
    (∃ phase, e.getPhase q = some phase ∧ phase.round1Votes.lookup node = some v) ∨
      ∃ message m, event = .message node message ∧ Received env node message (.voteRound1 m) ∧
        m.phaseId = q ∧ m.vote = v := by
  cases rev with
  | kept present => exact Or.inl ⟨_, present, recorded⟩
  | fresh absent => cases recorded
  | proposed present _ _ => exact Or.inl ⟨_, present, by simpa using recorded⟩
  | answered _ present _ => exact Or.inl ⟨_, present, by simpa using recorded⟩
  | counted received present about =>
      rw [PhaseData.addRound1Vote_round1Votes] at recorded
      rcases lookup_insert_cases recorded with ⟨rfl, rfl⟩ | old
      · exact Or.inr ⟨_, _, rfl, received, about, rfl⟩
      · exact Or.inl ⟨_, present, old⟩
  | cast received present about _ =>
      rw [PhaseData.addRound2Vote_round1Votes, PhaseData.addRound1Vote_round1Votes] at recorded
      rcases lookup_insert_cases recorded with ⟨rfl, rfl⟩ | old
      · exact Or.inr ⟨_, _, rfl, received, about, rfl⟩
      · exact Or.inl ⟨_, present, old⟩
  | tallied _ present _ => exact Or.inl ⟨_, present, by simpa using recorded⟩
  | decided _ present _ => exact Or.inl ⟨_, present, by simpa using recorded⟩
  | learned _ present _ => exact Or.inl ⟨_, present, by simpa using recorded⟩

/-- A recorded round-2 vote was recorded before, is being received, or is the
engine's own and being sent. -/
theorem Revision.round2 (rev : Revision env e q w event phase') {node : NodeId} {v : StateValue}
    (recorded : phase'.round2Votes.lookup node = some v) :
    (∃ phase, e.getPhase q = some phase ∧ phase.round2Votes.lookup node = some v) ∨
      (∃ message m, event = .message node message ∧ Received env node message (.voteRound2 m) ∧
        m.phaseId = q ∧ m.vote = v) ∨
      (node = e.nodeId ∧ ∃ x ∈ w, x.utterance = some (.round2 q v)) := by
  cases rev with
  | kept present => exact Or.inl ⟨_, present, recorded⟩
  | fresh absent => cases recorded
  | proposed present _ _ => exact Or.inl ⟨_, present, by simpa using recorded⟩
  | answered _ present _ => exact Or.inl ⟨_, present, by simpa using recorded⟩
  | counted _ present _ => exact Or.inl ⟨_, present, by simpa using recorded⟩
  | cast _ present _ said =>
      rw [PhaseData.addRound2Vote_round2Votes, PhaseData.addRound1Vote_round2Votes] at recorded
      rcases lookup_insert_cases recorded with ⟨rfl, rfl⟩ | old
      · exact Or.inr (Or.inr ⟨rfl, _, said, rfl⟩)
      · exact Or.inl ⟨_, present, old⟩
  | tallied received present about =>
      rw [PhaseData.addRound2Vote_round2Votes] at recorded
      rcases lookup_insert_cases recorded with ⟨rfl, rfl⟩ | old
      · exact Or.inr (Or.inl ⟨_, _, rfl, received, about, rfl⟩)
      · exact Or.inl ⟨_, present, old⟩
  | decided received present about =>
      rw [PhaseData.setDecision_round2Votes, PhaseData.addRound2Vote_round2Votes] at recorded
      rcases lookup_insert_cases recorded with ⟨rfl, rfl⟩ | old
      · exact Or.inr (Or.inl ⟨_, _, rfl, received, about, rfl⟩)
      · exact Or.inl ⟨_, present, old⟩
  | learned _ present _ => exact Or.inl ⟨_, present, by simpa using recorded⟩

/-- A recorded batch was recorded before, is received with a proposal or a
decision, or is being proposed. -/
theorem Revision.batch (rev : Revision env e q w event phase') {batch : CommandBatch}
    (recorded : phase'.batch = some batch) :
    (∃ phase, e.getPhase q = some phase ∧ phase.batch = some batch) ∨
      (∃ sender message m, event = .message sender message ∧
        Received env sender message (.propose m) ∧ m.phaseId = q ∧ m.batch = some batch) ∨
      (∃ sender message m, event = .message sender message ∧
        Received env sender message (.decision m) ∧ m.phaseId = q ∧ m.batch = some batch) ∨
      ∃ x ∈ w, x.utterance = some (.proposal q .v1 (some batch)) := by
  cases rev with
  | kept present => exact Or.inl ⟨_, present, recorded⟩
  | fresh absent => cases recorded
  | proposed present next said =>
      cases recorded
      subst next
      exact Or.inr (Or.inr (Or.inr ⟨_, said, rfl⟩))
  | answered received present about =>
      rw [receivedProposal_batch] at recorded
      rcases Option.or_eq_some_iff.mp recorded with old | ⟨-, new⟩
      · exact Or.inl ⟨_, present, old⟩
      · exact Or.inr (Or.inl ⟨_, _, _, rfl, received, about, new⟩)
  | counted _ present _ => exact Or.inl ⟨_, present, by simpa using recorded⟩
  | cast _ present _ _ => exact Or.inl ⟨_, present, by simpa using recorded⟩
  | tallied _ present _ => exact Or.inl ⟨_, present, by simpa using recorded⟩
  | decided _ present _ => exact Or.inl ⟨_, present, by simpa using recorded⟩
  | learned received present about =>
      rw [receivedDecision_batch] at recorded
      rcases Option.or_eq_some_iff.mp recorded with old | ⟨-, new⟩
      · exact Or.inl ⟨_, present, old⟩
      · exact Or.inr (Or.inr (Or.inl ⟨_, _, _, rfl, received, about, new⟩))

/-- A recorded value was recorded before, is received with a proposal, or is V1. -/
theorem Revision.proposedValue (rev : Revision env e q w event phase') {v : StateValue}
    (recorded : phase'.proposedValue = some v) :
    (∃ phase, e.getPhase q = some phase ∧ phase.proposedValue = some v) ∨
      (∃ sender message m, event = .message sender message ∧
        Received env sender message (.propose m) ∧ m.phaseId = q ∧ m.value = v) ∨
      v = .v1 := by
  cases rev with
  | kept present => exact Or.inl ⟨_, present, recorded⟩
  | fresh absent => cases recorded
  | proposed present _ _ =>
      cases recorded
      exact Or.inr (Or.inr rfl)
  | answered received present about =>
      rw [receivedProposal_proposedValue] at recorded
      rcases Option.or_eq_some_iff.mp recorded with old | ⟨-, new⟩
      · exact Or.inl ⟨_, present, old⟩
      · cases new
        exact Or.inr (Or.inl ⟨_, _, _, rfl, received, about, rfl⟩)
  | counted _ present _ => exact Or.inl ⟨_, present, by simpa using recorded⟩
  | cast _ present _ _ => exact Or.inl ⟨_, present, by simpa using recorded⟩
  | tallied _ present _ => exact Or.inl ⟨_, present, by simpa using recorded⟩
  | decided _ present _ => exact Or.inl ⟨_, present, by simpa using recorded⟩
  | learned _ present _ => exact Or.inl ⟨_, present, by simpa using recorded⟩

end Origin

/-! ## Where the decision of a record comes from -/

/-- `phase'` has the decision `v`, set on top of `phase`. -/
structure Ruled (v : StateValue) (phase phase' : PhaseData) : Prop where
  decision : phase'.decision = some v
  isCommitted : phase'.isCommitted = if v ≠ .vQuestion then true else phase.isCommitted

/-- A record that is set to V0 or V1 is committed. -/
theorem Ruled.commits {v : StateValue} {phase phase' : PhaseData} (ruled : Ruled v phase phase')
    (clear : v ≠ .vQuestion) :
    phase'.isCommitted = true ↔ phase'.decision = some .v0 ∨ phase'.decision = some .v1 := by
  rw [ruled.isCommitted, ruled.decision, if_pos clear]
  cases v with
  | v0 => exact iff_of_true rfl (Or.inl rfl)
  | v1 => exact iff_of_true rfl (Or.inr rfl)
  | vQuestion => exact absurd rfl clear

/-- What became of the decision in the record of `q` in an event with the effects `w`. -/
inductive Ruling (env : Env) (e : RabiaEngine SM) (q : PhaseId) (w : List Effect) :
    Event → PhaseData → Prop where
  | kept {event phase phase'} (present : e.getPhase q = some phase)
      (decision : phase'.decision = phase.decision)
      (isCommitted : phase'.isCommitted = phase.isCommitted) : Ruling env e q w event phase'
  | fresh (absent : e.getPhase q = none) :
      Ruling env e q w (.createPhase q) (PhaseData.new q env.now)
  /-- A tally of the engine's own. -/
  | tallied {event phase phase' v} (present : e.getPhase q = some phase)
      (said : .decide q v ∈ w) (ruled : Ruled v phase phase') : Ruling env e q w event phase'
  /-- The decision of another engine. -/
  | learned {sender message m phase phase'} (present : e.getPhase q = some phase)
      (received : Received env sender message (.decision m)) (about : m.phaseId = q)
      (ruled : Ruled m.decision phase phase') : Ruling env e q w (.message sender message) phase'

/-- A change that leaves the decision alone. -/
theorem Touches.kept {env : Env} {p q : PhaseId} {f : PhaseData → PhaseData}
    {e e' : RabiaEngine SM} {event : Event} {w : List Effect} (touches : Touches p f e e')
    (decision : ∀ phase, (f phase).decision = phase.decision)
    (isCommitted : ∀ phase, (f phase).isCommitted = phase.isCommitted) {phase' : PhaseData}
    (present : e'.getPhase q = some phase') : Ruling env e q w event phase' := by
  rcases touches.before present with kept | ⟨rfl, phase, before, rfl⟩
  · exact Ruling.kept kept rfl rfl
  · exact Ruling.kept before (decision phase) (isCommitted phase)

/-- The decision in every record is accounted for. -/
theorem ruling_of_deed [StateMachine SM] {env : Env} {e e' : RabiaEngine SM}
    {event : Event} {w : List Effect} (deed : Deed env e event e' w)
    {q : PhaseId} {phase' : PhaseData} (present : e'.getPhase q = some phase') :
    Ruling env e q w event phase' := by
  cases deed with
  | aside _ aside =>
      rw [aside.frame.getPhase q] at present
      exact Ruling.kept present rfl rfl
  | created _ _ getPhase _ =>
      rcases record_of_created getPhase present with kept | ⟨rfl, absent, rfl⟩
      · exact Ruling.kept kept rfl rfl
      · exact Ruling.fresh absent
  | cleaned _ _ getPhase _ => exact Ruling.kept (record_of_cleaned getPhase present) rfl rfl
  | proposed _ touches _ => exact touches.kept (fun _ => rfl) (fun _ => rfl) present
  | answered _ _ touches _ => exact touches.kept (fun _ => rfl) (fun _ => rfl) present
  | counted _ _ touches _ => exact touches.kept (fun _ => rfl) (fun _ => rfl) present
  | cast _ _ _ _ touches _ => exact touches.kept (fun _ => rfl) (fun _ => rfl) present
  | tallied _ _ touches _ => exact touches.kept (fun _ => rfl) (fun _ => rfl) present
  | decided _ _ _ _ touches _ =>
      rcases touches.before present with kept | ⟨rfl, phase, before, rfl⟩
      · exact Ruling.kept kept rfl rfl
      · exact Ruling.tallied before List.mem_cons_self ⟨rfl, rfl⟩
  | executed _ _ _ _ touches _ said =>
      rcases touches.before present with kept | ⟨rfl, phase, before, rfl⟩
      · exact Ruling.kept kept rfl rfl
      · refine Ruling.tallied (v := .v1) before ?_ ⟨rfl, rfl⟩
        rcases said with rfl | rfl
        · exact List.mem_cons_self
        · exact List.mem_cons_self
  | learned received _ touches _ =>
      rcases touches.before present with kept | ⟨about, phase, before, rfl⟩
      · exact Ruling.kept kept rfl rfl
      · exact Ruling.learned before received about ⟨rfl, rfl⟩
  | adopted received _ _ _ touches _ =>
      rcases touches.before present with kept | ⟨about, phase, before, rfl⟩
      · exact Ruling.kept kept rfl rfl
      · exact Ruling.learned before received about ⟨rfl, rfl⟩

end Rabia.Engine
