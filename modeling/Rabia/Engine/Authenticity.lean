import Rabia.Engine.Deeds

/-!
# Whose votes a tally holds

A vote is recorded for the transport sender of its message, never for the
`voter_id` or the `round1_votes` that the message claims; the one other vote in a
record is the engine's own, cast on entering round 2.

* `recorded_of_deed` — a record after an event is the one before with the votes of
  the event written into it;
* `SameButClaims` — inputs that differ in the claims of a vote only:
  `Run.run_eq_of_sameButClaims` shows that no handler reads them;
* `Run.step_of_not_received` — a message that does not pass the checks, such as one of
  another sender than it names, changes nothing.
-/

namespace Rabia

open Rabia.Lib Engine

/-! ## Votes -/

/-- A vote in a phase, with the node it counts for. -/
structure CastVote where
  phaseId : PhaseId
  voter : NodeId
  vote : StateValue
deriving DecidableEq

/-- The votes in the phase `p`, as writes to its tally. -/
def votesIn (p : PhaseId) (votes : List CastVote) : List (NodeId × StateValue) :=
  votes.filterMap fun c => if c.phaseId = p then some (c.voter, c.vote) else none

theorem votesIn_append (p : PhaseId) (votes votes' : List CastVote) :
    votesIn p (votes ++ votes') = votesIn p votes ++ votesIn p votes' := List.filterMap_append

theorem votesIn_singleton (p : PhaseId) (c : CastVote) :
    votesIn p [c] = if c.phaseId = p then [(c.voter, c.vote)] else [] := by
  unfold votesIn
  rw [List.filterMap_cons]
  by_cases same : c.phaseId = p
  · rw [if_pos same, if_pos same]
    rfl
  · rw [if_neg same, if_neg same]
    rfl

def MessageType.round1Vote (sender : NodeId) : MessageType → List CastVote
  | .voteRound1 m => [⟨m.phaseId, sender, m.vote⟩]
  | _ => []

def MessageType.round2Vote (sender : NodeId) : MessageType → List CastVote
  | .voteRound2 m => [⟨m.phaseId, sender, m.vote⟩]
  | _ => []

/-- The round-1 vote of the message that was validated and handled at an input. -/
def heardRound1 (input : Env × Event) : List CastVote :=
  (arrival input.1 input.2).elim [] fun arrived => arrived.2.round1Vote arrived.1

/-- The round-2 vote of the message that was validated and handled at an input. -/
def heardRound2 (input : Env × Event) : List CastVote :=
  (arrival input.1 input.2).elim [] fun arrived => arrived.2.round2Vote arrived.1

/-- The round-2 votes that `node` broadcasts. -/
def ownVotes (node : NodeId) (w : List Effect) : List CastVote :=
  w.filterMap fun x =>
    match x.utterance with
    | some (.round2 p vote) => some ⟨p, node, vote⟩
    | _ => none

namespace Engine

variable {SM : Type}

/-! ## What an event writes into a tally -/

section Heard

variable {env : Env} {e : RabiaEngine SM} {event : Event}

theorem heard_of_received {sender : NodeId} {message : ProtocolMessage} {payload : MessageType}
    (received : Received env sender message payload) :
    heardRound1 (env, .message sender message) = payload.round1Vote sender ∧
      heardRound2 (env, .message sender message) = payload.round2Vote sender := by
  unfold heardRound1 heardRound2
  rw [arrival_of_received received]
  exact ⟨rfl, rfl⟩

theorem heard_of_rejected {sender : NodeId} {message : ProtocolMessage}
    (rejected : ¬ Received env sender message message.messageType) :
    heardRound1 (env, .message sender message) = [] ∧
      heardRound2 (env, .message sender message) = [] := by
  unfold heardRound1 heardRound2
  rw [arrival_of_not_received rejected]
  exact ⟨rfl, rfl⟩

theorem heard_of_ignores (ignores : Ignores env e event) :
    heardRound1 (env, event) = [] ∧ heardRound2 (env, event) = [] := by
  cases ignores with
  | foreign foreign =>
      cases event with
      | message sender message =>
          by_cases received : Received env sender message message.messageType
          · obtain ⟨round1, round2⟩ := heard_of_received received
            rw [round1, round2]
            have silent : message.messageType.utterance = none := foreign
            cases payload : message.messageType with
            | voteRound1 m => rw [payload] at silent; cases silent
            | voteRound2 m => rw [payload] at silent; cases silent
            | propose _ | decision _ | syncRequest _ | syncResponse _ | newBatch _ | heartBeat _
            | quorumNotification _ => exact ⟨rfl, rfl⟩
          · exact heard_of_rejected received
      | command _ | cleanup | heartbeat | networkPartition _ | quorumLost | quorumRestored _
      | clusterMembership _ | createPhase _ => exact ⟨rfl, rfl⟩
  | rejected rejected => exact heard_of_rejected rejected
  | unheard received _ => exact heard_of_received received
  | declined _ => exact ⟨rfl, rfl⟩

end Heard

theorem ownVotes_of_silent {node : NodeId} {w : List Effect} (h : ∀ x ∈ w, x.utterance = none) :
    ownVotes node w = [] := by
  unfold ownVotes
  rw [List.filterMap_eq_nil_iff]
  intro x hx
  rw [h x hx]

/-- The tallies of `phase'` are those of `phase` with the votes of an event written. -/
structure Recorded (env : Env) (e : RabiaEngine SM) (event : Event) (w : List Effect)
    (q : PhaseId) (phase phase' : PhaseData) : Prop where
  round1 : phase'.round1Votes =
    Table.writeAll (votesIn q (heardRound1 (env, event))) phase.round1Votes
  round2 : phase'.round2Votes =
    Table.writeAll (votesIn q (heardRound2 (env, event) ++ ownVotes e.nodeId w))
      phase.round2Votes

theorem Touches.record {p q : PhaseId} {f : PhaseData → PhaseData} {e e' : RabiaEngine SM}
    (h : Touches p f e e') {phase' : PhaseData} (present : e'.getPhase q = some phase') :
    ∃ phase, e.getPhase q = some phase ∧ phase' = if p = q then f phase else phase := by
  rw [h.getPhase q] at present
  by_cases same : q = p
  · subst same
    rw [if_pos rfl] at present
    obtain ⟨phase, before, rfl⟩ := Option.map_eq_some_iff.mp present
    exact ⟨phase, before, (if_pos rfl).symm⟩
  · rw [if_neg same] at present
    exact ⟨phase', present, (if_neg (Ne.symm same)).symm⟩

/-- A record that an event touches has the votes of the event, if the change `f` writes
these and no others. -/
theorem recorded_of_touches {env : Env} {e e' : RabiaEngine SM} {event : Event} {w : List Effect}
    {p q : PhaseId} {f : PhaseData → PhaseData} (touches : Touches p f e e')
    (votes1 votes2 : List (NodeId × StateValue))
    (round1 : votesIn q (heardRound1 (env, event)) = if p = q then votes1 else [])
    (round2 : votesIn q (heardRound2 (env, event) ++ ownVotes e.nodeId w) =
      if p = q then votes2 else [])
    (written1 : ∀ phase, (f phase).round1Votes = Table.writeAll votes1 phase.round1Votes)
    (written2 : ∀ phase, (f phase).round2Votes = Table.writeAll votes2 phase.round2Votes)
    {phase' : PhaseData} (present : e'.getPhase q = some phase') :
    ∃ phase, e.getPhase q = some phase ∧ Recorded env e event w q phase phase' := by
  obtain ⟨phase, before, rfl⟩ := touches.record present
  refine ⟨phase, before, ?_, ?_⟩
  · rw [round1]
    by_cases same : p = q
    · rw [if_pos same, if_pos same]
      exact written1 phase
    · rw [if_neg same, if_neg same]
      rfl
  · rw [round2]
    by_cases same : p = q
    · rw [if_pos same, if_pos same]
      exact written2 phase
    · rw [if_neg same, if_neg same]
      rfl

/-- `recorded_of_touches` for an event that handles a message. -/
theorem recorded_of_received {env : Env} {e e' : RabiaEngine SM} {sender : NodeId}
    {message : ProtocolMessage} {payload : MessageType} {w : List Effect}
    (received : Received env sender message payload)
    {p q : PhaseId} {f : PhaseData → PhaseData} (touches : Touches p f e e')
    (votes1 votes2 : List (NodeId × StateValue))
    (round1 : votesIn q (payload.round1Vote sender) = if p = q then votes1 else [])
    (round2 : votesIn q (payload.round2Vote sender ++ ownVotes e.nodeId w) =
      if p = q then votes2 else [])
    (written1 : ∀ phase, (f phase).round1Votes = Table.writeAll votes1 phase.round1Votes)
    (written2 : ∀ phase, (f phase).round2Votes = Table.writeAll votes2 phase.round2Votes)
    {phase' : PhaseData} (present : e'.getPhase q = some phase') :
    ∃ phase, e.getPhase q = some phase ∧
      Recorded env e (.message sender message) w q phase phase' := by
  obtain ⟨heard1, heard2⟩ := heard_of_received received
  rw [← heard1] at round1
  rw [← heard2] at round2
  exact recorded_of_touches touches votes1 votes2 round1 round2 written1 written2 present

/-- An event that casts no vote writes none. -/
theorem recorded_of_silent {env : Env} {e : RabiaEngine SM} {event : Event} {w : List Effect}
    (silent1 : heardRound1 (env, event) = [])
    (silent2 : heardRound2 (env, event) ++ ownVotes e.nodeId w = []) (q : PhaseId)
    {phase phase' : PhaseData} (same1 : phase'.round1Votes = phase.round1Votes)
    (same2 : phase'.round2Votes = phase.round2Votes) :
    Recorded env e event w q phase phase' := by
  constructor
  · rw [silent1]
    exact same1
  · rw [silent2]
    exact same2

variable [StateMachine SM]

/-- A record after an event is new, or it is the one before with the votes of the
event written into it. -/
theorem recorded_of_deed {env : Env} {e e' : RabiaEngine SM} {event : Event} {w : List Effect}
    (deed : Deed env e event e' w) {q : PhaseId} {phase' : PhaseData}
    (present : e'.getPhase q = some phase') :
    phase' = PhaseData.new q env.now ∨
      ∃ phase, e.getPhase q = some phase ∧ Recorded env e event w q phase phase' := by
  -- the votes that an event with one vote of the phase `p` writes at `q`
  have single : ∀ (p : PhaseId) (voter : NodeId) (vote : StateValue),
      votesIn q [⟨p, voter, vote⟩] = if p = q then [(voter, vote)] else [] :=
    fun p voter vote => votesIn_singleton q ⟨p, voter, vote⟩
  have nothing : ∀ p : PhaseId, votesIn q [] =
      if p = q then ([] : List (NodeId × StateValue)) else [] := fun p => (ite_self _).symm
  cases deed with
  | aside ignores aside =>
      obtain ⟨round1, round2⟩ := heard_of_ignores ignores
      rw [aside.frame.getPhase q] at present
      refine Or.inr ⟨phase', present, recorded_of_silent round1 ?_ q rfl rfl⟩
      rw [round2, ownVotes_of_silent aside.effects]
      rfl
  | created _ _ getPhase _ =>
      rcases record_of_created getPhase present with kept | ⟨rfl, -, fresh⟩
      · exact Or.inr ⟨phase', kept, recorded_of_silent rfl rfl q rfl rfl⟩
      · exact Or.inl fresh
  | cleaned _ _ getPhase _ =>
      have kept := record_of_cleaned getPhase present
      exact Or.inr ⟨phase', kept, recorded_of_silent rfl rfl q rfl rfl⟩
  | proposed _ touches _ =>
      exact Or.inr (recorded_of_touches touches [] [] (nothing _) (nothing _) (fun _ => rfl)
        (fun _ => rfl) present)
  | answered received _ touches _ =>
      refine Or.inr (recorded_of_received received touches [] [] ?_ ?_ (fun _ => rfl)
        (fun _ => rfl) present)
      · exact nothing _
      · exact nothing _
  | @counted sender _ m _ received _ touches _ =>
      refine Or.inr (recorded_of_received received touches [(sender, m.vote)] [] ?_ ?_
        (fun _ => rfl) (fun _ => rfl) present)
      · exact single _ _ _
      · exact nothing _
  | @cast sender _ m _ _ vote _ received _ _ _ touches _ =>
      -- the one vote that no message brings
      refine Or.inr (recorded_of_received received touches [(sender, m.vote)] [(e.nodeId, vote)]
        ?_ ?_ (fun _ => rfl) (fun _ => rfl) present)
      · exact single _ _ _
      · exact single _ _ _
  | @tallied sender _ m _ received _ touches _ =>
      refine Or.inr (recorded_of_received received touches [] [(sender, m.vote)] ?_ ?_
        (fun _ => rfl) (fun _ => rfl) present)
      · exact nothing _
      · exact single _ _ _
  | @decided sender _ m _ _ _ received _ _ _ touches _ =>
      refine Or.inr (recorded_of_received received touches [] [(sender, m.vote)] ?_ ?_
        (fun _ => rfl) (fun _ => rfl) present)
      · exact nothing _
      · exact single _ _ _
  | @executed sender _ m _ _ _ _ received _ _ _ touches _ said =>
      refine Or.inr (recorded_of_received received touches [] [(sender, m.vote)] ?_ ?_
        (fun _ => rfl) (fun _ => rfl) present)
      · exact nothing _
      · rcases said with said | said
        · rw [said]
          exact single _ _ _
        · rw [said]
          exact single _ _ _
  | learned received _ touches _ =>
      refine Or.inr (recorded_of_received received touches [] [] ?_ ?_ (fun _ => rfl)
        (fun _ => rfl) present)
      · exact nothing _
      · exact nothing _
  | adopted received _ _ _ touches _ =>
      refine Or.inr (recorded_of_received received touches [] [] ?_ ?_ (fun _ => rfl)
        (fun _ => rfl) present)
      · exact nothing _
      · exact nothing _

end Engine

/-! ## What no handler reads -/

/-- The payload without the voter, and the votes of round 1, that a vote claims. -/
def MessageType.unclaimed : MessageType → MessageType
  | .voteRound1 m => .voteRound1 { m with voterId := ⟨0⟩ }
  | .voteRound2 m => .voteRound2 { m with voterId := ⟨0⟩, round1Votes := ∅ }
  | payload => payload

/-- What an engine reads of an input: of a message that passes the checks, its sender
and its payload without claims; of a message that does not, nothing. -/
def heeded (input : Env × Event) : Option (Env × (Event ⊕ (NodeId × MessageType))) :=
  match input.2 with
  | .message sender message =>
    (arrival input.1 (.message sender message)).map fun arrived =>
      (input.1, .inr (arrived.1, arrived.2.unclaimed))
  | event => some (input.1, .inl event)

/-- The messages that pass the checks differ in their claims only. -/
def SameButClaims (inputs inputs' : List (Env × Event)) : Prop :=
  inputs.filterMap heeded = inputs'.filterMap heeded

namespace Run

variable {SM : Type} [StateMachine SM]

/-- A step that sees only what an engine reads. -/
def heedingStep (r : Run SM) : Env × (Event ⊕ (NodeId × MessageType)) → Run SM
  | (env, .inl event) => r.step (env, event)
  | (env, .inr (sender, payload)) =>
    let o := dispatch env sender payload r.engine
    ⟨o.state, r.trace ++ o.effects⟩

theorem dispatch_unclaimed (env : Env) (sender : NodeId) (payload : MessageType) :
    (dispatch env sender payload.unclaimed : EngineM SM Unit) = dispatch env sender payload := by
  cases payload <;> rfl

/-- A message that does not pass the checks changes nothing. -/
theorem step_of_not_received {env : Env} {sender : NodeId} {message : ProtocolMessage}
    (rejected : ¬ Received env sender message message.messageType) (r : Run SM) :
    r.step (env, .message sender message) = r := by
  obtain ⟨state, effects⟩ := handle_of_not_received rejected r.engine
  show (⟨_, r.trace ++ _⟩ : Run SM) = r
  rw [state, effects, List.append_nil]

theorem step_factors (r : Run SM) (input : Env × Event) :
    r.step input = (heeded input).elim r (heedingStep r) := by
  obtain ⟨env, event⟩ := input
  cases event with
  | message sender message =>
      unfold heeded
      dsimp only
      by_cases received : Received env sender message message.messageType
      · rw [arrival_of_received received]
        show r.step (env, .message sender message) =
          heedingStep r (env, .inr (sender, message.messageType.unclaimed))
        unfold heedingStep
        dsimp only
        rw [dispatch_unclaimed, ← handle_of_received received]
        rfl
      · rw [arrival_of_not_received received]
        exact step_of_not_received received r
  | command _ | cleanup | heartbeat | networkPartition _ | quorumLost | quorumRestored _
  | clusterMembership _ | createPhase _ => rfl

/-- Inputs that differ in claims only drive an engine through the same run. -/
theorem run_eq_of_sameButClaims {inputs inputs' : List (Env × Event)}
    (same : SameButClaims inputs inputs') (r : Run SM) :
    run step r inputs = run step r inputs' := by
  rw [run_filterMap step_factors, run_filterMap step_factors, same]

end Run

/-! ## Runs -/

/-- An engine with the votes it was sent and those it cast. -/
structure Audit (SM : Type) where
  engine : RabiaEngine SM
  /-- The round-1 votes it handled, each under its transport sender. -/
  round1 : List CastVote
  /-- The round-2 votes it handled, each under its transport sender, and its own. -/
  round2 : List CastVote

namespace Audit

variable {SM : Type} [StateMachine SM]

def step (a : Audit SM) (input : Env × Event) : Audit SM :=
  let o := Engine.handle input.1 input.2 a.engine
  { engine := o.state
    round1 := a.round1 ++ heardRound1 input
    round2 := a.round2 ++ (heardRound2 input ++ ownVotes a.engine.nodeId o.effects) }

/-- An engine that nobody has sent a vote yet. -/
def start (e : RabiaEngine SM) : Audit SM := ⟨e, [], []⟩

/-- Each vote in a tally is the last vote of its voter in that phase. -/
structure Authentic (a : Audit SM) : Prop where
  round1 : ∀ p phase, a.engine.getPhase p = some phase →
    Table.WrittenBy (votesIn p a.round1) phase.round1Votes
  round2 : ∀ p phase, a.engine.getPhase p = some phase →
    Table.WrittenBy (votesIn p a.round2) phase.round2Votes

/-- No record holds a vote. -/
def Unvoted (e : RabiaEngine SM) : Prop :=
  ∀ p phase, e.getPhase p = some phase → phase.round1Votes = ∅ ∧ phase.round2Votes = ∅

omit [StateMachine SM] in
theorem authentic_start {e : RabiaEngine SM} (unvoted : Unvoted e) : Authentic (start e) := by
  constructor
  · intro p phase present
    rw [(unvoted p phase present).1]
    exact Table.writtenBy_empty _
  · intro p phase present
    rw [(unvoted p phase present).2]
    exact Table.writtenBy_empty _

theorem authentic_step (a : Audit SM) (input : Env × Event) (authentic : Authentic a) :
    Authentic (a.step input) := by
  have deed := deed_of_handle input.1 input.2 a.engine
  constructor
  · intro p phase' present
    rw [show (a.step input).round1 = a.round1 ++ heardRound1 input from rfl, votesIn_append]
    rcases recorded_of_deed deed present with rfl | ⟨phase, before, recorded⟩
    · exact Table.writtenBy_empty _
    · rw [recorded.round1]
      exact (authentic.round1 p phase before).writeAll _
  · intro p phase' present
    rw [show (a.step input).round2 = a.round2 ++ _ from rfl, votesIn_append]
    rcases recorded_of_deed deed present with rfl | ⟨phase, before, recorded⟩
    · exact Table.writtenBy_empty _
    · rw [recorded.round2]
      exact (authentic.round2 p phase before).writeAll _

/-! ### Voters -/

/-- A validated round-1 vote for the phase `p` came in from `f`. -/
def SentRound1 (inputs : List (Env × Event)) (p : PhaseId) (f : NodeId) : Prop :=
  ∃ env message m, (env, .message f message) ∈ inputs ∧
    Received env f message (.voteRound1 m) ∧ m.phaseId = p

/-- A validated round-2 vote for the phase `p` came in from `f`. -/
def SentRound2 (inputs : List (Env × Event)) (p : PhaseId) (f : NodeId) : Prop :=
  ∃ env message m, (env, .message f message) ∈ inputs ∧
    Received env f message (.voteRound2 m) ∧ m.phaseId = p

theorem sent_of_mem_heard {input : Env × Event} {inputs : List (Env × Event)}
    (member : input ∈ inputs) (c : CastVote) :
    (c ∈ heardRound1 input → SentRound1 inputs c.phaseId c.voter) ∧
      (c ∈ heardRound2 input → SentRound2 inputs c.phaseId c.voter) := by
  obtain ⟨env, event⟩ := input
  cases event with
  | message sender message =>
      by_cases received : Received env sender message message.messageType
      · obtain ⟨round1, round2⟩ := heard_of_received received
        rw [round1, round2]
        cases payload : message.messageType with
        | voteRound1 m =>
            refine ⟨fun heard => ?_, fun heard => absurd heard List.not_mem_nil⟩
            rw [List.mem_singleton.mp heard]
            exact ⟨env, message, m, member, payload ▸ received, rfl⟩
        | voteRound2 m =>
            refine ⟨fun heard => absurd heard List.not_mem_nil, fun heard => ?_⟩
            rw [List.mem_singleton.mp heard]
            exact ⟨env, message, m, member, payload ▸ received, rfl⟩
        | propose _ | decision _ | syncRequest _ | syncResponse _ | newBatch _ | heartBeat _
        | quorumNotification _ =>
            exact ⟨fun heard => absurd heard List.not_mem_nil,
              fun heard => absurd heard List.not_mem_nil⟩
      · obtain ⟨round1, round2⟩ := heard_of_rejected received
        rw [round1, round2]
        exact ⟨fun heard => absurd heard List.not_mem_nil,
          fun heard => absurd heard List.not_mem_nil⟩
  | command _ | cleanup | heartbeat | networkPartition _ | quorumLost | quorumRestored _
  | clusterMembership _ | createPhase _ =>
      exact ⟨fun heard => absurd heard List.not_mem_nil,
        fun heard => absurd heard List.not_mem_nil⟩

/-- The votes on the books came in, or are the engine's own. -/
structure Booked (inputs : List (Env × Event)) (node : NodeId) (a : Audit SM) : Prop where
  nodeId : a.engine.nodeId = node
  round1 : ∀ c ∈ a.round1, SentRound1 inputs c.phaseId c.voter
  round2 : ∀ c ∈ a.round2, SentRound2 inputs c.phaseId c.voter ∨ c.voter = node

theorem voter_of_mem_ownVotes {node : NodeId} {w : List Effect} {c : CastVote}
    (own : c ∈ ownVotes node w) : c.voter = node := by
  obtain ⟨x, -, cast⟩ := List.mem_filterMap.mp own
  cases said : x.utterance with
  | none =>
      rw [said] at cast
      cases cast
  | some u =>
      rw [said] at cast
      cases u with
      | round2 p vote =>
          cases cast
          rfl
      | proposal _ _ _ | round1 _ _ | decision _ _ _ | decided _ _ | applied _ _ => cases cast

theorem booked_step {inputs : List (Env × Event)} {node : NodeId} (a : Audit SM)
    (input : Env × Event) (booked : Booked inputs node a) (member : input ∈ inputs) :
    Booked inputs node (a.step input) := by
  have deed := deed_of_handle input.1 input.2 a.engine
  refine ⟨(deed_steady deed).1.trans booked.nodeId, fun c hc => ?_, fun c hc => ?_⟩
  · rcases List.mem_append.mp hc with earlier | heard
    · exact booked.round1 c earlier
    · exact (sent_of_mem_heard member c).1 heard
  · rcases List.mem_append.mp hc with earlier | new
    · exact booked.round2 c earlier
    rcases List.mem_append.mp new with heard | own
    · exact Or.inl ((sent_of_mem_heard member c).2 heard)
    · exact Or.inr ((voter_of_mem_ownVotes own).trans booked.nodeId)

/-- Whoever has a vote in a tally sent one of that phase, or is the engine itself. -/
structure Attributed (inputs : List (Env × Event)) (e : RabiaEngine SM) : Prop where
  round1 : ∀ p phase f v, e.getPhase p = some phase → phase.round1Votes.lookup f = some v →
    SentRound1 inputs p f
  round2 : ∀ p phase f v, e.getPhase p = some phase → phase.round2Votes.lookup f = some v →
    SentRound2 inputs p f ∨ f = e.nodeId

theorem mem_of_mem_votesIn {p : PhaseId} {votes : List CastVote} {f : NodeId} {v : StateValue}
    (h : (f, v) ∈ votesIn p votes) : (⟨p, f, v⟩ : CastVote) ∈ votes := by
  obtain ⟨c, member, cast⟩ := List.mem_filterMap.mp h
  split at cast
  next same =>
    cases cast
    subst same
    exact member
  next => cases cast

omit [StateMachine SM] in
theorem attributed_of_booked {inputs : List (Env × Event)} {node : NodeId} {a : Audit SM}
    (booked : Booked inputs node a) (authentic : Authentic a) : Attributed inputs a.engine := by
  constructor
  · intro p phase f v present recorded
    have last := authentic.round1 p phase present f v recorded
    exact booked.round1 _ (mem_of_mem_votesIn (Table.mem_of_lastWrite last))
  · intro p phase f v present recorded
    have last := authentic.round2 p phase present f v recorded
    rw [booked.nodeId]
    exact booked.round2 _ (mem_of_mem_votesIn (Table.mem_of_lastWrite last))

/-! ### The result -/

/-- No handler reads what a vote claims. -/
def ClaimsUnread (SM : Type) [StateMachine SM] (inputs : List (Env × Event)) : Prop :=
  ∀ (r : Run SM) (inputs' : List (Env × Event)), SameButClaims inputs inputs' →
    run Run.step r inputs = run Run.step r inputs'

/-- A message in another name than its transport sender's changes nothing. -/
def ForgeriesIgnored (SM : Type) [StateMachine SM] : Prop :=
  ∀ (r : Run SM) (env : Env) (sender : NodeId) (message : ProtocolMessage),
    message.sender ≠ sender → r.step (env, .message sender message) = r

/-- A node has at most one vote in each tally: its last one, under the name the
transport knows it by. -/
theorem votes_authentic {e : RabiaEngine SM} (unvoted : Unvoted e)
    (inputs : List (Env × Event)) :
    Authentic (run step (start e) inputs) ∧
      Attributed inputs (run step (start e) inputs).engine ∧
      ClaimsUnread SM inputs ∧ ForgeriesIgnored SM := by
  have authentic : Authentic (run step (start e) inputs) :=
    run_of_kept authentic_step (authentic_start unvoted) inputs
  have booked : Booked inputs e.nodeId (run step (start e) inputs) :=
    run_invariant booked_step
      ⟨rfl, fun _ h => absurd h List.not_mem_nil, fun _ h => absurd h List.not_mem_nil⟩
      (along_of_mem fun _ member => member)
  refine ⟨authentic, attributed_of_booked booked authentic, ?_, ?_⟩
  · intro r inputs' same
    exact Run.run_eq_of_sameButClaims same r
  · intro r env sender message forged
    exact Run.step_of_not_received (fun received => forged received.source) r

section ThreeNodes

theorem votes_authentic_round_one :
    Authentic (run step (start (threeNodes 0))
        (proposing ++ [roundOneVote ⟨1⟩, roundOneVote ⟨2⟩])) ∧
      Attributed (proposing ++ [roundOneVote ⟨1⟩, roundOneVote ⟨2⟩])
        (run step (start (threeNodes 0))
          (proposing ++ [roundOneVote ⟨1⟩, roundOneVote ⟨2⟩])).engine ∧
      ClaimsUnread ByteLog (proposing ++ [roundOneVote ⟨1⟩, roundOneVote ⟨2⟩]) ∧
      ForgeriesIgnored ByteLog := by
  refine votes_authentic ?_ _
  intro p phase present
  rw [show (threeNodes 0).getPhase p = none from Finmap.lookup_empty p] at present
  cases present

end ThreeNodes

end Audit

end Rabia
