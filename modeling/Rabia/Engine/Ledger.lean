import Rabia.Engine.Reasons

/-!
# What was handled and what is on record

`update_phase` reports success whether or not there is a record to update, and
nothing in the engine makes records: `get_or_create_phase` has no caller. This
module keeps a `Ledger` beside the engine, in which the proposals and the votes
handled for one phase are entered from the events alone, and compares it with the
record of that phase.

* `Kept` — the record holds what the ledger says;
* `Fits` — what an event brings can be added to a record without loss.
-/

namespace Rabia

open Rabia.Lib Rabia.Lib.Proc

/-! ## The ledger of a phase -/

/-- What an event can bring for a phase. -/
inductive Item where
  /-- `propose_batch` takes the phase. -/
  | own (batch : CommandBatch)
  /-- A proposal comes in. -/
  | proposal (batch : Option CommandBatch)
  | round1 (voter : NodeId) (vote : StateValue)
  | round2 (voter : NodeId) (vote : StateValue)

/-- What a message with this payload brings for the phase `p`. -/
def MessageType.item (p : PhaseId) (sender : NodeId) : MessageType → Option Item
  | .propose m => if m.phaseId = p then some (.proposal m.batch) else none
  | .voteRound1 m => if m.phaseId = p then some (.round1 sender m.vote) else none
  | .voteRound2 m => if m.phaseId = p then some (.round2 sender m.vote) else none
  | _ => none

/-- What was handled for a phase: the batch of every proposal, the latest first,
and the latest vote of every node. -/
structure Ledger where
  proposals : List (Option CommandBatch)
  round1Votes : Table NodeId StateValue
  round2Votes : Table NodeId StateValue

namespace Ledger

def empty : Ledger := ⟨[], ∅, ∅⟩

def add (l : Ledger) : Item → Ledger
  | .own batch => { l with proposals := some batch :: l.proposals }
  | .proposal batch => { l with proposals := batch :: l.proposals }
  | .round1 voter vote => { l with round1Votes := l.round1Votes.insert voter vote }
  | .round2 voter vote => { l with round2Votes := l.round2Votes.insert voter vote }

theorem add_ne_empty (l : Ledger) (item : Item) : l.add item ≠ empty := by
  intro same
  cases item with
  | own batch => exact List.cons_ne_nil _ _ (congrArg Ledger.proposals same)
  | proposal batch => exact List.cons_ne_nil _ _ (congrArg Ledger.proposals same)
  | round1 voter vote =>
      have found := congrArg (fun l : Ledger => l.round1Votes.lookup voter) same
      exact Option.some_ne_none _ ((Finmap.lookup_insert _).symm.trans found)
  | round2 voter vote =>
      have found := congrArg (fun l : Ledger => l.round2Votes.lookup voter) same
      exact Option.some_ne_none _ ((Finmap.lookup_insert _).symm.trans found)

/-- If any proposal carried a batch, `batch` is that of a proposal. -/
def HoldsBatch (proposals : List (Option CommandBatch)) (batch : Option CommandBatch) : Prop :=
  ∀ proposal ∈ proposals, proposal ≠ none → batch ≠ none ∧ batch ∈ proposals

/-- The record holds a proposed batch and the latest vote of every node. -/
structure KeptBy (l : Ledger) (phase : PhaseData) : Prop where
  batch : HoldsBatch l.proposals phase.batch
  round1 : Table.Within l.round1Votes phase.round1Votes
  round2 : Table.Within l.round2Votes phase.round2Votes

/-- There is a record that holds what was handled, if anything was. -/
def Kept (l : Ledger) : Option PhaseData → Prop
  | none => l = empty
  | some phase => l.KeptBy phase

theorem keptBy_empty (phase : PhaseData) : empty.KeptBy phase :=
  ⟨fun _ none_in => absurd none_in List.not_mem_nil, Table.within_empty _, Table.within_empty _⟩

/-- Making a record where there is none loses nothing, for nothing was handled yet. -/
theorem Kept.created {l : Ledger} {record : Option PhaseData} (kept : l.Kept record)
    (fresh : PhaseData) : l.Kept (some (record.getD fresh)) := by
  cases record with
  | none =>
      rw [show l = empty from kept]
      exact keptBy_empty fresh
  | some phase => exact kept

/-- A batch on record that was proposed is still a proposed one after another proposal. -/
theorem HoldsBatch.cons {proposals : List (Option CommandBatch)} {batch : Option CommandBatch}
    (held : HoldsBatch proposals batch) {proposal : Option CommandBatch}
    (among : proposal ≠ none → batch ≠ none ∧ batch ∈ proposal :: proposals) :
    HoldsBatch (proposal :: proposals) batch := by
  intro other member carries
  rcases List.mem_cons.mp member with rfl | earlier
  · exact among carries
  · obtain ⟨some, before⟩ := held other earlier carries
    exact ⟨some, List.mem_cons_of_mem _ before⟩

end Ledger

namespace Engine

variable {SM : Type}

/-- What an event brings for the phase `p`. -/
def brings (env : Env) (e : RabiaEngine SM) (p : PhaseId) : Event → Option Item
  | .command (.processBatch request) =>
    if e.engineState.hasQuorum = true ∧ nextPhase e = p then some (.own request.batch) else none
  | event => (arrival env event).bind fun (sender, payload) => payload.item p sender

/-- What the event brings can be added to the record `phase` without loss: a batch
that comes in finds the place empty and quorum to fill it, or a proposed batch in
it; and entering round 2 does not overwrite a vote that the engine was sent as its
own. -/
def Fits (env : Env) (e : RabiaEngine SM) (l : Ledger) (phase : PhaseData) : Item → Prop
  | .own _ => True
  | .proposal batch => batch ≠ none →
    if phase.batch = none then e.engineState.hasQuorum = true
    else phase.batch ∈ batch :: l.proposals
  | .round1 voter vote =>
    ∀ result ∈ round1Result e.engineState.quorumSize (phase.addRound1Vote voter vote),
      ∀ own ∈ l.round2Votes.lookup e.nodeId,
        Repeats env.draw (phase.addRound1Vote voter vote).round1Votes result own
  | .round2 _ _ => True

instance (env : Env) (e : RabiaEngine SM) (l : Ledger) (phase : PhaseData) :
    ∀ item : Item, Decidable (Fits env e l phase item)
  | .own _ => inferInstanceAs (Decidable True)
  | .proposal batch => inferInstanceAs (Decidable (batch ≠ none →
      if phase.batch = none then e.engineState.hasQuorum = true
      else phase.batch ∈ batch :: l.proposals))
  | .round1 voter vote => inferInstanceAs (Decidable (
      ∀ result ∈ round1Result e.engineState.quorumSize (phase.addRound1Vote voter vote),
        ∀ own ∈ l.round2Votes.lookup e.nodeId,
          Repeats env.draw (phase.addRound1Vote voter vote).round1Votes result own))
  | .round2 _ _ => inferInstanceAs (Decidable True)

/-- What the event brings for `p` finds a record that it fits. -/
def Finds (env : Env) (e : RabiaEngine SM) (p : PhaseId) (l : Ledger) (event : Event) : Prop :=
  ∀ item ∈ brings env e p event, ∃ phase ∈ e.getPhase p, Fits env e l phase item

instance (env : Env) (e : RabiaEngine SM) (p : PhaseId) (l : Ledger) (event : Event) :
    Decidable (Finds env e p l event) :=
  inferInstanceAs (Decidable (∀ item ∈ brings env e p event, ∃ phase ∈ e.getPhase p, _))

/-- The ledger after an event. -/
def observe (env : Env) (e : RabiaEngine SM) (p : PhaseId) (l : Ledger) (event : Event) :
    Ledger :=
  match brings env e p event with
  | some item => l.add item
  | none => l

/-! ## What an event brings -/

theorem brings_of_received {env : Env} {e : RabiaEngine SM} {p : PhaseId} {sender : NodeId}
    {message : ProtocolMessage} {payload : MessageType}
    (received : Received env sender message payload) :
    brings env e p (.message sender message) = payload.item p sender := by
  show (arrival env (.message sender message)).bind _ = _
  rw [arrival_of_received received]
  rfl

theorem brings_of_rejected {env : Env} {e : RabiaEngine SM} {p : PhaseId} {sender : NodeId}
    {message : ProtocolMessage}
    (rejected : ¬ Received env sender message message.messageType) :
    brings env e p (.message sender message) = none := by
  show (arrival env (.message sender message)).bind _ = _
  rw [arrival_of_not_received rejected]
  rfl

/-- Events outside the voting bring nothing. -/
theorem brings_of_foreign {env : Env} {e : RabiaEngine SM} {p : PhaseId} {event : Event}
    (foreign : Foreign event) : brings env e p event = none := by
  cases event with
  | message sender message =>
      by_cases received : Received env sender message message.messageType
      · rw [brings_of_received received]
        have nothing : message.messageType.utterance = none := foreign
        cases payload : message.messageType with
        | propose m | voteRound1 m | voteRound2 m | decision m =>
            rw [payload] at nothing
            cases nothing
        | syncRequest m | syncResponse m | newBatch m | heartBeat m | quorumNotification m => rfl
      · exact brings_of_rejected received
  | command command =>
      cases command with
      | processBatch request => exact absurd foreign id
      | shutdown | forcePhaseAdvance | triggerSync | getStatistics _ => rfl
  | cleanup | createPhase p => exact absurd foreign id
  | heartbeat | networkPartition _ | quorumLost | quorumRestored _ | clusterMembership _ => rfl

/-! ## One event -/

section Event

variable {env : Env} {e e' : RabiaEngine SM} {p : PhaseId} {l : Ledger} {event : Event}

/-- An event that brings nothing is noted nowhere, and fits. -/
theorem kept_iff_of_nothing (nothing : brings env e p event = none)
    (kept' : l.Kept (e'.getPhase p)) :
    (observe env e p l event).Kept (e'.getPhase p) ↔ Finds env e p l event := by
  unfold observe Finds
  rw [nothing]
  constructor
  · intro _ item brought
    cases brought
  · intro _
    exact kept'

/-- An event that brings something needs a record, and one that it fits. -/
theorem kept_iff_of_brings {item : Item} {f : PhaseData → PhaseData}
    (brought : brings env e p event = some item)
    (record : e'.getPhase p = (e.getPhase p).map f)
    (each : ∀ phase, e.getPhase p = some phase →
      ((l.add item).KeptBy (f phase) ↔ Fits env e l phase item)) :
    (observe env e p l event).Kept (e'.getPhase p) ↔ Finds env e p l event := by
  unfold observe Finds
  rw [brought, record]
  dsimp only
  cases present : e.getPhase p with
  | none =>
      constructor
      · intro lost
        exact absurd lost (l.add_ne_empty item)
      · intro found
        obtain ⟨phase, absent, -⟩ := found item rfl
        cases absent
  | some phase =>
      constructor
      · intro kept item' same
        cases same
        exact ⟨phase, rfl, (each phase present).mp kept⟩
      · intro found
        obtain ⟨phase', same, fits⟩ := found item rfl
        cases same
        exact (each phase present).mpr fits

/-- The same for an event about the phase `q`. -/
theorem kept_iff_of_touches {q : PhaseId} {item : Item} {f : PhaseData → PhaseData}
    (kept : l.Kept (e.getPhase p)) (touches : Touches q f e e')
    (brought : brings env e p event = if q = p then some item else none)
    (each : ∀ phase, e.getPhase q = some phase → l.KeptBy phase →
      ((l.add item).KeptBy (f phase) ↔ Fits env e l phase item)) :
    (observe env e p l event).Kept (e'.getPhase p) ↔ Finds env e p l event := by
  by_cases same : q = p
  · subst same
    rw [if_pos rfl] at brought
    refine kept_iff_of_brings brought touches.at_self fun phase present => ?_
    rw [present] at kept
    exact each phase present kept
  · rw [if_neg same] at brought
    apply kept_iff_of_nothing brought
    rw [touches.getPhase p, if_neg (Ne.symm same)]
    exact kept

theorem kept_of_touches {q : PhaseId} {f : PhaseData → PhaseData}
    (kept : l.Kept (e.getPhase p)) (touches : Touches q f e e')
    (each : ∀ phase, l.KeptBy phase → l.KeptBy (f phase)) : l.Kept (e'.getPhase p) := by
  rw [touches.getPhase p]
  by_cases same : p = q
  · rw [if_pos same, ← same]
    cases present : e.getPhase p with
    | none =>
        rw [present] at kept
        exact kept
    | some phase =>
        rw [present] at kept
        exact each phase kept
  · rw [if_neg same]
    exact kept

end Event

/-! ## One record -/

section Record

variable {l : Ledger} {phase : PhaseData}

theorem keptBy_own (kept : l.KeptBy phase) (batch : CommandBatch) :
    (l.add (.own batch)).KeptBy (ownProposal batch.id batch phase) where
  batch := by simp [Ledger.add, Ledger.HoldsBatch]
  round1 := by simpa [Ledger.add] using kept.round1
  round2 := by simpa [Ledger.add] using kept.round2

/-- A proposal is kept with the votes when its batch or an earlier one is on record. -/
theorem keptBy_proposal_iff (kept : l.KeptBy phase) {batch : Option CommandBatch}
    (phase' : PhaseData) (round1 : phase'.round1Votes = phase.round1Votes)
    (round2 : phase'.round2Votes = phase.round2Votes)
    (stays : phase.batch ≠ none → phase'.batch = phase.batch) :
    (l.add (.proposal batch)).KeptBy phase' ↔
      (batch ≠ none → phase'.batch ≠ none ∧ phase'.batch ∈ batch :: l.proposals) := by
  constructor
  · intro kept'
    exact kept'.batch batch List.mem_cons_self
  · intro among
    refine ⟨?_, round1 ▸ kept.round1, round2 ▸ kept.round2⟩
    apply Ledger.HoldsBatch.cons _ among
    intro proposal member carries
    obtain ⟨some, before⟩ := kept.batch proposal member carries
    rw [stays some]
    exact ⟨some, before⟩

/-- With quorum the batch of a proposal is stored where there was none. -/
theorem keptBy_answered_iff {env : Env} {e : RabiaEngine SM} (kept : l.KeptBy phase)
    (quorum : e.engineState.hasQuorum = true) (m : ProposeMessage) :
    (l.add (.proposal m.batch)).KeptBy (receivedProposal m phase) ↔
      Fits env e l phase (.proposal m.batch) := by
  have stays : phase.batch ≠ none → (receivedProposal m phase).batch = phase.batch := by
    intro some
    obtain ⟨batch, stored⟩ := Option.ne_none_iff_exists'.mp some
    simp [stored]
  rw [keptBy_proposal_iff kept (receivedProposal m phase) rfl rfl stays]
  apply forall_congr'
  intro carries
  by_cases absent : phase.batch = none
  · rw [if_pos absent]
    have stored : (receivedProposal m phase).batch = m.batch := by simp [absent]
    rw [stored]
    exact iff_of_true ⟨carries, List.mem_cons_self⟩ quorum
  · rw [if_neg absent, stays absent]
    exact and_iff_right absent

/-- Without quorum nothing is stored. -/
theorem keptBy_unheard_iff {env : Env} {e : RabiaEngine SM} (kept : l.KeptBy phase)
    (noQuorum : ¬ e.engineState.hasQuorum = true) (batch : Option CommandBatch) :
    (l.add (.proposal batch)).KeptBy phase ↔ Fits env e l phase (.proposal batch) := by
  rw [keptBy_proposal_iff kept phase rfl rfl fun _ => rfl]
  apply forall_congr'
  intro carries
  by_cases absent : phase.batch = none
  · rw [if_pos absent]
    exact iff_of_false (fun held => held.1 absent) noQuorum
  · rw [if_neg absent]
    exact and_iff_right absent

theorem keptBy_round1 (kept : l.KeptBy phase) (voter : NodeId) (vote : StateValue) :
    (l.add (.round1 voter vote)).KeptBy (phase.addRound1Vote voter vote) where
  batch := by simpa [Ledger.add] using kept.batch
  round1 := by simpa [Ledger.add] using kept.round1.insert voter vote
  round2 := by simpa [Ledger.add] using kept.round2

/-- Entering round 2 writes the engine's own vote over what it was sent as such. -/
theorem keptBy_cast_iff (kept : l.KeptBy phase) (self : NodeId) (own : StateValue) :
    l.KeptBy (phase.addRound2Vote self own) ↔ ∀ v ∈ l.round2Votes.lookup self, own = v := by
  rw [← Table.within_insert_iff kept.round2]
  constructor
  · intro kept'
    simpa using kept'.round2
  · intro within
    exact ⟨by simpa using kept.batch, by simpa using kept.round1, by simpa using within⟩

theorem keptBy_round2 (kept : l.KeptBy phase) (voter : NodeId) (vote : StateValue) :
    (l.add (.round2 voter vote)).KeptBy (phase.addRound2Vote voter vote) where
  batch := by simpa [Ledger.add] using kept.batch
  round1 := by simpa [Ledger.add] using kept.round1
  round2 := by simpa [Ledger.add] using kept.round2.insert voter vote

theorem keptBy_setDecision (kept : l.KeptBy phase) (decision : StateValue) :
    l.KeptBy (phase.setDecision decision) where
  batch := by simpa using kept.batch
  round1 := by simpa using kept.round1
  round2 := by simpa using kept.round2

/-- A decision fills the batch in only where no proposal did. -/
theorem keptBy_receivedDecision (kept : l.KeptBy phase) (m : DecisionMessage) :
    l.KeptBy (receivedDecision m phase) where
  batch := by
    intro proposal member carries
    obtain ⟨some, among⟩ := kept.batch proposal member carries
    obtain ⟨batch, stored⟩ := Option.ne_none_iff_exists'.mp some
    rw [stored] at among
    simp [stored, among]
  round1 := by simpa using kept.round1
  round2 := by simpa using kept.round2

end Record

/-! ## One step -/

/-- An event that leaves the voting alone is noted when it is a proposal that came in
without quorum. -/
theorem kept_iff_of_ignores {env : Env} {e e' : RabiaEngine SM} {p : PhaseId} {l : Ledger}
    {event : Event} (ignores : Ignores env e event) (kept : l.Kept (e.getPhase p))
    (record : e'.getPhase p = e.getPhase p) :
    (observe env e p l event).Kept (e'.getPhase p) ↔ Finds env e p l event := by
  have kept' : l.Kept (e'.getPhase p) := by
    rw [record]
    exact kept
  cases ignores with
  | foreign foreign => exact kept_iff_of_nothing (brings_of_foreign foreign) kept'
  | rejected rejected => exact kept_iff_of_nothing (brings_of_rejected rejected) kept'
  | declined noQuorum => exact kept_iff_of_nothing (if_neg fun h => noQuorum h.1) kept'
  | @unheard sender message m received noQuorum =>
      have brought : brings env e p (.message sender message) =
          if m.phaseId = p then some (.proposal m.batch) else none := brings_of_received received
      by_cases same : m.phaseId = p
      · -- handled and thrown away: the proposal counts, the record stays
        rw [if_pos same] at brought
        have unchanged : e'.getPhase p = (e.getPhase p).map id := by
          rw [record, Option.map_id_fun]
          rfl
        refine kept_iff_of_brings brought unchanged fun phase present => ?_
        rw [present] at kept
        exact keptBy_unheard_iff kept noQuorum m.batch
      · rw [if_neg same] at brought
        exact kept_iff_of_nothing brought kept'

/-- A step keeps the record true to the ledger exactly when what it brings finds a
record that it fits. -/
theorem kept_iff_finds [StateMachine SM] {env : Env} {e e' : RabiaEngine SM} {p : PhaseId}
    {l : Ledger} {event : Event} {w : List Effect} (deed : Deed env e event e' w)
    (kept : l.Kept (e.getPhase p))
    (unremoved : event = .cleanup → e.getPhase p ≠ none →
      e.engineState.cutoffPhase e.config.maxPhaseHistory ≤ p) :
    (observe env e p l event).Kept (e'.getPhase p) ↔ Finds env e p l event := by
  cases deed with
  | aside ignores aside => exact kept_iff_of_ignores ignores kept (aside.frame.getPhase p)
  | created _ _ getPhase _ =>
      refine kept_iff_of_nothing rfl ?_
      rw [getPhase p]
      split
      · next same =>
        subst same
        exact kept.created _
      · exact kept
  | cleaned _ _ getPhase _ =>
      refine kept_iff_of_nothing rfl ?_
      rw [getPhase p]
      by_cases present : e.getPhase p = none
      · rw [present] at kept ⊢
        split <;> exact kept
      · rw [if_pos (unremoved rfl present)]
        exact kept
  | @proposed request _ quorum touches _ =>
      have brought : brings env e p (.command (.processBatch request)) =
          if nextPhase e = p then some (.own request.batch) else none := by
        unfold brings
        simp only [quorum, true_and]
      exact kept_iff_of_touches kept touches brought
        fun phase _ held => iff_of_true (keptBy_own held request.batch) trivial
  | answered received quorum touches _ =>
      refine kept_iff_of_touches kept touches (brings_of_received received) fun phase _ held => ?_
      exact keptBy_answered_iff held quorum _
  | counted received waiting touches _ =>
      refine kept_iff_of_touches kept touches (brings_of_received received)
        fun phase present held => iff_of_true (keptBy_round1 held _ _) ?_
      intro result reached
      rw [waiting phase present] at reached
      cases reached
  | @cast sender message m phase result vote _ received before reached drawn touches _ =>
      refine kept_iff_of_touches kept touches (brings_of_received received)
        fun phase' present held => ?_
      cases before.symm.trans present
      -- both votes are written: the one that came in, then the engine's own
      rw [keptBy_cast_iff (keptBy_round1 held sender m.vote)]
      constructor
      · intro agrees result' reached' own sent
        cases reached.symm.trans reached'
        rw [repeats_iff, ← drawn]
        exact agrees own sent
      · intro repeats own sent
        rw [drawn]
        exact repeats_iff.mp (repeats result reached own sent)
  | tallied received _ touches _ =>
      exact kept_iff_of_touches kept touches (brings_of_received received)
        fun phase _ held => iff_of_true (keptBy_round2 held _ _) trivial
  | decided received _ _ _ touches _ =>
      exact kept_iff_of_touches kept touches (brings_of_received received)
        fun phase _ held => iff_of_true (keptBy_setDecision (keptBy_round2 held _ _) _) trivial
  | executed received _ _ _ touches _ _ =>
      exact kept_iff_of_touches kept touches (brings_of_received received)
        fun phase _ held => iff_of_true (keptBy_setDecision (keptBy_round2 held _ _) _) trivial
  -- a decision brings nothing and only fills in what no proposal brought
  | learned received _ touches _ =>
      exact kept_iff_of_nothing (brings_of_received received)
        (kept_of_touches kept touches fun phase held => keptBy_receivedDecision held _)
  | adopted received _ _ _ touches _ =>
      exact kept_iff_of_nothing (brings_of_received received)
        (kept_of_touches kept touches fun phase held => keptBy_receivedDecision held _)

/-- Only `get_or_create_phase` makes a record. -/
theorem absent_of_deed [StateMachine SM] {env : Env} {e e' : RabiaEngine SM} {p : PhaseId}
    {event : Event} {w : List Effect} (deed : Deed env e event e' w)
    (absent : e.getPhase p = none) (others : event ≠ .createPhase p) : e'.getPhase p = none := by
  cases after : e'.getPhase p with
  | none => rfl
  | some phase' =>
      cases revision_of_deed deed after with
      | fresh _ => exact absurd rfl others
      | kept present | proposed present _ _ | answered _ present _ | counted _ present _
      | cast _ present _ _ | tallied _ present _ | decided _ present _ | learned _ present _ =>
          cases absent.symm.trans present

section Starting

variable [StateMachine SM]

/-- An engine as `run` starts it: made by `RabiaEngine::new`, then `initialize`. Where
`load_state` fails, this is the engine that `new` made. -/
def Started (e : RabiaEngine SM) : Prop :=
  ∃ env nodeId config clusterConfig stateMachine persistence,
    e = (initializeEngine env
      (RabiaEngine.new nodeId config clusterConfig stateMachine persistence)).state

/-- The records stayed. -/
def SameRecords (e : RabiaEngine SM) (_ : List Effect) (e' : RabiaEngine SM) : Prop :=
  e'.engineState.phases = e.engineState.phases

omit [StateMachine SM] in
theorem sameRecords_path : Path (@SameRecords SM) where
  nil _ := rfl
  append h h' := h'.trans h

theorem within_initializeEngine (env : Env) :
    Within SameRecords (initializeEngine env : EngineM SM Unit) := by
  refine Within.bind sameRecords_path (Within.ofExcept sameRecords_path _) fun _ => ?_
  refine Within.bind sameRecords_path (Within.read sameRecords_path _) fun persistedData => ?_
  refine Within.bind sameRecords_path ?_ fun _ => ?_
  · cases persistedData with
    | none => exact Within.pure sameRecords_path _
    | some persisted =>
        refine Within.bind sameRecords_path (fun _ => rfl) fun _ => ?_
        cases persisted.snapshot with
        | none => exact Within.pure sameRecords_path _
        | some snapshot => exact fun e => (within_restoreSnapshot snapshot e).state.phases
  · refine Within.bind sameRecords_path (Within.ofExcept sameRecords_path _) fun nodes => ?_
    exact fun e => (within_modifyState (EngineState.keeps_updateActiveNodes nodes) e).state.phases

/-- An engine starts without records. -/
theorem Started.getPhase {e : RabiaEngine SM} (started : Started e) (p : PhaseId) :
    e.getPhase p = none := by
  obtain ⟨env, nodeId, config, clusterConfig, stateMachine, persistence, rfl⟩ := started
  unfold RabiaEngine.getPhase EngineState.getPhase
  rw [within_initializeEngine env _]
  exact Finmap.lookup_empty _

end Starting

end Engine

/-! ## Runs -/

/-- An engine with the ledger of a phase beside it. -/
structure Booked (SM : Type) where
  engine : RabiaEngine SM
  ledger : Ledger

namespace Booked

open Engine

variable {SM : Type} [StateMachine SM]

def step (p : PhaseId) (b : Booked SM) (input : Env × Event) : Booked SM where
  engine := (handle input.1 input.2 b.engine).state
  ledger := observe input.1 b.engine p b.ledger input.2

/-- A new ledger. -/
def start (e : RabiaEngine SM) : Booked SM := ⟨e, Ledger.empty⟩

/-- After the input the record of `p` holds what was handled for it. -/
def Keeps (p : PhaseId) (b : Booked SM) (input : Env × Event) : Prop :=
  (b.step p input).ledger.Kept ((b.step p input).engine.getPhase p)

/-- The input is a cleanup that removes the record of `p`. -/
def Removes (p : PhaseId) (b : Booked SM) (input : Env × Event) : Prop :=
  input.2 = .cleanup ∧ b.engine.getPhase p ≠ none ∧
    p < b.engine.engineState.cutoffPhase b.engine.config.maxPhaseHistory

omit [StateMachine SM] in
instance (p : PhaseId) (b : Booked SM) (input : Env × Event) : Decidable (Removes p b input) :=
  inferInstanceAs (Decidable (_ ∧ _ ∧ _))

/-- What the input brings for `p` finds a record that it fits. -/
def Finds (p : PhaseId) (b : Booked SM) (input : Env × Event) : Prop :=
  Engine.Finds input.1 b.engine p b.ledger input.2

omit [StateMachine SM] in
instance (p : PhaseId) (b : Booked SM) (input : Env × Event) : Decidable (Finds p b input) :=
  inferInstanceAs (Decidable (Engine.Finds _ _ _ _ _))

/-- The input brings nothing for `p`. -/
def BringsNothing (p : PhaseId) (b : Booked SM) (input : Env × Event) : Prop :=
  brings input.1 b.engine p input.2 = none

/-- Until a cleanup removes the record of `p`, it keeps what was handled for `p` along
a run exactly when everything handled finds a record that it fits. Where nobody
calls `get_or_create_phase`, it keeps what was handled exactly when nothing was. -/
theorem kept_along_iff (e : RabiaEngine SM) (started : Started e) (p : PhaseId)
    (inputs : List (Env × Event))
    (unremoved : Along (step p) (fun b input => ¬ Removes p b input) (start e) inputs) :
    (Along (step p) (Keeps p) (start e) inputs ↔
      Along (step p) (Finds p) (start e) inputs) ∧
    ((∀ input ∈ inputs, input.2 ≠ .createPhase p) →
      (Along (step p) (Keeps p) (start e) inputs ↔
        Along (step p) (BringsNothing p) (start e) inputs)) := by
  have absent := started.getPhase p
  constructor
  · refine along_congr (I := fun b => b.ledger.Kept (b.engine.getPhase p)) ?_
      (fun _ _ _ _ keeps => keeps) ?_ unremoved
    · intro b input kept stays
      refine kept_iff_finds (deed_of_handle input.1 input.2 b.engine) kept fun cleanup present => ?_
      by_contra below
      exact stays ⟨cleanup, present, Nat.not_le.mp below⟩
    · show Ledger.empty.Kept (e.getPhase p)
      rw [absent]
      rfl
  · intro others
    have uncreated : Along (step p) (fun _ input => input.2 ≠ .createPhase p) (start e) inputs :=
      along_of_mem others
    -- the record stays absent, so the ledger has to stay empty
    refine along_congr (I := fun b => b.ledger = Ledger.empty ∧ b.engine.getPhase p = none)
      ?_ ?_ ⟨rfl, absent⟩ uncreated
    · rintro b input ⟨fresh, none⟩ other
      have after := absent_of_deed (deed_of_handle input.1 input.2 b.engine) none other
      show (observe input.1 b.engine p b.ledger input.2).Kept
        ((handle input.1 input.2 b.engine).state.getPhase p) ↔ _
      rw [after, fresh]
      unfold BringsNothing observe
      cases brings input.1 b.engine p input.2 with
      | none => exact iff_of_true rfl rfl
      | some item =>
          exact iff_of_false (Ledger.empty.add_ne_empty item) (Option.some_ne_none item)
    · rintro b input ⟨fresh, none⟩ other keeps
      have after := absent_of_deed (deed_of_handle input.1 input.2 b.engine) none other
      refine ⟨?_, after⟩
      have keeps' : (observe input.1 b.engine p b.ledger input.2).Kept
        ((handle input.1 input.2 b.engine).state.getPhase p) := keeps
      rw [after] at keeps'
      exact keeps'

/-- Node 0 of three, connected to all of them. -/
def connected : RabiaEngine ByteLog :=
  (initializeEngine { connectedNodes := .ok {⟨0⟩, ⟨1⟩, ⟨2⟩} } (threeNodes 0)).state

/-- With a record of phase 1 the node keeps its proposal and a vote for it. -/
theorem kept_along_iff_proposing :
    Along (step 1) (Keeps 1) (start connected) (proposing ++ [roundOneVote ⟨1⟩]) :=
  (kept_along_iff connected ⟨_, _, _, _, _, _, rfl⟩ 1 (proposing ++ [roundOneVote ⟨1⟩])
    (by decide +kernel)).1.mpr (by decide +kernel)

/-- Without one it loses its proposal at once. -/
theorem proposal_lost :
    Started connected ∧
      Along (step 1) (fun b input => ¬ Removes 1 b input) (start connected)
        [({}, .command (.processBatch ⟨writing 65, 0⟩))] ∧
      ¬ Along (step 1) (Keeps 1) (start connected)
        [({}, .command (.processBatch ⟨writing 65, 0⟩))] := by
  refine ⟨⟨_, _, _, _, _, _, rfl⟩, by decide +kernel, ?_⟩
  intro kept
  have blank : (step 1 (start connected)
      ({}, .command (.processBatch ⟨writing 65, 0⟩))).ledger = Ledger.empty := kept.1
  exact Ledger.add_ne_empty Ledger.empty (.own (writing 65)) blank

end Booked

end Rabia
